/-
Reading JSON values of a known shape.

A record is an object whose members are known by name, or an array of the same values in a fixed
order. Members with other names are skipped. As in the JSON library, a name is looked for by its
opening quote: whatever else stands in its place, a number too, is malformed and not of a wrong
kind.

* `readText`, `readFlag`, `readName`: values of the basic kinds;
* `readWhole`: a value that nothing but blanks may follow;
* `Field`: a member of a record, and where its value goes;
* `RecordShape`: the members of a record in order, and what is made of them;
* `RecordShape.read`: reads a record and returns the bytes after it;
* `RecordShape.readAll`: reads a record that nothing but blanks may follow.
-/
import ReplicatedCache.Json.Skip

namespace ReplicatedCache.Json

/-- Reads values of type `α` and returns the bytes after them. -/
abbrev Reader (α : Type) := Bytes → Except Defect (α × Bytes)

/-- The defect of a value that starts with `b` and is of another kind than expected. A scalar is
read first and may turn out to be malformed itself. -/
def wrongKind (b : UInt8) (rest : Bytes) : Defect :=
  let after : Except Defect Unit :=
    match restOfWord? b with
    | some expected => (word expected rest).map fun _ => ()
    | none =>
        if b = minus ∨ isDigit b then (readNumber (b :: rest)).map fun _ => ()
        else if b = quoteByte then (readString rest).map fun _ => ()
        else if (Frame.ofOpening? b).isSome then .ok ()
        else .error .malformed
  match after with
  | .ok () => .mistyped
  | .error defect => defect

/-- Reads a string. -/
def readText : Reader String := fun bs =>
  match skipBlank bs with
  | [] => .error .truncated
  | b :: rest => if b = quoteByte then readString rest else .error (wrongKind b rest)

/-- Reads `true` or `false`. -/
def readFlag : Reader Bool := fun bs =>
  match skipBlank bs with
  | [] => .error .truncated
  | b :: rest =>
      if b = 0x74 then (word [0x72, 0x75, 0x65] rest).map fun rest => (true, rest)
      else if b = 0x66 then (word [0x61, 0x6C, 0x73, 0x65] rest).map fun rest => (false, rest)
      else .error (wrongKind b rest)

/-- Reads `null`. -/
def readNull (bs : Bytes) : Except Defect Bytes :=
  match skipBlank bs with
  | [] => .error .truncated
  | b :: rest => if b = 0x6E then word [0x75, 0x6C, 0x6C] rest else .error (wrongKind b rest)

/-- The bytes behind the quote that opens the name of a member. Nothing is read of what stands in
its place, so that its kind cannot be the wrong one. -/
def afterQuote (bs : Bytes) : Except Defect Bytes :=
  match skipBlank bs with
  | [] => .error .truncated
  | b :: rest => if b = quoteByte then .ok rest else .error .malformed

/-- Reads one of several names: as a string, or as the only member of an object, with the value
`null`. -/
def readName {α : Type} (ofName? : String → Option α) : Reader α := fun bs =>
  let known (name : String) : Except Defect α :=
    match ofName? name with
    | some a => .ok a
    | none => .error .mistyped
  match skipBlank bs with
  | [] => .error .truncated
  | b :: rest =>
      if b = quoteByte then do
        let (name, rest) ← readString rest
        .ok (← known name, rest)
      else if b = openBrace then do
        let (name, rest) ← readString (← afterQuote rest)
        let a ← known name
        let rest ← readNull (← skipColon rest)
        match skipBlank rest with
        | [] => .error .truncated
        | b :: rest => if b = closeBrace then .ok (a, rest) else .error .malformed
      else .error .malformed

/-- Reads a value that nothing but blanks may follow. -/
def readWhole {α : Type} (reader : Reader α) (bs : Bytes) : Except Defect α := do
  let (a, rest) ← reader bs
  if skipBlank rest = [] then .ok a else .error .malformed

/-- A member of a record, where `σ` holds the values read so far. -/
structure Field (σ : Type) where
  name : String
  /-- Whether the member has been read. -/
  isSet : σ → Bool
  /-- Reads the value of the member and keeps it. -/
  read : σ → Reader σ

/-- A member whose value is read by `reader`, found by `get` and kept by `set`. -/
def Field.of {σ α : Type} (name : String) (reader : Reader α) (get : σ → Option α)
    (set : σ → α → σ) : Field σ where
  name := name
  isSet := fun draft => (get draft).isSome
  read := fun draft bs => (reader bs).map fun (a, rest) => (set draft a, rest)

/-- The members of a record in the order of its array form, and what is made of their values. -/
structure RecordShape (σ α : Type) where
  /-- No member has been read. -/
  blank : σ
  fields : List (Field σ)
  /-- The record, unless a member is missing. -/
  finish : σ → Option α

namespace RecordShape

variable {σ α : Type}

/-- The bytes of the name of the next member behind its quote, or nothing and the bytes behind the
brace if there is none. -/
def nextMember (first : Bool) (bs : Bytes) : Except Defect (Bool × Bytes) :=
  match skipBlank bs with
  | [] => .error .truncated
  | b :: rest =>
      if b = closeBrace then .ok (false, rest)
      else if first then (afterQuote (b :: rest)).map fun rest => (true, rest)
      else if b = comma then (afterQuote rest).map fun rest => (true, rest)
      else .error .malformed

/-- Reads the members of an object and its closing brace, in fewer than `size` bytes. A member may
not be given twice. -/
def readMembers (shape : RecordShape σ α) : (size : Nat) → (first : Bool) → σ → Reader σ
  | 0, _, _, _ => .error .truncated
  | size + 1, first, draft, bs => do
      let (more, rest) ← nextMember first bs
      if more then
        let (name, rest) ← readString rest
        match shape.fields.find? fun field => field.name = name with
        | some field =>
            if field.isSet draft then .error .mistyped
            else
              let (draft, rest) ← field.read draft (← skipColon rest)
              shape.readMembers size false draft rest
        | none => shape.readMembers size false draft (← skipValue size (← skipColon rest))
      else .ok (draft, rest)

/-- Whether a further element follows, and the bytes from there on. -/
def nextElement (first : Bool) (bs : Bytes) : Except Defect (Bool × Bytes) :=
  match skipBlank bs with
  | [] => .error .truncated
  | b :: rest =>
      if b = closeBracket then .ok (false, b :: rest)
      else if first then .ok (true, b :: rest)
      else if b = comma then
        match skipBlank rest with
        | [] => .error .truncated
        | b :: rest => if b = closeBracket then .error .malformed else .ok (true, b :: rest)
      else .error .malformed

/-- Reads the elements of an array into the given fields, as many as there are. -/
def readElements (first : Bool) : List (Field σ) → σ → Reader σ
  | [], draft, bs => .ok (draft, bs)
  | field :: fields, draft, bs => do
      let (more, rest) ← nextElement first bs
      if more then
        let (draft, rest) ← field.read draft rest
        readElements false fields draft rest
      else .ok (draft, rest)

/-- The bytes behind the bracket that closes an array. -/
def closeArray (bs : Bytes) : Except Defect Bytes :=
  match skipBlank bs with
  | [] => .error .truncated
  | b :: rest => if b = closeBracket then .ok rest else .error .malformed

/-- The record, or the defect of one with a missing member. -/
def complete (shape : RecordShape σ α) (draft : σ) : Except Defect α :=
  match shape.finish draft with
  | some a => .ok a
  | none => .error .mistyped

/-- Reads a record and returns the bytes after it. -/
def read (shape : RecordShape σ α) : Reader α := fun bs =>
  match skipBlank bs with
  | [] => .error .truncated
  | b :: rest =>
      if b = openBracket then do
        let (draft, rest) ← readElements true shape.fields shape.blank rest
        let a ← shape.complete draft
        .ok (a, ← closeArray rest)
      else if b = openBrace then do
        let (draft, rest) ← shape.readMembers (rest.length + 1) true shape.blank rest
        .ok (← shape.complete draft, rest)
      else .error (wrongKind b rest)

/-- Reads a record that nothing but blanks may follow. -/
def readAll (shape : RecordShape σ α) (bs : Bytes) : Except Defect α := readWhole shape.read bs

/-- Reads a record and ignores whatever follows it. -/
def readLeading (shape : RecordShape σ α) (bs : Bytes) : Except Defect α :=
  (shape.read bs).map Prod.fst

end RecordShape

end ReplicatedCache.Json
