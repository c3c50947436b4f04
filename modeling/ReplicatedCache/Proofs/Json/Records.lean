/-
Objects that are written member by member are read back as records.

* `Json.bytes`, `Json.quoted`, `Json.further`: the bytes of a value, of a string in quotes, and of
  the members that follow the first one of an object;
* `RecordShape.Fills`: some members, read one after the other, take a draft to another one;
* `RecordShape.readMembers_known`: one member is read into its field;
* `RecordShape.read_obj`: **round trip**: an object is read as the record that its members make.
-/
import ReplicatedCache.Json.Record
import ReplicatedCache.Proofs.Json.Strings

namespace ReplicatedCache.Json

/-! ### The bytes of a value -/

/-- The bytes of a string in quotes. -/
def quoted (s : String) : Bytes := quoteByte :: (inside s ++ [quoteByte])

/-- The bytes of a value. -/
def bytes (j : Json) : Bytes := j.textList.flatMap String.utf8EncodeChar

/-- The bytes of a member. -/
def memberBytes (member : String × Json) : Bytes :=
  quoted member.1 ++ colon :: member.2.bytes

/-- The bytes of members behind the first one, each behind a comma. -/
def further (members : List (String × Json)) : Bytes :=
  members.flatMap fun member => comma :: memberBytes member

/-- There are at least as many bytes as members. -/
lemma length_le_further (members : List (String × Json)) :
    members.length ≤ (further members).length := by
  induction members with
  | nil => exact Nat.le_refl _
  | cons member members ih =>
      rw [further, List.flatMap_cons, List.length_append, List.length_cons, List.length_cons]
      have hrest : (members.flatMap fun member => comma :: memberBytes member).length =
          (further members).length := rfl
      omega

lemma encode_text (j : Json) : Utf8.encode j.text = j.bytes := Utf8.encode_ofList _

lemma bytes_str (s : String) : (str s).bytes = quoted s := by
  rw [bytes, textList]
  exact encodeChars_quoteList s

lemma encodeChars_membersText (member : String × Json) (members : List (String × Json)) :
    (membersText (member :: members)).flatMap String.utf8EncodeChar =
      memberBytes member ++ further members := by
  induction members generalizing member with
  | nil =>
      rw [membersText, List.flatMap_append, encodeChars_quoteList, further, List.flatMap_nil,
        List.append_nil]
      rfl
  | cons next members ih =>
      have hcons : membersText (member :: next :: members) =
          quoteList member.1.toList ++ ':' :: textList member.2 ++
            ',' :: membersText (next :: members) := by
        rw [membersText]
        intro h
        cases h
      rw [hcons, List.flatMap_append, List.flatMap_append, encodeChars_quoteList,
        List.flatMap_cons, List.flatMap_cons, ih]
      rfl

/-- The bytes of an object with at least one member. -/
lemma bytes_obj (member : String × Json) (members : List (String × Json)) :
    (obj (member :: members)).bytes =
      openBrace :: (memberBytes member ++ further members ++ [closeBrace]) := by
  rw [bytes, textList, List.cons_append, List.flatMap_cons, List.flatMap_append,
    encodeChars_membersText]
  rfl

/-! ### Reading an object -/

/-- A string in quotes is read as the string. -/
lemma readText_quoted (s : String) (rest : Bytes) :
    readText (quoted s ++ rest) = .ok (s, rest) := by
  rw [quoted, List.cons_append, List.append_assoc]
  exact readString_inside s rest

namespace RecordShape

variable {σ α : Type}

/-- The members, read one after the other into fields that have not been read before, take a draft
to another one, whatever follows each of them. -/
inductive Fills (shape : RecordShape σ α) : σ → List (String × Json) → σ → Prop where
  | nil (draft : σ) : Fills shape draft [] draft
  | cons {draft draft₁ draft₂ : σ} {field : Field σ} {name : String} {value : Json}
      {members : List (String × Json)}
      (hfield : shape.fields.find? (fun field => field.name = name) = some field)
      (hfree : field.isSet draft = false)
      (hread : ∀ rest, field.read draft (value.bytes ++ rest) = .ok (draft₁, rest))
      (hrest : Fills shape draft₁ members draft₂) :
      Fills shape draft ((name, value) :: members) draft₂

variable {shape : RecordShape σ α} {draft draft₁ draft₂ : σ} {field : Field σ} {name : String}
  {member : String × Json} {members : List (String × Json)} {size : Nat} {first : Bool}
  {bs text rest : Bytes} {a : α}

/-- **A member** whose name is known is read into its field. -/
lemma readMembers_known
    (hnext : nextMember first bs = .ok (true, inside name ++ quoteByte :: colon :: text))
    (hfield : shape.fields.find? (fun field => field.name = name) = some field)
    (hfree : field.isSet draft = false) (hread : field.read draft text = .ok (draft₁, rest)) :
    shape.readMembers (size + 1) first draft bs = shape.readMembers size false draft₁ rest := by
  have hcolon : skipColon (colon :: text) = .ok text := rfl
  have hname := readString_inside name (colon :: text)
  simp only [readMembers, hnext, hname, hfield, hfree, hcolon, hread, bind, Except.bind, if_true,
    Bool.false_eq_true, if_false]

/-- **The brace** ends the members. -/
lemma readMembers_end :
    shape.readMembers (size + 1) first draft (closeBrace :: rest) = .ok (draft, rest) := rfl

/-- The first member of an object starts with its name. -/
lemma nextMember_first (name : String) (value : Json) (tail : Bytes) :
    nextMember true (memberBytes (name, value) ++ tail) =
      .ok (true, inside name ++ quoteByte :: colon :: (value.bytes ++ tail)) := by
  rw [memberBytes, quoted]
  simp only [List.cons_append, List.append_assoc, List.nil_append]
  rfl

/-- A further member starts with a comma and its name. -/
lemma nextMember_further (name : String) (value : Json) (members : List (String × Json))
    (tail : Bytes) :
    nextMember false (further ((name, value) :: members) ++ tail) =
      .ok (true, inside name ++ quoteByte :: colon ::
        (value.bytes ++ (further members ++ tail))) := by
  rw [further, List.flatMap_cons, memberBytes, quoted]
  simp only [List.cons_append, List.append_assoc, List.nil_append]
  rfl

/-- The members behind the first one are read one after the other. -/
lemma readMembers_further (h : shape.Fills draft members draft₂) (hsize : members.length < size)
    (rest : Bytes) :
    shape.readMembers size false draft (further members ++ closeBrace :: rest) =
      .ok (draft₂, rest) := by
  induction h generalizing size with
  | nil draft =>
      obtain ⟨size, rfl⟩ := Nat.exists_eq_succ_of_ne_zero (Nat.ne_zero_of_lt hsize)
      exact readMembers_end
  | @cons draft draft₁ draft₂ field name value members hfield hfree hread hrest ih =>
      obtain ⟨size, rfl⟩ := Nat.exists_eq_succ_of_ne_zero (Nat.ne_zero_of_lt hsize)
      have hnext := nextMember_further name value members (closeBrace :: rest)
      rw [readMembers_known hnext hfield hfree (hread _)]
      exact ih (Nat.lt_of_succ_lt_succ hsize)

/-- Behind the brace of an object, its members are read. -/
lemma read_brace (inner : Bytes) : shape.read (openBrace :: inner) =
    (shape.readMembers (inner.length + 1) true shape.blank inner).bind fun r =>
      (shape.complete r.1).bind fun a => .ok (a, r.2) := rfl

/-- The bytes of an object with at least one member, whatever follows it. -/
lemma bytes_obj_append (member : String × Json) (members : List (String × Json)) (rest : Bytes) :
    (obj (member :: members)).bytes ++ rest =
      openBrace :: (memberBytes member ++ (further members ++ closeBrace :: rest)) := by
  rw [bytes_obj]
  simp only [List.cons_append, List.append_assoc, List.nil_append]

/-- There are more bytes in an object than members behind the first one. -/
lemma length_lt_inner (member : String × Json) (members : List (String × Json)) (rest : Bytes) :
    members.length < (memberBytes member ++ (further members ++ closeBrace :: rest)).length := by
  have hfurther := length_le_further members
  rw [List.length_append, List.length_append, List.length_cons]
  omega

/-- **Round trip**: an object is read as the record that its members make, whatever follows it. -/
lemma read_obj (h : shape.Fills shape.blank (member :: members) draft₂)
    (hfinish : shape.finish draft₂ = some a) (rest : Bytes) :
    shape.read ((obj (member :: members)).bytes ++ rest) = .ok (a, rest) := by
  cases h with
  | @cons _ draft₁ _ field name value _ hfield hfree hread hrest =>
      have hnext := nextMember_first name value (further members ++ closeBrace :: rest)
      rw [bytes_obj_append, read_brace, readMembers_known hnext hfield hfree (hread _),
        readMembers_further hrest (length_lt_inner _ members rest)]
      simp only [Except.bind, complete, hfinish]

end RecordShape

end ReplicatedCache.Json
