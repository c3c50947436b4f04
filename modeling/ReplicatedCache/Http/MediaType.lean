/-
The type of a message body, as its header names it: `type/subtype+suffix; name=value`. What counts
as well formed follows the documented behaviour of the HTTP framework.

* `MediaType.parse?`: reads the header, which must be well formed up to its last parameter;
* `MediaType.isJson`: whether the body is JSON.
-/
namespace ReplicatedCache

/-- A media type in lower case, without its parameters. -/
structure MediaType where
  mainType : List Char
  /-- The subtype up to its last plus sign. -/
  subtype : List Char
  /-- What stands behind the last plus sign of the subtype. -/
  suffix : Option (List Char)
  deriving DecidableEq, Repr

namespace MediaType

/-- The characters of which names and plain values consist: letters, digits and some marks, among
them the apostrophe and the grave accent. -/
def isTokenChar (c : Char) : Bool :=
  c.isAlphanum || c.toNat = 0x27 || c.toNat = 0x60 ||
    c ∈ ['!', '#', '$', '%', '&', '*', '+', '-', '.', '^', '_', '|', '~']

/-- The characters between the quotes of a quoted value. -/
def isQuotedChar (c : Char) : Bool := 0x20 ≤ c.toNat && c.toNat ≤ 0x7E

/-- Where the reader of parameters stands. -/
inductive ParameterState where
  /-- Before the name of a parameter. -/
  | before
  | name
  /-- Behind the equals sign. -/
  | equals
  | value
  /-- Behind the quote that opens a value; a quote here is part of the value. -/
  | openQuote
  | quoted
  /-- Behind the quote that closes a value. -/
  | afterQuote
  deriving DecidableEq, Repr

namespace ParameterState

/-- Reads one character of the parameters. -/
def step : ParameterState → Char → Option ParameterState
  | before, c => if c = ' ' then some before else if isTokenChar c then some name else none
  | name, c => if c = '=' then some equals else if isTokenChar c then some name else none
  | equals, c => if c = '"' then some openQuote else if isTokenChar c then some value else none
  | value, c => if c = ';' then some before else if isTokenChar c then some value else none
  | openQuote, c => if isQuotedChar c then some quoted else none
  | quoted, c =>
      if c = '"' then some afterQuote else if isQuotedChar c then some quoted else none
  | afterQuote, c => if c = ';' then some before else if c = ' ' then some afterQuote else none

/-- Whether the parameters may end here. -/
def mayEnd : ParameterState → Bool
  | before | equals | value | afterQuote => true
  | name | openQuote | quoted => false

end ParameterState

/-- Whether the characters behind the first semicolon are well-formed parameters. -/
def wellFormedParameters (cs : List Char) : Bool :=
  match cs.foldlM ParameterState.step .before with
  | some state => state.mayEnd
  | none => false

/-- Splits a subtype at its last plus sign, unless that is its first character. -/
def splitSuffix (cs : List Char) : List Char × Option (List Char) :=
  match cs.reverse.span (· ≠ '+') with
  | (_, []) => (cs, none)
  | (_, [_]) => (cs, none)
  | (after, _ :: before) => (before.reverse, some after.reverse)

/-- Reads the header that names a media type. -/
def parse? (header : String) : Option MediaType :=
  let (mainType, rest) := header.toList.span isTokenChar
  match mainType, rest with
  | _ :: _, '/' :: rest =>
      let (full, rest) := rest.span isTokenChar
      let (subtype, suffix) := splitSuffix (full.map Char.toLower)
      let parsed : MediaType := ⟨mainType.map Char.toLower, subtype, suffix⟩
      match full, rest with
      | _ :: _, [] => some parsed
      | _ :: _, ';' :: parameters => if wellFormedParameters parameters then some parsed else none
      | _, _ => none
  | _, _ => none

/-- The name of the JSON format. -/
def jsonName : List Char := ['j', 's', 'o', 'n']

/-- The main type of formats for programs. -/
def applicationName : List Char := ['a', 'p', 'p', 'l', 'i', 'c', 'a', 't', 'i', 'o', 'n']

/-- Whether a body of this type is JSON, or of a format based on it. -/
def isJson (m : MediaType) : Bool :=
  m.mainType = applicationName && (m.subtype = jsonName || m.suffix = some jsonName)

end MediaType

end ReplicatedCache
