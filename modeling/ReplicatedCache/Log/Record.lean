/-
One record of the log, as a line of text: `PUT,key,value` or `DEL,key`. Nothing is escaped; a
value may hold commas, a key may not, and neither may hold a line break.

* `Record.encode`: the line of an operation;
* `Record.parse`: the operation of a line, or the reason why it is no record;
* `Record.Reason.message`: the text of that reason.
-/
import ReplicatedCache.Operation

namespace ReplicatedCache.Record

/-- The name that starts the line of a put. -/
def putTag : List Char := ['P', 'U', 'T']

/-- The name that starts the line of a delete. -/
def deleteTag : List Char := ['D', 'E', 'L']

/-- The characters of the line of an operation, without the line feed that ends it. -/
def encodeList : Operation → List Char
  | .put key value => putTag ++ ',' :: (key.toList ++ ',' :: value.toList)
  | .delete key => deleteTag ++ ',' :: key.toList

/-- The line of an operation, without the line feed that ends it. -/
def encode (op : Operation) : String := String.ofList (encodeList op)

/-- Why a line is no record. -/
inductive Reason where
  | noSeparator
  | noValue
  | emptyKey
  | extraFields
  | unknownOperation (tag : String)
  | invalidUtf8
  deriving DecidableEq, Repr

/-- The text of a reason. -/
def Reason.message : Reason → String
  | noSeparator => "missing field separator"
  | noValue => "PUT record without value"
  | emptyKey => "empty key"
  | extraFields => "DEL record with extra fields"
  | unknownOperation tag => "unknown operation '" ++ tag ++ "'"
  | invalidUtf8 => "invalid UTF-8"

/-- The characters before the first comma and those after it. -/
def splitComma : List Char → Option (List Char × List Char)
  | [] => none
  | c :: rest =>
      if c = ',' then some ([], rest)
      else (splitComma rest).map fun (before, after) => (c :: before, after)

/-- The line without the carriage return at its end, if it has one. -/
def dropReturn (line : List Char) : List Char :=
  if line.getLast? = some '\r' then line.dropLast else line

/-- Reads the fields after the name of a put. -/
def parsePut (fields : List Char) : Except Reason Operation :=
  match splitComma fields with
  | none => .error .noValue
  | some (key, value) =>
      if key = [] then .error .emptyKey
      else .ok (.put (String.ofList key) (String.ofList value))

/-- Reads the field after the name of a delete. -/
def parseDelete (field : List Char) : Except Reason Operation :=
  if field = [] then .error .emptyKey
  else if ',' ∈ field then .error .extraFields
  else .ok (.delete (String.ofList field))

/-- Reads the characters of a line. -/
def parseList (line : List Char) : Except Reason Operation :=
  match splitComma (dropReturn line) with
  | none => .error .noSeparator
  | some (tag, fields) =>
      if tag = putTag then parsePut fields
      else if tag = deleteTag then parseDelete fields
      else .error (.unknownOperation (String.ofList tag))

/-- Reads a line without the line feed that ends it. -/
def parse (line : String) : Except Reason Operation := parseList line.toList

end ReplicatedCache.Record
