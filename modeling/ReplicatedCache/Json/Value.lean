/-
JSON values and the compact text in which messages are written.

* `Json`: a value; the members of an object keep the order in which they are written;
* `Json.escape`: how one character is written inside a string;
* `Json.quoteList`: the characters of a string in double quotes;
* `Json.text`: the text of a value, without any blanks.
-/
import ReplicatedCache.Decimal.Shortest

namespace ReplicatedCache

/-- A JSON value. -/
inductive Json where
  | null
  | bool (b : Bool)
  | nat (n : Nat)
  | real (x : Binary64)
  | str (s : String)
  | arr (items : List Json)
  | obj (members : List (String × Json))

namespace Json

/-- Two lower-case hexadecimal digits. -/
def hexByte (n : Nat) : List Char := [Nat.digitChar (n / 16), Nat.digitChar (n % 16)]

/-- How a character is written inside a string: the quote, the backslash and the controls are
escaped, each in its shortest form, and nothing else is. -/
def escape (c : Char) : List Char :=
  if c = '"' then ['\\', '"']
  else if c = '\\' then ['\\', '\\']
  else if c.toNat < 0x20 then
    if c.toNat = 0x08 then ['\\', 'b']
    else if c.toNat = 0x09 then ['\\', 't']
    else if c.toNat = 0x0A then ['\\', 'n']
    else if c.toNat = 0x0C then ['\\', 'f']
    else if c.toNat = 0x0D then ['\\', 'r']
    else ['\\', 'u', '0', '0'] ++ hexByte c.toNat
  else [c]

/-- The characters of a string in double quotes. -/
def quoteList (s : List Char) : List Char := '"' :: (s.flatMap escape ++ ['"'])

/-- The characters of a truth value. -/
def boolText (b : Bool) : List Char := if b then ['t', 'r', 'u', 'e'] else ['f', 'a', 'l', 's', 'e']

mutual

/-- The characters of a value. -/
def textList : Json → List Char
  | null => ['n', 'u', 'l', 'l']
  | bool b => boolText b
  | nat n => n.repr.toList
  | real x => x.text.toList
  | str s => quoteList s.toList
  | arr items => '[' :: itemsText items ++ [']']
  | obj members => '\x7b' :: membersText members ++ ['\x7d']

/-- The characters of some items, with commas between them. -/
def itemsText : List Json → List Char
  | [] => []
  | [item] => textList item
  | item :: rest => textList item ++ ',' :: itemsText rest

/-- The characters of some members, with commas between them. -/
def membersText : List (String × Json) → List Char
  | [] => []
  | [(name, value)] => quoteList name.toList ++ ':' :: textList value
  | (name, value) :: rest =>
      quoteList name.toList ++ ':' :: textList value ++ ',' :: membersText rest

end

/-- The compact text of a value. -/
def text (j : Json) : String := String.ofList j.textList

end Json

end ReplicatedCache
