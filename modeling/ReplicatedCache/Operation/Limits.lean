/-
What a key and a value may be, so that every accepted operation fits on one line of the log.

* `Violation`: the ways in which a key or a value breaks the rules, with `Violation.message`;
* `checkKey`, `checkValue`: the first rule that a key or a value breaks;
* `Operation.check`: the first rule that an operation breaks, the key being checked first.
-/
import ReplicatedCache.Operation

namespace ReplicatedCache

/-- A rule that a key or a value breaks. -/
inductive Violation where
  | emptyKey
  | longKey
  | keyWithSeparator
  | longValue
  | valueWithLineBreak
  deriving DecidableEq, Repr

/-- The longest key, in bytes. -/
def maxKeyLength : Nat := 256

/-- The longest value, in bytes. -/
def maxValueSize : Nat := 1048576

/-- The text shown for a broken rule. -/
def Violation.message : Violation → String
  | emptyKey => "Key cannot be empty"
  | longKey => "Key exceeds maximum length of " ++ maxKeyLength.repr ++ " characters"
  | keyWithSeparator => "Key cannot contain commas or line breaks"
  | longValue => "Value exceeds maximum size of " ++ maxValueSize.repr ++ " bytes"
  | valueWithLineBreak => "Value cannot contain line breaks"

/-- Whether a character breaks a line. -/
def isLineBreak (c : Char) : Bool := c = '\n' || c = '\r'

/-- The first rule that a key breaks. -/
def checkKey (key : String) : Option Violation :=
  if key = "" then some .emptyKey
  else if maxKeyLength < key.utf8ByteSize then some .longKey
  else if key.toList.any fun c => c = ',' || isLineBreak c then some .keyWithSeparator
  else none

/-- The first rule that a value breaks. -/
def checkValue (value : String) : Option Violation :=
  if maxValueSize < value.utf8ByteSize then some .longValue
  else if value.toList.any isLineBreak then some .valueWithLineBreak
  else none

/-- The first rule that an operation breaks. -/
def Operation.check : Operation → Option Violation
  | .put key value => (checkKey key).or (checkValue value)
  | .delete key => checkKey key

end ReplicatedCache
