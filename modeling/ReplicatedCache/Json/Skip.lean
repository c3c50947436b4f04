/-
Skipping a JSON value of any kind, for members whose content does not matter. The value must be
well formed; its depth is not bounded.

* `Frame`: what an enclosing bracket or brace asks for;
* `skipScalar`: skips a value that encloses nothing;
* `skipValue`: skips any value.
-/
import ReplicatedCache.Json.Lexeme

namespace ReplicatedCache.Json

/-- An array or an object that has been opened and not closed yet. -/
inductive Frame where
  | array
  | object
  deriving DecidableEq, Repr

/-- The byte that closes a frame. -/
def Frame.close : Frame → UInt8
  | array => closeBracket
  | object => closeBrace

/-- The frame that a byte opens. -/
def Frame.ofOpening? (b : UInt8) : Option Frame :=
  if b = openBracket then some .array else if b = openBrace then some .object else none

/-- What may come next while a value is skipped. -/
inductive Awaiting where
  /-- A value. -/
  | value
  /-- The first item of a frame, or its end. -/
  | first
  /-- A comma and a further item of a frame, or its end. -/
  | further
  deriving DecidableEq, Repr

/-- The bytes of `null`, `true` and `false` behind their first letter. -/
def restOfWord? (b : UInt8) : Option Bytes :=
  if b = 0x6E then some [0x75, 0x6C, 0x6C]
  else if b = 0x74 then some [0x72, 0x75, 0x65]
  else if b = 0x66 then some [0x61, 0x6C, 0x73, 0x65]
  else none

/-- Skips a word, a number or a string that starts with `b`. -/
def skipScalar (b : UInt8) (rest : Bytes) : Except Defect Bytes :=
  match restOfWord? b with
  | some expected => word expected rest
  | none =>
      if b = minus ∨ isDigit b then skipNumber (b :: rest)
      else if b = quoteByte then skipString rest
      else .error .malformed

/-- Skips what stands before the value of an item: in an object, its name and a colon. -/
def skipItemName (frame : Frame) (bs : Bytes) : Except Defect Bytes :=
  match frame with
  | .array => .ok bs
  | .object =>
      match skipBlank bs with
      | [] => .error .truncated
      | b :: rest => if b = quoteByte then (skipString rest).bind skipColon else .error .malformed

/-- Skips on until all frames are closed; each step takes a byte or is followed by one that
does. -/
def skipFrom : (fuel : Nat) → Awaiting → List Frame → Bytes → Except Defect Bytes
  | 0, _, _, _ => .error .truncated
  | fuel + 1, .value, frames, bs =>
      match skipBlank bs with
      | [] => .error .truncated
      | b :: rest =>
          match Frame.ofOpening? b with
          | some frame => skipFrom fuel .first (frame :: frames) rest
          | none =>
              match skipScalar b rest with
              | .ok rest => skipFrom fuel .further frames rest
              | .error defect => .error defect
  | _ + 1, _, [], bs => .ok bs
  | fuel + 1, awaiting, frame :: frames, bs =>
      match skipBlank bs with
      | [] => .error .truncated
      | b :: rest =>
          if b = frame.close then skipFrom fuel .further frames rest
          else if awaiting = .first then
            match skipItemName frame (b :: rest) with
            | .ok rest => skipFrom fuel .value (frame :: frames) rest
            | .error defect => .error defect
          else if b = comma then
            match skipItemName frame rest with
            | .ok rest => skipFrom fuel .value (frame :: frames) rest
            | .error defect => .error defect
          else .error .malformed

/-- Skips a value and returns the bytes after it, where there are at most `size` bytes. -/
def skipValue (size : Nat) (bs : Bytes) : Except Defect Bytes :=
  skipFrom (2 * size + 2) .value [] bs

end ReplicatedCache.Json
