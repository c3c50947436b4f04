/-
Cutting a text:

* `Text.splitWhere`: the pieces between the characters that separate them;
* `Text.splitAtEach`: the pieces of a text between the occurrences of one character;
* `Text.isBlank`: the characters with the Unicode property White_Space;
* `Text.trim`: a text without blanks at its ends.
-/
namespace ReplicatedCache.Text

/-- The pieces between the separating characters; there is always at least one. -/
def splitWhere (separates : Char → Bool) : List Char → List (List Char)
  | [] => [[]]
  | c :: rest =>
      if separates c then [] :: splitWhere separates rest
      else match splitWhere separates rest with
        | piece :: pieces => (c :: piece) :: pieces
        | [] => [[c]]

/-- The pieces of a text between the occurrences of `separator`. -/
def splitAtEach (separator : Char) (s : String) : List String :=
  (splitWhere (fun c => c = separator) s.toList).map String.ofList

/-- The characters with the Unicode property White_Space. -/
def isBlank (c : Char) : Bool :=
  let n := c.toNat
  (0x09 ≤ n && n ≤ 0x0D) || n = 0x20 || n = 0x85 || n = 0xA0 || n = 0x1680 ||
    (0x2000 ≤ n && n ≤ 0x200A) || n = 0x2028 || n = 0x2029 || n = 0x202F || n = 0x205F ||
    n = 0x3000

/-- The characters without the blanks at either end. -/
def trimList (cs : List Char) : List Char :=
  ((cs.dropWhile isBlank).reverse.dropWhile isBlank).reverse

/-- The text without the blanks at either end. -/
def trim (s : String) : String := String.ofList (trimList s.toList)

end ReplicatedCache.Text
