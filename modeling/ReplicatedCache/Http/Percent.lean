/-
Percent escapes, as addresses and the paths of requests hold them. An escape that is broken stays as
it is: that is the documented behaviour of the HTTP framework and of its client.

* `Percent.decode`: bytes with their escapes resolved; what is no complete escape stays as it is;
* `Percent.encode`: bytes as characters that need no escape in a path;
* `Percent.decode_encode`: resolving the escapes of encoded bytes gives the bytes;
* `Percent.escapeText`: a text with escapes for some of its characters.
-/
import ReplicatedCache.Text.Numeral
import ReplicatedCache.Text.Utf8

namespace ReplicatedCache.Percent

/-- The byte that starts an escape. -/
def mark : UInt8 := 0x25

/-- Resolves the escapes. A percent sign without two digits behind it stands for itself. -/
def decode : Bytes → Bytes
  | [] => []
  | [b] => [b]
  | [b, c] => [b, c]
  | b :: c :: d :: rest =>
      if b = mark then
        match Hex.value? c, Hex.value? d with
        | some high, some low => UInt8.ofNat (16 * high + low) :: decode rest
        | _, _ => b :: decode (c :: d :: rest)
      else b :: decode (c :: d :: rest)

/-- Whether a byte is a letter, a digit or one of four marks that never need an escape. -/
def isPlain (b : UInt8) : Bool :=
  (0x30 ≤ b && b ≤ 0x39) || (0x41 ≤ b && b ≤ 0x5A) || (0x61 ≤ b && b ≤ 0x7A) ||
    b = 0x2D || b = 0x2E || b = 0x5F || b = 0x7E

/-- The escape of a byte. -/
def escape (b : UInt8) : Bytes := [mark, Hex.digit (b.toNat / 16), Hex.digit (b.toNat % 16)]

/-- One byte as it may stand in a path. -/
def encodeByte (b : UInt8) : Bytes := if isPlain b then [b] else escape b

/-- Writes every byte that is not plain as an escape. -/
def encode (bs : Bytes) : Bytes := bs.flatMap encodeByte

/-- A text in which the controls, the characters beyond ASCII and the given ones are escaped. An
escape that it holds already stays as it is, unless its mark is one of the given characters. -/
def escapeText (special : List Char) (text : List Char) : List Char :=
  text.flatMap fun c =>
    if 0x20 ≤ c.toNat ∧ c.toNat < 0x7F ∧ c ∉ special then [c]
    else ((Utf8.encode (String.ofList [c])).flatMap escape).map fun b => Char.ofNat b.toNat

/-- A byte that starts no escape stays as it is. -/
theorem decode_cons {b : UInt8} (h : b ≠ mark) (rest : Bytes) :
    decode (b :: rest) = b :: decode rest := by
  match rest with
  | [] => rfl
  | [c] => simp [decode]
  | c :: d :: rest => simp [decode, h]

/-- A complete escape stands for one byte. -/
theorem decode_escape (b : UInt8) (rest : Bytes) :
    decode (escape b ++ rest) = b :: decode rest := by
  have hb := b.toNat_lt
  have hhigh : Hex.value? (Hex.digit (b.toNat / 16)) = some (b.toNat / 16) :=
    Hex.value?_digit (by omega)
  have hlow : Hex.value? (Hex.digit (b.toNat % 16)) = some (b.toNat % 16) :=
    Hex.value?_digit (by omega)
  have hsum : 16 * (b.toNat / 16) + b.toNat % 16 = b.toNat := by omega
  simp [decode, escape, hhigh, hlow, hsum]

/-- Resolving the escapes of encoded bytes gives the bytes. -/
theorem decode_encode (bs : Bytes) : decode (encode bs) = bs := by
  induction bs with
  | nil => rfl
  | cons b bs ih =>
      have happ : encode (b :: bs) = encodeByte b ++ encode bs := by simp [encode]
      rw [happ, encodeByte]
      split
      · rename_i hplain
        have hne : b ≠ mark := by rintro rfl; exact absurd hplain (by decide)
        simp [decode_cons hne, ih]
      · simp [decode_escape, ih]

end ReplicatedCache.Percent
