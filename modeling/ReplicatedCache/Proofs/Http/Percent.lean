/-
The ways to write bytes in a segment of a path.

* `Percent.isBare`: whether a byte may stand in a segment as its own character;
* `Percent.Writes`: **the spellings of some bytes**: each byte stands as its own character, if it
  may, or as an escape with digits in either case;
* `Percent.encoded`, `Percent.writes_encoded`: the characters of encoded bytes are a spelling of
  them;
* `Writes.not_isDelimiter`: no character of a spelling ends a segment, a path or a query;
* `Writes.decode`: **any spelling is resolved to the bytes** that it stands for.
-/
import Mathlib.Tactic.Lemma
import ReplicatedCache.Http.Percent
import ReplicatedCache.Proofs.Text.Utf8

namespace ReplicatedCache.Percent

variable {b high low : UInt8} {c : Char} {cs : List Char} {bs : Bytes} {n : Nat}

/-! ### Bytes as characters -/

/-- The bytes of the marks that need no escape in a segment, besides those that never need one. -/
def segmentMarks : Bytes :=
  [0x21, 0x24, 0x26, 0x27, 0x28, 0x29, 0x2A, 0x2B, 0x2C, 0x3A, 0x3B, 0x3D, 0x40]

/-- Whether a byte may stand in a segment as its own character. -/
def isBare (b : UInt8) : Bool := isPlain b || b ∈ segmentMarks

/-- The character of a byte of ASCII. -/
def charOf (b : UInt8) : Char := Char.ofNat b.toNat

/-- A bare byte is one of ASCII; it starts no escape and ends neither a segment nor a path. -/
lemma bounds_of_isBare (h : isBare b = true) :
    b.toNat < 0x80 ∧ b.toNat ≠ 0x25 ∧ b.toNat ≠ 0x2F ∧ b.toNat ≠ 0x3F ∧ b.toNat ≠ 0x23 := by
  simp only [isBare, isPlain, segmentMarks, Bool.or_eq_true, Bool.and_eq_true, decide_eq_true_eq,
    List.mem_cons, List.not_mem_nil, or_false, UInt8.le_iff_toNat_le, ← UInt8.toNat_inj,
    UInt8.reduceToNat] at h
  omega

lemma ne_mark_of_isBare (h : isBare b = true) : b ≠ mark := by
  rintro rfl
  exact (bounds_of_isBare h).2.1 rfl

/-- A digit may stand as its own character. -/
lemma isBare_of_value? (h : Hex.value? b = some n) : isBare b = true := by
  simp only [isBare, isPlain, Bool.or_eq_true, Bool.and_eq_true, decide_eq_true_eq,
    UInt8.le_iff_toNat_le, ← UInt8.toNat_inj, UInt8.reduceToNat]
  simp only [Hex.value?, UInt8.le_iff_toNat_le, UInt8.reduceToNat] at h
  split at h
  · omega
  · split at h
    · omega
    · split at h
      · omega
      · cases h

lemma toNat_charOf (b : UInt8) : (charOf b).toNat = b.toNat := by
  have hbyte := b.toNat_lt
  have hvalid : b.toNat.isValidChar := .inl (by omega)
  rw [charOf, Char.ofNat, dif_pos hvalid]
  rfl

lemma charOf_ne (h : b.toNat ≠ c.toNat) : charOf b ≠ c := by
  rintro rfl
  exact h (toNat_charOf b).symm

/-- The character of a bare byte has this byte. -/
lemma encodeChar_charOf (h : isBare b = true) : String.utf8EncodeChar (charOf b) = [b] := by
  have hascii : (charOf b).toNat < 0x80 := by
    rw [toNat_charOf]
    exact (bounds_of_isBare h).1
  rw [Utf8.encodeChar_of_ascii hascii, toNat_charOf, UInt8.ofNat_toNat]

/-! ### Spellings -/

/-- **The spellings** of some bytes in a segment of a path. -/
inductive Writes : List Char → Bytes → Prop where
  | nil : Writes [] []
  | bare {b : UInt8} {cs : List Char} {bs : Bytes} (hbare : isBare b = true) (hrest : Writes cs bs) :
      Writes (charOf b :: cs) (b :: bs)
  | escape {b high low : UInt8} {cs : List Char} {bs : Bytes}
      (hhigh : Hex.value? high = some (b.toNat / 16)) (hlow : Hex.value? low = some (b.toNat % 16))
      (hrest : Writes cs bs) : Writes ('%' :: charOf high :: charOf low :: cs) (b :: bs)

/-- The characters of encoded bytes. -/
def encoded (bs : Bytes) : List Char := (encode bs).map charOf

/-- The characters of encoded bytes are a spelling of the bytes. -/
lemma writes_encoded (bs : Bytes) : Writes (encoded bs) bs := by
  induction bs with
  | nil => exact .nil
  | cons b bs ih =>
      have hsplit : encoded (b :: bs) = (encodeByte b).map charOf ++ encoded bs := by
        rw [encoded, encode, List.flatMap_cons, List.map_append]
        rfl
      rw [hsplit, encodeByte]
      split
      next hplain =>
          refine .bare ?_ ih
          rw [isBare, hplain, Bool.true_or]
      next =>
          have hb := b.toNat_lt
          exact .escape (Hex.value?_digit (by omega)) (Hex.value?_digit (by omega)) ih

/-- The characters that end a segment, a path or a query. -/
def isDelimiter (c : Char) : Bool := c = '/' || c = '?' || c = '#'

lemma not_isDelimiter_charOf (h : isBare b = true) : isDelimiter (charOf b) = false := by
  obtain ⟨-, -, hslash, hmark, hhash⟩ := bounds_of_isBare h
  simp only [isDelimiter, Bool.or_eq_false_iff, decide_eq_false_iff_not]
  exact ⟨⟨charOf_ne hslash, charOf_ne hmark⟩, charOf_ne hhash⟩

namespace Writes

/-- **No character of a spelling** ends a segment, a path or a query. -/
lemma not_isDelimiter (h : Writes cs bs) (hc : c ∈ cs) : isDelimiter c = false := by
  induction h with
  | nil => exact absurd hc List.not_mem_nil
  | bare hbare hrest ih =>
      rcases List.mem_cons.mp hc with rfl | hc
      · exact not_isDelimiter_charOf hbare
      · exact ih hc
  | escape hhigh hlow hrest ih =>
      rcases List.mem_cons.mp hc with rfl | hc
      · decide
      rcases List.mem_cons.mp hc with rfl | hc
      · exact not_isDelimiter_charOf (isBare_of_value? hhigh)
      rcases List.mem_cons.mp hc with rfl | hc
      · exact not_isDelimiter_charOf (isBare_of_value? hlow)
      · exact ih hc

/-- Only no bytes are written as nothing. -/
lemma ne_nil (h : Writes cs bs) (hbs : bs ≠ []) : cs ≠ [] := by
  cases h with
  | nil => exact absurd rfl hbs
  | bare _ _ => exact List.cons_ne_nil _ _
  | escape _ _ _ => exact List.cons_ne_nil _ _

end Writes

/-- An escape with digits in either case stands for one byte. -/
lemma decode_digits (hhigh : Hex.value? high = some (b.toNat / 16))
    (hlow : Hex.value? low = some (b.toNat % 16)) (rest : Bytes) :
    decode (mark :: high :: low :: rest) = b :: decode rest := by
  simp only [decode, hhigh, hlow, if_true, Nat.div_add_mod, UInt8.ofNat_toNat]

/-- **Any spelling is resolved to the bytes** that it stands for. -/
lemma Writes.decode (h : Writes cs bs) :
    Percent.decode (Utf8.encode (String.ofList cs)) = bs := by
  rw [Utf8.encode_ofList]
  induction h with
  | nil => rfl
  | bare hbare hrest ih =>
      rw [List.flatMap_cons, encodeChar_charOf hbare, List.singleton_append,
        decode_cons (ne_mark_of_isBare hbare), ih]
  | escape hhigh hlow hrest ih =>
      have hpercent : String.utf8EncodeChar '%' = [mark] := rfl
      rw [List.flatMap_cons, List.flatMap_cons, List.flatMap_cons, hpercent,
        encodeChar_charOf (isBare_of_value? hhigh), encodeChar_charOf (isBare_of_value? hlow)]
      simp only [List.singleton_append]
      rw [decode_digits hhigh hlow, ih]

end ReplicatedCache.Percent
