/-
A string that is written into a JSON text is read back as it was.

* `Json.inside`: the bytes between the quotes of a string;
* `Json.readStringFrom_plain`: bytes that need no escape are kept;
* `Json.readStringFrom_escape`: what is written for one character is read as its bytes;
* `Json.readString_inside`: **round trip**: what is written for a string is read as the string.
-/
import ReplicatedCache.Json.Lexeme
import ReplicatedCache.Json.Value
import ReplicatedCache.Proofs.Text.Utf8

namespace ReplicatedCache.Json

open Utf8 (encodeChar_of_ascii le_of_mem_encodeChar)

/-- The bytes between the quotes of a string. -/
def inside (s : String) : Bytes := (s.toList.flatMap escape).flatMap String.utf8EncodeChar

variable {c : Char} {acc rest bs : Bytes}

/-- **Bytes that need no escape** are kept. -/
lemma readStringFrom_plain (h : ∀ b ∈ bs, ¬ b < 0x20 ∧ b ≠ quoteByte ∧ b ≠ backslash)
    (acc rest : Bytes) :
    readStringFrom acc .plain (bs ++ rest) = readStringFrom (bs.reverse ++ acc) .plain rest := by
  induction bs generalizing acc with
  | nil => rfl
  | cons b bs ih =>
      obtain ⟨hcontrol, hquote, hbackslash⟩ := h b List.mem_cons_self
      rw [List.cons_append, readStringFrom, if_neg hquote, if_neg hbackslash, if_neg hcontrol,
        ih fun b hb => h b (List.mem_cons_of_mem _ hb), List.reverse_cons, List.append_assoc]
      rfl

lemma toNat_ne_of_ne {d : Char} (h : c ≠ d) : c.toNat ≠ d.toNat :=
  fun heq => h (Char.toNat_inj.mp heq)

/-- A character that is written as it is has only bytes that need no escape. -/
lemma plain_of_mem_encodeChar (hquote : c ≠ '"') (hbackslash : c ≠ '\\')
    (hcontrol : ¬ c.toNat < 0x20) :
    ∀ b ∈ String.utf8EncodeChar c, ¬ b < 0x20 ∧ b ≠ quoteByte ∧ b ≠ backslash := by
  intro b hb
  by_cases hascii : c.toNat < 0x80
  · have hbyte : b = UInt8.ofNat c.toNat := by
      rw [encodeChar_of_ascii hascii] at hb
      exact List.mem_singleton.mp hb
    have hsize : c.toNat < 256 := by omega
    have hnat : b.toNat = c.toNat := by
      rw [hbyte, UInt8.toNat_ofNat_of_lt' hsize]
    refine ⟨?_, ?_, ?_⟩
    · rw [UInt8.lt_iff_toNat_lt, hnat]
      exact hcontrol
    · rintro rfl
      exact toNat_ne_of_ne hquote hnat.symm
    · rintro rfl
      exact toNat_ne_of_ne hbackslash hnat.symm
  · have hle := le_of_mem_encodeChar (Nat.le_of_not_lt hascii) hb
    rw [UInt8.le_iff_toNat_le] at hle
    have hlarge : 128 ≤ b.toNat := hle
    refine ⟨?_, ?_, ?_⟩
    · rw [UInt8.lt_iff_toNat_lt]
      exact Nat.not_lt.mpr (Nat.le_trans (by decide) hlarge)
    · rintro rfl
      exact absurd hlarge (by decide)
    · rintro rfl
      exact absurd hlarge (by decide)

/-- The digits of a numeric escape are read as their value. -/
lemma value?_digitChar : ∀ n < 16, (Nat.digitChar n).toNat < 0x80 ∧
    Hex.value? (UInt8.ofNat (Nat.digitChar n).toNat) = some n := by
  decide

/-- **A control** that has no short form is written with the two digits of its number. -/
lemma readStringFrom_control (hcontrol : c.toNat < 0x20) (acc rest : Bytes) :
    readStringFrom acc .plain
        ((['\\', 'u', '0', '0'] ++ hexByte c.toNat).flatMap String.utf8EncodeChar ++ rest) =
      readStringFrom ((String.utf8EncodeChar c).reverse ++ acc) .plain rest := by
  obtain ⟨hhighAscii, hhigh⟩ := value?_digitChar (c.toNat / 16) (by omega)
  obtain ⟨hlowAscii, hlow⟩ := value?_digitChar (c.toNat % 16) (by omega)
  have hbytes : (['\\', 'u', '0', '0'] ++ hexByte c.toNat).flatMap String.utf8EncodeChar =
      [0x5C, 0x75, 0x30, 0x30, UInt8.ofNat (Nat.digitChar (c.toNat / 16)).toNat,
        UInt8.ofNat (Nat.digitChar (c.toNat % 16)).toNat] := by
    have hhex : (hexByte c.toNat).flatMap String.utf8EncodeChar =
        [UInt8.ofNat (Nat.digitChar (c.toNat / 16)).toNat,
          UInt8.ofNat (Nat.digitChar (c.toNat % 16)).toNat] := by
      rw [hexByte, List.flatMap_cons, List.flatMap_singleton, encodeChar_of_ascii hhighAscii,
        encodeChar_of_ascii hlowAscii]
      rfl
    rw [List.flatMap_append, hhex]
    rfl
  have hunit : numericEscape (16 * (c.toNat / 16) + c.toNat % 16) none =
      .ok (String.utf8EncodeChar c, .plain) := by
    have hsum : 16 * (c.toNat / 16) + c.toNat % 16 = c.toNat := by omega
    have htrail : isTrail c.toNat = false := by simp [isTrail]; omega
    have hlead : isLead c.toNat = false := by simp [isLead]; omega
    simp only [numericEscape, hsum, htrail, hlead, Char.ofNat_toNat, Bool.false_eq_true, if_false]
  rw [hbytes]
  show readStringFrom acc (.numeric 2 0 none) (_ :: _ :: rest) = _
  simp only [readStringFrom, hhigh, hlow, Nat.mul_zero, Nat.zero_add, hunit]
  rfl

/-- **A character** is read as its bytes, whether it is escaped or not. -/
lemma readStringFrom_escape (c : Char) (acc rest : Bytes) :
    readStringFrom acc .plain ((escape c).flatMap String.utf8EncodeChar ++ rest) =
      readStringFrom ((String.utf8EncodeChar c).reverse ++ acc) .plain rest := by
  by_cases hquote : c = '"'
  · subst hquote
    rfl
  by_cases hbackslash : c = '\\'
  · subst hbackslash
    rfl
  by_cases hcontrol : c.toNat < 0x20
  · by_cases hshort : c.toNat ∈ [0x08, 0x09, 0x0A, 0x0C, 0x0D]
    · have hchar {d : Char} (h : c.toNat = d.toNat) : c = d := Char.toNat_inj.mp h
      simp only [List.mem_cons, List.not_mem_nil, or_false] at hshort
      rcases hshort with h | h | h | h | h
      · obtain rfl : c = Char.ofNat 0x08 := hchar h
        rfl
      · obtain rfl : c = Char.ofNat 0x09 := hchar h
        rfl
      · obtain rfl : c = Char.ofNat 0x0A := hchar h
        rfl
      · obtain rfl : c = Char.ofNat 0x0C := hchar h
        rfl
      · obtain rfl : c = Char.ofNat 0x0D := hchar h
        rfl
    · have hlong : escape c = ['\\', 'u', '0', '0'] ++ hexByte c.toNat := by
        simp only [List.mem_cons, List.not_mem_nil, or_false, not_or] at hshort
        obtain ⟨h₁, h₂, h₃, h₄, h₅⟩ := hshort
        rw [escape, if_neg hquote, if_neg hbackslash, if_pos hcontrol, if_neg h₁, if_neg h₂,
          if_neg h₃, if_neg h₄, if_neg h₅]
      rw [hlong]
      exact readStringFrom_control hcontrol acc rest
  · rw [escape, if_neg hquote, if_neg hbackslash, if_neg hcontrol, List.flatMap_singleton]
    exact readStringFrom_plain (plain_of_mem_encodeChar hquote hbackslash hcontrol) acc rest

/-- The characters of a string are read one after the other. -/
lemma readStringFrom_escapes (cs : List Char) (acc rest : Bytes) :
    readStringFrom acc .plain ((cs.flatMap escape).flatMap String.utf8EncodeChar ++ rest) =
      readStringFrom ((cs.flatMap String.utf8EncodeChar).reverse ++ acc) .plain rest := by
  induction cs generalizing acc with
  | nil => rfl
  | cons c cs ih =>
      rw [List.flatMap_cons, List.flatMap_append, List.append_assoc, readStringFrom_escape, ih,
        List.flatMap_cons, List.reverse_append, List.append_assoc]

/-- **Round trip**: what is written for a string is read as the string. -/
lemma readString_inside (s : String) (rest : Bytes) :
    readString (inside s ++ quoteByte :: rest) = .ok (s, rest) := by
  rw [readString, inside, readStringFrom_escapes, List.append_nil, readStringFrom, if_pos rfl,
    List.reverse_reverse, ← Utf8.encode_eq_flatMap, Utf8.decode_encode]

/-- The bytes of a string with its quotes. -/
lemma encodeChars_quoteList (s : String) :
    (quoteList s.toList).flatMap String.utf8EncodeChar =
      quoteByte :: (inside s ++ [quoteByte]) := by
  rw [quoteList, List.flatMap_cons, List.flatMap_append]
  rfl

end ReplicatedCache.Json
