/-
The UTF-8 bytes of a text, character by character.

* `encode_ofList`: they are those of its characters, one after the other;
* `head_eq_of_append`: the bytes of a first character tell which character it is;
* `starts_of_encode`, `encode_starts`: **prefixes**: the bytes of a text start those of another one
  if and only if the text starts the other one;
* `encodeChar_of_ascii`, `le_of_mem_encodeChar`: a character of ASCII has one byte, its own number,
  and no byte of any other character is that of one of ASCII;
* `lineFeed_mem_encode`: no character but the line feed has its byte.
-/
import Mathlib.Tactic.Lemma
import ReplicatedCache.Text.Utf8

namespace ReplicatedCache.Utf8

variable {c d : Char} {cs ds : List Char}

/-- The bytes of a text are those of its characters. -/
lemma encode_ofList (cs : List Char) :
    encode (String.ofList cs) = cs.flatMap String.utf8EncodeChar := by
  rw [encode, String.toByteArray_ofList, List.utf8Encode]
  simp

lemma encode_eq_flatMap (s : String) : encode s = s.toList.flatMap String.utf8EncodeChar := by
  rw [← encode_ofList, String.ofList_toList]

/-- The bytes of a first character tell which character it is, whatever follows. -/
lemma head_eq_of_append {bs bs' : Bytes}
    (h : String.utf8EncodeChar c ++ bs = String.utf8EncodeChar d ++ bs') : c = d := by
  have hc := ByteArray.utf8DecodeChar?_utf8EncodeChar_append (b := bs.toByteArray) (c := c)
  have hd := ByteArray.utf8DecodeChar?_utf8EncodeChar_append (b := bs'.toByteArray) (c := d)
  rw [← List.toByteArray_append, h, List.toByteArray_append, hd] at hc
  exact (Option.some.inj hc).symm

/-- **Prefixes**: the characters whose bytes start those of other characters start the others. -/
lemma starts_of_flatMap
    (h : cs.flatMap String.utf8EncodeChar <+: ds.flatMap String.utf8EncodeChar) : cs <+: ds := by
  induction cs generalizing ds with
  | nil => exact List.nil_prefix
  | cons c cs ih =>
      obtain ⟨rest, hrest⟩ := h
      rw [List.flatMap_cons, List.append_assoc] at hrest
      cases ds with
      | nil =>
          rw [List.flatMap_nil, List.append_eq_nil_iff] at hrest
          exact absurd hrest.1 String.utf8EncodeChar_ne_nil
      | cons d ds =>
          rw [List.flatMap_cons] at hrest
          obtain rfl := head_eq_of_append hrest
          rw [List.append_cancel_left_eq] at hrest
          exact List.cons_prefix_cons.mpr ⟨rfl, ih ⟨rest, hrest⟩⟩

/-- **Prefixes**: a text whose bytes start those of another one starts the other one. -/
lemma starts_of_encode {s t : String} (h : encode t <+: encode s) :
    t.toList <+: s.toList := by
  rw [encode_eq_flatMap, encode_eq_flatMap] at h
  exact starts_of_flatMap h

/-- The bytes of the start of a text start its bytes. -/
lemma encode_starts {s t : String} (h : t.toList <+: s.toList) : encode t <+: encode s := by
  obtain ⟨rest, hrest⟩ := h
  rw [encode_eq_flatMap, encode_eq_flatMap, ← hrest, List.flatMap_append]
  exact List.prefix_append _ _

/-! ### ASCII and the rest -/

/-- A character of ASCII has one byte. -/
lemma encodeChar_of_ascii (h : c.toNat < 0x80) :
    String.utf8EncodeChar c = [UInt8.ofNat c.toNat] := by
  have hval : c.val.toNat ≤ 127 := Nat.le_of_lt_succ h
  simp only [String.utf8EncodeChar]
  exact if_pos hval

lemma le_ofNat {n : Nat} (h : n < 256) (hle : 0x80 ≤ n) : 0x80 ≤ UInt8.ofNat n := by
  rw [UInt8.le_iff_toNat_le, UInt8.toNat_ofNat_of_lt' h]
  exact hle

/-- The bytes of a character beyond ASCII are none of ASCII. -/
lemma le_of_mem_encodeChar (h : 0x80 ≤ c.toNat) {b : UInt8} (hb : b ∈ String.utf8EncodeChar c) :
    0x80 ≤ b := by
  have hval : ¬ c.val.toNat ≤ 127 := Nat.not_le_of_gt h
  simp only [String.utf8EncodeChar, if_neg hval] at hb
  split at hb
  · simp only [List.mem_cons, List.not_mem_nil, or_false] at hb
    rcases hb with rfl | rfl
    · exact le_ofNat (by omega) (by omega)
    · exact le_ofNat (by omega) (by omega)
  · split at hb
    · simp only [List.mem_cons, List.not_mem_nil, or_false] at hb
      rcases hb with rfl | rfl | rfl
      · exact le_ofNat (by omega) (by omega)
      · exact le_ofNat (by omega) (by omega)
      · exact le_ofNat (by omega) (by omega)
    · simp only [List.mem_cons, List.not_mem_nil, or_false] at hb
      rcases hb with rfl | rfl | rfl | rfl
      · exact le_ofNat (by omega) (by omega)
      · exact le_ofNat (by omega) (by omega)
      · exact le_ofNat (by omega) (by omega)
      · exact le_ofNat (by omega) (by omega)

/-! ### The byte of the line feed -/

lemma ten_eq_ofNat {n : Nat} (h : n < 256) : 10 = UInt8.ofNat n ↔ n = 10 := by
  rw [← UInt8.toNat_inj, UInt8.toNat_ofNat_of_lt' h, eq_comm]
  rfl

/-- Only the line feed has the byte ten. -/
lemma eq_lineFeed_of_mem (h : 10 ∈ String.utf8EncodeChar c) : c = '\n' := by
  by_cases hascii : c.toNat < 0x80
  · rw [encodeChar_of_ascii hascii, List.mem_singleton, ten_eq_ofNat (by omega)] at h
    exact Char.ext (UInt32.toNat_inj.mp h)
  · exact absurd (le_of_mem_encodeChar (Nat.le_of_not_lt hascii) h) (by decide)

/-- No character but the line feed has its byte. -/
lemma lineFeed_mem_encode {s : String} (h : 10 ∈ encode s) : '\n' ∈ s.toList := by
  rw [encode_eq_flatMap, List.mem_flatMap] at h
  obtain ⟨c, hc, hbyte⟩ := h
  rwa [eq_lineFeed_of_mem hbyte] at hc

end ReplicatedCache.Utf8
