/-
How long a text is at least that says something: no way to write a string is shorter than the one in
which strings are written here.

* `Json.weight`: how many bytes are written for a byte of a string, and `Json.weightOf` for several;
* `Json.length_inside`: what is written for a string is as long as its bytes weigh;
* `Json.readStringFrom_le`: **shortest form**: a string that is read was written with as many bytes
  at least;
* `Json.skipFrom_le`: what is skipped has no bytes to give;
* `RecordShape.read_le`: **records**: a text is at least as long as the strings that are read from
  it.
-/
import Mathlib.Algebra.GroupWithZero.Nat
import ReplicatedCache.Proofs.Json.Records

namespace ReplicatedCache.Json

open Utf8 (encodeChar_of_ascii le_of_mem_encodeChar)

/-! ### The weight of a string -/

/-- How many bytes are written for a byte of a string. -/
def weight (b : UInt8) : Nat :=
  if b = quoteByte ∨ b = backslash then 2
  else if b < 0x20 then
    if b = 0x08 ∨ b = 0x09 ∨ b = 0x0A ∨ b = 0x0C ∨ b = 0x0D then 2 else 6
  else 1

/-- How many bytes are written for some bytes of a string. -/
def weightOf (bs : Bytes) : Nat := (bs.map weight).sum

variable {c : Char} {acc bs rest : Bytes} {b : UInt8} {state : StringState} {s : String}

lemma weightOf_cons (b : UInt8) (bs : Bytes) : weightOf (b :: bs) = weight b + weightOf bs := by
  rw [weightOf, List.map_cons, List.sum_cons]
  rfl

lemma weightOf_append (bs cs : Bytes) : weightOf (bs ++ cs) = weightOf bs + weightOf cs := by
  rw [weightOf, List.map_append, List.sum_append]
  rfl

lemma weightOf_reverse (bs : Bytes) : weightOf bs.reverse = weightOf bs := by
  rw [weightOf, List.map_reverse, List.sum_reverse]
  rfl

lemma weight_le (b : UInt8) : weight b ≤ 6 := by
  rw [weight]
  split
  · decide
  · split
    · split
      · decide
      · decide
    · decide

lemma weightOf_le (bs : Bytes) : weightOf bs ≤ 6 * bs.length := by
  induction bs with
  | nil => exact Nat.le_refl _
  | cons b bs ih =>
      have hb := weight_le b
      rw [weightOf_cons, List.length_cons]
      omega

/-- A byte that needs no escape is written as it is. -/
lemma weight_plain (hcontrol : ¬ b < 0x20) (hquote : b ≠ quoteByte) (hbackslash : b ≠ backslash) :
    weight b = 1 := by
  rw [weight, if_neg (not_or.mpr ⟨hquote, hbackslash⟩), if_neg hcontrol]

lemma weightOf_plain (h : ∀ b ∈ bs, ¬ b < 0x20 ∧ b ≠ quoteByte ∧ b ≠ backslash) :
    weightOf bs = bs.length := by
  induction bs with
  | nil => rfl
  | cons b bs ih =>
      obtain ⟨hcontrol, hquote, hbackslash⟩ := h b List.mem_cons_self
      rw [weightOf_cons, weight_plain hcontrol hquote hbackslash,
        ih fun b hb => h b (List.mem_cons_of_mem _ hb), List.length_cons, Nat.add_comm]

/-- What is written for a control is as long as its byte weighs. -/
lemma length_escape_control : ∀ n < 0x20,
    ((escape (Char.ofNat n)).flatMap String.utf8EncodeChar).length =
      weightOf (String.utf8EncodeChar (Char.ofNat n)) := by
  decide

/-- **A character** takes as many bytes as its own bytes weigh. -/
lemma length_escape (c : Char) :
    ((escape c).flatMap String.utf8EncodeChar).length = weightOf (String.utf8EncodeChar c) := by
  by_cases hcontrol : c.toNat < 0x20
  · have h := length_escape_control c.toNat hcontrol
    rwa [Char.ofNat_toNat] at h
  by_cases hquote : c = '"'
  · subst hquote
    rfl
  by_cases hbackslash : c = '\\'
  · subst hbackslash
    rfl
  · rw [escape, if_neg hquote, if_neg hbackslash, if_neg hcontrol, List.flatMap_singleton,
      weightOf_plain (plain_of_mem_encodeChar hquote hbackslash hcontrol)]

/-- **What is written for a string** is as long as its bytes weigh. -/
lemma length_inside (s : String) : (inside s).length = weightOf (Utf8.encode s) := by
  have hchars (cs : List Char) : ((cs.flatMap escape).flatMap String.utf8EncodeChar).length =
      weightOf (cs.flatMap String.utf8EncodeChar) := by
    induction cs with
    | nil => rfl
    | cons c cs ih =>
        rw [List.flatMap_cons, List.flatMap_append, List.length_append, length_escape, ih,
          List.flatMap_cons, weightOf_append]
  rw [inside, hchars, Utf8.encode_eq_flatMap]

lemma length_inside_le (s : String) : (inside s).length ≤ 6 * s.utf8ByteSize := by
  rw [length_inside, ← Utf8.length_encode]
  exact weightOf_le _

/-- A character weighs no more than a numeric escape for it is long. -/
lemma weightOf_encodeChar_le (c : Char) : weightOf (String.utf8EncodeChar c) ≤ 6 := by
  by_cases hascii : c.toNat < 0x80
  · have hb := weight_le (UInt8.ofNat c.toNat)
    rw [encodeChar_of_ascii hascii, weightOf_cons]
    exact hb
  · have hplain : ∀ b ∈ String.utf8EncodeChar c, ¬ b < 0x20 ∧ b ≠ quoteByte ∧ b ≠ backslash := by
      refine plain_of_mem_encodeChar ?_ ?_ (by omega)
      · rintro rfl
        exact hascii (by decide)
      · rintro rfl
        exact hascii (by decide)
    have hsize : (String.utf8EncodeChar c).length ≤ 4 := by
      rw [String.length_utf8EncodeChar]
      exact Char.utf8Size_le_four c
    rw [weightOf_plain hplain]
    omega

/-! ### Reading a string -/

/-- How many bytes of an escape have been read that has not ended yet. -/
def StringState.spent : StringState → Nat
  | plain => 0
  | escaped => 1
  | numeric needed _ lead => 6 - needed + if lead.isSome then 6 else 0
  | paired _ => 6
  | pairedEscape _ => 7

/-- A byte that has a short escape weighs no more than it. -/
lemma weight_of_unescape {d : UInt8} (h : unescape? b = some d) : weight d ≤ 2 := by
  rw [unescape?] at h
  iterate 8
    split at h
    · obtain rfl := Option.some.inj h
      decide
  cases h

/-- What a numeric escape stands for weighs no more than the escape is long. -/
lemma numericEscape_le {unit : Nat} {lead : Option Nat} {added : Bytes}
    (h : numericEscape unit lead = .ok (added, state)) :
    weightOf added + state.spent ≤ 6 + if lead.isSome then 6 else 0 := by
  cases lead with
  | none =>
      simp only [numericEscape] at h
      split at h
      · cases h
      · split at h
        · obtain ⟨rfl, rfl⟩ := Prod.mk.inj (Except.ok.inj h)
          exact Nat.le_refl 6
        · obtain ⟨rfl, rfl⟩ := Prod.mk.inj (Except.ok.inj h)
          exact weightOf_encodeChar_le _
  | some first =>
      simp only [numericEscape] at h
      split at h
      · obtain ⟨rfl, rfl⟩ := Prod.mk.inj (Except.ok.inj h)
        have hle := weightOf_encodeChar_le (Char.ofNat (joinPair first unit))
        simp only [StringState.spent, Option.isSome_some, if_true]
        omega
      · cases h

/-- **One byte** of a string ends it, or adds no more than its own length to what has been read. -/
lemma readStringFrom_cons (h : readStringFrom acc state (b :: bs) = .ok (s, rest)) :
    (state = .plain ∧ Utf8.decode acc.reverse = some s ∧ rest = bs) ∨
      ∃ acc' state', readStringFrom acc' state' bs = .ok (s, rest) ∧
        weightOf acc' + state'.spent ≤ weightOf acc + state.spent + 1 := by
  cases state with
  | plain =>
      rw [readStringFrom] at h
      split at h
      next =>
          split at h
          next s' hdecode =>
              obtain ⟨rfl, rfl⟩ := Prod.mk.inj (Except.ok.inj h)
              exact .inl ⟨rfl, hdecode, rfl⟩
          next => cases h
      next hquote =>
          split at h
          next => exact .inr ⟨acc, .escaped, h, Nat.le_refl _⟩
          next hbackslash =>
              split at h
              next => cases h
              next hcontrol =>
                  refine .inr ⟨b :: acc, .plain, h, ?_⟩
                  rw [weightOf_cons, weight_plain hcontrol hquote hbackslash]
                  omega
  | escaped =>
      rw [readStringFrom] at h
      split at h
      next => exact .inr ⟨acc, .numeric 4 0 none, h, Nat.le_refl _⟩
      next =>
          split at h
          next d hd =>
              refine .inr ⟨d :: acc, .plain, h, ?_⟩
              have hweight := weight_of_unescape hd
              rw [weightOf_cons]
              simp only [StringState.spent]
              omega
          next => cases h
  | numeric needed value lead =>
      rw [readStringFrom] at h
      split at h
      next => cases h
      next d hd =>
          split at h
          next hneeded =>
              split at h
              next added state' hunit =>
                  refine .inr ⟨added.reverse ++ acc, state', h, ?_⟩
                  have hadded := numericEscape_le hunit
                  rw [weightOf_append, weightOf_reverse]
                  simp only [StringState.spent] at hadded ⊢
                  omega
              next => cases h
          next hneeded =>
              refine .inr ⟨acc, .numeric (needed - 1) (16 * value + d) lead, h, ?_⟩
              simp only [StringState.spent]
              omega
  | paired lead =>
      rw [readStringFrom] at h
      split at h
      next => exact .inr ⟨acc, .pairedEscape lead, h, Nat.le_refl _⟩
      next => cases h
  | pairedEscape lead =>
      rw [readStringFrom] at h
      split at h
      next => exact .inr ⟨acc, .numeric 4 0 (some lead), h, Nat.le_refl _⟩
      next => cases h

/-- **Shortest form**: the bytes in which a string was written are as many at least as are written
for it here. -/
lemma readStringFrom_le (h : readStringFrom acc state bs = .ok (s, rest)) :
    (inside s).length + 1 + rest.length ≤ weightOf acc + state.spent + bs.length := by
  induction bs generalizing acc state with
  | nil =>
      rw [readStringFrom] at h
      cases h
  | cons b bs ih =>
      rw [List.length_cons]
      rcases readStringFrom_cons h with ⟨rfl, hdecode, rfl⟩ | ⟨acc', state', hgoesOn, hadded⟩
      · rw [length_inside, Utf8.encode_eq_of_decode hdecode, weightOf_reverse]
        omega
      · have hle := ih hgoesOn
        omega

/-- **Shortest form** of a string behind its opening quote. -/
lemma readString_le (h : readString bs = .ok (s, rest)) :
    (inside s).length + 1 + rest.length ≤ bs.length := by
  have hle := readStringFrom_le h
  have hspent : weightOf [] + StringState.plain.spent = 0 := rfl
  omega

/-! ### What is skipped -/

lemma length_le_of_ok (h : (Except.ok bs : Except Defect Bytes) = .ok rest) :
    rest.length ≤ bs.length := by
  obtain rfl := Except.ok.inj h
  exact Nat.le_refl _

lemma dropWhile_le (p : UInt8 → Bool) (bs : Bytes) : (bs.dropWhile p).length ≤ bs.length :=
  (List.dropWhile_suffix p).length_le

lemma skipBlank_le (bs : Bytes) : (skipBlank bs).length ≤ bs.length := dropWhile_le isBlank bs

lemma word_le {expected : Bytes} (h : word expected bs = .ok rest) : rest.length ≤ bs.length := by
  induction expected generalizing bs with
  | nil => exact length_le_of_ok h
  | cons e expected ih =>
      cases bs with
      | nil => cases h
      | cons b bs =>
          rw [word] at h
          split at h
          next => exact Nat.le_succ_of_le (ih h)
          next => cases h

lemma skipColon_lt (h : skipColon bs = .ok rest) : rest.length < bs.length := by
  have hblank := skipBlank_le bs
  rw [skipColon] at h
  split at h
  next => cases h
  next b behind hbehind =>
      rw [hbehind, List.length_cons] at hblank
      split at h
      next =>
          obtain rfl := Except.ok.inj h
          exact hblank
      next => cases h

lemma skipStringFrom_le (h : skipStringFrom state bs = .ok rest) : rest.length ≤ bs.length := by
  induction bs generalizing state with
  | nil =>
      rw [skipStringFrom] at h
      cases h
  | cons b bs ih =>
      refine Nat.le_succ_of_le ?_
      cases state with
      | plain =>
          rw [skipStringFrom] at h
          split at h
          · exact length_le_of_ok h
          · split at h
            · exact ih h
            · split at h
              · cases h
              · exact ih h
      | escaped =>
          rw [skipStringFrom] at h
          split at h
          · exact ih h
          · split at h
            · exact ih h
            · cases h
      | numeric needed value lead =>
          rw [skipStringFrom] at h
          split at h
          · cases h
          · split at h
            · exact ih h
            · exact ih h
      | paired lead =>
          rw [skipStringFrom] at h
          exact ih h
      | pairedEscape lead =>
          rw [skipStringFrom] at h
          exact ih h

lemma skipDigits_le (h : skipDigits bs = .ok rest) : rest.length ≤ bs.length := by
  cases bs with
  | nil => cases h
  | cons b bs =>
      simp only [skipDigits] at h
      split at h
      · exact Nat.le_succ_of_le (Nat.le_trans (length_le_of_ok h) (dropWhile_le _ _))
      · cases h

lemma exponentSign_le (bs : Bytes) : (exponentSign bs).2.length ≤ bs.length := by
  cases bs with
  | nil => exact Nat.le_refl _
  | cons b bs =>
      simp only [exponentSign]
      split
      · exact Nat.le_succ _
      · split
        · exact Nat.le_succ _
        · exact Nat.le_refl _

lemma skipExponent_le (h : skipExponent bs = .ok rest) : rest.length ≤ bs.length := by
  cases bs with
  | nil => exact length_le_of_ok h
  | cons b bs =>
      simp only [skipExponent] at h
      split at h
      · exact Nat.le_succ_of_le (Nat.le_trans (skipDigits_le h) (exponentSign_le bs))
      · exact length_le_of_ok h

lemma skipAfterWhole_le (h : skipAfterWhole bs = .ok rest) : rest.length ≤ bs.length := by
  cases bs with
  | nil => exact length_le_of_ok h
  | cons b bs =>
      simp only [skipAfterWhole] at h
      split at h
      · cases hdigits : skipDigits bs with
        | error defect =>
            rw [hdigits] at h
            cases h
        | ok after =>
            rw [hdigits] at h
            exact Nat.le_succ_of_le (Nat.le_trans (skipExponent_le h) (skipDigits_le hdigits))
      · exact skipExponent_le h

lemma dropMinus_le (bs : Bytes) : (dropMinus bs).length ≤ bs.length := by
  cases bs with
  | nil => exact Nat.le_refl _
  | cons b bs =>
      simp only [dropMinus]
      split
      · exact Nat.le_succ _
      · exact Nat.le_refl _

lemma skipNumber_le (h : skipNumber bs = .ok rest) : rest.length ≤ bs.length := by
  have hminus := dropMinus_le bs
  rw [skipNumber] at h
  split at h
  next => cases h
  next b behind hbehind =>
      rw [hbehind, List.length_cons] at hminus
      refine Nat.le_trans ?_ (Nat.le_of_succ_le hminus)
      split at h
      next =>
          split at h
          next =>
              split at h
              · cases h
              · exact skipAfterWhole_le h
          next => exact skipAfterWhole_le h
      next =>
          split at h
          next => exact Nat.le_trans (skipAfterWhole_le h) (dropWhile_le _ _)
          next => cases h

lemma skipScalar_le (h : skipScalar b bs = .ok rest) : rest.length ≤ bs.length + 1 := by
  rw [skipScalar] at h
  split at h
  next => exact Nat.le_succ_of_le (word_le h)
  next =>
      split at h
      next => exact skipNumber_le h
      next =>
          split at h
          next => exact Nat.le_succ_of_le (skipStringFrom_le h)
          next => cases h

lemma skipItemName_le {frame : Frame} (h : skipItemName frame bs = .ok rest) :
    rest.length ≤ bs.length := by
  cases frame with
  | array => exact length_le_of_ok h
  | object =>
      have hblank := skipBlank_le bs
      rw [skipItemName] at h
      split at h
      next => cases h
      next b behind hbehind =>
          rw [hbehind, List.length_cons] at hblank
          split at h
          next =>
              cases hstring : skipString behind with
              | error defect =>
                  rw [hstring] at h
                  cases h
              | ok after =>
                  rw [hstring] at h
                  have hname : after.length ≤ behind.length := skipStringFrom_le hstring
                  have hcolon : rest.length < after.length := skipColon_lt h
                  omega
          next => cases h

/-- What stands before the next item, or ends a frame, leaves no more bytes than there were. -/
lemma skipItem_le {frame : Frame} {fuel : Nat} {frames : List Frame}
    (ih : ∀ {awaiting : Awaiting} {frames : List Frame} {bs : Bytes},
      skipFrom fuel awaiting frames bs = .ok rest → rest.length ≤ bs.length)
    (h : (match skipItemName frame bs with
      | .ok behind => skipFrom fuel .value (frame :: frames) behind
      | .error defect => .error defect) = .ok rest) : rest.length ≤ bs.length := by
  split at h
  next behind hname => exact Nat.le_trans (ih h) (skipItemName_le hname)
  next => cases h

/-- **What is skipped** leaves no more bytes than there were. -/
lemma skipFrom_le {fuel : Nat} {awaiting : Awaiting} {frames : List Frame}
    (h : skipFrom fuel awaiting frames bs = .ok rest) : rest.length ≤ bs.length := by
  induction fuel generalizing awaiting frames bs with
  | zero => cases h
  | succ fuel ih =>
      have hblank := skipBlank_le bs
      by_cases hvalue : awaiting = .value
      · subst hvalue
        rw [skipFrom] at h
        split at h
        next => cases h
        next b behind hbehind =>
            rw [hbehind, List.length_cons] at hblank
            split at h
            next => exact Nat.le_trans (ih h) (Nat.le_of_succ_le hblank)
            next =>
                split at h
                next after hscalar =>
                    exact Nat.le_trans (Nat.le_trans (ih h) (skipScalar_le hscalar)) hblank
                next => cases h
      · cases frames with
        | nil =>
            rw [skipFrom] at h
            · exact length_le_of_ok h
            · exact hvalue
        | cons frame frames =>
            rw [skipFrom] at h
            · split at h
              next => cases h
              next b behind hbehind =>
                  rw [hbehind, List.length_cons] at hblank
                  split at h
                  next => exact Nat.le_trans (ih h) (Nat.le_of_succ_le hblank)
                  next =>
                      split at h
                      next => exact Nat.le_trans (skipItem_le ih h) hblank
                      next =>
                          split at h
                          next => exact Nat.le_trans (skipItem_le ih h) (Nat.le_of_succ_le hblank)
                          next => cases h
            · exact hvalue

lemma skipValue_le {size : Nat} (h : skipValue size bs = .ok rest) : rest.length ≤ bs.length :=
  skipFrom_le h

/-! ### Records -/

/-- A computation that gives a result has given one in each of its steps. -/
lemma eq_ok_of_bind {α β : Type} {x : Except Defect α} {f : α → Except Defect β} {y : β}
    (h : x >>= f = .ok y) : ∃ a, x = .ok a ∧ f a = .ok y := by
  cases x with
  | error defect => cases h
  | ok a => exact ⟨a, rfl, h⟩

lemma afterQuote_lt (h : afterQuote bs = .ok rest) : rest.length < bs.length := by
  have hblank := skipBlank_le bs
  rw [afterQuote] at h
  split at h
  next => cases h
  next b behind hbehind =>
      rw [hbehind, List.length_cons] at hblank
      split at h
      next => exact Nat.lt_of_le_of_lt (length_le_of_ok h) hblank
      next => cases h

/-- **A string** that is read takes as many bytes at least as are written for it. -/
lemma readText_le (h : readText bs = .ok (s, rest)) :
    (inside s).length + 2 + rest.length ≤ bs.length := by
  have hblank := skipBlank_le bs
  rw [readText] at h
  split at h
  next => cases h
  next b behind hbehind =>
      rw [hbehind, List.length_cons] at hblank
      split at h
      next =>
          have hle := readString_le h
          omega
      next => cases h

namespace RecordShape

variable {σ α : Type} {shape : RecordShape σ α} {cost : σ → Nat} {draft draft₂ : σ}
  {first more : Bool} {a : α}

lemma afterQuote_map_lt (h : (afterQuote bs).map (fun rest => (true, rest)) = .ok (more, rest)) :
    rest.length < bs.length := by
  cases hquote : afterQuote bs with
  | error defect =>
      rw [hquote] at h
      cases h
  | ok behind =>
      rw [hquote] at h
      obtain ⟨-, rfl⟩ := Prod.mk.inj (Except.ok.inj h)
      exact afterQuote_lt hquote

lemma nextMember_lt (h : nextMember first bs = .ok (more, rest)) : rest.length < bs.length := by
  have hblank := skipBlank_le bs
  rw [nextMember] at h
  split at h
  next => cases h
  next b behind hbehind =>
      rw [hbehind] at hblank
      split at h
      next =>
          obtain ⟨-, rfl⟩ := Prod.mk.inj (Except.ok.inj h)
          exact hblank
      next =>
          split at h
          next => exact Nat.lt_of_lt_of_le (afterQuote_map_lt h) hblank
          next =>
              split at h
              next => exact Nat.lt_of_lt_of_le (afterQuote_map_lt h) (Nat.le_of_succ_le hblank)
              next => cases h

lemma nextElement_le (h : nextElement first bs = .ok (more, rest)) :
    rest.length ≤ bs.length := by
  have hblank := skipBlank_le bs
  rw [nextElement] at h
  split at h
  next => cases h
  next b behind hbehind =>
      rw [hbehind] at hblank
      split at h
      next =>
          obtain ⟨-, rfl⟩ := Prod.mk.inj (Except.ok.inj h)
          exact hblank
      next =>
          split at h
          next =>
              obtain ⟨-, rfl⟩ := Prod.mk.inj (Except.ok.inj h)
              exact hblank
          next =>
              split at h
              next =>
                  have hitem := skipBlank_le behind
                  split at h
                  next => cases h
                  next d after hafter =>
                      rw [hafter] at hitem
                      split at h
                      next => cases h
                      next =>
                          obtain ⟨-, rfl⟩ := Prod.mk.inj (Except.ok.inj h)
                          exact Nat.le_trans hitem (Nat.le_of_succ_le hblank)
              next => cases h

lemma closeArray_lt (h : closeArray bs = .ok rest) : rest.length < bs.length := by
  have hblank := skipBlank_le bs
  rw [closeArray] at h
  split at h
  next => cases h
  next b behind hbehind =>
      rw [hbehind, List.length_cons] at hblank
      split at h
      next => exact Nat.lt_of_le_of_lt (length_le_of_ok h) hblank
      next => cases h

/-- A field takes as many bytes at least as it adds to the cost of a draft. -/
def Costs (cost : σ → Nat) (field : Field σ) : Prop :=
  ∀ draft bs draft₂ rest, field.read draft bs = .ok (draft₂, rest) →
    cost draft₂ + rest.length ≤ cost draft + bs.length

/-- A field that holds a string takes what is written for the string, quotes included. -/
lemma costs_of_text {name : String} {get : σ → Option String} {set : σ → String → σ}
    (hset : ∀ draft s, cost (set draft s) ≤ cost draft + ((inside s).length + 2)) :
    Costs cost (Field.of name readText get set) := by
  intro draft bs draft₂ rest h
  have hread : (readText bs).map (fun r => (set draft r.1, r.2)) = .ok (draft₂, rest) := h
  cases htext : readText bs with
  | error defect =>
      rw [htext] at hread
      cases hread
  | ok result =>
      rw [htext] at hread
      obtain ⟨rfl, rfl⟩ := Prod.mk.inj (Except.ok.inj hread)
      have hle := readText_le htext
      have hcost := hset draft result.1
      omega

lemma readMembers_lt (hcost : ∀ field ∈ shape.fields, Costs cost field) {size : Nat}
    (h : shape.readMembers size first draft bs = .ok (draft₂, rest)) :
    cost draft₂ + rest.length < cost draft + bs.length := by
  induction size generalizing first draft bs with
  | zero => cases h
  | succ size ih =>
      rw [readMembers] at h
      obtain ⟨⟨more, behind⟩, hnext, h⟩ := eq_ok_of_bind h
      have hbehind := nextMember_lt hnext
      cases more with
      | false =>
          obtain ⟨rfl, rfl⟩ := Prod.mk.inj (Except.ok.inj h)
          omega
      | true =>
          obtain ⟨⟨name, afterName⟩, hname, h⟩ := eq_ok_of_bind h
          have hafter := readString_le hname
          simp only at h
          split at h
          next field hfield =>
              split at h
              next => cases h
              next =>
                  obtain ⟨value, hcolon, h⟩ := eq_ok_of_bind h
                  obtain ⟨⟨draft₁, afterValue⟩, hread, h⟩ := eq_ok_of_bind h
                  have hvalue := skipColon_lt hcolon
                  have hfieldCost := hcost field (List.mem_of_find?_eq_some hfield) _ _ _ _ hread
                  have hle : cost draft₂ + rest.length < cost draft₁ + afterValue.length := ih h
                  omega
          next =>
              obtain ⟨value, hcolon, h⟩ := eq_ok_of_bind h
              obtain ⟨afterValue, hskip, h⟩ := eq_ok_of_bind h
              have hvalue := skipColon_lt hcolon
              have hskipped := skipValue_le hskip
              have hle := ih h
              omega

lemma readElements_le {fields : List (Field σ)} (hcost : ∀ field ∈ fields, Costs cost field)
    (h : readElements first fields draft bs = .ok (draft₂, rest)) :
    cost draft₂ + rest.length ≤ cost draft + bs.length := by
  induction fields generalizing first draft bs with
  | nil =>
      obtain ⟨rfl, rfl⟩ := Prod.mk.inj (Except.ok.inj h)
      exact Nat.le_refl _
  | cons field fields ih =>
      rw [readElements] at h
      obtain ⟨⟨more, behind⟩, hnext, h⟩ := eq_ok_of_bind h
      have hbehind := nextElement_le hnext
      cases more with
      | false =>
          obtain ⟨rfl, rfl⟩ := Prod.mk.inj (Except.ok.inj h)
          omega
      | true =>
          obtain ⟨⟨draft₁, afterValue⟩, hread, h⟩ := eq_ok_of_bind h
          have hfieldCost := hcost field List.mem_cons_self _ _ _ _ hread
          have hle := ih (fun field hfield => hcost field (List.mem_cons_of_mem _ hfield)) h
          omega

lemma finish_of_complete (h : shape.complete draft = .ok a) : shape.finish draft = some a := by
  rw [complete] at h
  split at h
  next b hfinish =>
      obtain rfl := Except.ok.inj h
      exact hfinish
  next => cases h

/-- **Records**: a text takes as many bytes at least as the record that is read from it costs, and
two for its brackets. -/
lemma read_le (hcost : ∀ field ∈ shape.fields, Costs cost field)
    (h : shape.read bs = .ok (a, rest)) :
    ∃ draft, shape.finish draft = some a ∧
      cost draft + rest.length + 2 ≤ cost shape.blank + bs.length := by
  have hblank := skipBlank_le bs
  rw [read] at h
  split at h
  next => cases h
  next b behind hbehind =>
      rw [hbehind, List.length_cons] at hblank
      split at h
      next =>
          obtain ⟨⟨draft, afterItems⟩, hitems, h⟩ := eq_ok_of_bind h
          obtain ⟨a, hcomplete, h⟩ := eq_ok_of_bind h
          obtain ⟨behind, hclose, h⟩ := eq_ok_of_bind h
          obtain ⟨rfl, rfl⟩ := Prod.mk.inj (Except.ok.inj h)
          have hle := readElements_le hcost hitems
          have hlt := closeArray_lt hclose
          exact ⟨draft, finish_of_complete hcomplete, by omega⟩
      next =>
          split at h
          next =>
              obtain ⟨⟨draft, afterMembers⟩, hmembers, h⟩ := eq_ok_of_bind h
              obtain ⟨a, hcomplete, h⟩ := eq_ok_of_bind h
              obtain ⟨rfl, rfl⟩ := Prod.mk.inj (Except.ok.inj h)
              have hlt := readMembers_lt hcost hmembers
              exact ⟨draft, finish_of_complete hcomplete, by omega⟩
          next => cases h

end RecordShape

end ReplicatedCache.Json
