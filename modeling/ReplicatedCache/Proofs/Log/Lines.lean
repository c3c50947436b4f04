/-
How bytes fall into lines.

* `lines_append_lineFeed`: a line feed cuts: the lines in front of it and the lines behind it do
  not meet;
* `lines_concat`: ending a partial last line changes no line;
* `lines_line`: a text without line feeds, ended by one, is one line;
* `EndsLine`: bytes behind which a new line starts;
* `terminated`: some bytes with their partial last line ended, which keeps their lines;
* `textLines`: the lines that are not empty, which line feeds at the start and at the end keep.
-/
import Mathlib.Data.List.Basic
import Mathlib.Tactic.Lemma
import ReplicatedCache.Log.Append

namespace ReplicatedCache.Log

/-! ### Cutting at a line feed -/

/-- What stands in front of a line feed does not meet what stands behind it. -/
lemma splitFrom_append_lineFeed (bs cs acc : Bytes) :
    splitFrom acc (bs ++ lineFeed :: cs) =
      ((splitFrom acc bs).1 ++ (splitFrom acc bs).2 :: (split cs).1, (split cs).2) := by
  induction bs generalizing acc with
  | nil => simp [splitFrom, split]
  | cons b bs ih =>
      by_cases hb : b = lineFeed
      · simp [splitFrom, hb, ih]
      · simp [splitFrom, hb, ih]

lemma split_append_lineFeed (bs cs : Bytes) :
    split (bs ++ lineFeed :: cs) =
      ((split bs).1 ++ (split bs).2 :: (split cs).1, (split cs).2) :=
  splitFrom_append_lineFeed bs cs []

/-- A byte that is no line feed joins the partial line at the end. -/
lemma splitFrom_concat {b : UInt8} (hb : b ≠ lineFeed) (bs acc : Bytes) :
    splitFrom acc (bs ++ [b]) = ((splitFrom acc bs).1, (splitFrom acc bs).2 ++ [b]) := by
  induction bs generalizing acc with
  | nil => simp [splitFrom, hb]
  | cons c bs ih =>
      by_cases hc : c = lineFeed
      · simp [splitFrom, hc, ih]
      · simp [splitFrom, hc, ih]

lemma splitFrom_of_not_mem {bs : Bytes} (h : lineFeed ∉ bs) (acc : Bytes) :
    splitFrom acc bs = ([], acc.reverse ++ bs) := by
  induction bs generalizing acc with
  | nil => simp [splitFrom]
  | cons b bs ih =>
      rw [List.mem_cons, not_or] at h
      rw [splitFrom, if_neg (Ne.symm h.1), ih h.2, List.reverse_cons, List.append_assoc]
      rfl

/-- Bytes without a line feed are one partial line. -/
lemma split_of_not_mem {bs : Bytes} (h : lineFeed ∉ bs) : split bs = ([], bs) :=
  splitFrom_of_not_mem h []

lemma lines_nil : lines [] = [] := rfl

/-- A line feed keeps the lines on its two sides apart. -/
lemma lines_append_lineFeed (bs cs : Bytes) :
    lines (bs ++ lineFeed :: cs) = (split bs).1 ++ (split bs).2 :: lines cs := by
  simp only [lines, split_append_lineFeed]
  by_cases hcs : (split cs).2 = []
  · rw [if_pos hcs, if_pos hcs]
  · rw [if_neg hcs, if_neg hcs, List.append_assoc, List.cons_append]

/-- Bytes without a line feed are one line, unless there are none. -/
lemma lines_of_not_mem {bs : Bytes} (h : lineFeed ∉ bs) :
    lines bs = if bs = [] then [] else [bs] := by
  rw [lines, split_of_not_mem h]
  rfl

/-! ### Where a new line starts -/

/-- Behind these bytes a new line starts: there are none, or a line feed is the last of them. -/
def EndsLine (bs : Bytes) : Prop := bs = [] ∨ ∃ cs, bs = cs ++ [lineFeed]

lemma endsLine_nil : EndsLine [] := .inl rfl

lemma endsLine_concat (bs : Bytes) : EndsLine (bs ++ [lineFeed]) := .inr ⟨bs, rfl⟩

lemma endsLine_append {bs cs : Bytes} (hb : EndsLine bs) (hc : EndsLine cs) :
    EndsLine (bs ++ cs) := by
  rcases hc with rfl | ⟨ds, rfl⟩
  · rwa [List.append_nil]
  · exact .inr ⟨bs ++ ds, (List.append_assoc ..).symm⟩

/-- Whether some bytes end inside a line, as it is tested before a log is written on. -/
lemma endsInsideLine_eq_false_iff {bs : Bytes} :
    LogWriter.endsInsideLine bs = false ↔ EndsLine bs := by
  rcases List.eq_nil_or_concat' bs with rfl | ⟨cs, b, rfl⟩
  · simp [LogWriter.endsInsideLine, EndsLine]
  · simp [LogWriter.endsInsideLine, EndsLine]

/-- **Framing**: where a new line starts, the lines before and behind do not meet. -/
lemma lines_append {bs cs : Bytes} (h : EndsLine bs) : lines (bs ++ cs) = lines bs ++ lines cs := by
  rcases h with rfl | ⟨ds, rfl⟩
  · rfl
  · rw [List.append_assoc, List.singleton_append, lines_append_lineFeed, lines_append_lineFeed,
      lines_nil, List.append_assoc]
    rfl

/-- Something is left of a line behind which no new one starts. -/
lemma split_snd_ne_nil {bs : Bytes} (h : ¬ EndsLine bs) : (split bs).2 ≠ [] := by
  rcases List.eq_nil_or_concat' bs with rfl | ⟨cs, b, rfl⟩
  · exact absurd endsLine_nil h
  · have hb : b ≠ lineFeed := by
      rintro rfl
      exact h (endsLine_concat cs)
    rw [split, splitFrom_concat hb]
    simp

/-- Ending a partial last line changes no line. -/
lemma lines_concat {bs : Bytes} (h : ¬ EndsLine bs) : lines (bs ++ [lineFeed]) = lines bs := by
  rw [lines_append_lineFeed, lines_nil]
  simp only [lines]
  rw [if_neg (split_snd_ne_nil h)]

/-- A line feed after a text without one makes it a line of its own. -/
lemma lines_line {bs : Bytes} (h : lineFeed ∉ bs) : lines (bs ++ [lineFeed]) = [bs] := by
  rw [lines_append_lineFeed, split_of_not_mem h, lines_nil, List.nil_append]

/-! ### Ending a partial line -/

/-- The bytes with their partial last line ended. -/
def terminated (bs : Bytes) : Bytes :=
  if LogWriter.endsInsideLine bs then bs ++ [lineFeed] else bs

lemma endsLine_terminated (bs : Bytes) : EndsLine (terminated bs) := by
  rw [terminated]
  split
  · exact endsLine_concat bs
  next h => exact endsInsideLine_eq_false_iff.mp (by simpa using h)

/-- Ending a partial last line changes no line. -/
lemma lines_terminated (bs : Bytes) : lines (terminated bs) = lines bs := by
  rw [terminated]
  split
  next h =>
      refine lines_concat fun hends => ?_
      rw [endsInsideLine_eq_false_iff.mpr hends] at h
      cases h
  · rfl

/-! ### Lines that are not empty -/

/-- The lines that are not empty. -/
def textLines (bs : Bytes) : List Bytes := (lines bs).filter fun line => line ≠ []

@[simp] lemma textLines_nil : textLines [] = [] := rfl

lemma textLines_append {bs cs : Bytes} (h : EndsLine bs) :
    textLines (bs ++ cs) = textLines bs ++ textLines cs := by
  rw [textLines, lines_append h, List.filter_append]
  rfl

/-- A line feed at the start adds an empty line at most. -/
lemma textLines_cons_lineFeed (bs : Bytes) : textLines (lineFeed :: bs) = textLines bs := by
  have hlines : lines (lineFeed :: bs) = [] :: lines bs := lines_append_lineFeed [] bs
  rw [textLines, hlines, List.filter_cons_of_neg (by simp)]
  rfl

/-- A line feed at the end adds an empty line at most. -/
lemma textLines_append_lineFeed (bs : Bytes) : textLines (bs ++ [lineFeed]) = textLines bs := by
  by_cases h : EndsLine bs
  · rw [textLines_append h, textLines_cons_lineFeed, textLines_nil, List.append_nil]
  · rw [textLines, lines_concat h]
    rfl

lemma textLines_of_not_mem {bs : Bytes} (h : lineFeed ∉ bs) :
    textLines bs = if bs = [] then [] else [bs] := by
  rw [textLines, lines_of_not_mem h]
  split
  next => rfl
  next hbs => rw [List.filter_cons_of_pos (by simpa using hbs), List.filter_nil]

end ReplicatedCache.Log
