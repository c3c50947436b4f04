/-
Replaying a log part by part.

* `Report.followedBy`: the report of two parts of a log, made of the reports of the parts;
* `replayLine_followedBy`, `replayLines_followedBy`: a line, and several lines, do the same in the
  middle of a replay as at its start, apart from their numbers;
* `replay_append`: **composition**: a log whose first part ends with a line is replayed by replaying
  its parts, one after the other;
* `length_lines`: the lines of such a part are counted by its line feeds;
* `record?_eq_none_iff`: the lines that are no records, in the terms of the grammar;
* `replay_damage`: one such line on its own;
* `applied_add_skipped`: every line that is not empty is counted once;
* `replay_composes`: **composition and isolation of damage**.
-/
import ReplicatedCache.Proofs.Log.Grammar
import ReplicatedCache.Proofs.Log.Meaning

namespace ReplicatedCache.Log

/-! ### Reports of two parts -/

namespace Report

/-- The report of a log in two parts, the first of which has `n` lines. In the report of the second
part its lines are numbered from one; in the log they stand behind those of the first. -/
def followedBy (r : Report) (n : Nat) (s : Report) : Report where
  puts := r.puts + s.puts
  deletes := r.deletes + s.deletes
  skipped := r.skipped + s.skipped
  warnings := r.warnings ++ s.warnings.map fun (line, reason) => (line + n, reason)

variable (r s t : Report) (n m : Nat)

/-- A part without records and without damage adds nothing. -/
@[simp] lemma followedBy_blank : r.followedBy n {} = r := by
  simp [followedBy]

/-- An operation of the second part is counted in it. -/
lemma count_followedBy (op : Operation) :
    (r.followedBy n s).count op = r.followedBy n (s.count op) := by
  cases op with
  | put key value => simp [followedBy, count, Nat.add_assoc]
  | delete key => simp [followedBy, count, Nat.add_assoc]

/-- A damaged line of the second part is reported in it, under its number there. -/
lemma skip_followedBy (line : Nat) (reason : Record.Reason) :
    (r.followedBy n s).skip (line + n) reason = r.followedBy n (s.skip line reason) := by
  simp [followedBy, skip, Nat.add_assoc]

/-- Three parts may be put together in either order. -/
lemma followedBy_assoc :
    r.followedBy n (s.followedBy m t) = (r.followedBy n s).followedBy (m + n) t := by
  simp [followedBy, Nat.add_assoc, Function.comp_def]

end Report

/-! ### Lines in the middle of a replay -/

section Lines

variable (now : Moment) (r s : Report) (n : Nat) (c : Cache)

/-- **One line** does the same behind other lines as at the start, apart from its number. -/
lemma replayLine_followedBy (number : Nat) (line : Bytes) :
    replayLine now (number + n) line (r.followedBy n s, c) =
      (r.followedBy n (replayLine now number line (s, c)).1,
        (replayLine now number line (s, c)).2) := by
  rw [replayLine, replayLine]
  split
  next => rfl
  next =>
      cases parseLine line with
      | ok op => exact congrArg (·, c.apply op now) (r.count_followedBy s n op)
      | error reason => exact congrArg (·, c) (r.skip_followedBy s n number reason)

/-- **Several lines** do the same behind other lines as at the start, apart from their numbers. -/
lemma replayLines_followedBy (number : Nat) (ls : List Bytes) :
    replayLines now (number + n) ls (r.followedBy n s, c) =
      (r.followedBy n (replayLines now number ls (s, c)).1,
        (replayLines now number ls (s, c)).2) := by
  induction ls generalizing number s c with
  | nil => rfl
  | cons line ls ih =>
      rw [replayLines, replayLines, replayLine_followedBy, Nat.add_right_comm, ih]

end Lines

/-- Some lines and then others: the numbers go on. -/
lemma replayLines_append (now : Moment) (number : Nat) (ls ls' : List Bytes)
    (state : Report × Cache) :
    replayLines now number (ls ++ ls') state =
      replayLines now (number + ls.length) ls' (replayLines now number ls state) := by
  induction ls generalizing number state with
  | nil => rfl
  | cons line ls ih =>
      rw [List.cons_append, replayLines, ih, replayLines, List.length_cons, Nat.add_assoc,
        Nat.add_comm 1]

/-! ### Two parts of a log -/

variable {front rest log : Bytes} {c : Cache} {now : Moment}

/-- **Composition**: a log whose first part ends with a line is replayed by replaying its parts, one
after the other. -/
lemma replay_append (hfront : EndsLine front) (rest : Bytes) (c : Cache) (now : Moment) :
    replay (front ++ rest) c now =
      ((replay front c now).1.followedBy (lines front).length
          (replay rest (replay front c now).2 now).1,
        (replay rest (replay front c now).2 now).2) := by
  have hrest := replayLines_followedBy now (replay front c now).1 {} (lines front).length
    (replay front c now).2 1 (lines rest)
  rw [Report.followedBy_blank] at hrest
  calc replay (front ++ rest) c now
      = replayLines now (1 + (lines front).length) (lines rest) (replay front c now) := by
        rw [replay, lines_append hfront, replayLines_append, replay]
    _ = _ := hrest

/-- The complete lines are counted by the line feeds. -/
lemma length_splitFrom (bs acc : Bytes) : (splitFrom acc bs).1.length = bs.count lineFeed := by
  induction bs generalizing acc with
  | nil => rfl
  | cons b bs ih =>
      by_cases hb : b = lineFeed
      · rw [splitFrom, if_pos hb, hb, List.count_cons_self, List.length_cons, ih]
      · rw [splitFrom, if_neg hb, List.count_cons_of_ne hb, ih]

/-- The lines of a part that ends with a line are counted by its line feeds. -/
lemma length_lines (hfront : EndsLine front) : (lines front).length = front.count lineFeed := by
  rcases hfront with rfl | ⟨bs, rfl⟩
  · rfl
  · rw [lines_append_lineFeed, lines_nil, List.length_append, split, length_splitFrom,
      List.count_append]
    rfl

/-! ### Damage -/

/-- A line is no record exactly if it is no text, or a text that spells no operation. -/
lemma record?_eq_none_iff {line : Bytes} :
    record? line = none ↔ ∀ text op, Utf8.decode line = some text → ¬Record.Spells text op := by
  cases hdecode : Utf8.decode line with
  | none =>
      have hline : record? line = none := by rw [record?, parseLine, hdecode]; rfl
      refine ⟨?_, fun _ => hline⟩
      rintro - text op ⟨⟩
  | some text =>
      have hline : record? line = (Record.parse text).toOption := by
        rw [record?, parseLine, hdecode]
      rw [hline]
      constructor
      · rintro hparse text' op ⟨⟩ hspells
        rw [Record.parse_eq_ok_iff.mpr hspells] at hparse
        cases hparse
      · intro hspells
        cases hparse : Record.parse text with
        | ok op => exact absurd (Record.parse_eq_ok_iff.mp hparse) (hspells text op rfl)
        | error reason => rfl

/-- The reason why a line is no record. -/
lemma exists_reason {line : Bytes} (h : record? line = none) :
    ∃ reason, parseLine line = .error reason ∧
      (Utf8.decode line = none → reason = .invalidUtf8) := by
  cases hparse : parseLine line with
  | ok op =>
      rw [record?, hparse] at h
      cases h
  | error reason =>
      refine ⟨reason, rfl, fun hdecode => ?_⟩
      rw [parseLine, hdecode] at hparse
      exact (Except.error.inj hparse).symm

/-- **A damaged line** on its own is skipped and reported, and an empty one is passed over. -/
lemma replay_damage {line : Bytes} {reason : Record.Reason} (hfeed : lineFeed ∉ line)
    (hparse : parseLine line = .error reason) (c : Cache) (now : Moment) :
    replay (line ++ [lineFeed]) c now =
      (if line = [] then {} else Report.skip {} 1 reason, c) := by
  rw [replay, lines_line hfeed, replayLines, replayLines, replayLine]
  split
  next => rfl
  next => rw [hparse]

/-- **Every line that is not empty is counted once**: as applied, or as skipped. -/
lemma applied_add_skipped (log : Bytes) (c : Cache) (now : Moment) :
    (replay log c now).1.applied + (replay log c now).1.skipped = (textLines log).length := by
  obtain ⟨happlied, hskipped⟩ := replay_counts log c now
  have hrecords : records log = (textLines log).filterMap record? := records_eq_textLines log
  have hdamaged : damaged (lines log) =
      (textLines log).filter fun line => record? line = none := by
    rw [damaged, textLines, List.filter_filter]
    simp only [ne_eq, Bool.decide_and, Bool.and_comm]
  rw [happlied, hskipped, hrecords, hdamaged]
  induction textLines log with
  | nil => rfl
  | cons line ls ih =>
      cases hrecord : record? line with
      | none =>
          rw [List.filterMap_cons_none hrecord, List.filter_cons_of_pos (by simpa using hrecord),
            List.length_cons, List.length_cons, ← Nat.add_assoc, ih]
      | some op =>
          rw [List.filterMap_cons_some hrecord, List.filter_cons_of_neg (by simp [hrecord]),
            List.length_cons, List.length_cons, Nat.add_right_comm, ih]

/-- **Composition and isolation of damage**: let a log have a first part that is empty or ends with
a line feed. For every cache to start from,

* the log is replayed by replaying its two parts, one after the other: the counts add up, and the
  lines of the second part are reported with as many more in their numbers as the first part has
  lines;
* a line between the parts that is no UTF-8 text, or spells no operation, changes nothing but that
  it is skipped and reported itself, unless it is empty, and that the numbers behind it grow by one.

And whatever the log, a line feed behind a partial last line changes nothing, and each line that is
not empty is counted once. -/
theorem replay_composes (front rest : Bytes) (hfront : EndsLine front) (c : Cache) (now : Moment) :
    let n := (lines front).length
    let first := replay front c now
    let second := replay rest first.2 now
    n = front.count lineFeed ∧
      replay (front ++ rest) c now = (first.1.followedBy n second.1, second.2) ∧
      (∀ line, lineFeed ∉ line →
        (∀ text op, Utf8.decode line = some text → ¬Record.Spells text op) →
          ∃ reason, (Utf8.decode line = none → reason = .invalidUtf8) ∧
            replay (front ++ (line ++ lineFeed :: rest)) c now =
              ((if line = [] then first.1 else first.1.skip (n + 1) reason).followedBy (n + 1)
                second.1, second.2)) ∧
      (∀ log, ¬EndsLine log → replay (log ++ [lineFeed]) c now = replay log c now) ∧
      ∀ log, (replay log c now).1.puts + (replay log c now).1.deletes +
        (replay log c now).1.skipped = (textLines log).length := by
  intro n first second
  refine ⟨length_lines hfront, replay_append hfront rest c now, fun line hfeed hspells => ?_,
    fun log hlog => ?_, fun log => applied_add_skipped log c now⟩
  · obtain ⟨reason, hparse, hinvalid⟩ := exists_reason (record?_eq_none_iff.mpr hspells)
    refine ⟨reason, hinvalid, ?_⟩
    have hone : (lines (line ++ [lineFeed])).length = 1 := by rw [lines_line hfeed]; rfl
    have hline := replay_damage hfeed hparse first.2 now
    rw [List.append_cons line, replay_append hfront, replay_append (endsLine_concat line), hline,
      hone]
    refine congrArg (·, second.2) ?_
    rw [Report.followedBy_assoc, Nat.add_comm 1]
    refine congrArg (Report.followedBy · _ _) ?_
    split
    next => exact Report.followedBy_blank _ _
    next =>
        rw [← Report.skip_followedBy, Report.followedBy_blank, Nat.add_comm 1]
  · rw [replay, replay, lines_concat hlog]

/-- Between a put with an empty line behind it, and a line of rubbish with a put behind it that no
line feed ends, a line of one byte that is no UTF-8. -/
theorem replay_composes_invalid_byte :
    let front := Utf8.encode "PUT,a,1\n\n"
    let rest := Utf8.encode "rubbish\nPUT,b,2"
    let c := Cache.empty 1 (some 5)
    let sound := replay (front ++ rest) c 3
    let broken := replay (front ++ ([0xFF] ++ lineFeed :: rest)) c 3
    EndsLine front ∧ ¬EndsLine (front ++ rest) ∧
      sound.1 = ⟨2, 0, 1, #[(3, .noSeparator)]⟩ ∧
      broken.1 = ⟨2, 0, 2, #[(3, .invalidUtf8), (4, .noSeparator)]⟩ ∧ broken.2 = sound.2 ∧
      replay (front ++ rest ++ [lineFeed]) c 3 = sound := by
  intro front rest c sound broken
  have hfront : EndsLine front := endsInsideLine_eq_false_iff.mp (by decide)
  have hpartial : ¬EndsLine (front ++ rest) := by
    rw [← endsInsideLine_eq_false_iff]
    decide
  have hdecode : Utf8.decode [0xFF] = none := by decide
  obtain ⟨-, hsound, hdamage, hended, -⟩ := replay_composes front rest hfront c 3
  obtain ⟨reason, hinvalid, hbroken⟩ := hdamage [0xFF] (by decide) fun text op htext => by
    rw [hdecode] at htext
    cases htext
  obtain rfl := hinvalid hdecode
  have hfirst : (replay front c 3).1 = ⟨1, 0, 0, #[]⟩ := by decide
  have hsecond : (replay rest (replay front c 3).2 3).1 = ⟨1, 0, 1, #[(1, .noSeparator)]⟩ := by
    decide
  have hlines : (lines front).length = 2 := by decide
  rw [hfirst, hsecond, hlines] at hsound hbroken
  refine ⟨hfront, hpartial, ?_, ?_, ?_, hended _ hpartial⟩
  · exact (congrArg Prod.fst hsound).trans (by simp [Report.followedBy])
  · exact (congrArg Prod.fst hbroken).trans (by simp [Report.followedBy, Report.skip])
  · exact (congrArg Prod.snd hbroken).trans (congrArg Prod.snd hsound).symm

end ReplicatedCache.Log
