/-
What a log says: the operations of those of its lines that are records, in their order.

* `records`: these operations;
* `replay_snd`: **replaying** a log applies its records to a cache, one after the other;
* `replay_counts`: **its report** counts the records and the lines that are damaged;
* `entriesAfter`: the entries after some operations, which a replay gives for the records of a log;
* `records_append`: the records of two logs, the second of which starts on a new line;
* `records_line`: the record of an operation, on a line of its own, says that operation;
* `records_append_accepted`, `records_accepted`: what the accepted part of a line adds to a log.
-/
import ReplicatedCache.Proofs.Cache.Contents
import ReplicatedCache.Proofs.Log.Writing

namespace ReplicatedCache.Log

open Record (OneLine)

/-- The operation of a line, if it is a record. -/
def record? (line : Bytes) : Option Operation := (parseLine line).toOption

/-- The operations of the lines that are records. -/
def records (log : Bytes) : List Operation := (lines log).filterMap record?

lemma record?_nil : record? [] = none := by decide

/-- A line that is no record changes no cache, and a record is applied to it. -/
lemma replayLine_snd (now : Moment) (number : Nat) (line : Bytes) (state : Report × Cache) :
    (replayLine now number line state).2 = state.2.applyAll (record? line).toList now := by
  rw [replayLine]
  by_cases hline : line = []
  · rw [if_pos hline, hline, record?_nil]
    rfl
  · rw [if_neg hline, record?]
    cases hparse : parseLine line with
    | error reason => rfl
    | ok op => rfl

/-- **Replaying** some lines applies those that are records, one after the other. -/
lemma replayLines_snd (now : Moment) (number : Nat) (ls : List Bytes) (state : Report × Cache) :
    (replayLines now number ls state).2 = state.2.applyAll (ls.filterMap record?) now := by
  induction ls generalizing number state with
  | nil => rfl
  | cons line ls ih =>
      rw [replayLines, ih, replayLine_snd, List.filterMap_cons]
      cases record? line with
      | none => rfl
      | some op => rfl

/-- **Replaying** a log applies its records to a cache, one after the other. -/
lemma replay_snd (log : Bytes) (c : Cache) (now : Moment) :
    (replay log c now).2 = c.applyAll (records log) now :=
  replayLines_snd now 1 (lines log) ({}, c)

/-! ### The report of a replay -/

/-- The lines that are neither empty nor records. -/
def damaged (ls : List Bytes) : List Bytes := ls.filter fun line => line ≠ [] ∧ record? line = none

/-- One line is counted as applied, as skipped, or not at all. -/
lemma replayLine_counts (now : Moment) (number : Nat) (line : Bytes) (state : Report × Cache) :
    (replayLine now number line state).1.applied =
        state.1.applied + (record? line).toList.length ∧
      (replayLine now number line state).1.skipped =
        state.1.skipped + (damaged [line]).length := by
  by_cases hline : line = []
  · rw [replayLine, if_pos hline, hline, record?_nil]
    exact ⟨rfl, rfl⟩
  · rw [replayLine, if_neg hline, damaged, record?]
    cases hparse : parseLine line with
    | error reason => simp [hline, hparse, Report.skip, Report.applied, Except.toOption, record?]
    | ok op =>
        cases op with
        | put key value =>
            simp [hparse, Report.count, Report.applied, Except.toOption, record?]
            omega
        | delete key =>
            simp [hparse, Report.count, Report.applied, Except.toOption, record?]
            omega

/-- **The report** of some lines counts those that are records, and those that are damaged. -/
lemma replayLines_counts (now : Moment) (number : Nat) (ls : List Bytes) (state : Report × Cache) :
    (replayLines now number ls state).1.applied =
        state.1.applied + (ls.filterMap record?).length ∧
      (replayLines now number ls state).1.skipped = state.1.skipped + (damaged ls).length := by
  induction ls generalizing number state with
  | nil => exact ⟨rfl, rfl⟩
  | cons line ls ih =>
      obtain ⟨happlied, hskipped⟩ := replayLine_counts now number line state
      obtain ⟨happlied', hskipped'⟩ := ih (number + 1) (replayLine now number line state)
      have hdamaged : damaged (line :: ls) = damaged [line] ++ damaged ls := by
        rw [damaged, damaged, damaged, ← List.filter_append, List.singleton_append]
      rw [replayLines, happlied', hskipped', happlied, hskipped, hdamaged, List.length_append,
        List.filterMap_cons]
      refine ⟨?_, by omega⟩
      cases record? line with
      | none => simp
      | some op =>
          simp only [Option.toList_some, List.length_cons, List.length_nil]
          omega

/-- **The report** of a log counts its records and its damaged lines. -/
lemma replay_counts (log : Bytes) (c : Cache) (now : Moment) :
    (replay log c now).1.applied = (records log).length ∧
      (replay log c now).1.skipped = (damaged (lines log)).length := by
  obtain ⟨happlied, hskipped⟩ := replayLines_counts now 1 (lines log) ({}, c)
  exact ⟨happlied.trans (Nat.zero_add _), hskipped.trans (Nat.zero_add _)⟩

/-! ### Contents -/

/-- Replaying a log into a cache without expiry: the contents follow its records. -/
lemma stores_replay {c : Cache} {capacity : Nat} {ps : Contents} (h : c.Stores capacity ps)
    (log : Bytes) (now : Moment) :
    (replay log c now).2.Stores capacity (ps.applyAll capacity (records log)) := by
  rw [replay_snd]
  exact h.applyAll (records log) now

/-! ### Entries -/

/-- The entries after some operations, applied to an empty cache in which nothing expires. -/
def entriesAfter (capacity : Nat) (ops : List Operation) (now : Moment) : List (String × String) :=
  ((Cache.empty capacity none).applyAll ops now).entries now

/-- The entries after some operations do not depend on the moment. -/
lemma entriesAfter_eq (capacity : Nat) (ops : List Operation) (now : Moment) :
    entriesAfter capacity ops now = Contents.applyAll (max capacity 1) [] ops :=
  ((Cache.stores_empty capacity).applyAll ops now).entries_eq now

/-- A replay gives the entries after what the log says. -/
lemma entries_replay (capacity : Nat) (log : Bytes) (now : Moment) :
    (replay log (Cache.empty capacity none) now).2.entries now =
      entriesAfter capacity (records log) now := by
  rw [replay_snd, entriesAfter]

/-! ### The records of a log that is written on -/

@[simp] lemma records_nil : records [] = [] := rfl

/-- The records of two logs, the second of which starts on a new line. -/
lemma records_append {bs cs : Bytes} (h : EndsLine bs) :
    records (bs ++ cs) = records bs ++ records cs := by
  rw [records, lines_append h, List.filterMap_append]
  rfl

/-- Ending a partial last line changes no record. -/
lemma records_terminated (log : Bytes) : records (terminated log) = records log := by
  rw [records, lines_terminated]
  rfl

/-- What a text without line feeds says. -/
lemma records_of_not_mem {bs : Bytes} (h : lineFeed ∉ bs) : records bs = (record? bs).toList := by
  rw [records, lines_of_not_mem h]
  split
  next hbs => rw [hbs, record?_nil]; rfl
  next => cases hop : record? bs <;> simp [hop]

lemma record?_bytes {op : Operation} (h : OneLine op) : record? (Record.bytes op) = some op := by
  rw [record?, Record.parseLine_bytes h]
  rfl

/-- A record on a line of its own says its operation. -/
lemma records_line {op : Operation} (h : OneLine op) :
    records (Record.bytes op ++ [lineFeed]) = [op] := by
  rw [records, lines_line (Record.lineFeed_not_mem_bytes h),
    List.filterMap_cons_some (record?_bytes h)]
  rfl

/-! ### Records that a device accepts in part -/

/-- Empty lines say nothing. -/
lemma records_eq_textLines (log : Bytes) : records log = (textLines log).filterMap record? := by
  rw [records, textLines, List.filterMap_filter]
  refine List.filterMap_congr fun line _ => ?_
  by_cases hline : line = []
  · rw [hline, record?_nil]
    rfl
  · rw [if_pos (by simpa using hline)]

/-- The accepted part of a line does not meet what is in the log already. -/
lemma records_append_accepted {log accepted : Bytes} {torn : Bool} {op : Operation}
    (hlog : torn = false → EndsLine log) (haccepted : accepted <+: LogWriter.line torn op) :
    records (log ++ accepted) = records log ++ records accepted := by
  simp only [records_eq_textLines]
  rw [textLines_append_accepted hlog haccepted, List.filterMap_append]

/-- **What is left of a record**: the accepted part of its line says nothing, or a shortened
operation. -/
lemma records_accepted {accepted : Bytes} {torn : Bool} {op : Operation} (hop : OneLine op)
    (haccepted : accepted <+: LogWriter.line torn op) :
    records accepted = [] ∨ ∃ op', Record.Shortened op op' ∧ records accepted = [op'] := by
  obtain ⟨bs, hstart, hlines⟩ := textLines_accepted haccepted
  have hfeed : lineFeed ∉ bs := fun h => Record.lineFeed_not_mem_bytes hop (hstart.subset h)
  rw [records_eq_textLines, hlines, ← records_eq_textLines, records_of_not_mem hfeed, record?]
  cases hparse : parseLine bs with
  | error reason => exact .inl rfl
  | ok op' => exact .inr ⟨op', ((Record.parseLine_cut_iff hop hstart).mp hparse).1, rfl⟩

/-- A whole line says its operation. -/
lemma records_whole_line {op : Operation} (torn : Bool) (hop : OneLine op) :
    records (LogWriter.line torn op) = [op] := by
  rw [records_eq_textLines, textLines_line torn (Record.lineFeed_not_mem_bytes hop),
    List.filterMap_cons_some (record?_bytes hop)]
  rfl

end ReplicatedCache.Log
