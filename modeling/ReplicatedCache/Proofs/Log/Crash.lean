/-
What is left of a log after a crash that cuts it at some byte.

* `logOf`: the log that some operations leave behind when they are appended to an empty file;
* `take_logOf`: a cut leaves whole lines and a part of one record from its start;
* `CrashConsistent`: **the promise**: a replay after the crash gives the entries after some first
  operations, all of those among them whose lines are whole;
* `crashConsistent_iff`: **where it is kept**: unless the cut leaves a shortened record that reads
  as another one, and the entries it gives are not those after some first operations;
* `exists_not_crashConsistent`: every shortened record breaks the promise behind some log.
-/
import ReplicatedCache.Proofs.Log.File
import ReplicatedCache.Proofs.Log.Meaning
import ReplicatedCache.Proofs.Log.Writing

namespace ReplicatedCache

/-- Appends the records of some operations, one after the other. -/
def LogWriter.appendAll (w : LogWriter) (disk : Disk) : List Operation → LogWriter × Disk
  | [] => (w, disk)
  | op :: ops =>
      let (_, w, disk) := w.append disk op
      w.appendAll disk ops

namespace Log

open Record (OneLine Shortened)

/-- The log that is left behind when some operations are appended to an empty file. -/
def logOf (ops : List Operation) : Bytes :=
  ((LogWriter.attach 0).appendAll ⟨#[.file []], #[[]]⟩ ops).2.contentOf 0

/-! ### The bytes of a log -/

/-- A file holds the records of what is appended to it, each on a line of its own. -/
lemma contentOf_appendAll (w : LogWriter) (disk : Disk) (content : Bytes)
    (hfile : disk.device? w.device = some (.file content)) (htorn : w.torn = false)
    (ops : List Operation) :
    (w.appendAll disk ops).2.contentOf w.device =
      content ++ ops.flatMap fun op => Record.bytes op ++ [lineFeed] := by
  induction ops generalizing w disk content with
  | nil =>
      rw [LogWriter.appendAll, Disk.contentOf, hfile, List.flatMap_nil, List.append_nil]
      rfl
  | cons op ops ih =>
      have hline : LogWriter.line w.torn op = Record.bytes op ++ [lineFeed] := by
        rw [htorn]
        rfl
      obtain ⟨hfault, hfile'⟩ := Disk.device?_append hfile w.fsync (LogWriter.line w.torn op)
      have happend := LogWriter.append_done (Prod.ext hfault rfl)
      rw [LogWriter.appendAll, happend, List.flatMap_cons, ← List.append_assoc, ← hline]
      exact ih { w with torn := false, records := w.records + 1 } _ _ hfile' rfl

/-- The log of some operations is their records, each on a line of its own. -/
lemma logOf_eq (ops : List Operation) :
    logOf ops = ops.flatMap fun op => Record.bytes op ++ [lineFeed] :=
  contentOf_appendAll (LogWriter.attach 0) ⟨#[.file []], #[[]]⟩ [] rfl rfl ops

@[simp] lemma logOf_nil : logOf [] = [] := logOf_eq []

lemma logOf_cons (op : Operation) (ops : List Operation) :
    logOf (op :: ops) = (Record.bytes op ++ [lineFeed]) ++ logOf ops := by
  rw [logOf_eq, logOf_eq, List.flatMap_cons]

lemma logOf_append (ops ops' : List Operation) : logOf (ops ++ ops') = logOf ops ++ logOf ops' := by
  rw [logOf_eq, logOf_eq, logOf_eq, List.flatMap_append]

lemma endsLine_logOf (ops : List Operation) : EndsLine (logOf ops) := by
  rcases List.eq_nil_or_concat' ops with rfl | ⟨ops, op, rfl⟩
  · exact endsLine_nil
  · rw [logOf_append, logOf_cons]
    exact .inr ⟨logOf ops ++ Record.bytes op, by simp [logOf_eq]⟩

/-- The lines of a log are the records that were appended to it. -/
lemma lines_logOf {ops : List Operation} (h : ∀ op ∈ ops, OneLine op) :
    lines (logOf ops) = ops.map Record.bytes := by
  induction ops with
  | nil => rw [logOf_nil]; rfl
  | cons op ops ih =>
      rw [List.forall_mem_cons] at h
      rw [logOf_cons, lines_append (endsLine_concat _),
        lines_line (Record.lineFeed_not_mem_bytes h.1), ih h.2]
      rfl

/-- A log says the operations that were appended to it. -/
lemma records_logOf {ops : List Operation} (h : ∀ op ∈ ops, OneLine op) :
    records (logOf ops) = ops := by
  rw [records, lines_logOf h]
  induction ops with
  | nil => rfl
  | cons op ops ih =>
      rw [List.forall_mem_cons] at h
      rw [List.map_cons, List.filterMap_cons_some (record?_bytes h.1), ih h.2]

/-- Each of its lines is parsed as the operation it was written for. -/
lemma parse_logOf {ops : List Operation} (h : ∀ op ∈ ops, OneLine op) :
    (lines (logOf ops)).map parseLine = ops.map Except.ok := by
  rw [lines_logOf h, List.map_map]
  exact List.map_congr_left fun op hop => Record.parseLine_bytes (h op hop)

/-- **Replaying it** applies these operations, counts them and skips nothing. -/
lemma replay_logOf {ops : List Operation} (h : ∀ op ∈ ops, OneLine op) (c : Cache) (now : Moment) :
    (replay (logOf ops) c now).1.skipped = 0 ∧
      (replay (logOf ops) c now).1.applied = ops.length ∧
      (replay (logOf ops) c now).2 = c.applyAll ops now := by
  obtain ⟨happlied, hskipped⟩ := replay_counts (logOf ops) c now
  have hdamaged : damaged (lines (logOf ops)) = [] := by
    rw [lines_logOf h, damaged, List.filter_eq_nil_iff]
    intro line hline
    obtain ⟨op, hop, rfl⟩ := List.mem_map.mp hline
    rw [record?_bytes (h op hop)]
    simp
  refine ⟨?_, ?_, ?_⟩
  · rw [hskipped, hdamaged, List.length_nil]
  · rw [happlied, records_logOf h]
  · rw [replay_snd, records_logOf h]

/-- It has one line feed for each of them. -/
lemma count_logOf {ops : List Operation} (h : ∀ op ∈ ops, OneLine op) :
    (logOf ops).count lineFeed = ops.length := by
  induction ops with
  | nil => rw [logOf_nil]; rfl
  | cons op ops ih =>
      rw [List.forall_mem_cons] at h
      rw [logOf_cons, List.count_append, List.count_append, ih h.2,
        List.count_eq_zero.mpr (Record.lineFeed_not_mem_bytes h.1), List.length_cons,
        List.count_singleton_self]
      omega

/-- A cut leaves whole lines and a part of one record from its start. -/
lemma take_logOf (ops : List Operation) (b : Nat) :
    (logOf ops).take b = logOf ops ∨
      ∃ history op rest fragment, ops = history ++ op :: rest ∧ fragment <+: Record.bytes op ∧
        b = (logOf history).length + fragment.length ∧
        (logOf ops).take b = logOf history ++ fragment := by
  induction ops generalizing b with
  | nil =>
      left
      rw [logOf_nil, List.take_nil]
  | cons op ops ih =>
      by_cases hb : b ≤ (Record.bytes op).length
      · right
        refine ⟨[], op, ops, (Record.bytes op).take b, rfl, List.take_prefix _ _, ?_, ?_⟩
        · rw [List.length_take_of_le hb, logOf_nil, List.length_nil, Nat.zero_add]
        · rw [logOf_cons, List.append_assoc, List.take_append_of_le_length hb, logOf_nil,
            List.nil_append]
      · obtain ⟨b', rfl⟩ : ∃ b', b = (Record.bytes op ++ [lineFeed]).length + b' := by
          refine ⟨b - (Record.bytes op ++ [lineFeed]).length, ?_⟩
          rw [List.length_append, List.length_singleton]
          omega
        rw [logOf_cons, List.take_length_add_append]
        rcases ih b' with h | ⟨history, op', rest, fragment, rfl, hfragment, hb', h⟩
        · left
          rw [h]
        · right
          refine ⟨op :: history, op', rest, fragment, rfl, hfragment, ?_, ?_⟩
          · simp only [logOf_cons, List.length_append]
            omega
          · rw [h, logOf_cons, ← List.append_assoc]

/-- Where a record ends that starts another one, a cut leaves it behind the whole lines. -/
lemma take_logOf_shortened {history rest : List Operation} {op op' : Operation}
    (h : Shortened op op') :
    (logOf (history ++ op :: rest)).take ((logOf history).length + (Record.bytes op').length) =
      logOf history ++ Record.bytes op' := by
  obtain ⟨tail, htail⟩ := h.bytes_starts
  rw [logOf_append, List.take_length_add_append, logOf_cons, ← htail, List.append_assoc,
    List.append_assoc, List.take_left]

/-- What whole lines and a part of a record say. -/
lemma records_cut {history : List Operation} {fragment : Bytes}
    (hhistory : ∀ op ∈ history, OneLine op) (hfragment : lineFeed ∉ fragment) :
    records (logOf history ++ fragment) = history ++ (record? fragment).toList := by
  rw [records_append (endsLine_logOf history), records_logOf hhistory,
    records_of_not_mem hfragment]

lemma count_cut {history : List Operation} {fragment : Bytes}
    (hhistory : ∀ op ∈ history, OneLine op) (hfragment : lineFeed ∉ fragment) :
    (logOf history ++ fragment).count lineFeed = history.length := by
  rw [List.count_append, count_logOf hhistory, List.count_eq_zero.mpr hfragment, Nat.add_zero]

/-! ### The promise -/

/-- Whether some entries are those after some first operations, at least `least` of them. -/
def AfterFirst (capacity : Nat) (ops : List Operation) (least : Nat)
    (entries : Moment → List (String × String)) : Prop :=
  ∃ m, least ≤ m ∧ m ≤ ops.length ∧ ∀ now, entries now = entriesAfter capacity (ops.take m) now

/-- **The promise**: what is left of a log after `b` bytes gives, replayed, the entries after some
first operations, all of those among them whose lines are whole. -/
def CrashConsistent (capacity : Nat) (ops : List Operation) (b : Nat) : Prop :=
  AfterFirst capacity ops (((logOf ops).take b).count lineFeed) fun now =>
    (replay ((logOf ops).take b) (Cache.empty capacity none) now).2.entries now

lemma crashConsistent_of_cut {capacity b : Nat} {ops history : List Operation} {fragment : Bytes}
    (hhistory : ∀ op ∈ history, OneLine op) (hfragment : lineFeed ∉ fragment)
    (hcut : (logOf ops).take b = logOf history ++ fragment) :
    CrashConsistent capacity ops b ↔ AfterFirst capacity ops history.length
      (entriesAfter capacity (history ++ (record? fragment).toList)) := by
  rw [CrashConsistent, hcut, count_cut hhistory hfragment]
  simp only [entries_replay, records_cut hhistory hfragment]

/-- A crash that leaves a shortened record. -/
lemma crashConsistent_shortened (capacity : Nat) (history rest : List Operation)
    {op op' : Operation} (hlines : ∀ o ∈ history ++ op :: rest, OneLine o)
    (hshort : Shortened op op') :
    CrashConsistent capacity (history ++ op :: rest)
        ((logOf history).length + (Record.bytes op').length) ↔
      AfterFirst capacity (history ++ op :: rest) history.length
        (entriesAfter capacity (history ++ [op'])) := by
  have hop' := hshort.oneLine (hlines op (by simp))
  rw [crashConsistent_of_cut (fun o ho => hlines o (by simp [ho]))
    (Record.lineFeed_not_mem_bytes hop') (take_logOf_shortened hshort), record?_bytes hop']
  rfl

/-- **Where the promise is kept**: unless the crash cuts the record of an operation to that of a
shorter one, and the entries which that one gives are not those after some first operations. -/
theorem crashConsistent_iff (capacity : Nat) (ops : List Operation) (b : Nat)
    (hops : ∀ op ∈ ops, op.check = none) :
    CrashConsistent capacity ops b ↔
      ∀ history op rest op', ops = history ++ op :: rest → Shortened op op' → op' ≠ op →
        b = (logOf history).length + (Record.bytes op').length →
        AfterFirst capacity ops history.length (entriesAfter capacity (history ++ [op'])) := by
  have hlines : ∀ op ∈ ops, OneLine op := fun op hop => Record.oneLine_of_check (hops op hop)
  constructor
  · rintro hb history op rest op' rfl hshort - rfl
    exact (crashConsistent_shortened capacity history rest hlines hshort).mp hb
  · intro hcuts
    rcases take_logOf ops b with hwhole | ⟨history, op, rest, fragment, rfl, hfragment, hb, hcut⟩
    · rw [crashConsistent_of_cut hlines List.not_mem_nil (hwhole.trans (List.append_nil _).symm),
        record?_nil]
      exact ⟨ops.length, Nat.le_refl _, Nat.le_refl _, fun now => by simp⟩
    · have hhistory : ∀ o ∈ history, OneLine o := fun o ho => hlines o (by simp [ho])
      have hop : OneLine op := hlines op (by simp)
      have hfeed : lineFeed ∉ fragment := fun h =>
        Record.lineFeed_not_mem_bytes hop (hfragment.subset h)
      rw [crashConsistent_of_cut hhistory hfeed hcut]
      cases hparse : parseLine fragment with
      | error reason =>
          -- the leftover is skipped: the whole lines before it are what counts
          have hnone : record? fragment = none := by rw [record?, hparse]; rfl
          refine ⟨history.length, Nat.le_refl _, by simp, fun now => ?_⟩
          rw [hnone, List.take_left]
          simp
      | ok op' =>
          have hsome : record? fragment = some op' := by rw [record?, hparse]; rfl
          obtain ⟨hshort, rfl⟩ := (Record.parseLine_cut_iff hop hfragment).mp hparse
          rw [hsome]
          by_cases hwhole : op' = op
          · -- only the line feed is missing, so the record counts as well
            subst hwhole
            refine ⟨history.length + 1, by omega, by simp, fun now => ?_⟩
            rw [List.take_length_add_append]
            simp
          · exact hcuts history op rest op' rfl hshort hwhole hb

/-- A put whose value `12` may be cut to `1`. -/
theorem crashConsistent_iff_put :
    CrashConsistent 10 [.put "a" "12"] 7 ↔
      ∀ history op rest op', [.put "a" "12"] = history ++ op :: rest → Shortened op op' →
        op' ≠ op → 7 = (logOf history).length + (Record.bytes op').length →
        AfterFirst 10 [.put "a" "12"] history.length (entriesAfter 10 (history ++ [op'])) :=
  crashConsistent_iff 10 [.put "a" "12"] 7 (by decide)

/-! ### Where it is broken -/

lemma entriesAfter_put (capacity : Nat) (key value : String) (now : Moment) :
    entriesAfter capacity [.put key value] now = [(key, value)] := by
  rw [entriesAfter_eq, Contents.applyAll, List.foldl_cons, List.foldl_nil, Contents.apply,
    Contents.put]
  simp

lemma entriesAfter_put_delete (capacity : Nat) (key key' value : String) (now : Moment) :
    entriesAfter capacity [.put key value, .delete key'] now =
      if key = key' then [] else [(key, value)] := by
  have hput := entriesAfter_put capacity key value now
  rw [entriesAfter_eq] at hput ⊢
  rw [← List.singleton_append, Contents.applyAll_concat, hput, Contents.apply, Contents.without]
  split
  next h => simp [h]
  next h => simp [h]

/-- A put whose value is cut short stores a value that was never put. -/
lemma not_crashConsistent_put (capacity : Nat) {key value : String} (value' : String)
    (hop : (Operation.put key value).check = none) (hstart : value'.toList <+: value.toList)
    (hne : value' ≠ value) :
    ¬ CrashConsistent capacity [.put key value] (Record.bytes (.put key value')).length := by
  have hline := Record.oneLine_of_check hop
  have hiff := crashConsistent_shortened capacity [] [] (by simpa using hline)
    (Shortened.put key hstart)
  rw [logOf_nil, List.length_nil, Nat.zero_add, List.nil_append, List.nil_append] at hiff
  rw [hiff]
  rintro ⟨m, -, hm, hentries⟩
  have hnow := hentries 0
  rw [entriesAfter_put] at hnow
  cases m with
  | zero => cases hnow
  | succ m =>
      obtain rfl : m = 0 := by simpa using hm
      rw [show [Operation.put key value].take (0 + 1) = [.put key value] from rfl,
        entriesAfter_put] at hnow
      exact hne (by simpa using hnow)

/-- A delete whose key is cut short removes a key that was never deleted. -/
lemma not_crashConsistent_delete (capacity : Nat) {key key' : String}
    (hop : (Operation.delete key).check = none) (hempty : key' ≠ "")
    (hstart : key'.toList <+: key.toList) (hne : key' ≠ key) :
    (Operation.put key' "").check = none ∧
      ¬ CrashConsistent capacity [.put key' "", .delete key]
        ((logOf [.put key' ""]).length + (Record.bytes (.delete key')).length) := by
  have hput : (Operation.put key' "").check = none := by
    rw [Operation.check, checkKey_of_starts hop hempty hstart]
    decide
  have hline := Record.oneLine_of_check hop
  have hline' := Record.oneLine_of_check hput
  have hiff := crashConsistent_shortened capacity [.put key' ""] [] (by simpa using ⟨hline', hline⟩)
    (Shortened.delete (by simpa using hempty) hstart)
  rw [List.singleton_append, List.singleton_append] at hiff
  refine ⟨hput, fun hconsistent => ?_⟩
  obtain ⟨m, hleast, hm, hentries⟩ := hiff.mp hconsistent
  have hnow := hentries 0
  rw [entriesAfter_put_delete, if_pos rfl] at hnow
  obtain rfl | rfl : m = 1 ∨ m = 2 := by
    simp only [List.length_cons, List.length_nil] at hleast hm
    omega
  · rw [show [Operation.put key' "", .delete key].take 1 = [.put key' ""] from rfl,
      entriesAfter_put] at hnow
    cases hnow
  · rw [show [Operation.put key' "", .delete key].take 2 = [.put key' "", .delete key] from rfl,
      entriesAfter_put_delete, if_neg hne] at hnow
    cases hnow

/-- **Every shortened record breaks the promise**: behind some log, a crash that leaves it gives
entries that no first operations give. -/
theorem exists_not_crashConsistent (capacity : Nat) {op op' : Operation} (hop : op.check = none)
    (hshort : Shortened op op') (hne : op' ≠ op) :
    ∃ history, (∀ o ∈ history, o.check = none) ∧
      ¬ CrashConsistent capacity (history ++ [op])
        ((logOf history).length + (Record.bytes op').length) := by
  cases hshort with
  | @put key value value' hstart =>
      refine ⟨[], by simp, ?_⟩
      rw [logOf_nil, List.length_nil, Nat.zero_add]
      exact not_crashConsistent_put capacity value' hop hstart fun h => hne (by rw [h])
  | @delete key key' hempty hstart =>
      obtain ⟨hput, hbroken⟩ := not_crashConsistent_delete capacity hop (by simpa using hempty)
        hstart fun h => hne (by rw [h])
      exact ⟨[.put key' ""], by simpa using hput, hbroken⟩

/-- The value `12`, cut to `1`, is stored although it was never put. -/
theorem not_crashConsistent_cut_value : ¬ CrashConsistent 10 [.put "a" "12"] 7 :=
  not_crashConsistent_put 10 "1" (by decide) (by decide) (by decide)

end Log

end ReplicatedCache
