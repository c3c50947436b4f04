/-
A log through failed appends, crashes and reopenings: whatever its device accepts, every record
stands apart from the others.

* `LogSession`: a disk and the writer that has the log open, if one has;
* `LogSession.Event`: an append, a crash in the middle of one, or a reopening;
* `LogSession.Attempt`: what became of an append, with the bytes that it left;
* `LogSession.Framed`: **the invariant**: the log ends a line unless the last attempt failed, and
  its lines are those that the attempts have left;
* `Framed.step`: **one event** keeps it, and adds to the log at most;
* `textLines_run`: **framing**: the lines that are not empty are one for each acknowledged append,
  which is its record, and at most one for each other attempt, which is the start of its record.
-/
import ReplicatedCache.Proofs.Log.File

namespace ReplicatedCache

/-- The device after a crash, which has taken some more bytes and answers nothing. -/
def Device.extend (bs : Bytes) : Device → Device
  | file content => file (content ++ bs)
  | scripted content writes flushes writeCalls flushCalls =>
      scripted (content ++ bs) writes flushes writeCalls flushCalls
  | null => null
  | full => full

namespace Disk

/-- The disk after a crash in which a device has taken some more bytes. -/
def extend (d : Disk) (id : Nat) (bs : Bytes) : Disk :=
  { d with devices := d.devices.modify id (Device.extend bs) }

lemma Holds.extend {d : Disk} {id : Nat} {content : Bytes} (h : d.Holds id content) (bs : Bytes) :
    (d.extend id bs).Holds id (content ++ bs) := by
  obtain ⟨device, hdevice, hkeeping, rfl⟩ := h
  refine ⟨device.extend bs, ?_, ?_⟩
  · rw [device?] at hdevice
    rw [device?, Disk.extend, Array.getElem?_modify, if_pos rfl, hdevice]
    rfl
  · cases device with
    | file content => exact ⟨trivial, rfl⟩
    | scripted content writes flushes writeCalls flushCalls => exact ⟨trivial, rfl⟩
    | null => exact hkeeping.elim
    | full => exact hkeeping.elim

end Disk

/-- A disk, and the writer that has the log open, if one has. -/
structure LogSession where
  writer : Option LogWriter
  disk : Disk

namespace LogSession

open Log (EndsLine textLines)

/-- What happens to a log. -/
inductive Event where
  | append (op : Operation)
  /-- The process ends in the middle of an append, of which the device has taken so many bytes. -/
  | crash (op : Operation) (taken : Nat)
  /-- The log at a path is opened anew, and the writer before it is dropped. -/
  | reopen (path : String) (fsync : Bool)
  deriving DecidableEq, Repr

/-- What became of an append. -/
structure Attempt where
  op : Operation
  acknowledged : Bool
  /-- The bytes that the log took meanwhile. -/
  written : Bytes
  deriving DecidableEq, Repr

/-- The lines that an attempt leaves. -/
def Attempt.lines (a : Attempt) : List Bytes := textLines a.written

/-- Whether an attempt leaves its record if it is acknowledged, and else at most a part of it, from
its start on. -/
def Attempt.Bounded (a : Attempt) : Prop :=
  (a.acknowledged = true → a.lines = [Record.bytes a.op]) ∧
    (a.acknowledged = false →
      a.lines = [] ∨ ∃ bs, bs <+: Record.bytes a.op ∧ a.lines = [bs])

/-- The bytes of a device. -/
def log (s : LogSession) (device : Nat) : Bytes := s.disk.contentOf device

/-- The attempt that took the log from one state to another. -/
def attempt (s s' : LogSession) (device : Nat) (op : Operation) (acknowledged : Bool) : Attempt :=
  ⟨op, acknowledged, (s'.log device).drop (s.log device).length⟩

/-- One event: the attempt that it is, if a writer has the log open, and the session after it. -/
def step (s : LogSession) : Event → Option Attempt × LogSession
  | .append op =>
      match s.writer with
      | none => (none, s)
      | some w =>
          let done := w.append s.disk op
          let s' : LogSession := ⟨some done.2.1, done.2.2⟩
          (some (s.attempt s' w.device op done.1.isOk), s')
  | .crash op taken =>
      match s.writer with
      | none => (none, s)
      | some w =>
          let s' : LogSession :=
            ⟨none, s.disk.extend w.device ((LogWriter.line w.torn op).take taken)⟩
          (some (s.attempt s' w.device op false), s')
  | .reopen path fsync =>
      let opened := LogWriter.openAt s.disk path fsync
      (none, ⟨opened.1.toOption, opened.2⟩)

/-- Several events, one after the other. -/
def run (s : LogSession) : List Event → List Attempt × LogSession
  | [] => ([], s)
  | e :: events =>
      let (attempt, s) := s.step e
      let (attempts, s) := s.run events
      (attempt.toList ++ attempts, s)

/-- An event with an operation without line feeds, or with a path to the log. -/
def Event.Fits (disk : Disk) (device : Nat) : Event → Prop
  | append op => '\n' ∉ (Record.encode op).toList
  | crash op _ => '\n' ∉ (Record.encode op).toList
  | reopen path _ => disk.resolve path = .ok (.device device)

instance (disk : Disk) (device : Nat) : (e : Event) → Decidable (e.Fits disk device)
  | .append op => inferInstanceAs (Decidable ('\n' ∉ (Record.encode op).toList))
  | .crash op _ => inferInstanceAs (Decidable ('\n' ∉ (Record.encode op).toList))
  | .reopen path _ => inferInstanceAs (Decidable (disk.resolve path = .ok (.device device)))

/-- **The invariant**: the log ends a line unless the last attempt failed, and its lines are those
that have been left. -/
structure Framed (s : LogSession) (device : Nat) (left : List Bytes) : Prop where
  holds : s.disk.Holds device (s.log device)
  writer : ∀ w, s.writer = some w →
    w.device = device ∧ (w.torn = false → EndsLine (s.log device))
  lines_eq : textLines (s.log device) = left

/-- What one event does to a log with that invariant: it leaves the lines of its attempt, if it is
one, and adds to the log at most. -/
structure Advances (s : LogSession) (device : Nat) (left : List Bytes)
    (result : Option Attempt × LogSession) : Prop where
  framed : result.2.Framed device (left ++ result.1.toList.flatMap Attempt.lines)
  bounded : ∀ a ∈ result.1.toList, a.Bounded
  grows : s.log device <+: result.2.log device
  directories_eq : result.2.disk.directories = s.disk.directories

variable {s s' : LogSession} {device : Nat} {left : List Bytes} {w : LogWriter} {op : Operation}
  {acknowledged : Bool} {e : Event}

/-! ### One event -/

/-- **One attempt**: what the device accepts of a line stands apart from what is there. -/
lemma Framed.attempt (hs : s.Framed device left) (hw : s.writer = some w)
    (hop : '\n' ∉ (Record.encode op).toList) {accepted : Bytes}
    (haccepted : accepted <+: LogWriter.line w.torn op)
    (hholds : s'.disk.Holds device (s.log device ++ accepted))
    (hall : acknowledged = true → accepted = LogWriter.line w.torn op)
    (hw' : ∀ w', s'.writer = some w' →
      w'.device = device ∧ (w'.torn = false → acknowledged = true))
    (hdirectories : s'.disk.directories = s.disk.directories) :
    s.Advances device left (some (s.attempt s' device op acknowledged), s') := by
  have hfeed := Record.lineFeed_not_mem_bytes_of_encode hop
  have hlog : s'.log device = s.log device ++ accepted := hholds.contentOf_eq
  have hwritten : (s.attempt s' device op acknowledged).lines = textLines accepted := by
    rw [Attempt.lines, LogSession.attempt, hlog, List.drop_left]
  refine ⟨⟨?_, ?_, ?_⟩, ?_, ⟨accepted, hlog.symm⟩, hdirectories⟩
  · rwa [hlog]
  · intro w' hsome
    obtain ⟨hdevice, htorn⟩ := hw' w' hsome
    refine ⟨hdevice, fun h => ?_⟩
    rw [hlog, hall (htorn h)]
    exact Log.endsLine_line w.torn op
  · rw [hlog, Option.toList_some, List.flatMap_singleton, hwritten, ← hs.lines_eq]
    exact Log.textLines_append_accepted (hs.writer w hw).2 haccepted
  · rw [Option.toList_some, List.forall_mem_singleton]
    constructor
    · intro hack
      rw [hwritten, hall hack]
      exact Log.textLines_line w.torn hfeed
    · intro _
      obtain ⟨bs, hbs, hlines⟩ := Log.textLines_accepted haccepted
      rw [hwritten, hlines, Log.textLines_of_not_mem fun h => hfeed (hbs.subset h)]
      split
      · exact .inl rfl
      · exact .inr ⟨bs, hbs, rfl⟩

/-- An append that comes back, acknowledged or not. -/
lemma Framed.append (hs : s.Framed device left) (hw : s.writer = some w)
    (hop : '\n' ∉ (Record.encode op).toList) :
    s.Advances device left (s.step (.append op)) := by
  obtain rfl := (hs.writer w hw).1
  obtain ⟨accepted, haccepted, hholds, hall⟩ :=
    hs.holds.append w.fsync (LogWriter.line w.torn op)
  have hdirectories := Disk.directories_append s.disk w.device w.fsync (LogWriter.line w.torn op)
  cases hresult : s.disk.append w.device w.fsync (LogWriter.line w.torn op) with
  | mk fault disk =>
      rw [hresult] at hholds hall hdirectories
      cases fault with
      | none =>
          have happend := LogWriter.append_done hresult
          rw [step, hw]
          simp only [happend]
          refine hs.attempt hw hop haccepted hholds (fun _ => hall rfl) ?_ hdirectories
          rintro w' ⟨⟩
          exact ⟨rfl, fun _ => rfl⟩
      | some fault =>
          obtain ⟨fault', happend⟩ := LogWriter.append_failed hresult
          rw [step, hw]
          simp only [happend]
          refine hs.attempt hw hop haccepted hholds (fun h => by cases h) ?_ hdirectories
          rintro w' ⟨⟩
          exact ⟨rfl, fun h => by cases h⟩

/-- An append in the middle of which the process ends. -/
lemma Framed.crash (hs : s.Framed device left) (hw : s.writer = some w)
    (hop : '\n' ∉ (Record.encode op).toList) (taken : Nat) :
    s.Advances device left (s.step (.crash op taken)) := by
  obtain rfl := (hs.writer w hw).1
  rw [step, hw]
  exact hs.attempt hw hop (List.take_prefix taken _) (hs.holds.extend _) (fun h => by cases h)
    (fun w' h => by cases h) rfl

/-- Opening the log anew changes no line, and a writer that has it open starts a new one. -/
lemma Framed.reopen (hs : s.Framed device left) {path : String}
    (hpath : s.disk.resolve path = .ok (.device device)) (fsync : Bool) :
    s.Advances device left (s.step (.reopen path fsync)) := by
  obtain ⟨added, hadded, hholds, hdirectories, hopened⟩ := hs.holds.openAt hpath fsync
  rw [step]
  generalize LogWriter.openAt s.disk path fsync = opened at hholds hdirectories hopened
  have hlog : LogSession.log ⟨opened.1.toOption, opened.2⟩ device = s.log device ++ added :=
    hholds.contentOf_eq
  have hnew : Framed ⟨opened.1.toOption, opened.2⟩ device left := by
    refine ⟨?_, ?_, ?_⟩
    · rwa [hlog]
    · intro w hw
      rw [hlog]
      obtain ⟨result, disk⟩ := opened
      cases result with
      | error fault => cases hw
      | ok w' =>
          obtain rfl := Option.some.inj hw
          obtain ⟨rfl, hends⟩ := hopened w' rfl
          exact ⟨rfl, fun _ => hends⟩
    · rw [hlog, ← hs.lines_eq]
      rcases List.prefix_cons_iff.mp hadded with rfl | ⟨rest, rfl, hrest⟩
      · rw [List.append_nil]
      · rw [List.prefix_nil.mp hrest, Log.textLines_append_lineFeed]
  exact ⟨by simpa using hnew, by simp, ⟨added, hlog.symm⟩, hdirectories⟩

/-- Without a writer nothing is attempted. -/
lemma Framed.idle (hs : s.Framed device left) : s.Advances device left (none, s) :=
  ⟨by simpa using hs, by simp, List.prefix_rfl, rfl⟩

/-- **One event** keeps the invariant. -/
lemma Framed.step (hs : s.Framed device left) (he : e.Fits s.disk device) :
    s.Advances device left (s.step e) := by
  cases e with
  | append op =>
      cases hw : s.writer with
      | none =>
          rw [LogSession.step, hw]
          exact hs.idle
      | some w => exact hs.append hw he
  | crash op taken =>
      cases hw : s.writer with
      | none =>
          rw [LogSession.step, hw]
          exact hs.idle
      | some w => exact hs.crash hw he taken
  | reopen path fsync => exact hs.reopen he fsync

/-- Which events fit does not depend on what the devices hold. -/
lemma Event.Fits.congr {disk disk' : Disk} (he : e.Fits disk device)
    (hdisk : disk'.directories = disk.directories) : e.Fits disk' device := by
  cases e with
  | append op => exact he
  | crash op taken => exact he
  | reopen path fsync => exact (Disk.resolve_congr hdisk path).trans he

/-! ### Runs -/

lemma run_cons (s : LogSession) (e : Event) (events : List Event) :
    s.run (e :: events) =
      ((s.step e).1.toList ++ ((s.step e).2.run events).1, ((s.step e).2.run events).2) :=
  rfl

/-- **A run** keeps the invariant with the lines that its attempts leave. -/
lemma Framed.run (hs : s.Framed device left) {events : List Event}
    (hevents : ∀ e ∈ events, e.Fits s.disk device) :
    (s.run events).2.Framed device (left ++ (s.run events).1.flatMap Attempt.lines) ∧
      ∀ a ∈ (s.run events).1, a.Bounded := by
  induction events generalizing s left with
  | nil => exact ⟨by simpa [LogSession.run] using hs, by simp [LogSession.run]⟩
  | cons e events ih =>
      rw [List.forall_mem_cons] at hevents
      have hstep := hs.step hevents.1
      obtain ⟨hnew, hbounded⟩ := ih hstep.framed fun e' he' =>
        (hevents.2 e' he').congr hstep.directories_eq
      rw [run_cons, List.flatMap_append, ← List.append_assoc]
      exact ⟨hnew, List.forall_mem_append.mpr ⟨hstep.bounded, hbounded⟩⟩

/-- At every moment of a run, the log is the start of what it is in the end. -/
lemma Framed.log_take (hs : s.Framed device left) {events : List Event}
    (hevents : ∀ e ∈ events, e.Fits s.disk device) (k : Nat) :
    (s.run (events.take k)).2.log device <+: (s.run events).2.log device := by
  induction events generalizing s left k with
  | nil =>
      simp only [List.take_nil]
      exact List.prefix_rfl
  | cons e events ih =>
      rw [List.forall_mem_cons] at hevents
      have hstep := hs.step hevents.1
      have hrest (k : Nat) := ih hstep.framed
        (fun e' he' => (hevents.2 e' he').congr hstep.directories_eq) k
      cases k with
      | zero => exact hstep.grows.trans (hrest 0)
      | succ k => exact hrest k

/-- **Framing**: whatever a device accepts of the lines of a log that is empty at first, and
wherever the process crashes and the log is opened anew,

* nothing but appending ever changes the log;
* it ends a line unless the last attempt failed;
* its lines that are not empty are those that the attempts have left, in their order: the record of
  each acknowledged operation, and at most one start of the record of each other one. -/
theorem textLines_run (s : LogSession) (device : Nat) (hlog : s.disk.Holds device [])
    (hwriter : ∀ w, s.writer = some w → w.device = device ∧ w.torn = false) (events : List Event)
    (hevents : ∀ e ∈ events, e.Fits s.disk device) :
    let run := s.run events
    (∀ k, (s.run (events.take k)).2.log device <+: run.2.log device) ∧
      (∀ w, run.2.writer = some w → w.torn = false → EndsLine (run.2.log device)) ∧
      textLines (run.2.log device) = run.1.flatMap Attempt.lines ∧
      ∀ a ∈ run.1, a.Bounded := by
  have hempty : s.log device = [] := hlog.contentOf_eq
  have hs : s.Framed device [] := by
    refine ⟨hempty.symm ▸ hlog, fun w hw => ⟨(hwriter w hw).1, fun _ => ?_⟩, ?_⟩
    · exact hempty.symm ▸ Log.endsLine_nil
    · rw [hempty, Log.textLines_nil]
  obtain ⟨hnew, hbounded⟩ := hs.run hevents
  exact ⟨hs.log_take hevents, fun w hw => (hnew.writer w hw).2, hnew.lines_eq, hbounded⟩

/-- A put is written, a second one breaks off inside its record, and the process ends inside a
delete; the log is opened anew, and a delete is written. -/
theorem textLines_run_crash :
    let s : LogSession := ⟨some (.attach 0),
      ⟨#[.scripted [] [.whole, .part 3, .fails (.other "disk full")] [] 0 0],
        #[[("wal", .device 0)]]⟩⟩
    textLines ((s.run [.append (.put "a" "1"), .append (.put "b" "2"), .crash (.delete "c") 2,
        .reopen "wal" false, .append (.delete "a")]).2.log 0) =
      [Record.bytes (.put "a" "1"), [80, 85, 84], [68], Record.bytes (.delete "a")] := by
  intro s
  have hrun := textLines_run s 0 ⟨_, rfl, trivial, rfl⟩
    (by rintro w ⟨⟩; exact ⟨rfl, rfl⟩)
    [.append (.put "a" "1"), .append (.put "b" "2"), .crash (.delete "c") 2, .reopen "wal" false,
      .append (.delete "a")] (by decide)
  exact hrun.2.2.1.trans (by decide)

end LogSession

end ReplicatedCache
