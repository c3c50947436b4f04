/-
Restarts: a node that is started again from its log goes on where it was.

* `Host.Event`: a call or a restart, at its moment;
* `Host.start`, `Host.run`: a node from its start through some events;
* `Host.Logs`: a node whose log is a regular file that ends a line;
* `logs_start`, `Logs.restart`, `Logs.carryOut`: what starting, restarting and calling do to the log
  and to the cache;
* `Host.Keeps`: **the invariant**: the log is such a file, and the cache holds what it says;
* `keeps_start`, `Keeps.carryOut`: the invariant holds from the start, and every call keeps it;
* `entries_restart`: **restarts**: whatever the log held at first, a restart changes no entry and
  not their order, and every record stands on a line of its own behind the lines before it.
-/
import ReplicatedCache.Proofs.Log.File
import ReplicatedCache.Proofs.Log.Meaning
import ReplicatedCache.Proofs.Node.Calls

namespace ReplicatedCache.Host

open Disk (HasFile)

/-- What happens to a node, and when. -/
inductive Event where
  | call (call : Call) (now : Moment)
  | restart (queue : Option SendQueue) (now : Moment)

namespace Event

/-- The operation of an event, if it is a call. -/
def op? : Event → Option Operation
  | call c _ => some c.op
  | restart _ _ => none

/-- An event whose key and value, if it has any, are accepted. -/
def Accepted : Event → Prop
  | call c _ => c.Accepted
  | restart _ _ => True

instance : (e : Event) → Decidable e.Accepted
  | call c _ => inferInstanceAs (Decidable c.Accepted)
  | restart _ _ => inferInstanceAs (Decidable True)

end Event

/-- The operations of some events, in their order. -/
def operations (events : List Event) : List Operation := events.filterMap Event.op?

/-- Starts a node on a disk. -/
def start (setup : NodeSetup) (queue : Option SendQueue) (disk : Disk) (now : Moment) :
    Except Fault Host :=
  match Node.openWith setup queue disk now with
  | (.ok node, _, disk) => .ok ⟨node, disk⟩
  | (.error fault, _, _) => .error fault

/-- One event: a call has to succeed, and a restart leaves nothing of the node but its disk. -/
def step (setup : NodeSetup) (h : Host) : Event → Except Fault Host
  | .call c now =>
      match h.carryOut c now with
      | (.ok (), h) => .ok h
      | (.error fault, _) => .error fault
  | .restart queue now => start setup queue h.disk now

/-- Several events, one after the other. -/
def run (setup : NodeSetup) : Host → List Event → Except Fault Host
  | h, [] => .ok h
  | h, e :: events => (h.step setup e).bind fun h => h.run setup events

variable {setup : NodeSetup} {path : String} {h : Host} {log : Bytes}

/-! ### The log -/

/-- A node whose log is a regular file that ends a line. -/
structure Logs (h : Host) (path : String) (log : Bytes) : Prop where
  writer : ∃ w, h.node.log = some w ∧ w.torn = false ∧ h.disk.HasFile path w.device log
  endsLine : Log.EndsLine log

lemma Logs.logBytes_eq (hl : h.Logs path log) : h.logBytes = log := by
  obtain ⟨w, hlog, -, hfile⟩ := hl.writer
  rw [logBytes, hlog]
  exact hfile.contentOf_eq

/-- A node that is started on a file replays it. -/
lemma logs_start (hpath : setup.logPath = some path) {disk : Disk} {id : Nat} {content : Bytes}
    (hfile : disk.HasFile path id content) (queue : Option SendQueue) (now : Moment) :
    ∃ h, start setup queue disk now = .ok h ∧ h.Logs path (Log.terminated content) ∧
      h.node.cache = (Log.replay content (Cache.empty setup.capacity setup.ttl) now).2 := by
  obtain ⟨disk', hopen, hfile'⟩ := hfile.openAt setup.fsync
  refine ⟨⟨⟨(Log.replay content (Cache.empty setup.capacity setup.ttl) now).2,
    some ⟨id, some path, setup.fsync, 0, false⟩, queue⟩, disk'⟩, ?_,
    ⟨⟨_, rfl, rfl, hfile'⟩, Log.endsLine_terminated content⟩, rfl⟩
  rw [start, Node.openWith, hpath]
  simp only [hfile.replayFile_eq, hopen]

/-- What is done to start a node that has a log: it is replayed, and then opened. -/
lemma start_eq_ok (hpath : setup.logPath = some path) {disk : Disk} {queue : Option SendQueue}
    {now : Moment} (hstart : start setup queue disk now = .ok h) :
    ∃ report cache w disk',
      Log.replayFile disk path (Cache.empty setup.capacity setup.ttl) now = (.ok report, cache) ∧
        LogWriter.openAt disk path setup.fsync = (.ok w, disk') ∧
        h = ⟨⟨cache, some w, queue⟩, disk'⟩ := by
  rw [start, Node.openWith, hpath] at hstart
  cases hreplay : Log.replayFile disk path (Cache.empty setup.capacity setup.ttl) now with
  | mk result cache =>
      cases result with
      | error fault =>
          simp only [hreplay] at hstart
          cases hstart
      | ok report =>
          cases hopen : LogWriter.openAt disk path setup.fsync with
          | mk result disk' =>
              cases result with
              | error fault =>
                  simp only [hreplay, hopen] at hstart
                  cases hstart
              | ok w =>
                  simp only [hreplay, hopen] at hstart
                  exact ⟨report, cache, w, disk', rfl, rfl, (Except.ok.inj hstart).symm⟩

/-- **A restart** keeps the log, which is replayed. -/
lemma Logs.restart (hpath : setup.logPath = some path) (hl : h.Logs path log)
    (queue : Option SendQueue) (now : Moment) :
    ∃ h', start setup queue h.disk now = .ok h' ∧ h'.Logs path log ∧
      h'.node.cache = (Log.replay log (Cache.empty setup.capacity setup.ttl) now).2 := by
  obtain ⟨w, -, -, hfile⟩ := hl.writer
  obtain ⟨h', hstart, hl', hcache⟩ := logs_start hpath hfile queue now
  have hlog : Log.terminated log = log := by
    rw [Log.terminated, Log.endsInsideLine_eq_false_iff.mpr hl.endsLine]
    rfl
  exact ⟨h', hstart, hlog ▸ hl', hcache⟩

/-- **A call** succeeds, puts its record on a line of its own behind the log, and changes the
cache. -/
lemma Logs.carryOut (hl : h.Logs path log) (call : Call) (now : Moment) :
    ∃ h', h.carryOut call now = (.ok (), h') ∧
      h'.Logs path (log ++ (Record.bytes call.op ++ [Log.lineFeed])) ∧
      h'.node.cache = h.node.cache.apply call.op now := by
  obtain ⟨w, hlog, htorn, hfile⟩ := hl.writer
  have hline : LogWriter.line w.torn call.op = Record.bytes call.op ++ [Log.lineFeed] := by
    rw [LogWriter.line_eq, htorn]
    rfl
  obtain ⟨hfault, hfile'⟩ := hfile.append w.fsync (LogWriter.line w.torn call.op)
  have happend := LogWriter.append_done (Prod.ext hfault rfl)
  obtain ⟨queue, hdone⟩ := carryOut_done hlog happend now
  refine ⟨_, hdone, ⟨⟨_, rfl, rfl, ?_⟩, ?_⟩, rfl⟩
  · rw [← hline]
    exact hfile'
  · exact Log.endsLine_append hl.endsLine (Log.endsLine_concat _)

/-! ### The log and the cache -/

/-- **The invariant of a node with a log**: the log is a regular file that ends a line, and the
cache holds what it says. -/
structure Keeps (h : Host) (setup : NodeSetup) (path : String) (log : Bytes) : Prop where
  writer : ∃ w, h.node.log = some w ∧ w.torn = false ∧ h.disk.HasFile path w.device log
  endsLine : Log.EndsLine log
  stores : h.node.cache.Stores (max setup.capacity 1)
    (Contents.applyAll (max setup.capacity 1) [] (Log.records log))

lemma Keeps.logs (hk : h.Keeps setup path log) : h.Logs path log := ⟨hk.writer, hk.endsLine⟩

lemma Keeps.logBytes_eq (hk : h.Keeps setup path log) : h.logBytes = log := hk.logs.logBytes_eq

/-- A node whose cache was rebuilt from its log holds what the log says. -/
lemma Logs.keeps (hl : h.Logs path log) (httl : setup.ttl = none) {content : Bytes} {now : Moment}
    (hcache : h.node.cache = (Log.replay content (Cache.empty setup.capacity setup.ttl) now).2)
    (hrecords : Log.records log = Log.records content) : h.Keeps setup path log := by
  refine ⟨hl.writer, hl.endsLine, ?_⟩
  rw [hrecords, hcache, httl]
  exact Log.stores_replay (Cache.stores_empty setup.capacity) content now

/-- A node that is started on a file keeps what the file says. -/
lemma keeps_start (hpath : setup.logPath = some path) (httl : setup.ttl = none) {disk : Disk}
    {id : Nat} {content : Bytes} (hfile : disk.HasFile path id content)
    (queue : Option SendQueue) (now : Moment) :
    ∃ h, start setup queue disk now = .ok h ∧ h.Keeps setup path (Log.terminated content) := by
  obtain ⟨h, hstart, hl, hcache⟩ := logs_start hpath hfile queue now
  exact ⟨h, hstart, hl.keeps httl hcache (Log.records_terminated content)⟩

/-- A restart keeps the lines of the log and the entries of the cache. -/
lemma Keeps.restart (hpath : setup.logPath = some path) (httl : setup.ttl = none)
    (hk : h.Keeps setup path log) (queue : Option SendQueue) (now : Moment) :
    ∃ h', start setup queue h.disk now = .ok h' ∧ h'.Keeps setup path log := by
  obtain ⟨h', hstart, hl, hcache⟩ := hk.logs.restart hpath queue now
  exact ⟨h', hstart, hl.keeps httl hcache rfl⟩

/-- **A call** succeeds and puts its record on a line of its own behind the log. -/
lemma Keeps.carryOut (hk : h.Keeps setup path log) {call : Call} (hcall : call.Accepted)
    (now : Moment) :
    ∃ h', h.carryOut call now = (.ok (), h') ∧
      h'.Keeps setup path (log ++ (Record.bytes call.op ++ [Log.lineFeed])) := by
  have hop := Record.oneLine_of_check hcall
  obtain ⟨h', hdone, hl, hcache⟩ := hk.logs.carryOut call now
  refine ⟨h', hdone, hl.writer, hl.endsLine, ?_⟩
  rw [Log.records_append hk.endsLine, Log.records_line hop, Contents.applyAll_concat, hcache]
  exact hk.stores.apply call.op now

/-- **A run** succeeds and puts the records of its calls behind the log, each on its own line. -/
lemma Keeps.run (hpath : setup.logPath = some path) (httl : setup.ttl = none)
    (hk : h.Keeps setup path log) {events : List Event} (hevents : ∀ e ∈ events, e.Accepted) :
    ∃ h' log', h.run setup events = .ok h' ∧ h'.Keeps setup path log' ∧
      Log.lines log' = Log.lines log ++ (operations events).map Record.bytes := by
  induction events generalizing h log with
  | nil => exact ⟨h, log, rfl, hk, by simp [operations]⟩
  | cons e events ih =>
      rw [List.forall_mem_cons] at hevents
      cases e with
      | call c now =>
          have hop := Record.oneLine_of_check hevents.1
          obtain ⟨h₁, hdone, hk₁⟩ := hk.carryOut hevents.1 now
          obtain ⟨h', log', hrun, hk', hlines⟩ := ih hk₁ hevents.2
          refine ⟨h', log', ?_, hk', ?_⟩
          · rw [Host.run, step, hdone]
            exact hrun
          · rw [hlines, Log.lines_append hk.endsLine,
              Log.lines_line (Record.lineFeed_not_mem_bytes hop), List.append_assoc]
            rfl
      | restart queue now =>
          obtain ⟨h₁, hstart, hk₁⟩ := hk.restart hpath httl queue now
          obtain ⟨h', log', hrun, hk', hlines⟩ := ih hk₁ hevents.2
          refine ⟨h', log', ?_, hk', hlines⟩
          rw [Host.run, step, hstart]
          exact hrun

/-- **Restarts**: on a sound disk, whatever bytes the log held at first, every run of accepted
calls and restarts succeeds; a restart after it gives the same entries in the same order; and the
lines of the log are those it held at first and one for each call. -/
theorem entries_restart (setup : NodeSetup) (path : String) (disk : Disk) (content : Bytes)
    (hpath : setup.logPath = some path) (httl : setup.ttl = none)
    (hfile : disk.fileContent path = some content) (queue : Option SendQueue) (now : Moment)
    (events : List Event) (hevents : ∀ e ∈ events, e.Accepted) :
    ∃ h, ((start setup queue disk now).bind fun h => h.run setup events) = .ok h ∧
      Log.lines h.logBytes = Log.lines content ++ (operations events).map Record.bytes ∧
      ∀ queue' now', ∃ h', start setup queue' h.disk now' = .ok h' ∧
        Log.lines h'.logBytes = Log.lines h.logBytes ∧
        ∀ t t', h'.node.cache.entries t' = h.node.cache.entries t := by
  obtain ⟨id, hfile⟩ := Disk.hasFile_of_fileContent hfile
  obtain ⟨h₀, hstart, hk₀⟩ := keeps_start hpath httl hfile queue now
  obtain ⟨h, log, hrun, hk, hlines⟩ := hk₀.run hpath httl hevents
  refine ⟨h, ?_, ?_, ?_⟩
  · rw [hstart]
    exact hrun
  · rw [hk.logBytes_eq, hlines, Log.lines_terminated]
  · intro queue' now'
    obtain ⟨h', hstart', hk'⟩ := hk.restart hpath httl queue' now'
    refine ⟨h', hstart', ?_, fun t t' => ?_⟩
    · rw [hk'.logBytes_eq, hk.logBytes_eq]
    · rw [hk'.stores.entries_eq, hk.stores.entries_eq]

/-- A log that ends inside a record, a put, a restart, a put and a delete received from a primary,
and two more puts, the last of which evicts an entry. -/
theorem entries_restart_torn_log :
    let setup : NodeSetup := ⟨2, none, some "wal", true⟩
    let events : List Event := [.call (.put "a" "1") 5, .restart none 7,
      .call (.receive (.put "b" "2")) 8, .call (.receive (.delete "a")) 9, .call (.put "c" "3") 9,
      .call (.put "d" "4") 12]
    ∃ h, ((start setup none ⟨#[.file [80, 85, 84]], #[[("wal", .device 0)]]⟩ 0).bind fun h =>
        h.run setup events) = .ok h ∧
      Log.lines h.logBytes = Log.lines [80, 85, 84] ++ [Record.bytes (.put "a" "1"),
        Record.bytes (.put "b" "2"), Record.bytes (.delete "a"), Record.bytes (.put "c" "3"),
        Record.bytes (.put "d" "4")] ∧
      h.node.cache.entries 12 = [("d", "4"), ("c", "3")] ∧
      ∀ queue' now', ∃ h', start setup queue' h.disk now' = .ok h' ∧
        Log.lines h'.logBytes = Log.lines h.logBytes ∧
        ∀ t', h'.node.cache.entries t' = [("d", "4"), ("c", "3")] := by
  intro setup events
  obtain ⟨h, hrun, hlines, hrestart⟩ := entries_restart setup "wal"
    ⟨#[.file [80, 85, 84]], #[[("wal", .device 0)]]⟩ [80, 85, 84] rfl rfl (by decide) none 0
    events (by decide)
  have hentries : h.node.cache.entries 12 = [("d", "4"), ("c", "3")] := by
    have hkept : ((start setup none ⟨#[.file [80, 85, 84]], #[[("wal", .device 0)]]⟩ 0).bind
        fun h => h.run setup events).map (fun h => h.node.cache.entries 12) =
          .ok [("d", "4"), ("c", "3")] := by decide +kernel
    rw [hrun] at hkept
    exact Except.ok.inj hkept
  refine ⟨h, hrun, hlines, hentries, fun queue' now' => ?_⟩
  obtain ⟨h', hstart, hsame, hequal⟩ := hrestart queue' now'
  exact ⟨h', hstart, hsame, fun t' => (hequal 12 t').trans hentries⟩

end ReplicatedCache.Host
