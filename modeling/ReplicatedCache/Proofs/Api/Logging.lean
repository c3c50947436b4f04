/-
What a node logs of the requests that it serves.

* `Host.serveAll`: requests served one after the other, each at its moment;
* `Exchange.confirmed`: an exchange in which a client or a primary was told of a success;
* `Host.AppendsSucceed`: no record that these requests have the node write meets a fault;
* `Host.Says`: **the invariant**: the log holds the records of some operations, and nothing else;
* `Says.serve`: one request adds the record of its operation, exactly if it is confirmed;
* `Logs.appendsSucceed`: on a regular file, none ever does;
* `log_eq_confirmed`: **lossless logging**: the log of a node is the records of the confirmed
  requests, and each line of it is read back as the operation that it was written for.
-/
import ReplicatedCache.Proofs.Api.Calls
import ReplicatedCache.Proofs.Log.Crash
import ReplicatedCache.Proofs.Node.Restart

namespace ReplicatedCache

/-- A request, with the moment and the time of day at which it is served. -/
structure Arrival where
  request : Http.Request
  now : Moment
  clock : Timestamp

/-- A request and the response to it. -/
structure Exchange where
  request : Http.Request
  response : Http.Response

namespace Exchange

/-- Whether a client or a primary was told that the change it asked for was made. -/
def confirmed (e : Exchange) : Bool := e.request.confirmedBy e.response

/-- The operation that was asked for. -/
def operation? (e : Exchange) : Option Operation := e.request.call?.map Call.op

end Exchange

namespace Host

open Record (OneLine)

/-- Serves requests one after the other. -/
def serveAll (h : Host) : List Arrival → List Exchange × Host
  | [] => ([], h)
  | a :: arrivals =>
      let reply := h.serve a.now a.clock a.request
      let rest := reply.2.serveAll arrivals
      (⟨a.request, reply.1⟩ :: rest.1, rest.2)

/-- No record that the requests have a node write meets a fault. -/
def AppendsSucceed : Host → List Arrival → Prop
  | _, [] => True
  | h, a :: arrivals =>
      (∀ call, a.request.call? = some call → call.Accepted → (h.record call.op).1 = .ok ()) ∧
        AppendsSucceed (h.serve a.now a.clock a.request).2 arrivals

/-- **The invariant**: the log holds the records of some operations, each of which fits on a line,
and nothing else. -/
structure Says (h : Host) (ops : List Operation) : Prop where
  writer : ∃ w, h.node.log = some w ∧ w.torn = false ∧ h.disk.Holds w.device (Log.logOf ops)
  oneLine : ∀ op ∈ ops, OneLine op

variable {h : Host} {ops : List Operation} {arrivals : List Arrival}

lemma Says.logBytes_eq (hs : h.Says ops) : h.logBytes = Log.logOf ops := by
  obtain ⟨w, hlog, -, hholds⟩ := hs.writer
  rw [logBytes, hlog]
  exact hholds.contentOf_eq

/-- A call whose record is written adds it to the log. -/
lemma Says.carryOut (hs : h.Says ops) {call : Call} (hcall : call.Accepted)
    (hrecord : (h.record call.op).1 = .ok ()) (now : Moment) :
    (h.carryOut call now).1 = .ok () ∧ (h.carryOut call now).2.Says (ops ++ [call.op]) := by
  obtain ⟨w, hlog, htorn, hholds⟩ := hs.writer
  have happend : (w.append h.disk call.op).1 = .ok () := by
    rw [record, hlog] at hrecord
    exact hrecord
  obtain ⟨disk', hdone, hholds'⟩ := hholds.append_ok happend
  obtain ⟨queue, hcarried⟩ := carryOut_done hlog hdone now
  have hline : Log.logOf ops ++ LogWriter.line w.torn call.op = Log.logOf (ops ++ [call.op]) := by
    rw [Log.logOf_append, Log.logOf_cons, Log.logOf_nil, List.append_nil, htorn, LogWriter.line_eq]
    rfl
  rw [hcarried]
  refine ⟨rfl, ⟨_, rfl, rfl, hline ▸ hholds'⟩, fun op hop => ?_⟩
  rcases List.mem_append.mp hop with hop | hop
  · exact hs.oneLine op hop
  · rw [List.mem_singleton.mp hop]
    exact Record.oneLine_of_check hcall

/-- **One request** adds the record of its operation to the log exactly if it is confirmed. -/
lemma Says.serve (hs : h.Says ops) {a : Arrival}
    (happends : ∀ call, a.request.call? = some call → call.Accepted →
      (h.record call.op).1 = .ok ()) :
    let reply := h.serve a.now a.clock a.request
    (a.request.confirmedBy reply.1 = false ∧ reply.2.Says ops) ∨
      ∃ call, a.request.call? = some call ∧ a.request.confirmedBy reply.1 = true ∧
        reply.2.Says (ops ++ [call.op]) := by
  intro reply
  rcases h.serve_cases a.now a.clock a.request with
    ⟨call, hcall, haccepted, hserve⟩ | ⟨-, hconfirmed, cache, hserve⟩
  · obtain ⟨hok, hs'⟩ := hs.carryOut haccepted (happends call hcall haccepted) a.now
    refine .inr ⟨call, hcall, (confirmedBy_serve hcall).mpr ⟨haccepted, hok⟩, ?_⟩
    rw [hserve]
    exact hs'
  · refine .inl ⟨hconfirmed, ?_⟩
    rw [hserve]
    exact ⟨hs.writer, hs.oneLine⟩

/-- **A run of requests** adds the records of those that are confirmed. -/
lemma Says.serveAll (hs : h.Says ops) (happends : h.AppendsSucceed arrivals) :
    ∃ more, ((h.serveAll arrivals).1.filter Exchange.confirmed).map Exchange.operation? =
        more.map some ∧ (h.serveAll arrivals).2.Says (ops ++ more) := by
  induction arrivals generalizing h ops with
  | nil => exact ⟨[], rfl, by rw [List.append_nil]; exact hs⟩
  | cons a arrivals ih =>
      obtain ⟨hfirst, hrest⟩ := happends
      let exchange : Exchange := ⟨a.request, (h.serve a.now a.clock a.request).1⟩
      rcases hs.serve hfirst with ⟨hconfirmed, hs₁⟩ | ⟨call, hcall, hconfirmed, hs₁⟩
      · have hnot : ¬exchange.confirmed = true := Bool.eq_false_iff.mp hconfirmed
        obtain ⟨more, hmore, hs'⟩ := ih hs₁ hrest
        refine ⟨more, ?_, hs'⟩
        rw [Host.serveAll, List.filter_cons_of_neg hnot]
        exact hmore
      · have hoperation : exchange.operation? = some call.op := by
          rw [Exchange.operation?, hcall, Option.map_some]
        obtain ⟨more, hmore, hs'⟩ := ih hs₁ hrest
        refine ⟨call.op :: more, ?_, ?_⟩
        · rw [Host.serveAll, List.filter_cons_of_pos (a := exchange) hconfirmed, List.map_cons,
            hoperation, hmore, List.map_cons]
        · rw [List.append_cons]
          exact hs'

/-! ### Regular files -/

/-- A record that is written to a regular file meets no fault. -/
lemma Logs.record_ok {path : String} {log : Bytes} (hl : h.Logs path log) (op : Operation) :
    (h.record op).1 = .ok () := by
  obtain ⟨w, hlog, -, hfile⟩ := hl.writer
  obtain ⟨hfault, -⟩ := hfile.append w.fsync (LogWriter.line w.torn op)
  rw [record, hlog]
  simp only [LogWriter.append_done (Prod.ext hfault rfl)]

/-- A node whose log is a regular file serves no request that takes the file away. -/
lemma Logs.serve {path : String} {log : Bytes} (hl : h.Logs path log) (now : Moment)
    (clock : Timestamp) (r : Http.Request) :
    ∃ log', (h.serve now clock r).2.Logs path log' := by
  rcases h.serve_cases now clock r with ⟨call, -, -, hserve⟩ | ⟨-, -, cache, hserve⟩
  · obtain ⟨h', hdone, hl', -⟩ := hl.carryOut call now
    rw [hserve, hdone]
    exact ⟨_, hl'⟩
  · rw [hserve]
    exact ⟨log, hl.writer, hl.endsLine⟩

/-- **On a regular file** no record of any request meets a fault. -/
lemma Logs.appendsSucceed {path : String} {log : Bytes} (hl : h.Logs path log)
    (arrivals : List Arrival) : h.AppendsSucceed arrivals := by
  induction arrivals generalizing h log with
  | nil => trivial
  | cons a arrivals ih =>
      obtain ⟨log', hl'⟩ := hl.serve a.now a.clock a.request
      exact ⟨fun call _ _ => hl.record_ok call.op, ih hl'⟩

/-! ### Lossless logging -/

/-- **Lossless logging**: on a node whose log is empty at first, if no record meets a fault, then
after any requests the log is the records of the operations that the confirmed ones asked for, in
the order of the answers, each on a line of its own. Each of its lines is parsed as the operation
that it was written for, so a replay skips nothing and applies as many operations as were
confirmed. -/
theorem log_eq_confirmed (h₀ : Host) (w : LogWriter) (hlog : h₀.node.log = some w)
    (htorn : w.torn = false) (hempty : h₀.disk.Holds w.device []) (arrivals : List Arrival)
    (happends : h₀.AppendsSucceed arrivals) :
    let exchanges := (h₀.serveAll arrivals).1
    let log := (h₀.serveAll arrivals).2.logBytes
    ∃ ops : List Operation,
      (exchanges.filter Exchange.confirmed).map Exchange.operation? = ops.map some ∧
      log = (ops.flatMap fun op => Utf8.encode (Record.encode op) ++ [Log.lineFeed]) ∧
      (Log.lines log).map Log.parseLine = ops.map .ok ∧
      ∀ cache now, (Log.replay log cache now).1.skipped = 0 ∧
        (Log.replay log cache now).1.applied = (exchanges.filter Exchange.confirmed).length ∧
        (Log.replay log cache now).2 = cache.applyAll ops now := by
  intro exchanges log
  have hs : h₀.Says [] := ⟨⟨w, hlog, htorn, by rwa [Log.logOf_nil]⟩, List.forall_mem_nil _⟩
  obtain ⟨ops, hconfirmed, hs'⟩ := hs.serveAll happends
  rw [List.nil_append] at hs'
  have hbytes : log = Log.logOf ops := hs'.logBytes_eq
  have hlength : (exchanges.filter Exchange.confirmed).length = ops.length := by
    simpa using congrArg List.length hconfirmed
  rw [hbytes, hlength]
  exact ⟨ops, hconfirmed, Log.logOf_eq ops, Log.parse_logOf hs'.oneLine,
    Log.replay_logOf hs'.oneLine⟩

/-- Five requests to a node with a log on a regular file: a put with a comma and a tab in its value,
one with a line break in it, a delete of a key that is written in bytes, one of a key with a comma,
and a delete received from a primary, whose value has no meaning. -/
theorem log_eq_confirmed_separators :
    let disk : Disk := ⟨#[.file []], #[[("wal", .device 0)]]⟩
    let h₀ : Host := ⟨⟨Cache.empty 1 none, some ⟨0, some "wal", true, 0, false⟩, none⟩, disk⟩
    let json (method target body : String) : Http.Request :=
      ⟨method, target, [("Content-Type", "application/json")], Utf8.encode body⟩
    let arrivals : List Arrival :=
      [⟨json "PUT" "/set" "[\"a\", \"1,\\t2\"]", 1, ⟨0, 0⟩⟩,
       ⟨json "PUT" "/set" "[\"a\", \"1\\r\"]", 2, ⟨0, 0⟩⟩,
       ⟨json "DELETE" "/del/%C3%A4" "", 3, ⟨0, 0⟩⟩,
       ⟨json "DELETE" "/del/a%2Cb" "", 4, ⟨0, 0⟩⟩,
       ⟨json "POST" "/replicate" "[\"DEL\", \"a\", \"x\\ny\"]", 5, ⟨0, 0⟩⟩]
    let log := (h₀.serveAll arrivals).2.logBytes
    start ⟨1, none, some "wal", true⟩ none disk 0 = .ok h₀ ∧ h₀.AppendsSucceed arrivals ∧
      log = Utf8.encode "PUT,a,1,\t2\nDEL,ä\nDEL,a\n" ∧
      (Log.lines log).map Log.parseLine =
        [.ok (.put "a" "1,\t2"), .ok (.delete "ä"), .ok (.delete "a")] ∧
      ∀ cache now, (Log.replay log cache now).1.skipped = 0 ∧
        (Log.replay log cache now).1.applied = 3 := by
  intro disk h₀ json arrivals log
  have hpath : (NodeSetup.mk 1 none (some "wal") true).logPath = some "wal" := rfl
  have hstart : start ⟨1, none, some "wal", true⟩ none disk 0 = .ok h₀ := rfl
  have happends : h₀.AppendsSucceed arrivals := by
    have hcontent : disk.fileContent "wal" = some [] := by decide
    obtain ⟨id, hfile⟩ := Disk.hasFile_of_fileContent hcontent
    obtain ⟨h, hstart', hl, -⟩ := logs_start hpath hfile none 0
    obtain rfl : h₀ = h := Except.ok.inj (hstart.symm.trans hstart')
    exact hl.appendsSucceed arrivals
  obtain ⟨ops, hconfirmed, hlog, hparse, hreplay⟩ := log_eq_confirmed h₀ _ rfl rfl
    ⟨.file [], rfl, trivial, rfl⟩ arrivals happends
  have hops : ops = [.put "a" "1,\t2", .delete "ä", .delete "a"] :=
    (List.map_inj_right fun _ _ => Option.some.inj).mp (hconfirmed.symm.trans (by decide))
  subst hops
  refine ⟨hstart, happends, ?_, hparse, fun cache now => ?_⟩
  · exact hlog.trans (by decide)
  · obtain ⟨hskipped, happlied, -⟩ := hreplay cache now
    have hlength := congrArg List.length hconfirmed
    rw [List.length_map, List.length_map] at hlength
    exact ⟨hskipped, happlied.trans hlength⟩

end Host

end ReplicatedCache
