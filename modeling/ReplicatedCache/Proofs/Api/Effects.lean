/-
What a request leaves as it was.

* `Cache.KeptByRead`: what reading a key leaves alone in a cache, with `IsConsistent.keptByRead`;
* `Http.Request.Validated`: **the requests that may change a node**, told by route, method and body;
* `Http.Request.ReadsKey`: the requests that read a key;
* `Host.serve_readsKey`, `Host.serve_refused`, `Host.serve_call`: what each kind of request does;
* `Node.consistent_openWith`, `Host.consistent_serve`: the invariant of a node's cache, which a node
  has when it starts and keeps through every request;
* `Host.serve_effects`: **refused and reading requests leave the node as it was**.
-/
import ReplicatedCache.Proofs.Api.Calls
import ReplicatedCache.Proofs.Cache.Survival
import ReplicatedCache.Proofs.Log.Meaning

namespace ReplicatedCache

open FlatCache (without)

/-! ### Reading a key -/

/-- What reading a key leaves alone: the settings, all other entries and their order, every value
and every key that has not expired. -/
structure Cache.KeptByRead (c : Cache) (key : String) (now : Moment) (c' : Cache) : Prop where
  capacity : c'.capacity = c.capacity
  ttl : c'.ttl = c.ttl
  others : without c'.order.entries key = without c.order.entries key
  values : ∀ e' ∈ c'.order.entries, ∃ e ∈ c.order.entries, e.key = e'.key ∧ e.value = e'.value
  unexpired : ∀ e ∈ c.order.entries, e.expired c.ttl now = false →
    ∃ e' ∈ c'.order.entries, e'.key = e.key ∧ e'.value = e.value

namespace FlatCache

variable {es : List Entry} {capacity : Nat} {ttl : Option Nat} {now : Moment}

/-- **Reading a key** leaves the other entries alone, and drops or alters no value of an entry that
has not expired. -/
lemma get_keeps (hd : (es.map Entry.key).Nodup) (key : String) :
    let es' := (get ⟨es, capacity, ttl⟩ key now).2.order
    without es' key = without es key ∧
      (∀ e' ∈ es', ∃ e ∈ es, e.key = e'.key ∧ e.value = e'.value) ∧
      ∀ e ∈ es, e.expired ttl now = false → ∃ e' ∈ es', e'.key = e.key ∧ e'.value = e.value := by
  intro es'
  by_cases hkey : key ∈ es.map Entry.key
  · obtain ⟨e, he, rfl⟩ := List.mem_map.mp hkey
    obtain ⟨us, vs, rfl⟩ := List.append_of_mem he
    have hsub {f : Entry} (hf : f ∈ us ++ vs) : f ∈ us ++ e :: vs :=
      List.perm_middle.mem_iff.mpr (List.mem_cons_of_mem _ hf)
    have hother {f : Entry} (hf : f ∈ us ++ e :: vs) : f = e ∨ f ∈ us ++ vs :=
      List.mem_cons.mp (List.perm_middle.mem_iff.mp hf)
    have hbeside : without (us ++ vs) e.key = us ++ vs := without_absent (not_mem_beside hd)
    cases hx : e.expired ttl now with
    | true =>
        have horder : es' = us ++ vs := by
          simp only [es', get_expired hd hx]
        rw [horder, hbeside, without_split hd]
        refine ⟨rfl, fun f hf => ⟨f, hsub hf, rfl, rfl⟩, fun f hf hlive => ?_⟩
        rcases hother hf with rfl | hf
        · rw [hx] at hlive
          cases hlive
        · exact ⟨f, hf, rfl, rfl⟩
    | false =>
        have horder : es' = ⟨e.key, e.value, now⟩ :: (us ++ vs) := by
          simp only [es', get_live hd hx]
        have hfront : without (⟨e.key, e.value, now⟩ :: (us ++ vs)) e.key = us ++ vs := by
          rw [without, List.filter_cons_of_neg (by simp)]
          exact hbeside
        rw [horder, hfront, without_split hd]
        refine ⟨rfl, fun f hf => ?_, fun f hf _ => ?_⟩
        · rcases List.mem_cons.mp hf with rfl | hf
          · exact ⟨e, he, rfl, rfl⟩
          · exact ⟨f, hsub hf, rfl, rfl⟩
        · rcases hother hf with rfl | hf
          · exact ⟨_, List.mem_cons_self, rfl, rfl⟩
          · exact ⟨f, List.mem_cons_of_mem _ hf, rfl, rfl⟩
  · have horder : es' = es := by
      simp only [es', get_absent hkey]
    rw [horder]
    exact ⟨rfl, fun f hf => ⟨f, hf, rfl, rfl⟩, fun f hf _ => ⟨f, hf, rfl, rfl⟩⟩

end FlatCache

/-- **Reading a key** of a cache. -/
lemma Cache.IsConsistent.keptByRead {c : Cache} (h : c.IsConsistent) (key : String) (now : Moment) :
    c.KeptByRead key now (c.get key now).2 := by
  obtain ⟨hcapacity, httl, -, -⟩ := h.kept_get key now
  obtain ⟨-, hflat⟩ := h.get key now
  obtain ⟨hothers, hvalues, hunexpired⟩ :=
    @FlatCache.get_keeps _ c.capacity c.ttl now h.keys_nodup key
  have horder : (FlatCache.get ⟨c.order.entries, c.capacity, c.ttl⟩ key now).2.order =
      (c.get key now).2.order.entries := congrArg (fun r => r.2.order) hflat
  rw [horder] at hothers hvalues hunexpired
  exact ⟨hcapacity, httl, hothers, hvalues, hunexpired⟩

/-! ### Kinds of requests -/

/-- **The requests that may change a node**: a put to `/set`, a delete under `/del` and a post to
`/replicate` that can be read and break no rule. -/
inductive Http.Request.Validated (r : Http.Request) : Prop where
  | store {request : StoreRequest} (hroute : Route.ofPath? r.path = some .store)
      (hmethod : r.method = "PUT") (hbody : readBody StoreRequest.shape r = .ok request)
      (hcheck : request.check = none)
  | delete {segment : List Char} {key : String}
      (hroute : Route.ofPath? r.path = some (.delete segment)) (hmethod : r.method = "DELETE")
      (hkey : keyOfSegment? segment = some key) (hcheck : checkKey key = none)
  | replicate {request : ReplicateRequest} (hroute : Route.ofPath? r.path = some .replicate)
      (hmethod : r.method = "POST") (hbody : readBody ReplicateRequest.shape r = .ok request)
      (hcheck : request.check = none)

/-- A request that reads a key, or only asks for the head of the response to that. -/
def Http.Request.ReadsKey (r : Http.Request) : Prop :=
  (r.method = "GET" ∨ r.method = "HEAD") ∧ ∃ segment, Route.ofPath? r.path = some (.read segment)

variable {h : Host} {now : Moment} {clock : Timestamp} {r : Http.Request} {call : Call}

/-- A request for a call that is accepted is validated. -/
lemma validated_of_call (hcall : r.call? = some call) (haccepted : call.Accepted) :
    r.Validated := by
  obtain ⟨route, hroute, haccepts, hcall⟩ := Host.call?_eq_some hcall
  cases route with
  | store =>
      obtain ⟨request, hbody, rfl⟩ := Host.call?_store hcall
      exact .store hroute (by simpa [Route.accepts] using haccepts) hbody haccepted
  | delete segment =>
      obtain ⟨key, hkey, rfl⟩ := Option.map_eq_some_iff.mp hcall
      exact .delete hroute (by simpa [Route.accepts] using haccepts) hkey haccepted
  | replicate =>
      obtain ⟨request, hbody, rfl⟩ := Host.call?_replicate hcall
      exact .replicate hroute (by simpa [Route.accepts] using haccepts) hbody haccepted
  | read _ | stats | entries | health => cases hcall

namespace Host

/-! ### What a request does -/

/-- A record that is not written is a fault of the log. -/
lemma durability_of_record {op : Operation} {fault : Fault}
    (hrecord : (h.record op).1 = .error fault) : ∃ detail, fault = .durability detail := by
  rw [record] at hrecord
  split at hrecord
  next => cases hrecord
  next writer hlog =>
      have happend : (writer.append h.disk op).1 = .error fault := hrecord
      rw [LogWriter.append] at happend
      split at happend
      next => exact ⟨_, (Except.error.inj happend).symm⟩
      next => cases happend

/-- **A request that reads a key** changes what the cache changes, if the key can be read, and never
meets a fault of the node. -/
lemma serve_readsKey (h : Host) (now : Moment) (clock : Timestamp) {segment : List Char}
    (hmethod : r.method = "GET" ∨ r.method = "HEAD")
    (hroute : Route.ofPath? r.path = some (.read segment)) :
    (h.serve now clock r).1.status ≠ 500 ∧
      (h.serve now clock r).2 = match keyOfSegment? segment with
        | none => h
        | some key => ⟨{ h.node with cache := (h.node.cache.get key now).2 }, h.disk⟩ := by
  have haccepts : (Route.read segment).accepts r.method = true := by
    rcases hmethod with hmethod | hmethod
    · rw [hmethod]
      rfl
    · rw [hmethod]
      rfl
  have hhead (response : Http.Response) : (if r.method = "HEAD" then { response with body := "" }
      else response).status = response.status := by
    split
    · rfl
    · rfl
  rw [serve_accepted h now clock hroute haccepts]
  simp only [hhead, answer, answerRead]
  cases keyOfSegment? segment with
  | none => exact ⟨Nat.ne_of_beq_eq_false rfl, rfl⟩
  | some key =>
      simp only [get]
      cases (h.node.cache.get key now).1 with
      | none => exact ⟨Nat.ne_of_beq_eq_false rfl, rfl⟩
      | some value => exact ⟨Nat.ne_of_beq_eq_false rfl, rfl⟩

/-- **A request that asks for no call** and reads no key changes nothing. -/
lemma serve_idle (hcall : r.call? = none) (hreads : ¬r.ReadsKey) :
    (h.serve now clock r).2 = h := by
  rcases serve_of_no_call h now clock hcall with hsame | ⟨segment, key, hroute, -, -⟩
  · exact hsame
  · refine serve_not_accepted h now clock fun route hpath => ?_
    obtain rfl : Route.read segment = route := Option.some.inj (hroute.symm.trans hpath)
    rw [Bool.eq_false_iff]
    intro haccepts
    refine hreads ⟨?_, segment, hroute⟩
    simpa [Route.accepts] using haccepts

/-- **A call that breaks a rule** changes nothing. -/
lemma serve_refused (hcall : r.call? = some call) (hrefused : ¬call.Accepted) :
    (h.serve now clock r).2 = h := by
  obtain ⟨violation, hviolation⟩ := Option.ne_none_iff_exists'.mp hrefused
  rw [serve_of_call hcall, answerCall, hviolation]

/-- **A call that breaks no rule** is carried out and answered as a success; or its record is not
written, which leaves the cache and the queue alone and is answered as a fault of the node, to a
primary in the body. -/
lemma serve_call (h : Host) (now : Moment) (clock : Timestamp) (hcall : r.call? = some call)
    (haccepted : call.Accepted) :
    ((h.serve now clock r).1.status = 200 ∧
        (call.forwards = false → (h.serve now clock r).1.saysSuccess = true)) ∨
      ((h.serve now clock r).1.status = (if call.forwards then 500 else 200) ∧
        (call.forwards = false → (h.serve now clock r).1.saysSuccess = false) ∧
        (h.serve now clock r).2.node.cache = h.node.cache ∧
        (h.serve now clock r).2.node.queue = h.node.queue) := by
  rw [serve_of_call hcall]
  rcases h.carryOut_cases call now with ⟨h₁, -, hdone⟩ | ⟨fault, h₁, hrecord, hfailed⟩
  · refine .inl ((answerCall_success h call now).mpr ⟨haccepted, ?_⟩)
    rw [hdone]
  · obtain ⟨detail, rfl⟩ := durability_of_record (congrArg Prod.fst hrecord)
    rw [answerCall, haccepted, hfailed]
    refine .inr ⟨?_, ?_, rfl, rfl⟩
    · cases call with
      | put key value => rfl
      | delete key => rfl
      | receive op => rfl
    · cases call with
      | put key value => exact fun hforwards => by cases hforwards
      | delete key => exact fun hforwards => by cases hforwards
      | receive op => exact fun _ => saysSuccess_replicate false

/-- **Only a validated request** changes the disk, the log or the queue. -/
lemma serve_unvalidated (h : Host) (now : Moment) (clock : Timestamp) (hnot : ¬r.Validated) :
    (h.serve now clock r).2.disk = h.disk ∧ (h.serve now clock r).2.node.log = h.node.log ∧
      (h.serve now clock r).2.node.queue = h.node.queue := by
  rcases serve_cases h now clock r with ⟨call, hcall, haccepted, -⟩ | ⟨-, -, cache, hsame⟩
  · exact absurd (validated_of_call hcall haccepted) hnot
  · rw [hsame]
    exact ⟨rfl, rfl, rfl⟩

/-- **Any request** asks for a call that breaks no rule, or reads a key, or changes nothing. -/
lemma serve_kinds (h : Host) (now : Moment) (clock : Timestamp) (r : Http.Request) :
    (∃ call, r.call? = some call ∧ call.Accepted) ∨ r.ReadsKey ∨ (h.serve now clock r).2 = h := by
  cases hcall : r.call? with
  | none =>
      by_cases hreads : r.ReadsKey
      · exact .inr (.inl hreads)
      · exact .inr (.inr (serve_idle hcall hreads))
  | some call =>
      by_cases haccepted : call.Accepted
      · exact .inl ⟨call, rfl, haccepted⟩
      · exact .inr (.inr (serve_refused hcall haccepted))

/-- **A request that is refused** changes nothing, unless it reads a key. -/
lemma serve_client_fault (hlow : 400 ≤ (h.serve now clock r).1.status)
    (hhigh : (h.serve now clock r).1.status < 500) (hreads : ¬r.ReadsKey) :
    (h.serve now clock r).2 = h := by
  rcases serve_kinds h now clock r with ⟨call, hcall, haccepted⟩ | hreads' | hsame
  · -- what is carried out is answered with 200 or 500
    rcases h.serve_call now clock hcall haccepted with ⟨hstatus, -⟩ | ⟨hstatus, -⟩
    · omega
    · split at hstatus
      · omega
      · omega
  · exact absurd hreads' hreads
  · exact hsame

/-- **A fault of the node** leaves the cache and the queue alone. -/
lemma serve_node_fault (hstatus : (h.serve now clock r).1.status = 500) :
    (h.serve now clock r).2.node.cache = h.node.cache ∧
      (h.serve now clock r).2.node.queue = h.node.queue := by
  rcases serve_kinds h now clock r with
    ⟨call, hcall, haccepted⟩ | ⟨hmethod, segment, hroute⟩ | hsame
  · rcases h.serve_call now clock hcall haccepted with ⟨hok, -⟩ | ⟨-, -, hkept⟩
    · omega
    · exact hkept
  · exact absurd hstatus (h.serve_readsKey now clock hmethod hroute).1
  · rw [hsame]
    exact ⟨rfl, rfl⟩

/-- **An operation that is not confirmed** to a primary leaves the cache and the queue alone. -/
lemma serve_unconfirmed (hroute : Route.ofPath? r.path = some .replicate)
    (hfailed : (h.serve now clock r).1.saysSuccess = false) :
    (h.serve now clock r).2.node.cache = h.node.cache ∧
      (h.serve now clock r).2.node.queue = h.node.queue := by
  rcases serve_kinds h now clock r with ⟨call, hcall, haccepted⟩ | ⟨-, segment, hread⟩ | hsame
  · obtain ⟨route, hpath, -, hroutecall⟩ := call?_eq_some hcall
    obtain rfl : Route.replicate = route := Option.some.inj (hroute.symm.trans hpath)
    have hforwards : call.forwards = false := (forwards_of_call hroutecall).mpr rfl
    rcases h.serve_call now clock hcall haccepted with ⟨-, hok⟩ | ⟨-, -, hkept⟩
    · rw [hok hforwards] at hfailed
      cases hfailed
    · exact hkept
  · cases hroute.symm.trans hread
  · rw [hsame]
    exact ⟨rfl, rfl⟩

/-! ### The invariant of the cache -/

/-- **Every request** keeps the invariant of the cache. -/
lemma consistent_serve (hc : h.node.cache.IsConsistent) (now : Moment) (clock : Timestamp)
    (r : Http.Request) : (h.serve now clock r).2.node.cache.IsConsistent := by
  cases hcall : r.call? with
  | none =>
      rcases serve_of_no_call h now clock hcall with hsame | ⟨segment, key, -, -, hget⟩
      · rw [hsame]
        exact hc
      · rw [hget]
        exact (hc.get key now).1
  | some call =>
      by_cases haccepted : call.Accepted
      · rw [serve_of_call hcall, answerCall, haccepted]
        rcases h.carryOut_cases call now with ⟨h₁, -, hdone⟩ | ⟨fault, h₁, -, hfailed⟩
        · rw [hdone]
          exact (hc.apply call.op now).1
        · rw [hfailed]
          exact hc
      · rw [serve_refused hcall haccepted]
        exact hc

end Host

/-- Replaying a file keeps the invariant of the cache. -/
lemma Log.consistent_replayFile {c : Cache} (hc : c.IsConsistent) (disk : Disk) (path : String)
    (now : Moment) : (replayFile disk path c now).2.IsConsistent := by
  rw [replayFile]
  split
  next log hread =>
      show (replay log c now).2.IsConsistent
      rw [replay_snd]
      exact (hc.applyAll _ now).1
  next => exact hc
  next =>
      split
      · exact hc
      · exact hc

/-- **A node that starts** has the invariant of the cache. -/
lemma Node.consistent_openWith {setup : NodeSetup} {queue : Option SendQueue} {disk disk' : Disk}
    {now : Moment} {n : Node} {report : Log.Report}
    (hopen : openWith setup queue disk now = (.ok n, report, disk')) :
    n.cache.IsConsistent := by
  have hempty : (Cache.empty setup.capacity setup.ttl).IsConsistent :=
    ⟨[], Cache.consistent_empty setup.capacity setup.ttl⟩
  rw [openWith] at hopen
  split at hopen
  next =>
      obtain rfl := Except.ok.inj (Prod.mk.inj hopen).1
      exact hempty
  next path hpath =>
      have hreplayed := Log.consistent_replayFile hempty disk path now
      split at hopen
      next => cases (Prod.mk.inj hopen).1
      next report' cache hreplay =>
          rw [hreplay] at hreplayed
          split at hopen
          next => cases (Prod.mk.inj hopen).1
          next writer disk'' hwriter =>
              obtain rfl := Except.ok.inj (Prod.mk.inj hopen).1
              exact hreplayed

/-! ### Effects -/

/-- **Refused and reading requests leave the node as it was**. Whatever the state of a node, its
disk and its clocks, and whatever the method, target, headers and body of a request,

* the disk, the state of the log and the queue change only for a validated put, delete or
  replicate request;
* a request that is answered with a status from 400 to 499 changes nothing at all, unless it reads
  a key;
* a request that is answered with the status 500, and a replicate request that is not answered with
  a success, leave the cache and the queue as they were;
* a request that reads a key changes what reading a key changes in the cache, if the key can be
  read, and nothing else.

Where the cache has its invariant, which it has from the start of the node on and which every
request keeps, reading a key alters no value, drops no key that has not expired, and leaves the
other entries alone, their order included. -/
theorem Host.serve_effects (h : Host) (now : Moment) (clock : Timestamp) (r : Http.Request) :
    let response := (h.serve now clock r).1
    let h' := (h.serve now clock r).2
    (¬r.Validated → h'.disk = h.disk ∧ h'.node.log = h.node.log ∧ h'.node.queue = h.node.queue) ∧
      (400 ≤ response.status → response.status < 500 → ¬r.ReadsKey → h' = h) ∧
      (response.status = 500 → h'.node.cache = h.node.cache ∧ h'.node.queue = h.node.queue) ∧
      (r.method = "POST" → Route.ofPath? r.path = some .replicate → response.saysSuccess = false →
        h'.node.cache = h.node.cache ∧ h'.node.queue = h.node.queue) ∧
      (∀ segment, (r.method = "GET" ∨ r.method = "HEAD") →
        Route.ofPath? r.path = some (.read segment) →
        h' = match keyOfSegment? segment with
          | none => h
          | some key => ⟨{ h.node with cache := (h.node.cache.get key now).2 }, h.disk⟩) ∧
      (h.node.cache.IsConsistent → h'.node.cache.IsConsistent ∧
        ∀ key, h.node.cache.KeptByRead key now (h.node.cache.get key now).2) := by
  intro response h'
  exact ⟨serve_unvalidated h now clock, serve_client_fault, serve_node_fault,
    fun _ hroute hfailed => serve_unconfirmed hroute hfailed,
    fun segment hmethod hroute => (serve_readsKey h now clock hmethod hroute).2,
    fun hc => ⟨consistent_serve hc now clock r, fun key => hc.keptByRead key now⟩⟩

/-- On a node whose log is full, a delete of a key with a comma is refused, other deletes fail, and
a key can still be read. -/
theorem Host.serve_effects_full_log :
    let cache := (Cache.empty 2 none).put "k" "v" 0
    let h : Host := ⟨⟨cache, some (.attach 0), none⟩, ⟨#[.full], #[[]]⟩⟩
    let refused : Http.Request := ⟨"DELETE", "/del/a,b", [], []⟩
    let failed : Http.Request := ⟨"DELETE", "/del/k", [], []⟩
    let unconfirmed : Http.Request :=
      ⟨"POST", "/replicate", [("content-type", "application/json")], Utf8.encode "[\"DEL\",\"k\"]"⟩
    let reading : Http.Request := ⟨"GET", "/get/k", [], []⟩
    (h.serve 7 ⟨0, 0⟩ refused).1.status = 400 ∧ (h.serve 7 ⟨0, 0⟩ refused).2 = h ∧
      (h.serve 7 ⟨0, 0⟩ failed).1.status = 500 ∧
      (h.serve 7 ⟨0, 0⟩ failed).2.node.cache = cache ∧
      (h.serve 7 ⟨0, 0⟩ unconfirmed).1.status = 200 ∧
      (h.serve 7 ⟨0, 0⟩ unconfirmed).2.node.cache = cache ∧
      (h.serve 7 ⟨0, 0⟩ reading).2.disk = h.disk ∧
      (h.serve 7 ⟨0, 0⟩ reading).2 = ⟨{ h.node with cache := (cache.get "k" 7).2 }, h.disk⟩ ∧
      cache.KeptByRead "k" 7 (cache.get "k" 7).2 := by
  intro cache h refused failed unconfirmed reading
  have hempty : (Cache.empty 2 none).IsConsistent := ⟨[], Cache.consistent_empty 2 none⟩
  have hreading : ¬reading.Validated := by
    intro hvalidated
    cases hvalidated with
    | store hroute hmethod => exact absurd hmethod (by decide)
    | delete hroute hmethod => exact absurd hmethod (by decide)
    | replicate hroute hmethod => exact absurd hmethod (by decide)
  have hrefused : (h.serve 7 ⟨0, 0⟩ refused).1.status = 400 := by decide
  have hfailed : (h.serve 7 ⟨0, 0⟩ failed).1.status = 500 := by decide
  obtain ⟨-, hsame, -⟩ := serve_effects h 7 ⟨0, 0⟩ refused
  obtain ⟨-, -, hfault, -⟩ := serve_effects h 7 ⟨0, 0⟩ failed
  obtain ⟨-, -, -, hunconfirmed, -⟩ := serve_effects h 7 ⟨0, 0⟩ unconfirmed
  obtain ⟨hkept, -, -, -, hget, hcache⟩ := serve_effects h 7 ⟨0, 0⟩ reading
  refine ⟨hrefused, hsame (by rw [hrefused]) (by rw [hrefused]; decide) ?_, hfailed,
    (hfault hfailed).1, by decide, (hunconfirmed rfl (by decide) (by decide)).1,
    (hkept hreading).1, hget ['k'] (.inl rfl) (by decide), (hcache (hempty.put "k" "v" 0).1).2 "k"⟩
  exact fun hreads => absurd hreads.1 (by decide)

end ReplicatedCache
