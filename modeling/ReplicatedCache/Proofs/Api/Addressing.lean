/-
What is stored can be reached by its key, however the key is written in the path of a request.

* `EntryReply`: the reply to a request that reads a key, as a client reads it;
* `Http.Request.Addresses`: a request with a key in its path, in any spelling;
* `Addresses.route_get`, `Addresses.route_delete`: **routing**: it is about that very key;
* `Host.HealthyLog`: a log that takes every record, or none at all; requests leave it healthy, and
  it is so if it is in a regular file;
* `Cache.entriesBeside`: the entries under other keys;
* `Host.serve_put`, `Host.serve_get`, `Host.serve_delete`: what each of the requests does;
* `Host.stored_key_addressable`: **addressing**: a value that was stored is found under its key, is
  deleted under it and is then gone, while the other entries stay as they are.
-/
import ReplicatedCache.Proofs.Api.Effects
import ReplicatedCache.Proofs.Http.Percent
import ReplicatedCache.Proofs.Node.Recovery
import ReplicatedCache.Proofs.Replication.Forwarding

namespace ReplicatedCache

open FlatCache (without)

/-! ### Replies -/

/-- The reply to a request that reads a key. -/
structure EntryReply where
  key : String
  value : String
  found : Bool
  deriving DecidableEq, Repr

namespace EntryReply

/-- The members of the reply read so far. -/
structure Draft where
  key : Option String := none
  value : Option String := none
  found : Option Bool := none

/-- All members must be given. -/
def shape : Json.RecordShape Draft EntryReply where
  blank := {}
  fields :=
    [.of "key" Json.readText Draft.key fun d s => { d with key := some s },
     .of "value" Json.readText Draft.value fun d s => { d with value := some s },
     .of "found" Json.readFlag Draft.found fun d b => { d with found := some b }]
  finish
    | ⟨some key, some value, some found⟩ => some ⟨key, value, found⟩
    | _ => none

/-- **Round trip**: the reply about a key that was found reads as the key and its value. -/
lemma readAll_entry (key value : String) :
    shape.readAll (Utf8.encode (Reply.entry key value).text) = .ok ⟨key, value, true⟩ := by
  have hfills : Json.RecordShape.Fills shape shape.blank
      [("key", .str key), ("value", .str value), ("found", .bool true)]
      ⟨some key, some value, some true⟩ :=
    .cons rfl rfl (fun rest => Json.Field.read_of _ _ _ _ (Json.readText_str key rest))
      (.cons rfl rfl (fun rest => Json.Field.read_of _ _ _ _ (Json.readText_str value rest))
        (.cons rfl rfl (fun rest => Json.Field.read_of _ _ _ _ (Json.readFlag_bool true rest))
          (.nil _)))
  have hread := Json.RecordShape.read_obj hfills (a := ⟨key, value, true⟩) rfl []
  rw [List.append_nil] at hread
  rw [Reply.entry, Json.encode_text, Json.RecordShape.readAll, Json.readWhole, hread]
  rfl

end EntryReply

/-! ### Routing -/

/-- A request with a method and with a key behind the first characters of its path, in any
spelling. -/
def Http.Request.Addresses (r : Http.Request) (method front key : String) : Prop :=
  r.method = method ∧ ∃ segment, r.target.toList = front.toList ++ segment ∧
    Percent.Writes segment (Utf8.encode key)

namespace Route

lemma behind?_append (front rest : List Char) : behind? front (front ++ rest) = some rest := by
  induction front with
  | nil => rfl
  | cons c front ih => rw [List.cons_append, behind?, if_pos rfl, ih]

/-- What has no slash is a segment. -/
lemma segment?_append {segment : List Char} (front : List Char) (hne : segment ≠ [])
    (hslash : '/' ∉ segment) : segment? front (front ++ segment) = some segment := by
  have hsegment : ¬(segment = [] ∨ '/' ∈ segment) := not_or.mpr ⟨hne, hslash⟩
  simp only [segment?, behind?_append, if_neg hsegment]

lemma ofPath?_get {segment : List Char} (hne : segment ≠ []) (hslash : '/' ∉ segment) :
    ofPath? ("/get/".toList ++ segment) = some (.read segment) := by
  have hsegment : segment? ['/', 'g', 'e', 't', '/'] ('/' :: 'g' :: 'e' :: 't' :: '/' :: segment) =
      some segment := segment?_append "/get/".toList hne hslash
  simp [ofPath?, hsegment]

lemma ofPath?_delete {segment : List Char} (hne : segment ≠ []) (hslash : '/' ∉ segment) :
    ofPath? ("/del/".toList ++ segment) = some (.delete segment) := by
  have hsegment : segment? ['/', 'd', 'e', 'l', '/'] ('/' :: 'd' :: 'e' :: 'l' :: '/' :: segment) =
      some segment := segment?_append "/del/".toList hne hslash
  have hget : segment? ['/', 'g', 'e', 't', '/'] ('/' :: 'd' :: 'e' :: 'l' :: '/' :: segment) =
      none := rfl
  simp [ofPath?, hsegment, hget]

end Route

/-- A segment that writes a key spells this key. -/
lemma keyOfSegment?_of_writes {segment : List Char} {key : String}
    (h : Percent.Writes segment (Utf8.encode key)) : keyOfSegment? segment = some key := by
  rw [keyOfSegment?, h.decode, Utf8.decode_encode]

namespace Http.Request.Addresses

variable {r : Http.Request} {key method front : String}

/-- The path of a request ends in a segment that spells its key. -/
lemma path_eq (h : r.Addresses method front key) (hkey : key ≠ "") {rest : List Char}
    (hslash : front.toList = '/' :: rest)
    (hfront : front.toList.all (fun c => c ≠ '?' && c ≠ '#') = true) :
    ∃ segment, r.path = front.toList ++ segment ∧ segment ≠ [] ∧ '/' ∉ segment ∧
      keyOfSegment? segment = some key := by
  obtain ⟨-, segment, htarget, hwrites⟩ := h
  have hbytes : Utf8.encode key ≠ [] := by
    intro hnil
    have hdecode := Utf8.decode_encode key
    rw [hnil] at hdecode
    exact hkey (Option.some.inj hdecode).symm
  refine ⟨segment, ?_, hwrites.ne_nil hbytes, ?_, keyOfSegment?_of_writes hwrites⟩
  · rw [hslash, List.cons_append] at htarget
    rw [Http.Request.path_of_target htarget, ← List.cons_append, ← hslash, dropQuery,
      List.takeWhile_eq_self_iff]
    intro c hc
    rcases List.mem_append.mp hc with hc | hc
    · exact List.all_eq_true.mp hfront c hc
    · have hdelimiter := hwrites.not_isDelimiter hc
      rw [Bool.and_eq_true, decide_eq_true_eq, decide_eq_true_eq]
      simp only [Percent.isDelimiter, Bool.or_eq_false_iff, decide_eq_false_iff_not] at hdelimiter
      exact ⟨hdelimiter.1.2, hdelimiter.2⟩
  · intro hc
    exact absurd (hwrites.not_isDelimiter hc) (by decide)

/-- **Routing** of a request that reads a key. -/
lemma route_get (h : r.Addresses method "/get/" key) (hkey : key ≠ "") :
    ∃ segment, Route.ofPath? r.path = some (.read segment) ∧
      keyOfSegment? segment = some key := by
  obtain ⟨segment, hpath, hne, hslash, hspells⟩ := h.path_eq hkey rfl rfl
  exact ⟨segment, by rw [hpath, Route.ofPath?_get hne hslash], hspells⟩

/-- **Routing** of a request that deletes a key. -/
lemma route_delete (h : r.Addresses method "/del/" key) (hkey : key ≠ "") :
    ∃ segment, Route.ofPath? r.path = some (.delete segment) ∧
      keyOfSegment? segment = some key := by
  obtain ⟨segment, hpath, hne, hslash, hspells⟩ := h.path_eq hkey rfl rfl
  exact ⟨segment, by rw [hpath, Route.ofPath?_delete hne hslash], hspells⟩

end Http.Request.Addresses

/-! ### The other entries -/

namespace Cache

variable {c c' : Cache} {key : String} {now : Moment}

/-- The entries under other keys that have not expired. -/
def entriesBeside (c : Cache) (key : String) (t : Moment) : List (String × String) :=
  (c.entries t).filter fun entry => entry.1 ≠ key

/-- The entries under other keys are the same in caches that differ in one key only. -/
lemma entriesBeside_congr (httl : c'.ttl = c.ttl)
    (hothers : without c'.order.entries key = without c.order.entries key) (t : Moment) :
    c'.entriesBeside key t = c.entriesBeside key t := by
  have hbeside (c : Cache) : c.entriesBeside key t =
      ((without c.order.entries key).filter fun e => !e.expired c.ttl t).map
        fun e => (e.key, e.value) := by
    rw [entriesBeside, entries, live, List.filter_map, List.filter_filter, without,
      List.filter_filter]
    simp only [Function.comp_def, Bool.and_comm]
  rw [hbeside, hbeside, httl, hothers]

/-- Reading a key leaves the entries under other keys alone. -/
lemma IsConsistent.entriesBeside_get (hc : c.IsConsistent) (t : Moment) :
    (c.get key now).2.entriesBeside key t = c.entriesBeside key t := by
  obtain ⟨-, httl, hothers, -, -⟩ := hc.keptByRead key now
  exact entriesBeside_congr httl hothers t

/-- Deleting a key leaves the others. -/
lemma IsConsistent.order_remove (hc : c.IsConsistent) :
    (c.remove key).2.order.entries = without c.order.entries key :=
  (congrArg (fun r => r.2.order) (hc.remove key).2).symm

/-- Deleting a key leaves the entries under other keys alone. -/
lemma IsConsistent.entriesBeside_remove (hc : c.IsConsistent) (t : Moment) :
    (c.remove key).2.entriesBeside key t = c.entriesBeside key t := by
  obtain ⟨-, httl, -, -⟩ := c.kept_remove key
  refine entriesBeside_congr httl ?_ t
  rw [hc.order_remove, without, without, List.filter_filter]
  simp only [Bool.and_self]

/-- A key that was put is found until its time to live has passed. -/
lemma IsConsistent.get_put (hc : c.IsConsistent) (value : String) {t : Moment}
    (ht : ∀ limit, c.ttl = some limit → t ≤ now + limit) :
    ((c.put key value now).get key t).1 = some value := by
  obtain ⟨-, httl, -, -⟩ := c.kept_put key value now
  have hmem : ⟨key, value, now⟩ ∈ (c.put key value now).order.entries :=
    mem_applyAll hc [] [] key value now (List.forall_mem_nil _) c.capacity_pos
  refine get_of_mem (hc.put key value now).1 hmem (Entry.expired_eq_false fun limit hlimit => ?_)
  exact ht limit (httl.symm.trans hlimit)

/-- A key that was deleted is not found. -/
lemma IsConsistent.get_remove (hc : c.IsConsistent) :
    ((c.remove key).2.get key now).1 = none := by
  have habsent : key ∉ (c.remove key).2.order.entries.map Entry.key := by
    intro hmem
    obtain ⟨e, he, hkey⟩ := List.mem_map.mp hmem
    rw [hc.order_remove] at he
    exact (FlatCache.mem_without.mp he).2 hkey
  have hflat := congrArg Prod.fst ((hc.remove key).1.get key now).2
  rw [← hflat, flat, FlatCache.get_absent habsent]

end Cache

/-! ### Logs that take every record -/

namespace Host

variable {h h' : Host} {op : Operation} {now : Moment} {clock : Timestamp} {r : Http.Request}
  {key value : String}

/-- Appends the records of several operations, whether they succeed or not. -/
def recordAll (h : Host) (ops : List Operation) : Host := ops.foldl (fun h op => (h.record op).2) h

/-- A node without a log, or with one that takes every record that will ever be appended. -/
def HealthyLog (h : Host) : Prop := ∀ ops op, ((h.recordAll ops).record op).1 = .ok ()

/-- What a log makes of a record depends on the log and the disk alone. -/
lemma record_congr (hlog : h'.node.log = h.node.log) (hdisk : h'.disk = h.disk) (op : Operation) :
    (h'.record op).1 = (h.record op).1 ∧
      (h'.record op).2.node.log = (h.record op).2.node.log ∧
      (h'.record op).2.disk = (h.record op).2.disk := by
  simp only [record, hlog, hdisk]
  cases hwriter : h.node.log with
  | none => exact ⟨rfl, hlog.trans rfl, hdisk⟩
  | some writer => exact ⟨rfl, rfl, rfl⟩

namespace HealthyLog

lemma congr (hh : h.HealthyLog) (hlog : h'.node.log = h.node.log) (hdisk : h'.disk = h.disk) :
    h'.HealthyLog := by
  intro ops op
  have hsame : (h'.recordAll ops).node.log = (h.recordAll ops).node.log ∧
      (h'.recordAll ops).disk = (h.recordAll ops).disk := by
    clear hh
    induction ops generalizing h h' with
    | nil => exact ⟨hlog, hdisk⟩
    | cons op ops ih =>
        obtain ⟨-, hlog, hdisk⟩ := record_congr hlog hdisk op
        exact ih hlog hdisk
  rw [(record_congr hsame.1 hsame.2 op).1]
  exact hh ops op

/-- A record that is appended is written. -/
lemma record_eq (hh : h.HealthyLog) (op : Operation) : h.record op = (.ok (), (h.record op).2) :=
  Prod.ext (hh [] op) rfl

/-- A log stays healthy while records are appended. -/
lemma record (hh : h.HealthyLog) (op : Operation) : (h.record op).2.HealthyLog :=
  fun ops op' => hh (op :: ops) op'

lemma carryOut (hh : h.HealthyLog) (call : Call) (now : Moment) :
    (h.carryOut call now).2.HealthyLog := by
  rw [carryOut_ok (hh.record_eq call.op)]
  exact (hh.record call.op).congr rfl rfl

/-- **Every request** leaves a healthy log healthy. -/
lemma serve (hh : h.HealthyLog) (now : Moment) (clock : Timestamp) (r : Http.Request) :
    (h.serve now clock r).2.HealthyLog := by
  rcases serve_cases h now clock r with ⟨call, -, -, hdone⟩ | ⟨-, -, cache, hsame⟩
  · rw [hdone]
    exact hh.carryOut call now
  · rw [hsame]
    exact hh.congr rfl rfl

end HealthyLog

/-- A node without a log has nothing that may fail. -/
lemma healthyLog_of_none (hlog : h.node.log = none) : h.HealthyLog := by
  have hrecord (op : Operation) : h.record op = (.ok (), h) := by
    rw [record, hlog]
  intro ops op
  induction ops with
  | nil => rw [recordAll, List.foldl_nil, hrecord]
  | cons op' ops ih =>
      rw [recordAll, List.foldl_cons, hrecord]
      exact ih

/-- **A log in a regular file** takes every record. -/
lemma healthyLog_of_file {w : LogWriter} {content : Bytes} (hlog : h.node.log = some w)
    (hfile : h.disk.device? w.device = some (.file content)) : h.HealthyLog := by
  intro ops op
  -- the induction is on the records appended before, each of which leaves a file
  induction ops generalizing h w content with
  | nil =>
      obtain ⟨hfault, -⟩ := Disk.device?_append hfile w.fsync (LogWriter.line w.torn op)
      rw [recordAll, List.foldl_nil, Host.record, hlog]
      simp only [LogWriter.append_done (Prod.ext hfault rfl)]
  | cons op' ops ih =>
      obtain ⟨hfault, hfile'⟩ := Disk.device?_append hfile w.fsync (LogWriter.line w.torn op')
      have happend := LogWriter.append_done (Prod.ext hfault rfl)
      have hrecord : (h.record op').2 = ⟨{ h.node with
          log := some { w with torn := false, records := w.records + 1 } },
          (h.disk.append w.device w.fsync (LogWriter.line w.torn op')).2⟩ := by
        rw [Host.record, hlog]
        simp only [happend]
      rw [recordAll, List.foldl_cons, hrecord]
      exact ih rfl hfile'

/-! ### Requests -/

/-- **A put that is answered with success** has put the key and the value that its body gives. -/
lemma serve_put (hroute : Route.ofPath? r.path = some .store) (hmethod : r.method = "PUT")
    (hstatus : (h.serve now clock r).1.status = 200) :
    ∃ request, readBody StoreRequest.shape r = .ok request ∧ checkKey request.key = none ∧
      (h.serve now clock r).2.node.cache = h.node.cache.put request.key request.value now := by
  obtain ⟨call, hcall, haccepted, hdone⟩ :=
    carryOut_of_confirmedBy (confirmedBy_of_isWrite (.inl ⟨hmethod, hroute⟩) hstatus)
  obtain ⟨route, hpath, -, hcall⟩ := call?_eq_some hcall
  obtain rfl := Option.some.inj (hroute.symm.trans hpath)
  obtain ⟨request, hbody, rfl⟩ := call?_store hcall
  refine ⟨request, hbody, (Option.or_eq_none_iff.mp haccepted).1, ?_⟩
  rcases h.carryOut_cases (.put request.key request.value) now with
    ⟨h₁, -, hok⟩ | ⟨fault, h₁, -, hfailed⟩
  · rw [(Prod.mk.inj (hdone.symm.trans hok)).2]
    rfl
  · cases (Prod.mk.inj (hdone.symm.trans hfailed)).1

/-- **A request that reads a key** is answered with its value, if it is found. -/
lemma serve_get (h : Host) (now : Moment) (clock : Timestamp)
    (hr : r.Addresses "GET" "/get/" key) (hkey : key ≠ "") :
    h.serve now clock r =
      ((match (h.node.cache.get key now).1 with
        | some value => Answer.ok (Reply.entry key value)
        | none => Answer.fault (.notFound key)).response,
      ⟨{ h.node with cache := (h.node.cache.get key now).2 }, h.disk⟩) := by
  obtain ⟨segment, hroute, hspells⟩ := hr.route_get hkey
  rw [serve_of_accepts h now clock hroute hr.1 rfl (by decide), answer, answerRead, hspells]
  simp only [get]
  cases (h.node.cache.get key now).1 with
  | none => rfl
  | some value => rfl

/-- **A request that deletes a key** deletes it, if the log takes its record. -/
lemma serve_delete (hh : h.HealthyLog) (now : Moment) (clock : Timestamp)
    (hr : r.Addresses "DELETE" "/del/" key) (hkey : key ≠ "") (hcheck : checkKey key = none) :
    (h.serve now clock r).1.status = 200 ∧
      (h.serve now clock r).2.node.cache = (h.node.cache.remove key).2 := by
  obtain ⟨segment, hroute, hspells⟩ := hr.route_delete hkey
  have hcall : r.call? = some (.delete key) := by
    have haccepts : (Route.delete segment).accepts r.method = true := by
      rw [hr.1]
      rfl
    rw [Http.Request.call?, hroute]
    simp only [if_pos haccepts, Route.call?, hspells, Option.map_some]
  have haccepted : (Call.delete key).op.check = none := hcheck
  rw [serve_of_call hcall, answerCall, haccepted, carryOut_ok (hh.record_eq _)]
  exact ⟨rfl, rfl⟩

/-- A key that breaks no rule is not empty. -/
lemma ne_empty_of_checkKey (hcheck : checkKey key = none) : key ≠ "" := by
  rintro rfl
  cases hcheck

/-- **Addressing**: let a put be answered with success on a node whose cache has its invariant,
which it has from the start of the node on and which every request keeps, and whose log takes every
record, if there is one. Then its body gives a key and a value. Let requests with this key in their
path, each in any spelling, follow: one that reads it, as long as the time to live has not passed
since the put, one that deletes it, and one more that reads it.

* The first one is answered with a reply that reads as the key and the value.
* The second one is answered with success.
* The third one is answered that nothing is found.
* None of them changes an entry under another key that has not expired. -/
theorem stored_key_addressable (h : Host) (hcache : h.node.cache.IsConsistent)
    (hlog : h.HealthyLog) (now : Moment) (clock : Timestamp) (put : Http.Request)
    (hroute : Route.ofPath? put.path = some .store) (hmethod : put.method = "PUT")
    (hstatus : (h.serve now clock put).1.status = 200) :
    let stored := (h.serve now clock put).2
    ∃ key value, readBody StoreRequest.shape put = .ok ⟨key, value⟩ ∧
      ∀ (get delete getAgain : Http.Request) (t₁ t₂ t₃ : Moment) (clock₁ clock₂ clock₃ : Timestamp),
        get.Addresses "GET" "/get/" key → delete.Addresses "DELETE" "/del/" key →
        getAgain.Addresses "GET" "/get/" key →
        (∀ limit, h.node.cache.ttl = some limit → t₁ ≤ now + limit) →
          let found := stored.serve t₁ clock₁ get
          let deleted := found.2.serve t₂ clock₂ delete
          let gone := deleted.2.serve t₃ clock₃ getAgain
          (found.1.status = 200 ∧
            EntryReply.shape.readAll (Utf8.encode found.1.body) = .ok ⟨key, value, true⟩) ∧
          deleted.1.status = 200 ∧
          gone.1.status = 404 ∧
          ∀ t, found.2.node.cache.entriesBeside key t = stored.node.cache.entriesBeside key t ∧
            deleted.2.node.cache.entriesBeside key t = stored.node.cache.entriesBeside key t ∧
            gone.2.node.cache.entriesBeside key t = stored.node.cache.entriesBeside key t := by
  intro stored
  obtain ⟨⟨key, value⟩, hbody, hcheck, hput⟩ := serve_put hroute hmethod hstatus
  have hkey := ne_empty_of_checkKey hcheck
  refine ⟨key, value, hbody, ?_⟩
  intro get delete getAgain t₁ t₂ t₃ clock₁ clock₂ clock₃ hget hdelete hagain ht found deleted gone
  -- the caches after each of the requests, and their invariants
  have hstored : stored.node.cache.IsConsistent := consistent_serve hcache now clock put
  have hfoundCache : found.2.node.cache = (stored.node.cache.get key t₁).2 := by
    simp only [found, serve_get stored t₁ clock₁ hget hkey]
  have hfound : found.2.node.cache.IsConsistent := consistent_serve hstored t₁ clock₁ get
  obtain ⟨hdeletedStatus, hdeletedCache⟩ :=
    serve_delete ((hlog.serve now clock put).serve t₁ clock₁ get) t₂ clock₂ hdelete hkey hcheck
  have hdeleted : deleted.2.node.cache.IsConsistent := consistent_serve hfound t₂ clock₂ delete
  have hvalue : (stored.node.cache.get key t₁).1 = some value := by
    rw [hput]
    exact hcache.get_put value ht
  have hnone : (deleted.2.node.cache.get key t₃).1 = none := by
    rw [hdeletedCache]
    exact hfound.get_remove
  refine ⟨?_, hdeletedStatus, ?_, fun t => ?_⟩
  · simp only [found, serve_get stored t₁ clock₁ hget hkey, hvalue]
    exact ⟨rfl, EntryReply.readAll_entry key value⟩
  · simp only [gone, serve_get deleted.2 t₃ clock₃ hagain hkey, hnone]
    rfl
  · have hfirst : found.2.node.cache.entriesBeside key t =
        stored.node.cache.entriesBeside key t := by
      rw [hfoundCache]
      exact hstored.entriesBeside_get t
    have hsecond : deleted.2.node.cache.entriesBeside key t =
        found.2.node.cache.entriesBeside key t := by
      rw [hdeletedCache]
      exact hfound.entriesBeside_remove t
    have hthird : gone.2.node.cache.entriesBeside key t =
        deleted.2.node.cache.entriesBeside key t := by
      simp only [gone, serve_get deleted.2 t₃ clock₃ hagain hkey]
      exact hdeleted.entriesBeside_get t
    exact ⟨hfirst, hsecond.trans hfirst, hthird.trans (hsecond.trans hfirst)⟩

/-- A key with a slash, a percent sign, a quote and a letter beyond ASCII, which makes room for
itself beside another one, on a node with a log and on one without. -/
theorem stored_key_addressable_slash :
    let key := "a/%\"ä"
    let cache := ((Cache.empty 2 (some 5)).put "old" "0" 0).put "k" "v" 1
    let h : Host := ⟨⟨cache, some ⟨0, some "wal", true, 0, false⟩, none⟩,
      ⟨#[.file []], #[[("wal", .device 0)]]⟩⟩
    let bare : Host := ⟨⟨cache, none, none⟩, ⟨#[], #[[]]⟩⟩
    let put : Http.Request := ⟨"PUT", "/set", [("content-type", "application/json")],
      Utf8.encode "[\"a\\/%\\u0022ä\",\"1\"]"⟩
    let get : Http.Request := ⟨"GET", "/get/a%2F%25%22%C3%A4", [], []⟩
    let delete : Http.Request := ⟨"DELETE", "/del/a%2F%25%22%C3%A4", [], []⟩
    let stored := (h.serve 2 ⟨0, 0⟩ put).2
    let found := stored.serve 7 ⟨0, 0⟩ get
    let deleted := found.2.serve 8 ⟨0, 0⟩ delete
    let gone := deleted.2.serve 9 ⟨0, 0⟩ get
    (found.1.status = 200 ∧
      EntryReply.shape.readAll (Utf8.encode found.1.body) = .ok ⟨key, "1", true⟩ ∧
      deleted.1.status = 200 ∧ gone.1.status = 404 ∧
      gone.2.node.cache.entriesBeside key 6 = stored.node.cache.entriesBeside key 6 ∧
      stored.node.cache.entriesBeside key 6 = [("k", "v")]) ∧
    (((bare.serve 2 ⟨0, 0⟩ put).2.serve 7 ⟨0, 0⟩ get).2.serve 8 ⟨0, 0⟩ delete).1.status = 200 := by
  intro key cache h bare put get delete stored found deleted gone
  have hempty : (Cache.empty 2 (some 5)).IsConsistent := ⟨[], Cache.consistent_empty 2 (some 5)⟩
  have hcache : cache.IsConsistent := ((hempty.put "old" "0" 0).1.put "k" "v" 1).1
  have hlog : h.HealthyLog := healthyLog_of_file (w := ⟨0, some "wal", true, 0, false⟩) rfl rfl
  have hbare : bare.HealthyLog := healthyLog_of_none rfl
  have hget : get.Addresses "GET" "/get/" key :=
    ⟨rfl, Percent.encoded (Utf8.encode key), by decide, Percent.writes_encoded _⟩
  have hdelete : delete.Addresses "DELETE" "/del/" key :=
    ⟨rfl, Percent.encoded (Utf8.encode key), by decide, Percent.writes_encoded _⟩
  have hread : readBody StoreRequest.shape put = .ok ⟨key, "1"⟩ := by rfl
  have hintime (limit : Nat) (hlimit : cache.ttl = some limit) : 7 ≤ 2 + limit := by
    obtain rfl := Option.some.inj hlimit
    decide
  constructor
  · obtain ⟨key', value', hbody, hreached⟩ :=
      stored_key_addressable h hcache hlog 2 ⟨0, 0⟩ put (by decide) rfl (by decide)
    obtain ⟨rfl, rfl⟩ := StoreRequest.mk.inj (Except.ok.inj (hread.symm.trans hbody))
    obtain ⟨⟨hfound, hreply⟩, hdeleted, hgone, hothers⟩ :=
      hreached get delete get 7 8 9 ⟨0, 0⟩ ⟨0, 0⟩ ⟨0, 0⟩ hget hdelete hget hintime
    exact ⟨hfound, hreply, hdeleted, hgone, (hothers 6).2.2, by decide⟩
  · obtain ⟨key', value', hbody, hreached⟩ :=
      stored_key_addressable bare hcache hbare 2 ⟨0, 0⟩ put (by decide) rfl (by decide)
    obtain ⟨rfl, rfl⟩ := StoreRequest.mk.inj (Except.ok.inj (hread.symm.trans hbody))
    exact (hreached get delete get 7 8 9 ⟨0, 0⟩ ⟨0, 0⟩ ⟨0, 0⟩ hget hdelete hget hintime).2.1

end Host

end ReplicatedCache
