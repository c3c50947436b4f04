/-
What the counters of a primary say about a replica.

* `Host.serve_elsewhere`: where no operations are taken, the request for one is refused;
* `Replica.deliver_cases`: **one attempt** has a node receive the operation, or leaves it alone, in
  whatever state the node is;
* `Replica.TakesUp`: an address at which a node receives the operation;
* `Replica.deliver_eq_ok_iff`: the result is a success exactly if the operation is received there
  and logged without a fault;
* `Replica.Attests`, `Replica.delivered_iff_applied`: **what is counted as delivered was applied**,
  and the rest has left the cache of the replica alone.
-/
import ReplicatedCache.Cluster
import ReplicatedCache.Proofs.Cache.Refinement
import ReplicatedCache.Proofs.Log.File
import ReplicatedCache.Proofs.Replication.Forwarding
import ReplicatedCache.Proofs.Replication.Steps
import ReplicatedCache.Replication.Timeline

namespace ReplicatedCache

/-! ### What is counted -/

namespace Pool

variable {p : Pool} {c : ReplicationCounters} {timeout delay w number passed : Nat}
  {op : Operation}

lemma count_in_time (hdelay : delay ≤ timeout) :
    count c (Send.endOf timeout delay (.ok ())) = c.deliver := by
  rw [Send.endOf, if_neg (Nat.not_lt.mpr hdelay)]
  rfl

lemma count_late (hdelay : timeout < delay) (result : Except Fault Unit) :
    count c (Send.endOf timeout delay result) = c.fail := by
  rw [Send.endOf, if_pos hdelay]
  rfl

lemma count_error (fault : Fault) :
    count c (Send.endOf timeout delay (.error fault)) = c.fail := by
  rw [Send.endOf]
  split
  · rfl
  · rfl

/-- The two ways to count are told apart by both counters. -/
lemma deliver_ne_fail (c : ReplicationCounters) : c.deliver ≠ c.fail := by
  intro h
  have hdelivered : c.delivered + 1 = c.delivered := congrArg ReplicationCounters.delivered h
  omega

/-- The end of a send is counted. -/
lemma finish?_of_sending (hworker : p.workers[w]? = some (.sending number op passed))
    (outcome : Outcome) :
    ∃ p', p.finish? w outcome = some p' ∧
      p'.queue.counters = count p.queue.counters outcome := by
  rw [finish?, hworker]
  exact ⟨_, rfl, rfl⟩

end Pool

/-! ### What a node does with an operation -/

namespace Host

variable {r : Http.Request} {op : Operation} {now : Moment}

/-- The record of an operation that is logged is behind what was in the log. -/
lemma holds_record {h : Host} {writer : LogWriter} {content : Bytes}
    (hlog : h.node.log = some writer) (hrecord : (h.record op).1 = .ok ())
    (hholds : h.disk.Holds writer.device content) :
    (h.record op).2.disk.Holds writer.device (content ++ LogWriter.line writer.torn op) := by
  rw [record, hlog] at hrecord ⊢
  obtain ⟨disk, happend, hafter⟩ := hholds.append_ok hrecord
  simp only [happend]
  exact hafter

/-- Every operation changes some node. -/
lemma exists_receive_ne (op : Operation) (now : Moment) : ∃ h : Host, (h.receive op now).2 ≠ h := by
  have hempty : (Cache.empty 1 none).IsConsistent := ⟨[], Cache.consistent_empty 1 none⟩
  cases op with
  | put key value =>
      refine ⟨⟨⟨.empty 1 none, none, none⟩, ⟨#[], #[[]]⟩⟩, fun hsame => ?_⟩
      have hcache : (Cache.empty 1 none).put key value now = Cache.empty 1 none :=
        congrArg (fun h : Host => h.node.cache) hsame
      have hcontains := hempty.contains_put key value now
      rw [hcache] at hcontains
      cases hcontains
  | delete key =>
      have hput := (hempty.put key "" now).1
      refine ⟨⟨⟨(Cache.empty 1 none).put key "" now, none, none⟩, ⟨#[], #[[]]⟩⟩, fun hsame => ?_⟩
      have hcache : (((Cache.empty 1 none).put key "" now).remove key).2 =
          (Cache.empty 1 none).put key "" now :=
        congrArg (fun h : Host => h.node.cache) hsame
      have hcontains := hput.contains_remove key
      rw [hcache, hempty.contains_put key "" now] at hcontains
      cases hcontains

/-- **Where no operations are taken**, a request for one is refused, and nothing is done. -/
lemma serve_elsewhere (hmethod : r.method = "POST")
    (hroute : Route.ofPath? r.path ≠ some .replicate) :
    ∃ response : Http.Response, Http.Status.isSuccess response.status = false ∧
      ∀ (h : Host) (now : Moment) (clock : Timestamp), h.serve now clock r = (response, h) := by
  have hoptions : "POST" ≠ "OPTIONS" := by decide
  cases hpath : Route.ofPath? r.path with
  | none =>
      refine ⟨{ status := 404 }, rfl, fun h now clock => ?_⟩
      rw [serve, hmethod, hpath]
      simp only [if_neg hoptions]
  | some route =>
      have haccepts : route.accepts "POST" = false := by
        cases route with
        | replicate => exact absurd hpath hroute
        | store | read _ | delete _ | stats | entries | health => rfl
      refine ⟨{ status := 405, allow := some route.methods }, rfl, fun h now clock => ?_⟩
      rw [serve, hmethod, hpath]
      simp only [if_neg hoptions, haccepts, Bool.false_eq_true, if_false]

end Host

/-! ### One attempt -/

namespace Replica

open ReplicaClient (destination request judge refused notApplied)

variable {address : String} {url : Http.Url} {op : Operation} {now : Moment} {clock : Timestamp}
  {g : Host}

/-- What a node sends back is judged, and the node is as the request has left it. -/
lemma deliver_node (hurl : destination address = .ok url) (h : Host) (op : Operation)
    (now : Moment) (clock : Timestamp) :
    (node h).deliver address op now clock =
      (judge url (.response (h.serve now clock (request url op)).1.status
        (Utf8.encode (h.serve now clock (request url op)).1.body) true),
        node (h.serve now clock (request url op)).2) := by
  -- to rewrite with the equation of `deliver`, Lean would first compute inside of `destination`
  delta deliver
  rw [hurl]
  rfl

/-- Where no request can be sent to, none is sent. -/
lemma deliver_nowhere {fault : Fault} (hurl : destination address = .error fault) (h : Host)
    (op : Operation) (now : Moment) (clock : Timestamp) :
    (node h).deliver address op now clock = (.error fault, node h) := by
  delta deliver
  rw [hurl]

/-- A response that does not report a success is taken as a refusal. -/
lemma judge_refused (url : Http.Url) {status : Nat} (hstatus : Http.Status.isSuccess status = false)
    (body : Bytes) : judge url (.response status body true) = .error (refused status) := by
  simp only [judge, hstatus, Bool.not_false, if_true]

/-- What is said about an operation that a node has received. -/
def verdict : Except Fault Unit → Except Fault Unit
  | .ok () => .ok ()
  | .error _ => .error notApplied

/-- **One attempt** has a node receive the operation and says whether it was logged; or it fails
and leaves the node alone. Which of the two it is does not depend on the state of the node. -/
lemma deliver_cases (address : String) (op : Operation) (now : Moment) (clock : Timestamp) :
    (∀ h : Host, (node h).deliver address op now clock =
        (verdict (h.receive op now).1, node (h.receive op now).2)) ∨
      ∃ fault, ∀ h : Host, (node h).deliver address op now clock = (.error fault, node h) := by
  cases hurl : destination address with
  | error fault => exact .inr ⟨fault, fun h => deliver_nowhere hurl h op now clock⟩
  | ok url =>
      by_cases hroute : Route.ofPath? (request url op).path = some .replicate
      · by_cases hlarge : maxBodySize < (ReplicaClient.body op).length
        · refine .inr ⟨refused 413, fun h => ?_⟩
          rw [deliver_node hurl, Host.serve_request h now clock hroute, if_pos hlarge]
          exact congrArg (·, node h) (judge_refused url rfl _)
        · cases hcheck : op.check with
          | some violation =>
              have hcheck' : (Call.receive op).op.check = some violation := hcheck
              refine .inr ⟨refused 400, fun h => ?_⟩
              rw [deliver_node hurl, Host.serve_request h now clock hroute, if_neg hlarge,
                Host.answerCall, hcheck']
              exact congrArg (·, node h) (judge_refused url rfl _)
          | none =>
              have hcheck' : (Call.receive op).op.check = none := hcheck
              refine .inl fun h => ?_
              rw [deliver_node hurl, Host.serve_request h now clock hroute, if_neg hlarge,
                Host.answerCall, hcheck', Host.carryOut]
              refine congrArg (·, node (h.receive op now).2) ?_
              cases (h.receive op now).1 with
              | ok u => exact ReplicaClient.judge_reply url true
              | error fault => exact ReplicaClient.judge_reply url false
      · obtain ⟨response, hstatus, hserve⟩ := Host.serve_elsewhere (r := request url op) rfl hroute
        refine .inr ⟨refused response.status, fun h => ?_⟩
        rw [deliver_node hurl, hserve]
        exact congrArg (·, node h) (judge_refused url hstatus _)

/-- **An address at which operations are taken up**: whatever state a node is in, an attempt
leaves it as it is after it has received the operation. -/
def TakesUp (address : String) (op : Operation) (now : Moment) (clock : Timestamp) : Prop :=
  ∀ h : Host, ((node h).deliver address op now clock).2 = node (h.receive op now).2

/-- **A success** is reported exactly where the operation is taken up and logged, and then it has
been applied; any other attempt leaves the cache and the queue of the node alone, and changes its
log at most if that has a fault. -/
lemma deliver_ok_or_error (g : Host) (address : String) (op : Operation) (now : Moment)
    (clock : Timestamp) :
    ((TakesUp address op now clock ∧ (g.record op).1 = .ok ()) ∧
        (node g).deliver address op now clock = (.ok (), node (g.receive op now).2)) ∨
      (¬(TakesUp address op now clock ∧ (g.record op).1 = .ok ()) ∧
        ∃ fault g', (node g).deliver address op now clock = (.error fault, node g') ∧
          g'.node.cache = g.node.cache ∧ g'.node.queue = g.node.queue ∧
          ((g.record op).1 = .ok () → g' = g)) := by
  rcases deliver_cases address op now clock with hreceived | ⟨fault, hrefused⟩
  · have htakes : TakesUp address op now clock := fun h => congrArg Prod.snd (hreceived h)
    rw [hreceived g, g.receive_fst op now]
    cases hrecord : (g.record op).1 with
    | ok u => exact .inl ⟨⟨htakes, rfl⟩, rfl⟩
    | error fault =>
        have hafter := g.receive_of_fault hrecord now
        refine .inr ⟨fun hboth => ?_, notApplied, _, rfl, ?_, ?_, fun hok => ?_⟩
        · cases hboth.2
        · rw [hafter]
        · rw [hafter]
        · cases hok
  · refine .inr ⟨fun hboth => ?_, fault, g, hrefused g, rfl, rfl, fun _ => rfl⟩
    -- some node would have been changed
    obtain ⟨h, hchanged⟩ := Host.exists_receive_ne op now
    have hsame := hboth.1 h
    rw [hrefused h] at hsame
    exact hchanged (Replica.node.inj hsame).symm

/-- What is true of the counters of a pool, which go from `p` to `p'`, and of a node, which goes
from `g` to `g'`, when a send to the node has ended that took `delay`. -/
structure Attests (p p' : Pool) (g g' : Host) (address : String) (op : Operation) (now : Moment)
    (clock : Timestamp) (timeout delay : Nat) : Prop where
  /-- One of the two counters goes up by one. -/
  counted : p'.queue.counters = p.queue.counters.deliver ∨
    p'.queue.counters = p.queue.counters.fail
  /-- The queue of the node is as before. -/
  queue_eq : g'.node.queue = g.node.queue
  /-- If the answer comes in time, a delivery is counted exactly if the node takes the operation up
  and logs it without a fault. -/
  delivered_iff : delay ≤ timeout → (p'.queue.counters = p.queue.counters.deliver ↔
    TakesUp address op now clock ∧ (g.record op).1 = .ok ())
  /-- This can be told from the state of the node if that is changed by the operation at all. -/
  delivered_iff_eq : delay ≤ timeout → (g.receive op now).2 ≠ g →
    (p'.queue.counters = p.queue.counters.deliver ↔
      g' = (g.receive op now).2 ∧ (g.record op).1 = .ok ())
  /-- A failure counted in time has left the cache as it was. -/
  cache_of_failed : delay ≤ timeout → p'.queue.counters = p.queue.counters.fail →
    g'.node.cache = g.node.cache
  /-- What is counted as delivered has been applied to the cache. -/
  cache_of_delivered : p'.queue.counters = p.queue.counters.deliver →
    g'.node.cache = g.node.cache.apply op now
  /-- Its record is behind what was in the log. -/
  log_of_delivered : p'.queue.counters = p.queue.counters.deliver →
    ∀ writer content, g.node.log = some writer → g.disk.Holds writer.device content →
      g'.disk.Holds writer.device (content ++ LogWriter.line writer.torn op)
  /-- An answer that comes too late counts as a failure. -/
  late : timeout < delay → p'.queue.counters = p.queue.counters.fail

/-- **What is counted as delivered was applied**, whatever the operation, the state of a replica and
the device of its log, when a worker of the primary has sent the operation to the replica. -/
theorem delivered_iff_applied (p : Pool) (w number passed : Nat) (op : Operation)
    (hworker : p.workers[w]? = some (.sending number op passed)) (g : Host) (address : String)
    (now : Moment) (clock : Timestamp) (timeout delay : Nat) :
    let attempt := (node g).deliver address op now clock
    ∃ p' g', p.finish? w (Send.endOf timeout delay attempt.1) = some p' ∧ attempt.2 = node g' ∧
      Attests p p' g g' address op now clock timeout delay := by
  intro attempt
  obtain ⟨p', hfinish, hcount⟩ :=
    Pool.finish?_of_sending hworker (Send.endOf timeout delay attempt.1)
  have hne := Pool.deliver_ne_fail p.queue.counters
  have hlate : timeout < delay → p'.queue.counters = p.queue.counters.fail := fun hdelay =>
    hcount.trans (Pool.count_late hdelay attempt.1)
  rcases deliver_ok_or_error g address op now clock with
    ⟨hdone, hok⟩ | ⟨hnot, fault, g', herror, hcache, hqueue, hsame⟩
  · have hresult : attempt.1 = .ok () := congrArg Prod.fst hok
    have hafter := g.receive_of_record hdone.2 now
    have hdelivered : delay ≤ timeout → p'.queue.counters = p.queue.counters.deliver :=
      fun hdelay => by rw [hcount, hresult, Pool.count_in_time hdelay]
    refine ⟨p', _, hfinish, congrArg Prod.snd hok, ?_⟩
    exact {
      counted := by
        rcases Nat.lt_or_ge timeout delay with hdelay | hdelay
        · exact .inr (hlate hdelay)
        · exact .inl (hdelivered hdelay)
      queue_eq := by rw [hafter]
      delivered_iff := fun hdelay => ⟨fun _ => hdone, fun _ => hdelivered hdelay⟩
      delivered_iff_eq := fun hdelay _ => ⟨fun _ => ⟨rfl, hdone.2⟩, fun _ => hdelivered hdelay⟩
      cache_of_failed := fun hdelay hfailed => absurd ((hdelivered hdelay).symm.trans hfailed) hne
      cache_of_delivered := fun _ => by rw [hafter]
      log_of_delivered := fun _ writer content hlog hholds => by
        rw [hafter]
        exact Host.holds_record hlog hdone.2 hholds
      late := hlate }
  · have hresult : attempt.1 = .error fault := congrArg Prod.fst herror
    have hfailed : p'.queue.counters = p.queue.counters.fail := by
      rw [hcount, hresult, Pool.count_error]
    have hnever : p'.queue.counters ≠ p.queue.counters.deliver := fun hdelivered =>
      hne (hdelivered.symm.trans hfailed)
    refine ⟨p', g', hfinish, congrArg Prod.snd herror, ?_⟩
    exact {
      counted := .inr hfailed
      queue_eq := hqueue
      delivered_iff := fun _ => ⟨fun h => absurd h hnever, fun h => absurd h hnot⟩
      delivered_iff_eq := fun _ hchanges => ⟨fun h => absurd h hnever, fun hboth =>
        absurd (hboth.1.symm.trans (hsame hboth.2)) hchanges⟩
      cache_of_failed := fun _ _ => hcache
      cache_of_delivered := fun h => absurd h hnever
      log_of_delivered := fun h => absurd h hnever
      late := hlate }

/-- A put that is delivered at the last moment, to a replica with another entry whose log takes the
record in two parts. -/
theorem delivered_iff_applied_at_deadline :
    let op : Operation := .put "k" "v"
    let p : Pool := { Pool.start 1 1 with workers := [.sending 0 op 0] }
    let g : Host := ⟨⟨(Cache.empty 2 none).put "a" "1" 3, some (.attach 0), none⟩,
      ⟨#[.scripted [] [.part 3] [] 0 0], #[[]]⟩⟩
    let attempt := (node g).deliver "[::1]:80" op 7 ⟨7, 0⟩
    ∃ p' g', p.finish? 0 (Send.endOf 5 5 attempt.1) = some p' ∧ attempt.2 = node g' ∧
      p'.queue.counters = { delivered := 1 } ∧ TakesUp "[::1]:80" op 7 ⟨7, 0⟩ ∧
      g'.node.cache.entries 7 = [("k", "v"), ("a", "1")] ∧
      g'.disk.Holds 0 (LogWriter.line false op) := by
  intro op p g attempt
  have hresult : attempt.1 = .ok () := by decide +kernel
  obtain ⟨p', g', hfinish, hafter, hattests⟩ :=
    delivered_iff_applied p 0 0 0 op rfl g "[::1]:80" 7 ⟨7, 0⟩ 5 5
  have hcounters : p'.queue.counters = { delivered := 1 } := by
    rw [hresult] at hfinish
    rw [← Option.some.inj hfinish]
    rfl
  have hentries : g'.node.cache.entries 7 = [("k", "v"), ("a", "1")] := by
    rw [hattests.cache_of_delivered hcounters]
    decide +kernel
  exact ⟨p', g', hfinish, hafter, hcounters,
    ((hattests.delivered_iff (Nat.le_refl 5)).mp hcounters).1, hentries,
    hattests.log_of_delivered hcounters (.attach 0) [] rfl ⟨_, rfl, trivial, rfl⟩⟩

end Replica

end ReplicatedCache
