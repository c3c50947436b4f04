/-
A replica is none of the business of the others: what one worker sends to it and what becomes of
that depends on the accepted tasks, on its own answers and on how long a send may take.

* `verdicts`: the sends of tasks to one replica, with the outcomes that its answers give them;
* `Timeline.endedOn`: the sends to one replica that have ended, with their outcomes;
* `Timeline.Answers`: **the answers**: each replica answers by its script, and its answers decide;
* `Timeline.Follows`: **the invariant**: besides, the sends are those that have ended and the one
  under way;
* `Follows.step`, `Follows.after`: what keeps it;
* `Timeline.Reached`: all that is known of a timeline with one worker;
* `Timeline.replica_independent`: **independence**: in two runs with the same tasks, two replicas
  with the same answers are sent the same tasks with the same outcomes, whatever the others do.
-/
import ReplicatedCache.Proofs.Replication.Draining

namespace ReplicatedCache

/-! ### What a replica says -/

/-- The sends of tasks to a replica with a script, with their outcomes: the answer to each of them
decides, and whether it takes longer than a send may take. -/
def verdicts (timeout : Nat) (script : List SendAnswer) (ops : List Operation) :
    List (Operation × Outcome) :=
  ops.mapIdx fun n op => (op, Send.outcomeOf timeout (script.getD n {}))

/-- The sends to one replica among some sends, with their outcomes. -/
def about (replica : Nat) (sends : List (Nat × Operation × Outcome)) : List (Operation × Outcome) :=
  (sends.filter fun s => s.1 = replica).map Prod.snd

/-- The replica of a send, its task and its outcome. -/
def Send.told (s : Send) : Nat × Operation × Outcome := (s.replica, s.op, s.outcome)

/-- The replica of a send that has ended, its task and its outcome. -/
def Attempt.told (a : Attempt) : Nat × Operation × Outcome := (a.replica, a.op, a.outcome)

section Verdicts

variable {timeout : Nat} {script script' : List SendAnswer} {ops : List Operation}

lemma verdicts_concat (timeout : Nat) (script : List SendAnswer) (ops : List Operation)
    (op : Operation) :
    verdicts timeout script (ops ++ [op]) =
      verdicts timeout script ops ++
        [(op, Send.outcomeOf timeout (script.getD ops.length {}))] := by
  rw [verdicts, List.mapIdx_append, List.mapIdx_singleton, Nat.zero_add]
  rfl

/-- Further tasks change nothing about the first ones. -/
lemma verdicts_prefix {first : List Operation} (h : first <+: ops) :
    verdicts timeout script first <+: verdicts timeout script ops := by
  obtain ⟨rest, rfl⟩ := h
  rw [verdicts, verdicts, List.mapIdx_append]
  exact List.prefix_append _ _

/-- Only the answers count, not how a script puts them. -/
lemma verdicts_congr (hsame : ∀ n, script.getD n {} = script'.getD n {}) :
    verdicts timeout script ops = verdicts timeout script' ops := by
  simp only [verdicts, hsame]

lemma about_append (replica : Nat) (sends later : List (Nat × Operation × Outcome)) :
    about replica (sends ++ later) = about replica sends ++ about replica later := by
  rw [about, List.filter_append, List.map_append]
  rfl

lemma about_singleton (replica : Nat) (s : Nat × Operation × Outcome) :
    about replica [s] = if s.1 = replica then [s.2] else [] := by
  rw [about]
  split
  next h => rw [List.filter_cons_of_pos (by simpa using h)]; rfl
  next h => rw [List.filter_cons_of_neg (by simpa using h)]; rfl

end Verdicts

namespace Timeline

variable {t t' : Timeline} {replicas replica timeout : Nat} {accepted : List Operation}
  {scripts : List (List SendAnswer)}

/-! ### Answers -/

/-- The sends to a replica, with the outcomes that they have or will have, in the order of their
start. -/
def sentTo (t : Timeline) (replica : Nat) : List (Operation × Outcome) :=
  about replica (t.sends.map Send.told)

/-- The sends to a replica that have ended, with their outcomes, oldest first. -/
def endedOn (t : Timeline) (replica : Nat) : List (Operation × Outcome) :=
  about replica (t.pool.attempts.map Attempt.told)

/-- **The answers**: each replica has given the first answers of its script, one for each send to
it, and these and the time that a send may take decide the outcomes. -/
structure Answers (t : Timeline) (timeout : Nat) (scripts : List (List SendAnswer)) : Prop where
  timeout_eq : t.timeout = timeout
  scripts_eq : ∀ replica, t.scripts.getD replica [] =
    (scripts.getD replica []).drop (t.sentTo replica).length
  sentTo_eq : ∀ replica, t.sentTo replica =
    verdicts timeout (scripts.getD replica []) ((t.sentTo replica).map Prod.fst)

/-- **The invariant of the answers**: besides, the sends are those that have ended and the one under
way. -/
structure Follows (t : Timeline) (timeout : Nat) (scripts : List (List SendAnswer)) : Prop where
  answers : t.Answers timeout scripts
  ended_eq : t.pool.attempts.map Attempt.told ++ t.underway.map Send.told =
    t.sends.map Send.told

/-- The next answer of a replica is the first one of its script, which goes on behind it. -/
lemma nextAnswer_getD (t : Timeline) (replica : Nat) :
    (t.nextAnswer replica).1 = (t.scripts.getD replica []).getD 0 {} ∧
      ∀ j, (t.nextAnswer replica).2.scripts.getD j [] =
        if replica = j then (t.scripts.getD replica []).drop 1 else t.scripts.getD j [] := by
  rw [nextAnswer]
  split
  next answer rest hscript =>
      have hlt : replica < t.scripts.length := (List.getElem?_eq_some_iff.mp hscript).1
      have hown : t.scripts.getD replica [] = answer :: rest := by
        rw [List.getD_eq_getElem?_getD, hscript]
        rfl
      refine ⟨by rw [hown]; rfl, fun j => ?_⟩
      split
      next hj =>
          subst hj
          rw [hown, List.getD_eq_getElem?_getD, List.getElem?_set_self hlt]
          rfl
      next hj => simp [List.getElem?_set_ne hj]
  next hempty =>
      have hscript : t.scripts.getD replica [] = [] := by
        cases hget : t.scripts[replica]? with
        | none => simp [hget]
        | some script =>
            cases script with
            | nil => simp [hget]
            | cons answer rest => exact absurd hget (hempty answer rest)
      refine ⟨by rw [hscript]; rfl, fun j => ?_⟩
      split
      next hj =>
          subst hj
          rw [hscript]
          rfl
      next => rfl

/-- **A send that starts** is answered by the next answer of its replica. -/
lemma Answers.startSend (h : t.Answers timeout scripts) (w replica : Nat) (op : Operation) :
    (t.startSend w replica op).2.Answers timeout scripts := by
  obtain ⟨answer, scripts', hnext⟩ := nextAnswer_eq t replica
  obtain ⟨hanswer, hscripts⟩ := nextAnswer_getD t replica
  simp only [hnext] at hanswer hscripts
  have hstart : (t.startSend w replica op).2.scripts = scripts' ∧
      (t.startSend w replica op).2.timeout = timeout ∧
      (t.startSend w replica op).2.sends.map Send.told =
        t.sends.map Send.told ++ [(replica, op, Send.outcomeOf timeout answer)] := by
    rw [Timeline.startSend, hnext, ← h.timeout_eq]
    exact ⟨rfl, rfl, List.map_append⟩
  obtain ⟨hscripts', htimeout, hsends⟩ := hstart
  have hsent (j : Nat) : (t.startSend w replica op).2.sentTo j =
      t.sentTo j ++ if replica = j then [(op, Send.outcomeOf timeout answer)] else [] := by
    rw [sentTo, hsends, about_append, about_singleton]
    rfl
  refine ⟨htimeout, fun j => ?_, fun j => ?_⟩
  · rw [hsent, hscripts', hscripts, h.scripts_eq, h.scripts_eq]
    split
    next hj =>
        subst hj
        rw [List.drop_drop, List.length_append, List.length_singleton]
    next => rw [List.append_nil]
  · rw [hsent]
    split
    next hj =>
        subst hj
        have hown : answer = (scripts.getD replica []).getD (t.sentTo replica).length {} := by
          rw [hanswer, h.scripts_eq, List.getD_eq_getElem?_getD, List.getElem?_drop,
            List.getD_eq_getElem?_getD (i := (t.sentTo replica).length), Nat.add_zero]
        rw [List.map_append, List.map_singleton, verdicts_concat, List.length_map,
          ← h.sentTo_eq replica, ← hown]
    next =>
        rw [List.append_nil]
        exact h.sentTo_eq j

/-- A worker that has a task in its hands ends the send of it that is under way. -/
lemma finish_eq {w number passed : Nat} {op : Operation}
    (hworker : t.pool.workers[w]? = some (.sending number op passed)) (outcome : Outcome) :
    t.finish w outcome = { t with pool := { t.pool with
      queue := { t.pool.queue with counters := Pool.count t.pool.queue.counters outcome }
      workers := t.pool.workers.set w (t.pool.sendingOrIdle number op (passed + 1))
      attempts := t.pool.attempts ++ [⟨number, op, passed, outcome⟩] } } := by
  simp only [finish, Pool.finish?, hworker, Pool.setWorker]

/-- **A send that ends** is written down with its replica, its task and its outcome. -/
lemma Answers.finish (h : t.Answers timeout scripts) (hunderway : t.underway = [])
    {w number passed : Nat} {op : Operation}
    (hworker : t.pool.workers[w]? = some (.sending number op passed)) (outcome : Outcome)
    (hended : t.pool.attempts.map Attempt.told ++ [(passed, op, outcome)] =
      t.sends.map Send.told) :
    (t.finish w outcome).Follows timeout scripts ∧ (t.finish w outcome).underway = [] := by
  rw [finish_eq hworker]
  refine ⟨⟨⟨h.timeout_eq, h.scripts_eq, h.sentTo_eq⟩, ?_⟩, hunderway⟩
  rw [← hended]
  simp only [hunderway, List.map_append, List.map_nil, List.append_nil]
  rfl

namespace Follows

/-- The invariant does not look at the clock, nor at the queue or the workers. -/
lemma congr (h : t.Follows timeout scripts) (htimeout : t'.timeout = t.timeout)
    (hscripts : t'.scripts = t.scripts) (hattempts : t'.pool.attempts = t.pool.attempts)
    (hunderway : t'.underway = t.underway) (hsends : t'.sends = t.sends) :
    t'.Follows timeout scripts := by
  have hsent (replica : Nat) : t'.sentTo replica = t.sentTo replica := by
    rw [sentTo, sentTo, hsends]
  refine ⟨⟨htimeout.trans h.answers.timeout_eq, fun replica => ?_, fun replica => ?_⟩, ?_⟩
  · rw [hscripts, hsent]
    exact h.answers.scripts_eq replica
  · rw [hsent]
    exact h.answers.sentTo_eq replica
  · rw [hattempts, hunderway, hsends]
    exact h.ended_eq

/-- **A worker that goes on** has its sends answered, one after the other. -/
lemma proceed (h : t.Follows timeout scripts) (hunderway : t.underway = []) (sendsLeft w : Nat) :
    (Timeline.proceed sendsLeft t w).Follows timeout scripts := by
  induction sendsLeft generalizing t with
  | zero => exact h.congr rfl rfl rfl rfl rfl
  | succ sendsLeft ih =>
      rw [Timeline.proceed]
      split
      next number op passed hworker =>
          have hanswers := h.answers.startSend w passed op
          obtain ⟨send, scripts', hstart, -, hreplica, hop⟩ := startSend_eq t w passed op
          have hended := h.ended_eq
          rw [hunderway, List.map_nil, List.append_nil] at hended
          rw [hstart] at hanswers ⊢
          have htold : send.told = (passed, op, send.outcome) := by
            rw [Send.told, hreplica, hop]
          simp only
          split
          · -- the send is answered at once
            have hended' : t.pool.attempts.map Attempt.told ++ [(passed, op, send.outcome)] =
                (t.sends ++ [send]).map Send.told := by
              rw [List.map_append, List.map_singleton, hended, htold]
            obtain ⟨hnext, hstill⟩ := hanswers.finish hunderway hworker send.outcome hended'
            exact ih hnext hstill
          · refine ⟨⟨hanswers.timeout_eq, hanswers.scripts_eq, hanswers.sentTo_eq⟩, ?_⟩
            simp only [List.map_append, hunderway, List.nil_append, hended]
      next => exact h.congr rfl rfl rfl rfl rfl

lemma goOn (h : t.Follows timeout scripts) (hunderway : t.underway = []) (w : Nat) :
    (t.goOn w).Follows timeout scripts := h.proceed hunderway _ w

/-- **What happens by itself** keeps the invariant. -/
lemma step (h : t.Follows timeout scripts) (horder : t.InOrder replicas accepted)
    {limit : Option Nat} (hstep : t.step? limit = some t') : t'.Follows timeout scripts := by
  cases horder.moves hstep with
  | exits hunderway hexit hnext =>
      obtain ⟨-, -, rfl⟩ := Pool.exit?_eq_some hexit
      rw [hnext]
      exact h.congr rfl rfl rfl rfl rfl
  | takes hunderway htake hnext =>
      obtain ⟨-, -, op, rest, -, rfl⟩ := Pool.take?_eq_some htake
      rw [hnext]
      refine Follows.goOn ?_ ?_ 0
      · exact h.congr rfl rfl rfl rfl rfl
      · exact hunderway
  | @ends number op passed send hunderway hworker hmore hmade hnext =>
      have hended := h.ended_eq
      rw [hunderway, List.map_singleton] at hended
      -- the send under way was made last, which tells its task and its replica
      have hlast : t.made.getLast? = some (send.op, send.replica) := by
        have htold : t.made = (t.sends.map Send.told).map fun s => (s.2.1, s.1) := by
          rw [made, List.map_map]
          rfl
        rw [htold, ← hended, List.map_append, List.map_singleton, List.getLast?_concat]
        rfl
      obtain ⟨rfl, rfl⟩ := Prod.mk.inj (Option.some.inj (hmade.symm.trans hlast))
      obtain ⟨hfollows, hstill⟩ := Answers.finish
        (t := { t with clock := max t.clock send.ends, underway := [] })
        ⟨h.answers.timeout_eq, h.answers.scripts_eq, h.answers.sentTo_eq⟩ rfl hworker send.outcome
        hended
      rw [hnext]
      exact hfollows.goOn hstill 0

lemma run (h : t.Follows timeout scripts) (horder : t.InOrder replicas accepted)
    (limit : Option Nat) (fuel : Nat) : (Timeline.run limit fuel t).Follows timeout scripts := by
  induction fuel generalizing t with
  | zero => exact h
  | succ fuel ih =>
      rw [Timeline.run]
      split
      next t₁ hstep => exact ih (h.step horder hstep) (horder.step hstep)
      next => exact h

/-- **One event** keeps the invariant. -/
lemma happen (h : t.Follows timeout scripts) (horder : t.InOrder replicas accepted) (e : Event) :
    (t.happen e).2.Follows timeout scripts := by
  cases e with
  | enqueue op | stop | closeProducers => exact h.congr rfl rfl rfl rfl rfl
  | step limit =>
      rw [Timeline.happen]
      cases hstep : t.step? limit with
      | some t₁ => exact h.step horder hstep
      | none => exact h
  | sleep span =>
      exact (h.run horder (some (t.clock + span)) t.bound).congr rfl rfl rfl rfl rfl
  | runOut => exact h.run horder none t.bound

/-- **Several events** keep the invariant. -/
lemma after (h : t.Follows timeout scripts) (horder : t.InOrder replicas accepted)
    (events : List Event) : (t.after events).2.Follows timeout scripts := by
  induction events generalizing t accepted with
  | nil => exact h
  | cons e events ih => exact ih (h.happen horder e) (horder.happen e)

end Follows

lemma follows_start (workers timeout : Nat) (scripts : List (List SendAnswer)) :
    (start workers timeout scripts).Follows timeout scripts :=
  ⟨⟨rfl, fun _ => rfl, fun _ => rfl⟩, rfl⟩

/-- The sends to a replica are about the tasks that it has seen. -/
lemma map_fst_sentTo (t : Timeline) (replica : Nat) :
    (t.sentTo replica).map Prod.fst = seenBy replica t.made := by
  rw [sentTo, about, seenBy, made, List.filter_map, List.filter_map, List.map_map, List.map_map,
    List.map_map]
  rfl

/-- The sends that have ended are the first ones that were made. -/
lemma Follows.endedOn_prefix (h : t.Follows timeout scripts) (replica : Nat) :
    t.endedOn replica <+: t.sentTo replica := by
  rw [sentTo, ← h.ended_eq, about_append]
  exact List.prefix_append _ _

/-- **What is known of a timeline with one worker** at every moment. -/
structure Reached (t : Timeline) (timeout : Nat) (scripts : List (List SendAnswer))
    (accepted : List Operation) : Prop where
  order : t.InOrder scripts.length accepted
  follows : t.Follows timeout scripts
  accounted : t.Accounted accepted

namespace Reached

lemma start (timeout : Nat) (scripts : List (List SendAnswer)) :
    (start 1 timeout scripts).Reached timeout scripts [] :=
  ⟨inOrder_start timeout scripts, follows_start 1 timeout scripts,
    accounted_start 1 timeout scripts⟩

lemma after (h : t.Reached timeout scripts accepted) (events : List Event) :
    (t.after events).2.Reached timeout scripts (accepted ++ (t.after events).1) :=
  ⟨h.order.after events, h.follows.after h.order events, h.accounted.after events⟩

lemma runOut (h : t.Reached timeout scripts accepted) :
    t.runOut.Reached timeout scripts accepted :=
  ⟨h.order.run none t.bound, h.follows.run h.order none t.bound,
    pool_run (kept_accounts accepted) h.accounted none t.bound⟩

/-- Without a stop, everything has been done at rest. -/
lemma drained_runOut (h : t.Reached timeout scripts accepted) (hlossless : t.pool.Lossless) :
    t.runOut.Drained :=
  drained_of_rest h.runOut.order h.runOut.accounted
    (pool_run Pool.kept_lossless hlossless none t.bound) (runOut_rests h.order)

/-- **What becomes of the sends to a replica** is what its answers say of the first tasks. -/
lemma endedOn_prefix (h : t.Reached timeout scripts accepted) (hreplica : replica < scripts.length) :
    t.endedOn replica <+: verdicts timeout (scripts.getD replica []) accepted := by
  refine (h.follows.endedOn_prefix replica).trans ?_
  rw [h.follows.answers.sentTo_eq replica, map_fst_sentTo]
  obtain ⟨m, passed, -, -, hseen⟩ := seenBy_of_prefix h.order.made_prefix
  rw [hseen replica hreplica]
  exact verdicts_prefix (List.take_prefix _ _)

/-- **Once drained**, this is what they say of all tasks. -/
lemma endedOn_eq (h : t.Reached timeout scripts accepted) (hdrained : t.Drained)
    (hreplica : replica < scripts.length) :
    t.endedOn replica = verdicts timeout (scripts.getD replica []) accepted := by
  have hended := h.follows.ended_eq
  rw [h.order.underway_of_drained hdrained, List.map_nil, List.append_nil] at hended
  rw [endedOn, hended, ← sentTo, h.follows.answers.sentTo_eq replica, map_fst_sentTo,
    seenBy_of_drained h.order h.accounted hdrained hreplica]

end Reached

/-- **Independence**: let two runs with one worker accept the same tasks and give the same time to a
send, and let a replica of the one and a replica of the other, wherever they stand among theirs,
give the same answers. How many other replicas there are, what these answer and when, and when what
happens in the runs may differ.

* At every moment of either run, the sends to the replica that have ended and their outcomes are the
  first ones of those that its own answers and the time for a send determine.
* Once both runs are drained, they are all of them, and the same in both.
* If the worker is told to stop in neither, both are drained when nothing more happens by itself.

As long as a worker is not told to stop and the tasks have not been said to come to an end, all that
are added are accepted. -/
theorem replica_independent (timeout : Nat) (scripts scripts' : List (List SendAnswer))
    (replica replica' : Nat) (hreplica : replica < scripts.length)
    (hreplica' : replica' < scripts'.length)
    (hsame : ∀ n, (scripts.getD replica []).getD n {} = (scripts'.getD replica' []).getD n {})
    (events events' : List Event) :
    let r := (start 1 timeout scripts).after events
    let r' := (start 1 timeout scripts').after events'
    let determined := verdicts timeout (scripts.getD replica []) r.1
    (r.1 = r'.1 →
      (r.2.endedOn replica <+: determined ∧ r'.2.endedOn replica' <+: determined) ∧
      (r.2.Drained → r'.2.Drained →
        r.2.endedOn replica = determined ∧ r'.2.endedOn replica' = r.2.endedOn replica) ∧
      (.stop ∉ events → .stop ∉ events' →
        r.2.runOut.Drained ∧ r'.2.runOut.Drained ∧ r.2.runOut.endedOn replica = determined ∧
          r'.2.runOut.endedOn replica' = r.2.runOut.endedOn replica)) ∧
    (.stop ∉ events → .closeProducers ∉ events → r.1 = events.filterMap Event.asked?) := by
  intro r r' determined
  refine ⟨fun htasks => ?_, fun hstop hclose => after_fst_of_open ⟨rfl, rfl, rfl⟩ hstop hclose⟩
  have hr : r.2.Reached timeout scripts r.1 := (Reached.start timeout scripts).after events
  have hr' : r'.2.Reached timeout scripts' r'.1 := (Reached.start timeout scripts').after events'
  have hdetermined : verdicts timeout (scripts'.getD replica' []) r'.1 = determined := by
    rw [← htasks]
    exact (verdicts_congr hsame).symm
  refine ⟨⟨hr.endedOn_prefix hreplica, ?_⟩, fun hdrained hdrained' => ⟨?_, ?_⟩,
    fun hstop hstop' => ?_⟩
  · rw [← hdetermined]
    exact hr'.endedOn_prefix hreplica'
  · exact hr.endedOn_eq hdrained hreplica
  · rw [hr.endedOn_eq hdrained hreplica, hr'.endedOn_eq hdrained' hreplica', hdetermined]
  · have hdrained := hr.drained_runOut (lossless_after ⟨rfl, rfl⟩ hstop)
    have hdrained' := hr'.drained_runOut (lossless_after ⟨rfl, rfl⟩ hstop')
    refine ⟨hdrained, hdrained', hr.runOut.endedOn_eq hdrained hreplica, ?_⟩
    rw [hr.runOut.endedOn_eq hdrained hreplica, hr'.runOut.endedOn_eq hdrained' hreplica',
      hdetermined]

/-- A replica that fails once and is too slow once, at first alone and then behind a replica that
is down and before one that never answers in time; the tasks are added at other moments. -/
theorem replica_independent_failing :
    let script : List SendAnswer := [⟨2, some "down"⟩, ⟨9, none⟩, ⟨5, none⟩]
    let scripts := [script]
    let scripts' := [[⟨0, some "refused"⟩, ⟨7, none⟩], script, [⟨6, none⟩, ⟨6, none⟩, ⟨6, none⟩]]
    let events : List Event := [.enqueue (.put "a" "1"), .enqueue (.delete "a"),
      .enqueue (.put "b" "2"), .closeProducers]
    let events' : List Event := [.enqueue (.put "a" "1"), .sleep 4, .enqueue (.delete "a"),
      .step none, .enqueue (.put "b" "2")]
    let r := (start 1 5 scripts).after events
    let r' := (start 1 5 scripts').after events'
    r.1 = r'.1 ∧ r.2.runOut.Drained ∧ r'.2.runOut.Drained ∧
      r'.2.runOut.endedOn 1 = r.2.runOut.endedOn 0 ∧
      r.2.runOut.endedOn 0 = [(.put "a" "1", .failed (Fault.replication "down").message),
        (.delete "a", .timedOut), (.put "b" "2", .delivered)] := by
  intro script scripts scripts' events events' r r'
  have htasks : r.1 = r'.1 := by decide
  obtain ⟨-, -, hrest⟩ := (replica_independent 5 scripts scripts' 0 1 (by decide) (by decide)
    (fun _ => rfl) events events').1 htasks
  obtain ⟨hdrained, hdrained', hdetermined, hequal⟩ := hrest (by simp [events]) (by simp [events'])
  exact ⟨htasks, hdrained, hdrained', hequal, hdetermined.trans (by decide)⟩

end Timeline

end ReplicatedCache
