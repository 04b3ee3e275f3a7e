import SenderPolicy.Proofs.Staged.Conservation

/-!
# Stopping the staged executor

`Executor.Guards` says when the queue of responses is closed. It needs an orderly schedule:
a caller borrows the executor for as long as it holds its check, so that whoever drops the
executor finds no caller left, and none comes later.

The checks under way at a drop end. Every delivery lowers the number of answers that are
still needed, whatever the answers are, so that `drain` leaves no entry, and nobody closes
the queue before.
-/

namespace SenderPolicy.Staged

open SenderPolicy.Check (Environment Outcome Position remainder)

namespace Executor

/-! ## When the queue is closed -/

/-- The queue of responses is closed exactly while the executor is to stop and no check is
under way, and an executor that is to stop has no caller left. -/
structure Guards (executor : Executor) : Prop where
  closed : executor.queue.closed = (executor.stopping && executor.isIdle)
  handed : executor.stopping = true → executor.submissions = []

/-- What callers may do. A caller borrows the executor until it has handed over its check,
so that it is dropped when no caller holds one, and none comes after that. -/
def Allows (executor : Executor) : Action → Prop
  | .start _ | .begin _ => executor.stopping = false
  | .drop => executor.submissions = []
  | _ => True

/-- Nobody uses the executor in a schedule after it has been dropped. -/
def IsOrderly : List Action → Executor → Prop
  | [], _ => True
  | action :: schedule, executor =>
      executor.Allows action ∧ IsOrderly schedule (executor.perform action).1

/-- The entry that a check waits in, if it is not finished. -/
def entryOf (id check : Nat) : Check.Progress → List Entry
  | .finished _ => []
  | .waiting state lookup => [⟨id, check, state, lookup⟩]

/-- Settling a check adds its entry and leaves the signs of stopping as they are. -/
theorem settle_entries (check : Nat) (progress : Check.Progress) (executor : Executor) :
    let after := (executor.settle check progress).1
    after.entries = executor.entries ++ entryOf executor.nextId check progress
      ∧ after.environment = executor.environment
      ∧ after.stopping = executor.stopping
      ∧ after.submissions = executor.submissions := by
  cases progress with
  | waiting state lookup => exact ⟨rfl, rfl, rfl, rfl⟩
  | finished last =>
      simp only [settle, changePromise, entryOf, List.append_nil]
      split <;> exact ⟨rfl, rfl, rfl, rfl⟩

namespace Guards

variable {executor : Executor}

/-- Before anything happens the queue is open. -/
theorem empty (environment : Environment) : Guards { environment } where
  closed := rfl
  handed := fun _ => rfl

/-- While the executor is not to stop the queue is open. -/
theorem isOpen (guards : executor.Guards) (going : executor.stopping = false) :
    executor.queue.closed = false := by
  rw [guards.closed, going, Bool.false_and]

/-- A caller comes while the executor is not to stop. -/
theorem start (identity : Identity) (going : executor.stopping = false)
    (guards : executor.Guards) : (executor.start identity).Guards where
  closed := by
    have same : (executor.start identity).stopping = false := going
    rw [same, Bool.false_and]
    exact guards.isOpen going
  handed := by
    intro stopping
    have same : (executor.start identity).stopping = false := going
    rw [same] at stopping
    cases stopping

/-- A caller that holds a check keeps the executor from stopping. -/
theorem submit (check : Nat) (guards : executor.Guards) : (executor.submit check).1.Guards := by
  unfold Executor.submit
  split
  case h_1 => exact guards
  rename_i submission found
  have going : executor.stopping = false := by
    cases stopping : executor.stopping with
    | false => rfl
    | true =>
        rw [guards.handed stopping] at found
        cases found
  let without : Executor := { executor with
    submissions := executor.submissions.filter fun other => other.check ≠ check }
  let progress := (Check.advance executor.environment submission.state).2
  have queue := (settle_keeps check progress without).1
  have stopping := (settle_entries check progress without).2.2.1
  constructor
  case closed =>
    rw [queue, stopping]
    change executor.queue.closed = (executor.stopping && _)
    rw [guards.isOpen going, going, Bool.false_and]
  case handed =>
    intro stops
    rw [stopping] at stops
    exact absurd (going.symm.trans stops) (by decide)

/-- The worker that takes an entry becomes the reason to wait in its place. -/
theorem take (guards : executor.Guards) : executor.take.Guards := by
  unfold Executor.take
  split
  case h_2 => exact guards
  rename_i response queue idle removed
  have sameClosed : queue.closed = executor.queue.closed := by
    unfold ResponseQueue.remove? at removed
    split at removed <;> simp_all
    rw [← removed.2]
  split
  case h_1 => exact ⟨sameClosed.trans guards.closed, guards.handed⟩
  rename_i entry found
  have waits : executor.isIdle = false := by
    have member := List.mem_of_find?_eq_some found
    simp [isIdle, List.ne_nil_of_mem member]
  refine ⟨?_, guards.handed⟩
  rw [sameClosed, guards.closed, waits]
  simp [isIdle, Worker.isResuming]

/-- The worker that settles a check has not looked around yet. -/
theorem work (guards : executor.Guards) : executor.work.1.Guards := by
  unfold Executor.work
  split
  case h_2 => exact guards
  rename_i entry answer held
  let resumed :=
    (Check.resume executor.environment entry.state entry.lookup.awaiting answer).2
  obtain ⟨queue, worker⟩ :=
    settle_keeps entry.check resumed { executor with worker := .settled }
  obtain ⟨_, _, stopping, submissions⟩ :=
    settle_entries entry.check resumed { executor with worker := .settled }
  constructor
  case closed =>
    rw [queue, isIdle, worker]
    change executor.queue.closed = _
    rw [guards.closed, isIdle, held]
    simp [Worker.isResuming]
  case handed =>
    intro stops
    rw [submissions]
    rw [stopping] at stops
    exact guards.handed stops

/-- The worker closes the queue when it looks around and nothing is under way. -/
theorem finish (guards : executor.Guards) : executor.finish.Guards := by
  unfold Executor.finish
  split
  case h_2 => exact guards
  rename_i settled
  have isOpen : executor.queue.closed = false := by
    rw [guards.closed, isIdle, settled]
    simp [Worker.isResuming]
  dsimp only
  split
  case isTrue stops => exact ⟨stops.symm, guards.handed⟩
  case isFalse waits => exact ⟨isOpen.trans (Bool.eq_false_iff.mpr waits).symm, guards.handed⟩

/-- Whoever drops the executor closes the queue if nothing is under way. -/
theorem drop (unheld : executor.submissions = []) (guards : executor.Guards) :
    executor.drop.Guards := by
  unfold Executor.drop
  dsimp only
  split
  case isTrue idle =>
    refine ⟨?_, fun _ => unheld⟩
    change true = (true && { executor with stopping := true }.isIdle)
    rw [idle, Bool.and_self]
  case isFalse busy =>
    have waits : executor.isIdle = false := Bool.eq_false_iff.mpr busy
    refine ⟨?_, fun _ => unheld⟩
    change executor.queue.closed = (true && executor.isIdle)
    rw [guards.closed, waits, Bool.and_false, Bool.and_false]

/-- A listener that comes keeps nobody waiting. -/
theorem listen (check : Nat) (listener : Listener) (guards : executor.Guards) :
    (executor.listen check listener).1.Guards := by
  unfold Executor.listen Executor.changePromise
  split
  · exact guards
  · exact { guards with }

/-- A response comes, and the worker uses it. -/
theorem deliver (id : Nat) (answer : Dns.Answer) (guards : executor.Guards) :
    (executor.deliver id answer).1.Guards := by
  have responded : (executor.respond id answer).Guards := { guards with }
  exact responded.take.work.finish

/-- Every action that is allowed keeps the guard. -/
theorem perform (action : Action) (allowed : executor.Allows action)
    (guards : executor.Guards) : (executor.perform action).1.Guards := by
  cases action with
  | start identity => exact guards.start identity allowed
  | submit check => exact guards.submit check
  | respond id answer => exact { guards with }
  | take => exact guards.take
  | work => exact guards.work
  | finish => exact guards.finish
  | begin identity => exact (guards.start identity allowed).submit _
  | deliver id answer => exact guards.deliver id answer
  | status check => exact guards
  | listen check listener => exact guards.listen check listener
  | drop => exact guards.drop allowed

/-- An orderly schedule keeps the guard. -/
theorem performAll (schedule : List Action) (orderly : IsOrderly schedule executor)
    (guards : executor.Guards) : (executor.performAll schedule).Guards := by
  induction schedule generalizing executor with
  | nil => exact guards
  | cons action schedule inductionHypothesis =>
      obtain ⟨allowed, rest⟩ := orderly
      exact inductionHypothesis rest (guards.perform action allowed)

end Guards

/-! ## Draining -/

section
variable {environment : Environment} {answer : Dns.Question → Dns.Answer}

/-- A check that waits needs as many answers as its run has questions left. -/
theorem remaining_eq_length (entry : Entry) :
    Entry.remaining environment answer entry
      = (remainder environment answer (.waiting entry.state entry.lookup)).questions.length := by
  have counted : ∀ (events : List Check.Event) (test : Check.Event → Bool),
      (∀ event, test event = event.question?.isSome) →
        (events.filter test).length = (events.filterMap Check.Event.question?).length := by
    intro events test same
    rw [funext same, List.length_filterMap_eq_countP, List.countP_eq_length_filter]
  unfold Entry.remaining remainder
  rw [← Check.filterMap_question?_converse]
  exact counted _ _ fun event => by cases event <;> rfl

theorem remaining_eq_sum (executor : Executor) :
    executor.remaining answer
      = (executor.entries.map (Entry.remaining executor.environment answer)).sum := by
  have folded : ∀ (entries : List Entry) (start : Nat),
      entries.foldl
          (fun total entry => total + Entry.remaining executor.environment answer entry) start
        = start + (entries.map (Entry.remaining executor.environment answer)).sum := by
    intro entries
    induction entries with
    | nil => simp
    | cons entry entries inductionHypothesis =>
        intro start
        rw [List.foldl_cons, inductionHypothesis, List.map_cons, List.sum_cons, Nat.add_assoc]
  rw [remaining, folded, Nat.zero_add]

/-- An answer lowers the number of answers that a check needs by one. -/
theorem remaining_resume (entry : Entry) (id check : Nat) :
    Entry.remaining environment answer entry
      = ((entryOf id check (Check.resume environment entry.state entry.lookup.awaiting
          (answer entry.lookup.question)).2).map (Entry.remaining environment answer)).sum + 1 := by
  rw [remaining_eq_length, Check.remainder_waiting, List.length_cons, Check.resume_eq_pause]
  congr 1
  generalize (Check.receiveTurn environment entry.state entry.lookup.awaiting
    (answer entry.lookup.question)).position = next
  obtain ⟨same, ended⟩ := @Position.remainder_pause environment answer next
  rw [← same]
  generalize next.pause environment = progress at ended
  cases progress with
  | finished last =>
      rw [Check.Progress.position, Check.remainder_finished (ended last rfl)]
      rfl
  | waiting state lookup => simp [entryOf, remaining_eq_length, Check.Progress.position]

end

/-- The worker that gets an answer for the oldest entry puts its check at the end, or sets
its outcome. -/
theorem Rests.deliver_first {executor : Executor} {entry : Entry} {others : List Entry}
    (rests : executor.Rests) (conserves : executor.Conserves [])
    (entries : executor.entries = entry :: others) (answer : Dns.Answer) :
    let progress :=
      (Check.resume executor.environment entry.state entry.lookup.awaiting answer).2
    let after := (executor.deliver entry.id answer).1
    after.entries = others ++ entryOf executor.nextId entry.check progress
      ∧ after.environment = executor.environment
      ∧ after.stopping = executor.stopping := by
  intro progress after
  have taken : (executor.respond entry.id answer).take
      = { executor with
          queue := { executor.queue with responses := [] }
          entries := others
          worker := .holding entry answer } := by
    obtain ⟨unique, _⟩ := List.nodup_cons.mp (entries ▸ conserves.distinct)
    have kept : others.filter (fun other => other.id ≠ entry.id) = others := by
      apply List.filter_eq_self.mpr
      intro other member
      have different : other.id ≠ entry.id := fun same => unique (same ▸ List.mem_map_of_mem member)
      simp [different]
    simp only [respond, take, ResponseQueue.insert, ResponseQueue.remove?, rests.queue,
      rests.worker, List.nil_append, entries, List.find?_cons, List.filter_cons, kept,
      decide_true, ne_eq, not_true_eq_false, decide_false, Bool.false_eq_true, if_false]
  obtain ⟨placed, environment, stopping, _⟩ := settle_entries entry.check progress
    { executor with
      queue := { executor.queue with responses := [] }
      entries := others
      worker := .settled }
  have worked : (executor.respond entry.id answer).take.work.1
      = (Executor.settle entry.check progress { executor with
          queue := { executor.queue with responses := [] }
          entries := others
          worker := .settled }).1 := by
    rw [taken]
    rfl
  rw [← worked] at placed environment stopping
  obtain ⟨_, sameEntries, _, sameEnvironment, sameStopping⟩ :=
    finish_keeps (executor.respond entry.id answer).take.work.1
  exact ⟨sameEntries.trans placed, sameEnvironment.trans environment,
    sameStopping.trans stopping⟩

/-! ## Stopping -/

/-- The number of checks that have been started changes when a check is started. -/
theorem length_promises_settle (check : Nat) (progress : Check.Progress) (executor : Executor) :
    (executor.settle check progress).1.promises.length = executor.promises.length := by
  unfold settle changePromise
  grind

theorem length_promises_submit (check : Nat) (executor : Executor) :
    (executor.submit check).1.promises.length = executor.promises.length := by
  unfold submit
  split
  · rfl
  · exact length_promises_settle ..

theorem length_promises_work (executor : Executor) :
    executor.work.1.promises.length = executor.promises.length := by
  unfold work
  split
  · exact length_promises_settle ..
  · rfl

/-- An action starts the check that it names, and no other. -/
theorem length_promises_perform (action : Action) (executor : Executor) :
    (executor.perform action).1.promises.length
      = executor.promises.length + action.identity?.toList.length := by
  cases action with
  | start identity => simp [perform, start, Action.identity?]
  | submit check => exact length_promises_submit check executor
  | respond id answer => rfl
  | take => exact congrArg _ executor.promises_take
  | work => exact executor.length_promises_work
  | finish => exact congrArg _ executor.finish_keeps.1
  | begin identity =>
      simp [perform, begin, start, length_promises_submit, Action.identity?]
  | deliver id answer =>
      have finished := (executor.respond id answer).take.work.1.finish_keeps.1
      change (executor.respond id answer).take.work.1.finish.promises.length = _
      rw [finished, length_promises_work, promises_take]
      rfl
  | status check => rfl
  | listen check listener =>
      simp only [perform, listen, changePromise, Action.identity?]
      split
      · rfl
      · simp
  | drop =>
      simp only [perform, drop, Action.identity?]
      split <;> rfl

/-- A schedule starts the checks of its identities. -/
theorem length_promises_performAll (schedule : List Action) (executor : Executor) :
    (executor.performAll schedule).promises.length
      = executor.promises.length + (started schedule).length := by
  induction schedule generalizing executor with
  | nil => rfl
  | cons action schedule inductionHypothesis =>
      rw [performAll, inductionHypothesis, length_promises_perform]
      cases named : action.identity? <;> simp [started, named]
      omega

/-- Nothing is left of an executor that was to stop. -/
structure HasStopped (executor : Executor) : Prop where
  entries : executor.entries = []
  closed : executor.queue.closed = true
  outcomes : ∀ check < executor.promises.length, (executor.outcome? check).isSome

/-- An executor that is to stop and has no check under way has stopped. -/
theorem Conserves.hasStopped {executor : Executor} (conserves : executor.Conserves [])
    (guards : executor.Guards) (stopping : executor.stopping = true)
    (entries : executor.entries = []) (idle : executor.worker.isResuming = false) :
    executor.HasStopped where
  entries := entries
  closed := by rw [guards.closed, stopping, isIdle, entries, idle]; rfl
  outcomes := by
    intro check bound
    have held : executor.worker.entries = [] := by
      cases worker : executor.worker with
      | idle => rfl
      | settled => rfl
      | holding entry answer =>
          rw [worker] at idle
          cases idle
    have nothing : executor.unfinished = [] := by
      simp [unfinished, guards.handed stopping, entries, held]
    have promised : executor.promise? check = some executor.promises[check] :=
      List.getElem?_eq_getElem bound
    have ready := conserves.isReady_of_unfinished nothing _ (List.getElem_mem bound)
    rw [outcome?, promised, Option.bind_some]
    exact ready

/-- Whatever the answers are, enough of them stop an executor that is to stop. The
induction is on the number of answers that are still needed. -/
theorem Rests.hasStopped_drainWith {answer : Dns.Question → Dns.Answer} (count : Nat)
    {executor : Executor} (rests : executor.Rests) (conserves : executor.Conserves [])
    (guards : executor.Guards) (stopping : executor.stopping = true)
    (enough : executor.remaining answer ≤ count) :
    let last := (drainWith answer count executor).1
    last.HasStopped ∧ last.promises.length = executor.promises.length := by
  have idle : executor.worker.isResuming = false := by rw [rests.worker]; rfl
  induction count generalizing executor with
  | zero =>
      have entries : executor.entries = [] := by
        cases entries : executor.entries with
        | nil => rfl
        | cons entry others =>
            rw [remaining_eq_sum, entries, List.map_cons, List.sum_cons,
              remaining_resume entry 0 0] at enough
            omega
      exact ⟨conserves.hasStopped guards stopping entries idle, rfl⟩
  | succ count inductionHypothesis =>
      cases entries : executor.entries with
      | nil =>
          have done : drainWith answer (count + 1) executor = (executor, []) := by
            simp only [drainWith, entries]
          rw [done]
          exact ⟨conserves.hasStopped guards stopping entries idle, rfl⟩
      | cons entry others =>
          simp only [drainWith, entries]
          obtain ⟨placed, environment, kept⟩ :=
            rests.deliver_first conserves entries (answer entry.lookup.question)
          have delivered :=
            rests.perform (.deliver entry.id (answer entry.lookup.question)) trivial
          have needed : (executor.deliver entry.id (answer entry.lookup.question)).1.remaining
              answer ≤ count := by
            rw [remaining_eq_sum, entries, List.map_cons, List.sum_cons,
              remaining_resume entry executor.nextId entry.check] at enough
            rw [remaining_eq_sum, placed, environment, List.map_append, List.sum_append]
            omega
          have length := length_promises_perform
            (.deliver entry.id (answer entry.lookup.question)) executor
          obtain ⟨stopped, same⟩ := inductionHypothesis delivered
            (conserves.deliver entry.id _) (guards.deliver entry.id _)
            (kept.trans stopping) needed (by rw [delivered.worker]; rfl)
          exact ⟨stopped, same.trans length⟩

/-- Dropping an executor at rest and answering what is outstanding stops it. -/
theorem Rests.hasStopped_drain {executor : Executor} (rests : executor.Rests)
    (answer : Dns.Question → Dns.Answer) (conserves : executor.Conserves [])
    (guards : executor.Guards) (unheld : executor.submissions = []) :
    let last := (executor.drain answer).1
    last.HasStopped ∧ last.promises.length = executor.promises.length := by
  have stopping : executor.drop.stopping = true := by
    unfold Executor.drop
    grind
  have dropped := rests.perform .drop trivial
  have length := length_promises_perform .drop executor
  obtain ⟨stopped, same⟩ := dropped.hasStopped_drainWith _ conserves.drop (guards.drop unheld)
    stopping (Nat.le_refl _)
  exact ⟨stopped, same.trans length⟩

/-! ## Catching up -/

/-- What the worker does by itself: it finishes its work and takes a number of responses. -/
def catchUp : Nat → List Action
  | 0 => [.work, .finish]
  | count + 1 => .work :: .finish :: .take :: catchUp count

/-- The worker by itself starts no check and drops nothing. -/
theorem isOrderly_catchUp (count : Nat) (executor : Executor) :
    IsOrderly (catchUp count) executor := by
  induction count generalizing executor with
  | zero => exact ⟨trivial, trivial, trivial⟩
  | succ count inductionHypothesis => exact ⟨trivial, trivial, trivial, inductionHypothesis _⟩

theorem started_catchUp (count : Nat) : started (catchUp count) = [] := by
  induction count with
  | zero => rfl
  | succ count inductionHypothesis => exact inductionHypothesis

theorem submissions_work (executor : Executor) :
    executor.work.1.submissions = executor.submissions := by
  unfold work
  split
  · exact (settle_entries ..).2.2.2
  · rfl

theorem submissions_take (executor : Executor) :
    executor.take.submissions = executor.submissions := by
  unfold take
  grind

/-- A caller that hands its check over at once holds none. -/
theorem submissions_begin {executor : Executor} (identity : Identity)
    (unheld : executor.submissions = []) : (executor.begin identity).1.submissions = [] := by
  have started : (executor.start identity).submissions
      = [⟨executor.promises.length, Check.State.start identity⟩] := by
    simp [start, unheld]
  simp only [begin, submit, started, List.find?_singleton, decide_true, if_true]
  rw [(settle_entries ..).2.2.2]
  simp

/-- The worker that takes a response leaves those behind it. -/
theorem responses_take {executor : Executor} {response : Response} {responses : List Response}
    (idle : executor.worker = .idle) (waiting : executor.queue.responses = response :: responses) :
    executor.take.queue.responses = responses := by
  simp only [take, idle, ResponseQueue.remove?, waiting]
  split <;> rfl

/-- The worker that has caught up with the responses rests, and no caller has come. -/
theorem rests_catchUp {count : Nat} {executor : Executor}
    (length : executor.queue.responses.length = count) :
    (executor.performAll (catchUp count)).Rests
      ∧ (executor.performAll (catchUp count)).submissions = executor.submissions := by
  have worked : executor.work.1.finish.submissions = executor.submissions :=
    (finish_keeps _).2.2.1.trans executor.submissions_work
  obtain ⟨idle, responses⟩ := finish_work executor
  induction count generalizing executor with
  | zero => exact ⟨⟨responses.trans (List.eq_nil_of_length_eq_zero length), idle⟩, worked⟩
  | succ count inductionHypothesis =>
      obtain ⟨response, later, waiting⟩ := List.exists_cons_of_length_eq_add_one length
      have left := responses_take idle (responses.trans waiting)
      have fewer : executor.work.1.finish.take.queue.responses.length = count := by
        rw [left]
        rw [waiting, List.length_cons] at length
        omega
      obtain ⟨rests, same⟩ := inductionHypothesis fewer
        ((finish_keeps _).2.2.1.trans (submissions_work _)) (finish_work _).1 (finish_work _).2
      exact ⟨rests, same.trans ((submissions_take _).trans worked)⟩

/-! ## Orderly schedules -/

/-- After an orderly schedule, whatever the responses were, the queue is closed exactly while
the executor is to stop and no check is under way, requests have numbers of their own, and
every check that has been started is in one place. Outcomes stay, and a response to a request
that is not outstanding changes nothing. Once the checks under way at a drop have been
answered all checks have their outcomes and the queue is closed, and enough answers bring
this about. -/
theorem performAll_conserves (environment : Environment) (schedule : List Action)
    (orderly : IsOrderly schedule { environment }) :
    let executor := performAll schedule { environment }
    let checks := (started schedule).length
    (executor.queue.closed = true
        ↔ executor.stopping = true ∧ executor.entries = [] ∧ executor.worker.isResuming = false)
      ∧ (executor.entries.map Entry.id).Nodup
      ∧ (∀ check, executor.places check = if check < checks then 1 else 0)
      ∧ (executor.queue.closed = true → ∀ check < checks, (executor.outcome? check).isSome)
      ∧ (∀ check outcome later, executor.outcome? check = some outcome →
          (executor.performAll later).outcome? check = some outcome)
      ∧ (∀ response queue, executor.worker = .idle →
          executor.queue.remove? = some (response, queue) →
            executor.question? response.id = none → executor.take = { executor with queue })
      ∧ (executor.stopping = true → executor.entries = [] → executor.worker = .idle →
          executor.queue.closed = true ∧ ∀ check < checks, (executor.outcome? check).isSome)
      ∧ (executor.submissions = [] → ∀ answer : Dns.Question → Dns.Answer,
          let caughtUp := executor.performAll (catchUp executor.queue.responses.length)
          let last := (caughtUp.drain answer).1
          last.entries = [] ∧ last.queue.closed = true
            ∧ ∀ check < checks, (last.outcome? check).isSome) := by
  intro executor checks
  have conserves : executor.Conserves [] := (Conserves.empty environment).performAll schedule
  have guards : executor.Guards := (Guards.empty environment).performAll schedule orderly
  have length : executor.promises.length = checks := by
    have total := length_promises_performAll schedule { environment }
    rwa [List.length_nil, Nat.zero_add] at total
  have closedIff : executor.queue.closed = true
      ↔ executor.stopping = true ∧ executor.entries = []
        ∧ executor.worker.isResuming = false := by
    rw [guards.closed, isIdle]
    simp
  refine ⟨closedIff, conserves.distinct, length ▸ conserves.places_eq, ?closed, ?stays,
    ?unknown, ?stopped, ?drained⟩
  case closed =>
    intro closed
    obtain ⟨stopping, entries, idle⟩ := closedIff.mp closed
    exact length ▸ (conserves.hasStopped guards stopping entries idle).outcomes
  case stays =>
    intro check outcome later known
    exact outcome?_performAll later known
  case unknown =>
    intro response queue idle removed unknown
    exact take_of_question? idle removed unknown
  case stopped =>
    intro stopping entries idle
    have stopped := conserves.hasStopped guards stopping entries (by rw [idle]; rfl)
    exact ⟨stopped.closed, length ▸ stopped.outcomes⟩
  case drained =>
    intro unheld answer
    obtain ⟨rests, same⟩ := @rests_catchUp _ executor rfl
    let caughtUp := catchUp executor.queue.responses.length
    have begun := length_promises_performAll caughtUp executor
    rw [started_catchUp, List.length_nil, Nat.add_zero, length] at begun
    obtain ⟨stopped, kept⟩ := rests.hasStopped_drain answer (conserves.performAll caughtUp)
      (guards.performAll caughtUp (isOrderly_catchUp ..)) (same.trans unheld)
    exact ⟨stopped.entries, stopped.closed, (kept.trans begun) ▸ stopped.outcomes⟩

/-- A check whose executor is dropped while the worker holds it, between answers to nobody
and an answer that comes twice. -/
def hurried : List Action :=
  [.begin (caller "a.example".toList), .respond 7 (.timeout []), .take,
    .respond 0 (.records []), .respond 0 (.timeout []), .take, .drop, .work, .finish, .take]

theorem performAll_conserves_hurried :
    IsOrderly hurried { environment := {} }
      ∧ let executor := performAll hurried { environment := {} }
        (executor.queue.closed = true
            ↔ executor.stopping = true ∧ executor.entries = []
              ∧ executor.worker.isResuming = false)
          ∧ ∀ check, executor.places check = if check < 1 then 1 else 0 := by
  have orderly : IsOrderly hurried { environment := {} } := by
    refine ⟨rfl, trivial, trivial, trivial, trivial, trivial, ?_, trivial, trivial, trivial,
      trivial⟩
    exact (submissions_take _).trans ((submissions_take _).trans (submissions_begin _ rfl))
  obtain ⟨closedIff, _, conserved, _⟩ := performAll_conserves {} hurried orderly
  exact ⟨orderly, closedIff, conserved⟩

end Executor

end SenderPolicy.Staged
