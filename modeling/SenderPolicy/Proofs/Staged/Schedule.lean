import SenderPolicy.Staged.Executor

/-!
# Schedules of the staged executor

A schedule says what callers, resolvers and the worker do, one action after the other and
in any order. `performAll` runs it, and `questionsOf` picks out the lookups of one check:
those whose request stands in the table of entries under that check.

Anyone may respond to any number with any answer. `IsHonest` asks for one thing: a response
that the worker takes for an outstanding request has the answer of the zone.
-/

namespace SenderPolicy.Staged

/-- Something that a caller, a resolver or the worker does. -/
inductive Action where
  | start (identity : Identity)
  | submit (check : Nat)
  | respond (id : Nat) (answer : Dns.Answer)
  | take
  | work
  | finish
  | begin (identity : Identity)
  | deliver (id : Nat) (answer : Dns.Answer)
  | status (check : Nat)
  | listen (check : Nat) (listener : Listener)
  | drop

/-- The actions that leave nothing for later. -/
def Action.IsRound : Action → Prop
  | .respond _ _ | .take | .work | .finish => False
  | _ => True

/-- The identity that an action starts a check of. -/
def Action.identity? : Action → Option Identity
  | .start identity | .begin identity => some identity
  | _ => none

/-- The identities of the checks that a schedule starts, in order. -/
def started (schedule : List Action) : List Identity :=
  schedule.filterMap Action.identity?

/-- The entry that the worker has taken. -/
def Worker.entries : Worker → List Entry
  | .holding entry _ => [entry]
  | _ => []

namespace Executor

/-- Do what an action says. Reading the status of a check changes nothing. -/
def perform : Action → Executor → Executor × List Effect
  | .start identity, executor => (executor.start identity, [])
  | .submit check, executor => executor.submit check
  | .respond id answer, executor => (executor.respond id answer, [])
  | .take, executor => (executor.take, [])
  | .work, executor => executor.work
  | .finish, executor => (executor.finish, [])
  | .begin identity, executor => executor.begin identity
  | .deliver id answer, executor => executor.deliver id answer
  | .status _, executor => (executor, [])
  | .listen check listener, executor => executor.listen check listener
  | .drop, executor => (executor.drop, [])

/-- The executor after a schedule. -/
def performAll : List Action → Executor → Executor
  | [], executor => executor
  | action :: schedule, executor => performAll schedule (executor.perform action).1

/-- The check that waits for the answer to a request. -/
def owner? (executor : Executor) (id : Nat) : Option Nat :=
  (executor.entries.find? fun entry => entry.id = id).map Entry.check

/-- The question of an effect, if it is a lookup of a check. -/
def lookupOf? (executor : Executor) (check : Nat) : Effect → Option Dns.Question
  | .lookup id question => if executor.owner? id = some check then some question else none
  | .notice _ => none

/-- The questions that a check submits lookups for in a schedule, in order. -/
def questionsOf (check : Nat) : List Action → Executor → List Dns.Question
  | [], _ => []
  | action :: schedule, executor =>
      let (after, effects) := executor.perform action
      effects.filterMap (after.lookupOf? check) ++ questionsOf check schedule after

/-- The checks that somebody holds: a caller, the table of entries, or the worker. -/
def unfinished (executor : Executor) : List Nat :=
  executor.submissions.map Submission.check
    ++ (executor.entries ++ executor.worker.entries).map Entry.check

/-! ## Honest schedules -/

/-- If the worker can take a response to an outstanding request, it has the answer of the
zone. -/
def Answers (zone : Dns.Question → Dns.Answer) (executor : Executor) : Prop :=
  ∀ response queue question, executor.queue.remove? = some (response, queue) →
    executor.question? response.id = some question → response.answer = zone question

/-- The worker can take only answers of the zone in an action. -/
def Permits (zone : Dns.Question → Dns.Answer) (executor : Executor) : Action → Prop
  | .take => executor.Answers zone
  | .deliver id answer => (executor.respond id answer).Answers zone
  | _ => True

/-- In a schedule each outstanding request is answered with the answer of the zone. -/
def IsHonest (zone : Dns.Question → Dns.Answer) : List Action → Executor → Prop
  | [], _ => True
  | action :: schedule, executor =>
      executor.Permits zone action ∧ IsHonest zone schedule (executor.perform action).1

/-! ## Rounds -/

/-- No response is left over, and the worker has nothing to do. -/
structure Rests (executor : Executor) : Prop where
  queue : executor.queue.responses = []
  worker : executor.worker = .idle

theorem settle_keeps (check : Nat) (progress : Check.Progress) (executor : Executor) :
    (executor.settle check progress).1.queue = executor.queue
      ∧ (executor.settle check progress).1.worker = executor.worker := by
  unfold settle changePromise
  grind

/-- After its work and a look around the worker is idle. -/
theorem finish_work (executor : Executor) :
    executor.work.1.finish.worker = .idle
      ∧ executor.work.1.finish.queue.responses = executor.queue.responses := by
  have looked : ∀ after : Executor, after.worker = .settled →
      after.finish.worker = .idle ∧ after.finish.queue.responses = after.queue.responses := by
    intro after settled
    simp only [finish, settled]
    split <;> exact ⟨rfl, rfl⟩
  unfold work
  cases held : executor.worker with
  | idle =>
      simp only [finish, held]
      exact ⟨trivial, trivial⟩
  | settled => exact looked executor held
  | holding entry answer =>
      obtain ⟨queue, worker⟩ := settle_keeps entry.check
        (Check.resume executor.environment entry.state entry.lookup.awaiting answer).2
        { executor with worker := .settled }
      have last := looked _ worker
      rw [queue] at last
      exact last

/-- A response that finds the executor at rest is taken. -/
theorem Rests.take_respond {executor : Executor} (rests : executor.Rests) (id : Nat)
    (answer : Dns.Answer) : (executor.respond id answer).take.queue.responses = [] := by
  simp only [respond, take, ResponseQueue.insert, ResponseQueue.remove?, rests.queue, rests.worker,
    List.nil_append]
  split <;> rfl

/-- Settling a check asks nothing of the worker. -/
theorem Rests.settle {executor : Executor} (rests : executor.Rests) (check : Nat)
    (progress : Check.Progress) : (executor.settle check progress).1.Rests := by
  obtain ⟨queue, worker⟩ := settle_keeps check progress executor
  exact ⟨queue ▸ rests.queue, worker ▸ rests.worker⟩

/-- A caller that runs its check asks nothing of the worker. -/
theorem Rests.submit {executor : Executor} (rests : executor.Rests) (check : Nat) :
    (executor.submit check).1.Rests := by
  unfold Executor.submit
  split
  · exact rests
  · have without : { executor with
        submissions := executor.submissions.filter fun other => other.check ≠ check }.Rests :=
      ⟨rests.queue, rests.worker⟩
    exact without.settle ..

/-- Rounds leave nothing over. -/
theorem Rests.perform {executor : Executor} (rests : executor.Rests) (action : Action)
    (round : action.IsRound) : (executor.perform action).1.Rests := by
  cases action with
  | start identity => exact ⟨rests.queue, rests.worker⟩
  | submit check => exact rests.submit check
  | begin identity =>
      have begun : (executor.start identity).Rests := ⟨rests.queue, rests.worker⟩
      exact begun.submit _
  | deliver id answer =>
      obtain ⟨worker, queue⟩ := finish_work (executor.respond id answer).take
      exact ⟨queue.trans (rests.take_respond id answer), worker⟩
  | status check => exact rests
  | listen check listener =>
      simp only [Executor.perform, listen, changePromise]
      split
      · exact rests
      · exact ⟨rests.queue, rests.worker⟩
  | drop =>
      simp only [Executor.perform, drop]
      split
      · exact ⟨rests.queue, rests.worker⟩
      · exact ⟨rests.queue, rests.worker⟩
  | respond id answer => cases round
  | take => cases round
  | work => cases round
  | finish => cases round

/-- In a round a delivery is honest if it has the answer to the question of its request, or
if there is no such request. -/
theorem Rests.permits_deliver {executor : Executor} (rests : executor.Rests)
    (zone : Dns.Question → Dns.Answer) (id : Nat) (answer : Dns.Answer) :
    executor.Permits zone (.deliver id answer)
      ↔ ∀ question, executor.question? id = some question → answer = zone question := by
  have front : (executor.respond id answer).queue.remove?
      = some (⟨id, answer⟩, { executor.queue with responses := [] }) := by
    simp [respond, ResponseQueue.insert, ResponseQueue.remove?, rests.queue]
  constructor
  · intro permitted question asked
    exact permitted ⟨id, answer⟩ _ question front asked
  · intro honest response queue question removed asked
    rw [front] at removed
    cases removed
    exact honest question asked

end Executor

end SenderPolicy.Staged
