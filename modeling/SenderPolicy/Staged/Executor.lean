import SenderPolicy.Check.Run
import SenderPolicy.Staged.Promise
import SenderPolicy.Staged.Queue

/-!
# The staged executor

The staged executor keeps checks while their questions are outstanding, so that many
checks can wait at the same time. A caller begins a check and runs it until its first
question; a single worker takes the responses from the queue, one by one, and goes on with
the checks they belong to. Dropping the executor lets the checks it has finish first.

The small steps are `start`, `submit`, `respond`, `take`, `work`, `finish` and `drop`.
`begin` and `deliver` put them together for callers and resolvers that wait for each
other, and `drain` answers everything that is outstanding.

Each small step is taken as a whole, so no locks appear, and whoever has to wait takes a
step later: a caller while too many requests are outstanding, the worker while the queue is
empty. Requests are numbered without end.
-/

namespace SenderPolicy.Staged

open SenderPolicy.Check (Environment Lookup Outcome Progress State)

/-- A check that waits for an answer. -/
structure Entry where
  id : Nat
  check : Nat
  state : State
  lookup : Lookup

/-- What the worker is doing. -/
inductive Worker where
  | idle
  /-- It has taken an entry and its answer. -/
  | holding (entry : Entry) (answer : Dns.Answer)
  /-- It has put the check back or set its outcome, but has not looked around since. -/
  | settled

/-- A check that its caller has not handed over yet. -/
structure Submission where
  check : Nat
  state : State

/-- What the outside sees of the executor's work. -/
inductive Effect where
  | lookup (id : Nat) (question : Dns.Question)
  | notice (notice : Notice)

/-- The executor and everything that its checks wait for. -/
structure Executor where
  environment : Environment
  nextId : Nat := 0
  /-- Checks that wait for an answer, in order of their requests. -/
  entries : List Entry := []
  /-- Checks that their callers have not handed over yet. -/
  submissions : List Submission := []
  queue : ResponseQueue := {}
  worker : Worker := .idle
  stopping : Bool := false
  /-- The promised outcomes of all checks, in order of their start. -/
  promises : List Promise := []

/-- The worker has taken an entry and has not finished with it. -/
def Worker.isResuming : Worker → Bool
  | .idle => false
  | _ => true

namespace Executor

/-- No check waits for an answer or is being gone on with. -/
def isIdle (executor : Executor) : Bool :=
  executor.entries.isEmpty && !executor.worker.isResuming

/-- The promise of a check. -/
def promise? (executor : Executor) (check : Nat) : Option Promise :=
  executor.promises[check]?

/-- Change the promise of a check. Listeners of the executor's promises panic with messages,
which can be let go, so no panic goes up from the change. -/
def changePromise (check : Nat) (change : Promise → Promise × Execution)
    (executor : Executor) : Executor × List Effect :=
  match executor.promise? check with
  | none => (executor, [])
  | some promise =>
      let (after, execution) := change promise
      ({ executor with promises := executor.promises.set check after },
        execution.notices.map .notice)

/-- Keep a check until its answer comes, or set its outcome. -/
def settle (check : Nat) (progress : Progress) (executor : Executor) :
    Executor × List Effect :=
  match progress with
  | .finished state => executor.changePromise check (Promise.fulfil letGo (Outcome.ofState state))
  | .waiting state lookup =>
      let id := executor.nextId
      ({ executor with
          nextId := id + 1
          entries := executor.entries ++ [⟨id, check, state, lookup⟩] },
        [.lookup id lookup.question])

/-! ## Small steps -/

/-- A caller starts a check of an identity. -/
def start (identity : Identity) (executor : Executor) : Executor :=
  let check := executor.promises.length
  { executor with
    submissions := executor.submissions ++ [⟨check, State.start identity⟩]
    promises := executor.promises ++ [{}] }

/-- A caller runs the check it holds until the first question, and hands it over. -/
def submit (check : Nat) (executor : Executor) : Executor × List Effect :=
  match executor.submissions.find? fun submission => submission.check = check with
  | none => (executor, [])
  | some submission =>
      let submissions := executor.submissions.filter fun other => other.check ≠ check
      { executor with submissions }.settle check
        (Check.advance executor.environment submission.state).2

/-- A response comes in. -/
def respond (id : Nat) (answer : Dns.Answer) (executor : Executor) : Executor :=
  { executor with queue := executor.queue.insert ⟨id, answer⟩ }

/-- The worker takes the next response and the entry it belongs to. A response to a
request that is not outstanding is dropped. -/
def take (executor : Executor) : Executor :=
  match executor.worker, executor.queue.remove? with
  | .idle, some (response, queue) =>
      match executor.entries.find? fun entry => entry.id = response.id with
      | none => { executor with queue }
      | some entry =>
          { executor with
            queue
            entries := executor.entries.filter fun other => other.id ≠ response.id
            worker := .holding entry response.answer }
  | _, _ => executor

/-- The worker goes on with the check it holds. -/
def work (executor : Executor) : Executor × List Effect :=
  match executor.worker with
  | .holding entry answer =>
      { executor with worker := .settled }.settle entry.check
        (Check.resume executor.environment entry.state entry.lookup.awaiting answer).2
  | _ => (executor, [])

/-- The worker looks around after its work, and closes the queue if it may stop. -/
def finish (executor : Executor) : Executor :=
  match executor.worker with
  | .settled =>
      let after := { executor with worker := .idle }
      if after.stopping && after.isIdle then
        { after with queue := after.queue.close }
      else
        after
  | _ => executor

/-- The executor is to stop as soon as all its checks are finished. -/
def drop (executor : Executor) : Executor :=
  let after := { executor with stopping := true }
  if after.isIdle then { after with queue := after.queue.close } else after

/-- A listener is registered with a check. -/
def listen (check : Nat) (listener : Listener) (executor : Executor) :
    Executor × List Effect :=
  executor.changePromise check (Promise.listen letGo listener)

/-! ## Whole rounds -/

/-- Start a check and run it until its first question. -/
def begin (identity : Identity) (executor : Executor) : Executor × List Effect :=
  (executor.start identity).submit executor.promises.length

/-- Give an answer and let the worker use it. -/
def deliver (id : Nat) (answer : Dns.Answer) (executor : Executor) :
    Executor × List Effect :=
  let (after, effects) := (executor.respond id answer).take.work
  (after.finish, effects)

/-- The question of an outstanding request. -/
def question? (executor : Executor) (id : Nat) : Option Dns.Question :=
  (executor.entries.find? fun entry => entry.id = id).map fun entry => entry.lookup.question

/-- A request has been made at some time. -/
def hasAsked (executor : Executor) : Bool :=
  0 < executor.nextId

/-! ## Draining -/

/-- The number of answers that a check still needs from a resolver. -/
def Entry.remaining (environment : Environment) (answer : Dns.Question → Dns.Answer)
    (entry : Entry) : Nat :=
  ((Check.converse environment (fun _ => answer) [] (.waiting entry.state entry.lookup)).1.filter
    fun event =>
      match event with
      | .ask _ => true
      | _ => false).length

/-- The number of answers that all outstanding checks still need. -/
def remaining (answer : Dns.Question → Dns.Answer) (executor : Executor) : Nat :=
  executor.entries.foldl
    (fun total entry => total + Entry.remaining executor.environment answer entry) 0

/-- Answer outstanding requests, the oldest first, at most a number of times. -/
def drainWith (answer : Dns.Question → Dns.Answer) :
    Nat → Executor → Executor × List (Nat × List Effect)
  | 0, executor => (executor, [])
  | count + 1, executor =>
      match executor.entries with
      | [] => (executor, [])
      | entry :: _ =>
          let (after, effects) := executor.deliver entry.id (answer entry.lookup.question)
          let (last, rest) := drainWith answer count after
          (last, (entry.id, effects) :: rest)

/-- Drop the executor and answer all outstanding requests until none is left, the oldest
first. -/
def drain (answer : Dns.Question → Dns.Answer) (executor : Executor) :
    Executor × List (Nat × List Effect) :=
  let dropped := executor.drop
  drainWith answer (dropped.remaining answer) dropped

end Executor

end SenderPolicy.Staged
