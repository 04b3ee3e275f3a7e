import SenderPolicy.Proofs.Check.Stack.Shape
import SenderPolicy.Proofs.Staged.Conservation

/-!
# Checks in the staged executor are rows of turns

Wherever the staged executor keeps a check, the check stands at a position that turns lead to
from its start, under whatever answers have come; and every outcome is that of a check that
turns have led to its end. So what is known of all rows of turns is known of the checks in both
executors, the shape of the stack and the result among it.
-/

namespace SenderPolicy.Check

/-- A check of some identity comes to a position under some answers. -/
def Position.IsReached (environment : Environment) (position : Position) : Prop :=
  ∃ identity left, Position.Steps environment (fun _ _ => True)
    (.running (State.start identity)) left position

section
variable {environment : Environment} {permitted : Dns.Question → Dns.Answer → Prop}

/-- Turns lead to the position where a check pauses. -/
theorem Position.steps_pause (environment : Environment)
    (permitted : Dns.Question → Dns.Answer → Prop) (position : Position) :
    (∃ left, Steps environment permitted position left (position.pause environment).position)
      ∧ ∀ last, position.pause environment = .finished last → last.tasks = [] := by
  refine ⟨?_, (@Position.remainder_pause environment (fun _ => .records []) position).2⟩
  induction position using Position.precedes_wellFounded.induction with
  | h position inductionHypothesis =>
      cases position with
      | waiting state lookup => exact ⟨[], .refl⟩
      | running state =>
          rw [Position.pause]
          cases stack : state.tasks with
          | nil =>
              rw [advance_finished stack]
              exact ⟨[], .refl⟩
          | cons task below =>
              rw [advance_running stack]
              obtain ⟨left, steps⟩ :=
                inductionHypothesis _ (runTurn_precedes environment state task below stack)
              exact ⟨_, .step (.run stack) steps⟩

theorem Position.IsReached.steps {position last : Position} {left : List Position}
    (reached : position.IsReached environment)
    (steps : Steps environment (fun _ _ => True) position left last) :
    last.IsReached environment := by
  obtain ⟨identity, before, first⟩ := reached
  exact ⟨identity, before ++ left, first.trans steps⟩

end

end SenderPolicy.Check

namespace SenderPolicy.Staged

open SenderPolicy.Check (Environment Outcome Position State)

namespace Executor

/-- Every check that is kept stands at a position that turns lead to, and every outcome is that
of a check at its end. -/
structure KeepsReached (environment : Environment) (executor : Executor) : Prop where
  setting : executor.environment = environment
  submissions : ∀ submission ∈ executor.submissions,
    (Position.running submission.state).IsReached environment
  entries : ∀ entry ∈ executor.entries ++ executor.worker.entries,
    (Position.waiting entry.state entry.lookup).IsReached environment
  outcomes : ∀ (check : Nat) (outcome : Outcome), executor.outcome? check = some outcome →
    ∃ last : State, (Position.running last).IsReached environment ∧ last.tasks = []
      ∧ outcome = Outcome.ofState last

/-- An outcome that is known after a change of a promise was known before or comes from the
change. -/
theorem outcome?_of_changePromise {check : Nat} {change : Promise → Promise × Execution}
    (sets : Outcome → Prop)
    (either : ∀ promise outcome, (change promise).1.outcome = some outcome →
      promise.outcome = some outcome ∨ sets outcome)
    {executor : Executor} {other : Nat} {outcome : Outcome}
    (known : (executor.changePromise check change).1.outcome? other = some outcome) :
    executor.outcome? other = some outcome ∨ sets outcome := by
  unfold changePromise at known
  split at known
  case h_1 => exact .inl known
  rename_i promise promised
  obtain ⟨after, changed, filled⟩ := Option.bind_eq_some_iff.mp known
  rw [promise?] at promised changed
  by_cases same : other = check
  · subst same
    rw [List.getElem?_set_self (List.getElem?_eq_some_iff.mp promised).1] at changed
    cases changed
    rw [outcome?, promise?, promised]
    exact either promise outcome filled
  · rw [List.getElem?_set_ne (Ne.symm same)] at changed
    rw [outcome?, promise?, changed]
    exact .inl filled

namespace KeepsReached

variable {environment : Environment} {executor : Executor}

theorem empty (environment : Environment) : KeepsReached environment { environment } where
  setting := rfl
  submissions := by simp
  entries := by simp [Worker.entries]
  outcomes := by simp [outcome?, promise?]

/-- A check that pauses at a position is settled. -/
theorem settle {position : Position} (check : Nat) (reached : position.IsReached environment)
    (keeps : executor.KeepsReached environment) :
    (executor.settle check (position.pause environment)).1.KeepsReached environment := by
  obtain ⟨⟨left, steps⟩, ended⟩ := position.steps_pause environment fun _ _ => True
  have there := reached.steps steps
  generalize position.pause environment = progress at there ended
  cases progress with
  | waiting state lookup =>
      constructor
      case setting => exact keeps.setting
      case submissions => exact keeps.submissions
      case entries =>
        intro entry member
        simp only [Executor.settle, List.mem_append, List.mem_singleton] at member
        rcases member with (old | rfl) | held
        · exact keeps.entries entry (List.mem_append_left _ old)
        · exact there
        · exact keeps.entries entry (List.mem_append_right _ held)
      case outcomes => exact keeps.outcomes
  | finished last =>
      have outcomes : ∀ (other : Nat) (outcome : Outcome),
          (executor.settle check (.finished last)).1.outcome? other = some outcome →
            ∃ final : State, (Position.running final).IsReached environment ∧ final.tasks = []
              ∧ outcome = Outcome.ofState final := by
        intro other outcome known
        have either : executor.outcome? other = some outcome ∨ outcome = Outcome.ofState last := by
          refine outcome?_of_changePromise (fun set => set = Outcome.ofState last) ?_ known
          intro promise outcome filled
          grind
        rcases either with old | rfl
        · exact keeps.outcomes other outcome old
        · exact ⟨last, there, ended last rfl, rfl⟩
      have same : (executor.settle check (.finished last)).1.environment = executor.environment
          ∧ (executor.settle check (.finished last)).1.submissions = executor.submissions
          ∧ (executor.settle check (.finished last)).1.entries = executor.entries
          ∧ (executor.settle check (.finished last)).1.worker = executor.worker := by
        unfold Executor.settle Executor.changePromise
        grind
      obtain ⟨setting, submissions, entries, worker⟩ := same
      constructor
      case setting => exact setting.trans keeps.setting
      case submissions => rw [submissions]; exact keeps.submissions
      case entries => rw [entries, worker]; exact keeps.entries
      case outcomes => exact outcomes

theorem start (identity : Identity) (keeps : executor.KeepsReached environment) :
    (executor.start identity).KeepsReached environment where
  setting := keeps.setting
  submissions := by
    intro submission member
    rcases List.mem_append.mp member with old | new
    · exact keeps.submissions submission old
    · rw [List.mem_singleton.mp new]
      exact ⟨identity, [], .refl⟩
  entries := keeps.entries
  outcomes := by
    intro check outcome known
    obtain ⟨promise, promised, filled⟩ := Option.bind_eq_some_iff.mp known
    refine keeps.outcomes check outcome ?_
    simp only [promise?, Executor.start] at promised
    by_cases bound : check < executor.promises.length
    · rw [List.getElem?_append_left bound] at promised
      rw [outcome?, promise?, promised]
      exact filled
    · obtain rfl : promise = {} := by grind
      cases filled

theorem submit (check : Nat) (keeps : executor.KeepsReached environment) :
    (executor.submit check).1.KeepsReached environment := by
  unfold Executor.submit
  split
  case h_1 => exact keeps
  rename_i submission found
  have without : { executor with
      submissions := executor.submissions.filter fun other => other.check ≠ check }.KeepsReached
        environment :=
    { keeps with
      submissions := fun other member => keeps.submissions other (List.mem_filter.mp member).1 }
  have reached := keeps.submissions submission (List.mem_of_find?_eq_some found)
  have advanced : (Check.advance executor.environment submission.state).2
      = (Position.running submission.state).pause environment := by
    rw [keeps.setting]
    rfl
  simp only [advanced]
  exact without.settle check reached

theorem take (keeps : executor.KeepsReached environment) :
    executor.take.KeepsReached environment := by
  unfold Executor.take
  split
  case h_2 => exact keeps
  rename_i response queue idle removed
  split
  case h_1 => exact { keeps with }
  rename_i entry found
  have held : ∀ other ∈ executor.entries.filter (fun other => other.id ≠ response.id) ++ [entry],
      (Position.waiting other.state other.lookup).IsReached environment := by
    intro other member
    refine keeps.entries other (List.mem_append_left _ ?_)
    rcases List.mem_append.mp member with kept | taken
    · exact (List.mem_filter.mp kept).1
    · rw [List.mem_singleton.mp taken]
      exact List.mem_of_find?_eq_some found
  exact { keeps with entries := held }

theorem work (keeps : executor.KeepsReached environment) :
    executor.work.1.KeepsReached environment := by
  unfold Executor.work
  split
  case h_2 => exact keeps
  rename_i entry answer held
  have waited := keeps.entries entry (List.mem_append_right _ (by simp [held, Worker.entries]))
  have reached : (Check.receiveTurn environment entry.state entry.lookup.awaiting
      answer).position.IsReached environment :=
    waited.steps (Position.Step.hear trivial).steps
  have settled : { executor with worker := .settled }.KeepsReached environment :=
    { keeps with
      entries := fun other member => by
        rcases List.mem_append.mp member with kept | none
        · exact keeps.entries other (List.mem_append_left _ kept)
        · cases none }
  have resumed : (Check.resume executor.environment entry.state entry.lookup.awaiting answer).2
      = (Check.receiveTurn environment entry.state entry.lookup.awaiting
          answer).position.pause environment := by
    rw [keeps.setting, Check.resume_eq_pause]
  simp only [resumed]
  exact settled.settle entry.check reached

theorem finish (keeps : executor.KeepsReached environment) :
    executor.finish.KeepsReached environment := by
  unfold Executor.finish
  split
  case h_2 => exact keeps
  rename_i settled
  have idle : { executor with worker := .idle }.KeepsReached environment :=
    { keeps with
      entries := fun other member => by
        rcases List.mem_append.mp member with kept | none
        · exact keeps.entries other (List.mem_append_left _ kept)
        · cases none }
  dsimp only
  split
  · exact { idle with }
  · exact idle

theorem drop (keeps : executor.KeepsReached environment) :
    executor.drop.KeepsReached environment := by
  unfold Executor.drop
  dsimp only
  split
  · exact { keeps with }
  · exact { keeps with }

theorem listen (check : Nat) (listener : Listener) (keeps : executor.KeepsReached environment) :
    (executor.listen check listener).1.KeepsReached environment := by
  have outcomes : ∀ (other : Nat) (outcome : Outcome),
      (executor.listen check listener).1.outcome? other = some outcome →
        executor.outcome? other = some outcome := by
    intro other outcome known
    refine (outcome?_of_changePromise (fun _ => False) ?_ known).resolve_right id
    intro promise outcome filled
    unfold Promise.listen at filled
    grind
  have same : (executor.listen check listener).1.environment = executor.environment
      ∧ (executor.listen check listener).1.submissions = executor.submissions
      ∧ (executor.listen check listener).1.entries = executor.entries
      ∧ (executor.listen check listener).1.worker = executor.worker := by
    unfold Executor.listen Executor.changePromise
    grind
  obtain ⟨setting, submissions, entries, worker⟩ := same
  constructor
  case setting => exact setting.trans keeps.setting
  case submissions => rw [submissions]; exact keeps.submissions
  case entries => rw [entries, worker]; exact keeps.entries
  case outcomes =>
    intro other outcome known
    exact keeps.outcomes other outcome (outcomes other outcome known)

/-- Every action keeps checks at positions that turns lead to. -/
theorem perform (action : Action) (keeps : executor.KeepsReached environment) :
    (executor.perform action).1.KeepsReached environment := by
  cases action with
  | start identity => exact keeps.start identity
  | submit check => exact keeps.submit check
  | respond id answer => exact { keeps with }
  | take => exact keeps.take
  | work => exact keeps.work
  | finish => exact keeps.finish
  | begin identity => exact (keeps.start identity).submit _
  | deliver id answer =>
      have responded : (executor.respond id answer).KeepsReached environment := { keeps with }
      exact responded.take.work.finish
  | status check => exact keeps
  | listen check listener => exact keeps.listen check listener
  | drop => exact keeps.drop

theorem performAll (schedule : List Action) (keeps : executor.KeepsReached environment) :
    (executor.performAll schedule).KeepsReached environment := by
  induction schedule generalizing executor with
  | nil => exact keeps
  | cons action schedule inductionHypothesis =>
      exact inductionHypothesis (keeps.perform action)

end KeepsReached

/-! ## Both executors -/

/-- Wherever a check stands that is not finished, the task that concludes it is at the bottom of
its stack and nowhere else, each entry of an include is directly above the task that decides by
the include's directive, there are no more entries of includes and redirects than terms counted
nor than the limit, and whatever failure comes next is handled. A finished check has the result
that it reports, and a result that is set stays. The checks of both executors stand at such
positions. -/
theorem stack_keeps_shape (environment : Environment) :
    (∀ (identity : Identity) (left : List Position) (position : Position),
        Position.Steps environment (fun _ _ => True) (.running (State.start identity)) left
          position →
        let state := position.state
        (¬ position.IsFinished →
            (∃ above, state.tasks = above ++ [.conclude] ∧ .conclude ∉ above)
              ∧ (∀ above frame below, state.tasks = above ++ .leaveInclude frame :: below →
                  ∃ qualifier spec, Check.IncludeBegan left qualifier spec below
                    ∧ Check.IncludeEntered left spec frame below)
              ∧ state.tasks.countP Check.Task.leavesDomain ≤ min state.depth Check.lookupLimit
              ∧ ∀ after failure, position.Reacts environment (.fail after failure) →
                  Check.IsCaught failure after after.tasks)
          ∧ (position.IsFinished → state.result = some (Outcome.ofState state).code)
          ∧ ∀ code later last, state.result = some code →
              Position.Steps environment (fun _ _ => True) position later last →
                last.state.result = some code)
      ∧ (∀ (resolver : Check.Resolver) (identity : Identity),
          let start := Position.running (State.start identity)
          let last := (Check.converse environment resolver [] start).2
          (∀ before position after,
              Check.visited environment resolver [] start ++ [.running last]
                  = before ++ position :: after →
                Position.Steps environment (fun _ _ => True) start before position)
            ∧ last.tasks = []
            ∧ last.result = some (Check.run environment resolver identity).outcome.code)
      ∧ ∀ schedule, (Executor.performAll schedule { environment }).KeepsReached environment := by
  have reported : ∀ {left : List Position} {position : Position}, position.Shaped left →
      position.IsFinished → position.state.result = some (Outcome.ofState position.state).code := by
    intro left position shaped finished
    rcases shaped with ⟨unfinished, _⟩ | ⟨_, decided⟩
    · exact absurd finished unfinished
    · obtain ⟨code, result⟩ := Option.isSome_iff_exists.mp decided
      simp [Outcome.ofState, result]
  refine ⟨?rows, ?resolved, fun schedule => (KeepsReached.empty environment).performAll schedule⟩
  case rows =>
    intro identity left position steps state
    have shaped : position.Shaped left := by
      simpa using (Check.shaped_start identity).steps steps
    refine ⟨?_, reported shaped, ?_⟩
    · intro unfinished
      have shape : state.Shaped left := by
        rcases shaped with ⟨_, shape⟩ | ⟨finished, _⟩
        · exact shape
        · exact absurd finished unfinished
      refine ⟨shape.bottom, ?_, ?_, ?_⟩
      · intro above frame below stack
        have rests := shape.rests
        rw [stack] at rests
        exact rests.suffix.1
      · refine Nat.le_trans (List.countP_mono_left ?_) shape.counted
        intro task _ leaves
        cases task <;> first | rfl | cases leaves
      · intro after failure reacts
        exact reacts.isCaught shape
    · intro code later last decided row
      exact Position.Steps.keeps (fun turn holds => turn.result holds) row decided
  case resolved =>
    intro resolver identity start last
    have whole : Position.Steps environment (fun _ _ => True) start _ _ ∧ last.tasks = [] :=
      Check.visited_steps environment resolver (fun _ _ => trivial) [] start
    obtain ⟨steps, finished⟩ := whole
    refine ⟨fun before position after row => steps.to_middle row, finished, ?_⟩
    exact reported ((Check.shaped_start identity).steps steps) finished

end Executor
end SenderPolicy.Staged
