import SenderPolicy.Proofs.Check.Forwarder.Records
import SenderPolicy.Proofs.Check.Stack.Shape

/-!
# Stages stand on top

The evaluation of a domain begins with all its stages on top of the stack. No other task puts a
stage there, and no stage handles a failure. So the stages still to come are never covered, and
none is left once a failure has been handled.
-/

namespace SenderPolicy.Check

/-- The stages still to come stand on top of the stack, and none stands further down. -/
def State.StagesFirst (state : State) : Prop :=
  ∃ (pending : List Stage) (below : List Task), state.tasks = pending.map Task.stage ++ below
    ∧ ∀ task ∈ below, task.isStage = false

/-- No stage is still to come. -/
def State.Unstaged (state : State) : Prop :=
  ∀ task ∈ state.tasks, task.isStage = false

/-- Stages stand on top of the stack, and an explanation is awaited after all of them. -/
def Position.StagesFirst : Position → Prop
  | .running state => state.StagesFirst
  | .waiting state lookup =>
      state.StagesFirst ∧ (lookup.awaiting = .explanationTexts → state.Unstaged)

theorem State.Unstaged.stagesFirst {state : State} (unstaged : state.Unstaged) :
    state.StagesFirst :=
  ⟨[], state.tasks, rfl, unstaged⟩

/-- A task that is no stage stands above no stage. -/
theorem State.StagesFirst.unstaged {state : State} (first : state.StagesFirst) {task : Task}
    {below : List Task} (stack : state.tasks = task :: below) (other : task.isStage = false) :
    ∀ later ∈ task :: below, later.isStage = false := by
  obtain ⟨pending, rest, tasks, none⟩ := first
  rw [tasks] at stack
  cases pending with
  | nil => exact stack ▸ none
  | cons stage pending =>
      obtain ⟨rfl, _⟩ := List.cons.inj stack
      cases other

/-- Below a stage the stages still to come stand on top. -/
theorem State.StagesFirst.pop {state : State} (first : state.StagesFirst) {stage : Stage}
    {below : List Task} (stack : state.tasks = .stage stage :: below) :
    ({ state with tasks := below } : State).StagesFirst := by
  obtain ⟨pending, rest, tasks, none⟩ := first
  rw [stack] at tasks
  cases pending with
  | nil =>
      refine ⟨[], below, rfl, ?_⟩
      change _ = rest at tasks
      subst tasks
      exact (List.forall_mem_cons.mp none).2
  | cons _ pending => exact ⟨pending, rest, (List.cons.inj tasks).2, none⟩

/-- No stage handles a failure, and none is left once one has been handled. -/
theorem unstaged_unwind (failure : Failure) {state : State} (first : state.StagesFirst) :
    (unwind failure state state.tasks).2.Unstaged := by
  obtain ⟨pending, below, stack, none⟩ := first
  have passes : (unwind failure state (pending.map Task.stage ++ below)).2
      = (unwind failure state below).2 := by
    clear stack
    induction pending with
    | nil => rfl
    | cons stage pending inductionHypothesis => exact inductionHypothesis
  rw [stack, passes]
  intro task member
  exact none task ((unwind_suffix failure state below).subset member)

section
variable {environment : Environment} {base : State}

/-- A task that is no stage leaves no stage on the stack, except that the evaluation of a domain
begins with all of them. -/
theorem runTask_unstaged {task : Task} (other : task.isStage = false) (unstaged : base.Unstaged) :
    (runTask environment base task).state.Unstaged
      ∨ task = .evaluateDomain ∧ runTask environment base task
        = .proceed ({ base with slot := none }.pushAll
          ((stages environment.options).map Task.stage ++ [Task.evaluateRecord])) := by
  by_cases concludes : task = .conclude
  · subst concludes
    exact .inl unstaged
  obtain ⟨above, count, places, put⟩ := runTask_places environment concludes base
  have clear : (∀ later ∈ above, later.isStage = false) →
      (runTask environment base task).state.Unstaged := by
    intro none later member
    rw [put.tasks] at member
    rcases List.mem_append.mp member with new | old
    · exact none later new
    · exact unstaged later old
  cases places with
  | explanation all =>
      refine .inl (clear ?_)
      intro later member
      have explains := all later member
      cases later <;> first | rfl | cases explains
  | exceeding => exact .inl (clear nofun)
  | stages =>
      by_cases opened : base.isOpen = true
      · exact .inr ⟨rfl, by rw [runTask, if_pos opened]⟩
      · left
        rw [runTask, if_neg opened]
        exact unstaged
  | policy slot =>
      refine .inl (clear ?_)
      intro later member
      simp only [policyTasks, List.mem_append, List.mem_map] at member
      rcases member with (⟨_, _, rfl⟩ | ⟨_, _, rfl⟩) | ⟨_, _, rfl⟩ <;> rfl
  | parts => exact .inl (clear (by simp [Task.isStage]))
  | half begun =>
      refine .inl (clear ?_)
      have counted := (isCounted_of_half begun).2.1
      intro later member
      obtain rfl := List.mem_singleton.mp member
      cases later <;> first | rfl | cases counted
  | «include» => exact .inl (clear (by simp [Task.isStage]))
  | redirect => exact .inl (clear (by simp [Task.isStage]))

theorem stagesFirst_of_unstaged {position : Position} (unstaged : position.state.Unstaged) :
    position.StagesFirst := by
  cases position with
  | running state => exact State.Unstaged.stagesFirst unstaged
  | waiting state lookup => exact ⟨State.Unstaged.stagesFirst unstaged, fun _ => unstaged⟩

/-- A reaction that leaves no stage on the stack leads to nothing that may be rewritten. -/
theorem unstaged_settle {reaction : Reaction} (unstaged : reaction.state.Unstaged) :
    reaction.settle.position.state.Unstaged := by
  cases reaction with
  | proceed after => exact unstaged
  | ask after lookup => exact unstaged
  | fail after failure => exact unstaged_unwind failure (State.Unstaged.stagesFirst unstaged)

end

end SenderPolicy.Check
