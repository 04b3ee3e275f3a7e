import SenderPolicy.Proofs.Check.Steps

/-!
# Explanations disturb nothing

While the guard of an explanation is on the stack, only explanation tasks stand above it,
and only an explanation's questions are asked. `Position.Step.explaining` shows that every
turn keeps it so until the guard is gone, and that then all that decides the result is as
it was. `explaining_ends` puts the turns together.
-/

namespace SenderPolicy.Check

/-- The tasks that stand above the guard of an explanation. -/
def Task.isExplanatory : Task → Bool
  | .askExplanation _ | .explain _ => true
  | _ => false

/-- The task begins an explanation, if one is wanted. -/
def Task.mayExplain : Task → Bool
  | .modifier (.exp _) | .hook (.defaultExplanation _) => true
  | _ => false

/-- An explanation is wanted from a failing client that has none, outside all includes. -/
theorem wantsExplanation_iff {state : State} : state.wantsExplanation = true
    ↔ state.verdict = some .fail ∧ state.explanation = none ∧ state.muted = false := by
  simp [State.wantsExplanation, and_assoc]

/-- The answers that an explanation waits for. -/
def Awaiting.isExplanatory : Awaiting → Bool
  | .explanationTexts | .clientNames | .clientAddresses _ _ => true
  | _ => false

/-- All that an explanation must leave as it is. -/
structure State.Undisturbed (base state : State) : Prop where
  identity : state.identity = base.identity
  domain : state.domain = base.domain
  depth : state.depth = base.depth
  verdict : state.verdict = base.verdict
  result : state.result = base.result
  muted : state.muted = base.muted

namespace State.Undisturbed

theorem refl (state : State) : Undisturbed state state := ⟨rfl, rfl, rfl, rfl, rfl, rfl⟩

/-- Only the stack and what an explanation may learn or set are different. -/
theorem update {base state : State} (same : Undisturbed base state)
    (tasks : List Task) (explanation clientDomain receiver : Option Text) :
    Undisturbed base { state with tasks, explanation, clientDomain, receiver } :=
  ⟨same.identity, same.domain, same.depth, same.verdict, same.result, same.muted⟩

end State.Undisturbed

/-- An explanation is under way above these tasks. -/
structure State.Explaining (state base : State) (below : List Task) : Prop where
  stack : ∃ above, state.tasks = above ++ .guardExplanation :: below
    ∧ ∀ task ∈ above, task.isExplanatory
  same : State.Undisturbed base state

/-- An explanation is under way at a position. -/
def Position.Explaining (base : State) (below : List Task) : Position → Prop
  | .running state => state.Explaining base below
  | .waiting state lookup => state.Explaining base below ∧ lookup.awaiting.isExplanatory

/-- An explanation is over, and its guard has left the stack. -/
def Position.Explained (base : State) (below : List Task) : Position → Prop
  | .running state => state.tasks = below ∧ base.Undisturbed state
  | .waiting _ _ => False

/-- Every outcome of a reaction is still within an explanation. -/
def Reaction.Explaining (base : State) (below : List Task) : Reaction → Prop
  | .proceed state => state.Explaining base below
  | .ask state lookup => state.Explaining base below ∧ lookup.awaiting.isExplanatory
  | .fail state _ => state.Explaining base below

section
variable {base state : State} {below : List Task}

namespace State.Explaining

/-- What an explanation may learn or set does not end it. -/
theorem update (explaining : state.Explaining base below)
    (explanation clientDomain receiver : Option Text) :
    ({ state with explanation, clientDomain, receiver } : State).Explaining base below :=
  ⟨explaining.stack, explaining.same.update state.tasks explanation clientDomain receiver⟩

theorem push (explaining : state.Explaining base below) {task : Task}
    (explanatory : task.isExplanatory) : (state.push task).Explaining base below := by
  obtain ⟨⟨above, stack, only⟩, same⟩ := explaining
  refine ⟨⟨task :: above, ?_, ?_⟩, ?_⟩
  · simp only [State.push, stack, List.cons_append]
  · intro other member
    cases member with
    | head => exact explanatory
    | tail _ later => exact only other later
  · exact same.update _ _ _ _

theorem guarded (explaining : state.Explaining base below) :
    .guardExplanation ∈ state.tasks := by
  obtain ⟨⟨above, stack, -⟩, -⟩ := explaining
  rw [stack]
  exact List.mem_append_right above (List.mem_cons_self ..)

/-- A failure within an explanation gets as far as its guard. -/
theorem unwind_eq (explaining : state.Explaining base below) (failure : Failure) :
    (unwind failure state state.tasks).2 = { state with tasks := below } := by
  obtain ⟨⟨above, stack, only⟩, -⟩ := explaining
  rw [stack]
  clear stack
  induction above with
  | nil => rfl
  | cons task above inductionHypothesis =>
      have passes : handle failure { state with tasks := above ++ .guardExplanation :: below }
          task = none := by
        have explanatory := only task (List.mem_cons_self ..)
        cases task <;> first | rfl | contradiction
      rw [List.cons_append, unwind, passes]
      exact inductionHypothesis fun other member => only other (List.mem_cons_of_mem _ member)

end State.Explaining

/-- An explanation begins when its guard is put on the stack. -/
theorem guarded_explaining (state : State) (above : List Task)
    (only : ∀ task ∈ above, task.isExplanatory) :
    ({ state with tasks := above ++ .guardExplanation :: state.tasks } : State).Explaining state
      state.tasks :=
  ⟨⟨above, rfl, only⟩, (State.Undisturbed.refl state).update _ _ _ _⟩

/-! ## The steps of an explanation -/

theorem prepareExpansion_explaining (environment : Environment) (mode : Macro.Mode)
    (text : Text) (explaining : state.Explaining base below) :
    (state.prepareExpansion environment mode text).Explaining base below := by
  have after := explaining.update state.explanation state.clientDomain
    (Macro.receiverAfter environment.localNames mode (state.values environment) text)
  unfold State.prepareExpansion
  split
  · exact after
  · exact after
  · split
    · exact after
    · exact ⟨after, rfl⟩

/-- An explanation that is wanted begins. -/
theorem runTask_explaining_of_wanted {environment : Environment} {base : State} {task : Task}
    (may : task.mayExplain = true)
    (wanted : base.wantsExplanation = true) :
    (runTask environment base task).Explaining base base.tasks := by
  cases task with
  | modifier modifier =>
      cases modifier with
      | exp spec =>
          simp only [runTask, beginModifier, if_pos wanted]
          exact prepareExpansion_explaining _ _ _
            (guarded_explaining base [.askExplanation spec] (by simp [Task.isExplanatory]))
      | _ => cases may
  | hook hook =>
      cases hook with
      | defaultExplanation text =>
          simp only [runTask, runHook, if_pos wanted]
          exact prepareExpansion_explaining _ _ _
            (guarded_explaining base [.explain text] (by simp [Task.isExplanatory]))
      | neutralIfUnmatched => cases may
  | _ => cases may

theorem askClientAddresses_explaining (names : List Text)
    (explaining : state.Explaining base below) :
    (askClientAddresses names state).Explaining base below := by
  unfold askClientAddresses
  split
  · exact explaining
  · split
    · exact explaining.update _ _ _
    · exact ⟨explaining, rfl⟩

theorem receive_explaining (environment : Environment) (answer : Dns.Answer)
    {awaiting : Awaiting} (explanatory : awaiting.isExplanatory)
    (explaining : state.Explaining base below) :
    (receive environment answer state awaiting).Explaining base below := by
  cases awaiting with
  | explanationTexts =>
      simp only [receive, receiveExplanationTexts]
      split
      · exact prepareExpansion_explaining environment _ _ (explaining.push rfl)
      · exact explaining
  | clientNames =>
      simp only [receive, receiveClientNames]
      split
      · exact explaining.update _ _ _
      · exact askClientAddresses_explaining _ explaining
  | clientAddresses candidate pending =>
      simp only [receive, receiveClientAddresses]
      split
      · exact askClientAddresses_explaining _ explaining
      · split
        · exact explaining
        · split
          · exact explaining.update _ _ _
          · exact askClientAddresses_explaining _ explaining
  | _ => contradiction

theorem runTask_explaining (environment : Environment) {task : Task}
    (explanatory : task.isExplanatory) (explaining : state.Explaining base below) :
    (runTask environment state task).Explaining base below := by
  cases task with
  | askExplanation spec =>
      simp only [runTask, askExplanation]
      split
      · exact explaining
      · exact ⟨explaining, rfl⟩
  | explain text =>
      simp only [runTask, explain]
      split
      · exact explaining.update _ _ _
      · exact explaining.update _ _ _
      · exact explaining.update _ _ _
  | _ => contradiction

/-- A turn within an explanation stays within it, or ends it by a failure. -/
theorem Reaction.Explaining.settle {reaction : Reaction}
    (explaining : reaction.Explaining base below) :
    reaction.settle.position.Explaining base below
      ∨ reaction.settle.position.Explained base below := by
  cases reaction with
  | proceed state => exact .inl explaining
  | ask state lookup => exact .inl explaining
  | fail state failure =>
      right
      simp only [Reaction.settle, Position.Explained]
      rw [State.Explaining.unwind_eq explaining failure]
      exact ⟨rfl, State.Undisturbed.update explaining.same _ _ _ _⟩

end

/-- Every turn of an explanation keeps it under way or ends it with nothing disturbed. -/
theorem Position.Step.explaining {environment : Environment}
    {permitted : Dns.Question → Dns.Answer → Prop} {base : State} {below : List Task}
    {position next : Position} (turn : Step environment permitted position next)
    (explaining : position.Explaining base below) :
    next.Explaining base below ∨ next.Explained base below := by
  cases turn with
  | hear allowed =>
      obtain ⟨within, explanatory⟩ := explaining
      exact (receive_explaining environment _ explanatory within).settle
  | @run state task rest stack =>
      obtain ⟨⟨above, tasks, only⟩, same⟩ := explaining
      rw [tasks] at stack
      cases above with
      | nil =>
          -- The guard itself is on top, so the explanation has ended by itself.
          cases stack
          exact .inr ⟨rfl, same.update _ _ _ _⟩
      | cons first above =>
          cases stack
          have within : ({ state with tasks := above ++ .guardExplanation :: below }
              : State).Explaining base below :=
            ⟨⟨above, rfl, fun other member => only other (List.mem_cons_of_mem _ member)⟩,
              same.update _ _ _ _⟩
          exact (runTask_explaining environment (only task (List.mem_cons_self ..))
            within).settle

/-- A position that belongs to an explanation. -/
def Position.isExplaining (position : Position) : Bool :=
  decide (.guardExplanation ∈ position.state.tasks)

theorem Position.Explaining.isExplaining {base : State} {below : List Task}
    {position : Position} (explaining : position.Explaining base below) :
    position.isExplaining := by
  cases position with
  | running state => exact decide_eq_true (State.Explaining.guarded explaining)
  | waiting state lookup => exact decide_eq_true (State.Explaining.guarded explaining.1)

/-- An explanation ends with nothing disturbed, and all its turns belong to it. -/
theorem explaining_ends {environment : Environment}
    {permitted : Dns.Question → Dns.Answer → Prop}
    (answered : ∀ question, ∃ answer, permitted question answer) {base : State}
    {below : List Task} (position : Position) (explaining : position.Explaining base below) :
    ∃ left last, Position.Steps environment permitted position left (.running last)
      ∧ last.tasks = below ∧ base.Undisturbed last
      ∧ ∀ passed ∈ left, passed.isExplaining := by
  induction position using Position.precedes_wellFounded.induction with
  | h position inductionHypothesis =>
      obtain ⟨next, turn⟩ : ∃ next, Position.Step environment permitted position next := by
        cases position with
        | waiting state lookup =>
            obtain ⟨answer, allowed⟩ := answered lookup.question
            exact ⟨_, .hear allowed⟩
        | running state =>
            cases stack : state.tasks with
            | nil =>
                have guarded := State.Explaining.guarded explaining
                rw [stack] at guarded
                contradiction
            | cons task rest => exact ⟨_, .run stack⟩
      rcases turn.explaining explaining with within | past
      · obtain ⟨left, last, steps, tasks, same, all⟩ :=
          inductionHypothesis next turn.precedes within
        refine ⟨position :: left, last, .step turn steps, tasks, same, ?_⟩
        intro passed member
        cases member with
        | head => exact explaining.isExplaining
        | tail _ later => exact all passed later
      · cases next with
        | waiting state lookup => contradiction
        | running last =>
            refine ⟨[position], last, turn.steps, past.1, past.2, ?_⟩
            intro passed member
            rw [List.mem_singleton.mp member]
            exact explaining.isExplaining

/-! ## Questions apart from explanations -/

/-- The questions of a row of positions that do not belong to an explanation. -/
def policyQuestions (left : List Position) : List Dns.Question :=
  (left.filter fun position => !position.isExplaining).filterMap Position.question?

@[simp] theorem policyQuestions_nil : policyQuestions [] = [] := rfl

@[simp] theorem policyQuestions_append (left right : List Position) :
    policyQuestions (left ++ right) = policyQuestions left ++ policyQuestions right := by
  simp [policyQuestions]

@[simp] theorem policyQuestions_running (state : State) (left : List Position) :
    policyQuestions (.running state :: left) = policyQuestions left := by
  unfold policyQuestions
  rw [List.filter_cons]
  split
  · rfl
  · rfl

/-- A question that is asked without a guard on the stack counts. -/
theorem policyQuestions_waiting {state : State} {lookup : Lookup}
    (unguarded : .guardExplanation ∉ state.tasks) (left : List Position) :
    policyQuestions (.waiting state lookup :: left) = lookup.question :: policyQuestions left := by
  have counts : (Position.waiting state lookup).isExplaining = false := decide_eq_false unguarded
  simp [policyQuestions, counts, Position.question?]

theorem policyQuestions_of_explaining {left : List Position}
    (all : ∀ passed ∈ left, passed.isExplaining) : policyQuestions left = [] := by
  have none : left.filter (fun position => !position.isExplaining) = [] := by
    rw [List.filter_eq_nil_iff]
    intro passed member
    simp [all passed member]
  rw [policyQuestions, none, List.filterMap_nil]

end SenderPolicy.Check
