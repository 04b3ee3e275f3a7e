import SenderPolicy.Proofs.Check.Stack.Growth

/-!
# The shape of the stack

Until a check is finished the task that concludes it stands at the bottom of the stack and
nowhere else, every entry of an include stands directly above the task that its own directive
has left there, and there are no more entries of includes and redirects than terms counted.
So every failure is handled before the stack is used up, and a check without a task has its
result, which stays.

What has happened before is a list of positions. `Task.Rests` says what must be among them for
a task to stand where it does.
-/

namespace SenderPolicy.Check

/-! ## Turns and failures -/

/-- What a check does next: it runs the task on top, or gets some answer. -/
inductive Position.Reacts (environment : Environment) : Position → Reaction → Prop where
  | run {state : State} {task : Task} {below : List Task} (stack : state.tasks = task :: below) :
      Reacts environment (.running state) (runTask environment { state with tasks := below } task)
  | hear {state : State} {lookup : Lookup} (answer : Dns.Answer) :
      Reacts environment (.waiting state lookup)
        (receive environment answer state lookup.awaiting)

/-- A check that has no task left. -/
def Position.IsFinished : Position → Prop
  | .running state => state.tasks = []
  | .waiting _ _ => False

/-- A failure is handled by one of the tasks that it removes from a stack. -/
inductive IsCaught : Failure → State → List Task → Prop where
  | here {failure : Failure} {state after : State} {task : Task} {tasks : List Task}
      (handled : handle failure { state with tasks } task = some (.caught after)) :
      IsCaught failure state (task :: tasks)
  | again {failure next : Failure} {state after : State} {task : Task} {tasks : List Task}
      (handled : handle failure { state with tasks } task = some (.rethrown after next))
      (further : IsCaught next after tasks) : IsCaught failure state (task :: tasks)
  | past {failure : Failure} {state : State} {task : Task} {tasks : List Task}
      (passed : handle failure { state with tasks } task = none)
      (further : IsCaught failure state tasks) : IsCaught failure state (task :: tasks)

/-- Every turn is a reaction, with its failure handled. -/
theorem Position.Step.reacts {environment : Environment}
    {permitted : Dns.Question → Dns.Answer → Prop} {position next : Position}
    (turn : Step environment permitted position next) :
    ∃ reaction, position.Reacts environment reaction ∧ next = reaction.settle.position := by
  cases turn with
  | run stack => exact ⟨_, .run stack, rfl⟩
  | hear allowed => exact ⟨_, .hear _, rfl⟩

/-- The conclusion of a check handles every failure. -/
theorem isCaught_of_conclude {tasks : List Task} (concludes : Task.conclude ∈ tasks)
    (failure : Failure) (state : State) : IsCaught failure state tasks := by
  induction tasks generalizing failure state with
  | nil => cases concludes
  | cons task tasks inductionHypothesis =>
      rcases List.mem_cons.mp concludes with rfl | later
      · exact .here rfl
      · cases handled : handle failure { state with tasks } task with
        | none => exact .past handled (inductionHypothesis later failure state)
        | some handling =>
            cases handling with
            | caught after => exact .here handled
            | rethrown after next => exact .again handled (inductionHypothesis later next after)

/-! ## What stands on a stack -/

/-- The task concludes nothing and has no part in the evaluation of another domain. -/
def Task.isLoose : Task → Bool
  | .conclude | .mechanism _ | .expandedMechanism _ | .leaveInclude _ | .followRedirect _
  | .leaveRedirect => false
  | _ => true

/-- The task leaves an include or a redirect. -/
def Task.leavesDomain : Task → Bool
  | .leaveInclude _ | .leaveRedirect => true
  | _ => false

/-- The task belongs to a term that has been counted: its second half, or what leaves it. -/
def Task.isCounted : Task → Bool
  | .expandedMechanism _ | .followRedirect _ | .leaveInclude _ | .leaveRedirect => true
  | _ => false

/-- A directive with an include has been run on a stack. -/
def IncludeBegan (left : List Position) (qualifier : Qualifier) (spec : Text)
    (below : List Task) : Prop :=
  ∃ base : State, .running (base.push (.directive ⟨qualifier, .include spec⟩)) ∈ left
    ∧ below = .settle qualifier :: base.tasks

/-- An include has been entered on a stack, and its frame holds what was put aside there. -/
def IncludeEntered (left : List Position) (spec : Text) (frame : Frame)
    (below : List Task) : Prop :=
  ∃ outer : State, .running (outer.push (.expandedMechanism (.include spec))) ∈ left
    ∧ frame = outer.frame ∧ below = outer.tasks

/-- What has happened for a task to stand above others: the parts of an include have been put
there by its directive. -/
def Task.Rests (left : List Position) (below : List Task) : Task → Prop
  | .mechanism (.include spec) | .expandedMechanism (.include spec) =>
      ∃ qualifier, IncludeBegan left qualifier spec below
  | .leaveInclude frame =>
      ∃ qualifier spec, IncludeBegan left qualifier spec below
        ∧ IncludeEntered left spec frame below
  | _ => True

/-- All tasks of a stack stand where they may. -/
def AllRest (left : List Position) : List Task → Prop
  | [] => True
  | task :: below => task.Rests left below ∧ AllRest left below

/-- The shape of the stack of a check that is not finished. -/
structure State.Shaped (left : List Position) (state : State) : Prop where
  bottom : ∃ above, state.tasks = above ++ [.conclude] ∧ .conclude ∉ above
  rests : AllRest left state.tasks
  counted : state.tasks.countP Task.isCounted ≤ min state.depth lookupLimit

/-- A check has a stack of the right shape, or is finished and has its result. -/
def Position.Shaped (left : List Position) (position : Position) : Prop :=
  (¬ position.IsFinished ∧ position.state.Shaped left)
    ∨ (position.IsFinished ∧ position.state.result.isSome)

section
variable {environment : Environment} {left more : List Position}

theorem Task.Rests.mono {below : List Task} {task : Task} (rests : task.Rests left below)
    (earlier : left ⊆ more) : task.Rests more below := by
  have began : ∀ {qualifier spec}, IncludeBegan left qualifier spec below →
      IncludeBegan more qualifier spec below :=
    fun ⟨base, member, same⟩ => ⟨base, earlier member, same⟩
  unfold Task.Rests at rests ⊢
  split
  · exact rests.imp fun _ => began
  · exact rests.imp fun _ => began
  · obtain ⟨qualifier, spec, started, outer, member, same⟩ := rests
    exact ⟨qualifier, spec, began started, outer, earlier member, same⟩
  · trivial

theorem AllRest.mono {tasks : List Task} (rests : AllRest left tasks) (earlier : left ⊆ more) :
    AllRest more tasks := by
  induction tasks with
  | nil => trivial
  | cons task below inductionHypothesis =>
      exact ⟨rests.1.mono earlier, inductionHypothesis rests.2⟩

theorem AllRest.suffix {before tasks : List Task} (rests : AllRest left (before ++ tasks)) :
    AllRest left tasks := by
  induction before with
  | nil => exact rests
  | cons task before inductionHypothesis => exact inductionHypothesis rests.2

theorem isLoose_of_isOfExplanation {above : List Task}
    (all : ∀ task ∈ above, task.isOfExplanation = true) : ∀ task ∈ above, task.isLoose = true := by
  intro task member
  have explains := all task member
  cases task <;> first | rfl | cases explains

theorem stages_isLoose (options : Options) :
    ∀ task ∈ (stages options).map Task.stage ++ [.evaluateRecord], task.isLoose = true := by
  intro task member
  simp only [List.mem_append, List.mem_map, List.mem_singleton] at member
  rcases member with ⟨_, _, rfl⟩ | rfl <;> rfl

theorem policyTasks_isLoose (policy : Policy) :
    ∀ task ∈ policyTasks policy, task.isLoose = true := by
  intro task member
  simp only [policyTasks, List.mem_append, List.mem_map] at member
  rcases member with (⟨_, _, rfl⟩ | ⟨_, _, rfl⟩) | ⟨_, _, rfl⟩ <;> rfl

theorem rests_of_isLoose {task : Task} (loose : task.isLoose = true) (below : List Task) :
    task.Rests left below := by
  cases task <;> trivial

theorem allRest_of_isLoose {above tasks : List Task} (loose : ∀ task ∈ above, task.isLoose = true)
    (rests : AllRest left tasks) : AllRest left (above ++ tasks) := by
  induction above with
  | nil => exact rests
  | cons task above inductionHypothesis =>
      obtain ⟨here, others⟩ := List.forall_mem_cons.mp loose
      exact ⟨rests_of_isLoose here _, inductionHypothesis others⟩

theorem isCounted_of_isLoose {task : Task} (loose : task.isLoose = true) :
    task.isCounted = false := by
  cases task <;> first | rfl | cases loose

theorem countP_isCounted_of_isLoose {above : List Task}
    (loose : ∀ task ∈ above, task.isLoose = true) : above.countP Task.isCounted = 0 := by
  rw [List.countP_eq_zero]
  intro task member
  simp [isCounted_of_isLoose (loose task member)]

theorem not_mem_conclude_of_isLoose {above : List Task}
    (loose : ∀ task ∈ above, task.isLoose = true) : Task.conclude ∉ above := by
  intro member
  cases loose _ member

/-- The second half of a term rests on what the term rested on. -/
theorem rests_half {task half : Task} {below : List Task} (begun : task.half? = some half)
    (rests : task.Rests left below) : half.Rests left below := by
  cases task with
  | mechanism mechanism =>
      simp only [Task.half?] at begun
      split at begun
      · cases begun
        cases mechanism <;> exact rests
      · cases begun
  | modifier modifier =>
      cases modifier <;> cases begun
      trivial
  | _ => cases begun

theorem isCounted_of_half {task half : Task} (begun : task.half? = some half) :
    half ≠ .conclude ∧ half.isCounted = true ∧ task.isCounted = false := by
  cases task with
  | mechanism mechanism =>
      simp only [Task.half?] at begun
      split at begun <;> cases begun
      exact ⟨by simp, rfl, rfl⟩
  | modifier modifier =>
      cases modifier <;> cases begun
      exact ⟨by simp, rfl, rfl⟩
  | _ => cases begun

/-- What a task puts on the stack stands where it may, if the task did. -/
theorem Places.allRest {base : State} {task : Task} {above : List Task} {count : Nat}
    (places : Places environment base task above count) (ran : .running (base.push task) ∈ left)
    (rests : AllRest left (task :: base.tasks)) : AllRest left (above ++ base.tasks) := by
  obtain ⟨here, others⟩ := rests
  cases places with
  | explanation all => exact allRest_of_isLoose (isLoose_of_isOfExplanation all) others
  | stages => exact allRest_of_isLoose (stages_isLoose _) others
  | policy slot => exact allRest_of_isLoose (policyTasks_isLoose _) others
  | exceeding => exact others
  | @parts directive =>
      obtain ⟨qualifier, mechanism⟩ := directive
      refine ⟨?_, trivial, others⟩
      cases mechanism <;> first | trivial | exact ⟨qualifier, base, ran, rfl⟩
  | half begun => exact ⟨rests_half begun here, others⟩
  | @«include» spec =>
      obtain ⟨qualifier, began⟩ := here
      exact ⟨trivial, ⟨qualifier, spec, began, base, ran, rfl, rfl⟩, others⟩
  | redirect => exact ⟨trivial, trivial, others⟩

/-- No task but the first of all puts the conclusion of a check on the stack. -/
theorem Places.not_mem_conclude {base : State} {task : Task} {above : List Task} {count : Nat}
    (places : Places environment base task above count) : Task.conclude ∉ above := by
  cases places with
  | explanation all => exact not_mem_conclude_of_isLoose (isLoose_of_isOfExplanation all)
  | stages => exact not_mem_conclude_of_isLoose (stages_isLoose _)
  | policy slot => exact not_mem_conclude_of_isLoose (policyTasks_isLoose _)
  | half begun => simpa using (isCounted_of_half begun).1.symm
  | _ => simp

/-- What belongs to a counted term stays within the number of terms and within the limit. -/
theorem Places.countP_le {base : State} {task : Task} {above : List Task} {count : Nat}
    (places : Places environment base task above count)
    (bounded : (task :: base.tasks).countP Task.isCounted ≤ min base.depth lookupLimit) :
    (above ++ base.tasks).countP Task.isCounted ≤ min (base.depth + count) lookupLimit := by
  rw [List.countP_cons] at bounded
  rw [List.countP_append]
  cases places with
  | explanation all =>
      have none := countP_isCounted_of_isLoose (isLoose_of_isOfExplanation all)
      omega
  | stages =>
      have none := countP_isCounted_of_isLoose (stages_isLoose environment.options)
      omega
  | @policy policy slot =>
      have none := countP_isCounted_of_isLoose (policyTasks_isLoose policy)
      omega
  | exceeding =>
      rw [List.countP_nil]
      omega
  | parts =>
      simp only [List.countP_cons, List.countP_nil, Task.isCounted, Bool.false_eq_true,
        if_false] at bounded ⊢
      omega
  | half begun within =>
      obtain ⟨_, isCounted, _⟩ := isCounted_of_half begun
      simp only [List.countP_cons, List.countP_nil, isCounted, if_true]
      omega
  | «include» =>
      simp only [List.countP_cons, List.countP_nil, Task.isCounted, if_true, Bool.false_eq_true,
        if_false] at bounded ⊢
      omega
  | redirect =>
      simp only [List.countP_cons, List.countP_nil, Task.isCounted, if_true, Bool.false_eq_true,
        if_false] at bounded ⊢
      omega

/-- A task other than the conclusion keeps the shape of the stack it was taken from. -/
theorem Places.shaped {base after : State} {task : Task} {above : List Task} {count : Nat}
    (places : Places environment base task above count) (put : base.Puts above count after)
    (shaped : (base.push task).Shaped left) (other : task ≠ .conclude) :
    after.Shaped (left ++ [.running (base.push task)]) := by
  obtain ⟨⟨inner, stack, unique⟩, rests, counted⟩ := shaped
  have within := left.subset_append_left [Position.running (base.push task)]
  constructor
  case bottom =>
    cases inner with
    | nil => exact absurd (List.cons.inj stack).1 other
    | cons first inner =>
        obtain ⟨rfl, below⟩ := List.cons.inj stack
        refine ⟨above ++ inner, ?_, ?_⟩
        · rw [put.tasks, below]
          exact (List.append_assoc ..).symm
        · have inside : Task.conclude ∉ inner := fun member => unique (.tail _ member)
          simpa [inside] using places.not_mem_conclude
  case rests =>
    rw [put.tasks]
    exact places.allRest (by simp) (rests.mono within)
  case counted =>
    rw [put.tasks, put.depth]
    exact places.countP_le counted

/-- Loose tasks on top keep the shape. -/
theorem State.Puts.shaped {base after : State} {above : List Task} (put : base.Puts above 0 after)
    (loose : ∀ task ∈ above, task.isLoose = true) (shaped : base.Shaped left)
    (earlier : left ⊆ more) : after.Shaped more := by
  obtain ⟨⟨inner, stack, unique⟩, rests, counted⟩ := shaped
  constructor
  case bottom =>
    refine ⟨above ++ inner, ?_, ?_⟩
    · rw [put.tasks, stack, List.append_assoc]
    · simpa [unique] using not_mem_conclude_of_isLoose loose
  case rests =>
    rw [put.tasks]
    exact allRest_of_isLoose loose (rests.mono earlier)
  case counted =>
    rw [put.tasks, put.depth, List.countP_append, countP_isCounted_of_isLoose loose]
    simpa using counted

/-! ## Failures -/

/-- A failure removes tasks from the top of the stack. -/
theorem unwind_suffix (failure : Failure) (state : State) (tasks : List Task) :
    (unwind failure state tasks).2.tasks <:+ tasks := by
  induction tasks generalizing failure state with
  | nil => exact List.suffix_rfl
  | cons task tasks inductionHypothesis =>
      rw [unwind]
      have later := List.suffix_cons task tasks
      cases handled : handle failure { state with tasks } task with
      | none => exact (inductionHypothesis failure state).trans later
      | some handling =>
          have same := (handle_effect handled).1
          cases handling with
          | caught after =>
              change after.tasks = tasks at same
              dsimp only
              exact same ▸ later
          | rethrown after next => exact (inductionHypothesis next after).trans later

/-- A failure removes tasks until one of them handles it, and only the conclusion of the check
removes all of them. -/
theorem unwind_bottom (failure : Failure) (state : State) (above : List Task) :
    let last := (unwind failure state (above ++ [.conclude])).2
    (last.tasks = [] ∧ last.result.isSome)
      ∨ (∃ before inner, above = before ++ inner ∧ last.tasks = inner ++ [.conclude]
        ∧ last.depth = state.depth) := by
  induction above generalizing failure state with
  | nil =>
      left
      refine ⟨rfl, ?_⟩
      simp only [List.nil_append, unwind, handle, State.decide]
      cases state.result <;> rfl
  | cons task above inductionHypothesis =>
      dsimp only
      rw [List.cons_append, unwind]
      cases handled : handle failure { state with tasks := above ++ [.conclude] } task with
      | none =>
          rcases inductionHypothesis failure state with ended | ⟨before, inner, rfl, caught⟩
          · exact .inl ended
          · exact .inr ⟨task :: before, inner, rfl, caught⟩
      | some handling =>
          obtain ⟨sameTasks, _⟩ := handle_effect handled
          have sameDepth := (handle_outlasts handled).depth
          cases handling with
          | caught after => exact .inr ⟨[task], above, rfl, sameTasks, sameDepth⟩
          | rethrown after next =>
              rcases inductionHypothesis next after with ended | ⟨before, inner, rfl, stack, depth⟩
              · exact .inl ended
              · exact .inr ⟨task :: before, inner, rfl, stack, depth.trans sameDepth⟩

/-- Whatever becomes of a reaction from a stack of the right shape, the shape stays until the
check is finished. -/
theorem Position.shaped_settle {reaction : Reaction} (shaped : reaction.state.Shaped left) :
    reaction.settle.position.Shaped left := by
  cases reaction with
  | proceed after =>
      obtain ⟨above, stack, _⟩ := shaped.bottom
      exact .inl ⟨by simp [Reaction.settle, IsFinished, show after.tasks = _ from stack], shaped⟩
  | ask after lookup => exact .inl ⟨not_false, shaped⟩
  | fail after failure =>
      obtain ⟨⟨above, stack, unique⟩, rests, counted⟩ := shaped
      change after.tasks = _ at stack
      change AllRest left after.tasks at rests
      change after.tasks.countP _ ≤ min after.depth _ at counted
      have handled := unwind_bottom failure after above
      simp only [Reaction.settle, stack]
      rcases handled with ended | ⟨before, inner, rfl, caught, depth⟩
      · exact .inr ended
      · rw [stack, List.append_assoc] at rests counted
        rw [List.countP_append] at counted
        have unfinished : (unwind failure after (before ++ inner ++ [.conclude])).2.tasks ≠ [] := by
          rw [caught]
          simp
        refine .inl ⟨unfinished, ⟨inner, caught, ?_⟩, ?_, ?_⟩
        · exact fun member => unique (List.mem_append_right _ member)
        · simp only [Position.state, caught]
          exact rests.suffix
        · simp only [Position.state, caught, depth]
          omega

end

/-! ## Rows of turns -/

section
variable {environment : Environment} {left : List Position}

/-- What a check does next keeps the shape of its stack, unless it sets the result. -/
theorem Position.Reacts.shaped {position : Position} {reaction : Reaction}
    (reacts : position.Reacts environment reaction) (shaped : position.state.Shaped left) :
    reaction.state.Shaped (left ++ [position])
      ∨ ∃ after, reaction = .proceed after ∧ after.tasks = [] ∧ after.result.isSome := by
  cases reacts with
  | @hear state lookup answer =>
      obtain ⟨above, all, put⟩ := receive_puts answer lookup.awaiting state
      exact .inl (put.shaped (isLoose_of_isOfExplanation all) shaped (List.subset_append_left ..))
  | @run state task below stack =>
      have whole := push_of_tasks stack
      by_cases concludes : task = .conclude
      · right
        subst concludes
        obtain ⟨inner, bottom, unique⟩ := shaped.bottom
        have empty : below = [] := by
          cases inner with
          | nil => exact (List.cons.inj (stack.symm.trans bottom)).2
          | cons first inner =>
              obtain ⟨rfl, _⟩ := List.cons.inj (stack.symm.trans bottom)
              exact absurd (List.mem_cons_self ..) unique
        refine ⟨_, rfl, empty, ?_⟩
        simp only [State.decide]
        cases state.result <;> rfl
      · left
        obtain ⟨above, count, places, put⟩ :=
          runTask_places environment concludes { state with tasks := below }
        have after := places.shaped put (whole.symm ▸ shaped) concludes
        rwa [whole] at after

/-- What a check does next is a failure only if the conclusion of the check is still to come. -/
theorem Position.Reacts.isCaught {position : Position} {after : State} {failure : Failure}
    (reacts : position.Reacts environment (.fail after failure))
    (shaped : position.state.Shaped left) : IsCaught failure after after.tasks := by
  rcases reacts.shaped shaped with inner | ⟨_, proceeds, _⟩
  · obtain ⟨above, stack, _⟩ := inner.bottom
    change after.tasks = _ at stack
    exact isCaught_of_conclude (by simp [stack]) failure after
  · cases proceeds

/-- A turn keeps the shape of the stack. -/
theorem Position.Shaped.step {permitted : Dns.Question → Dns.Answer → Prop}
    {position next : Position} (shaped : position.Shaped left)
    (turn : Step environment permitted position next) :
    next.Shaped (left ++ [position]) := by
  rcases shaped with ⟨_, shape⟩ | ⟨finished, _⟩
  · obtain ⟨reaction, reacts, rfl⟩ := turn.reacts
    rcases reacts.shaped shape with inner | ⟨after, rfl, empty, decided⟩
    · exact Position.shaped_settle inner
    · exact .inr ⟨empty, decided⟩
  · cases turn with
    | hear allowed => cases finished
    | run stack =>
        rw [IsFinished, stack] at finished
        cases finished

/-- A row of turns keeps the shape of the stack. -/
theorem Position.Shaped.steps {permitted : Dns.Question → Dns.Answer → Prop}
    {position last : Position} {more : List Position} (shaped : position.Shaped left)
    (steps : Steps environment permitted position more last) : last.Shaped (left ++ more) := by
  induction steps generalizing left with
  | refl => simpa using shaped
  | step turn _ inductionHypothesis => simpa using inductionHypothesis (shaped.step turn)

/-- A check starts with a stack of the right shape. -/
theorem shaped_start (identity : Identity) :
    (Position.running (State.start identity)).Shaped [] := by
  refine .inl ⟨by simp [Position.IsFinished, State.start], ⟨[.evaluateDomain], rfl, by simp⟩,
    ⟨trivial, trivial, trivial⟩, Nat.zero_le _⟩

/-- A result that is set stays in every turn. -/
theorem Position.Step.result {permitted : Dns.Question → Dns.Answer → Prop}
    {position next : Position} {code : ResultCode}
    (turn : Step environment permitted position next)
    (decided : position.state.result = some code) : next.state.result = some code := by
  obtain ⟨reaction, reacts, rfl⟩ := turn.reacts
  refine (Reaction.outlasts_settle _).result_eq ?_
  cases reacts with
  | @hear state lookup answer =>
      obtain ⟨above, _, put⟩ := receive_puts answer lookup.awaiting state
      exact put.result.trans decided
  | @run state task below stack =>
      by_cases concludes : task = .conclude
      · subst concludes
        change state.result = some code at decided
        simp [runTask, Reaction.state, State.decide, decided]
      · obtain ⟨above, count, _, put⟩ :=
          runTask_places environment concludes { state with tasks := below }
        exact put.result.trans decided

/-- Terms that have been counted stay so. -/
theorem Position.Step.depth_le {permitted : Dns.Question → Dns.Answer → Prop}
    {position next : Position} (turn : Step environment permitted position next) :
    position.state.depth ≤ next.state.depth := by
  obtain ⟨reaction, reacts, rfl⟩ := turn.reacts
  rw [(Reaction.outlasts_settle _).depth]
  cases reacts with
  | @hear state lookup answer =>
      obtain ⟨above, _, put⟩ := receive_puts answer lookup.awaiting state
      exact Nat.le_of_eq put.depth.symm
  | @run state task below stack =>
      by_cases concludes : task = .conclude
      · subst concludes
        exact Nat.le_refl _
      · obtain ⟨above, count, _, put⟩ :=
          runTask_places environment concludes { state with tasks := below }
        exact Nat.le.intro put.depth.symm

/-! ## Checks that count no term -/

/-- Redirects are followed only by checks that have counted a term. -/
theorem Position.Shaped.outerTarget?_eq_none {position : Position} (shaped : position.Shaped left)
    (uncounted : position.state.depth = 0) : position.outerTarget? environment = none := by
  cases position with
  | waiting state lookup => rfl
  | running state =>
      rcases shaped with ⟨_, shape⟩ | ⟨finished, _⟩
      · have counted := shape.counted
        rw [uncounted, Nat.zero_min, Nat.le_zero, List.countP_eq_zero] at counted
        change ∀ task ∈ state.tasks, ¬ task.isCounted = true at counted
        unfold outerTarget?
        dsimp only
        split
        · rename_i spec below stack
          exact absurd rfl (counted (.followRedirect spec) (stack ▸ List.mem_cons_self ..))
        · rfl
      · have empty : state.tasks = [] := finished
        simp [outerTarget?, empty]

/-- A finished check that has counted no term is at the sender's domain. -/
theorem domain_of_uncounted {permitted : Dns.Question → Dns.Answer → Prop} {identity : Identity}
    {last : State}
    (steps : Position.Steps environment permitted (.running (State.start identity)) left
      (.running last))
    (finished : last.tasks = []) (uncounted : last.depth = 0) : last.domain = identity.domain := by
  have keeps {position next : Position} (turn : Position.Step environment permitted position next)
      (holds : (∃ before, position.Shaped before)
        ∧ (position.state.depth = 0 → position.state.outerDomain = identity.domain)) :
      (∃ before, next.Shaped before)
        ∧ (next.state.depth = 0 → next.state.outerDomain = identity.domain) := by
    obtain ⟨⟨before, shaped⟩, same⟩ := holds
    refine ⟨⟨_, shaped.step turn⟩, fun none => ?_⟩
    have earlier : position.state.depth = 0 := Nat.le_zero.mp (none ▸ turn.depth_le)
    rw [turn.outerDomain, shaped.outerTarget?_eq_none earlier]
    exact same earlier
  obtain ⟨_, same⟩ := steps.keeps keeps ⟨⟨[], shaped_start identity⟩, fun _ => rfl⟩
  rw [← outerDomain_of_finished finished]
  exact same uncounted

end

end SenderPolicy.Check
