import SenderPolicy.Proofs.Check.Explanation.Published
import SenderPolicy.Proofs.Check.Stack.Decision

/-!
# The order of explanations

Once the client has failed outside all includes, the tasks that are left are run one after the
other, and nothing happens but that the first of them that has an explanation gives it. So what the
client is told is at any time the first explanation of the tasks that have been run.
-/

namespace SenderPolicy.Check

/-- The task may be left when the client has failed outside all includes. -/
def Task.isTrailing : Task → Bool
  | .directive _ => true
  | task => task.isEnding

section
variable (environment : Environment) (zone : Dns.Question → Dns.Answer) (values : Macro.Values)

/-- Some of these tasks have been run, and the explanation, now or soon, is the first that they
have. -/
def Position.Follows (whole : List Task) (position : Position) : Prop :=
  ∃ passed below, whole = passed ++ below
    ∧ position.Promises environment zone values below
      (passed.findSome? (Task.explanation? environment.localNames zone values))

end

section
variable {environment : Environment} {zone : Dns.Question → Dns.Answer} {values : Macro.Values}
  {state : State} {task : Task} {below whole : List Task} {promise : Option Text}

/-! ## Tasks -/

/-- No explanation is wanted from a client that is turned away only if there is one. -/
theorem State.TurnsAway.isSome_of_unwanted (turnsAway : state.TurnsAway environment zone values)
    (unwanted : state.wantsExplanation = false) : state.explanation.isSome = true := by
  simpa [State.wantsExplanation, turnsAway.verdict, turnsAway.muted] using unwanted

/-- A task that begins no explanation leaves the client with the one it has. -/
theorem runTask_told (trailing : task.isTrailing = true)
    (turnsAway : state.TurnsAway environment zone values)
    (unwanted : task.mayExplain = true → state.wantsExplanation = false) :
    (runTask environment state task).settle.position.Told environment zone values state.tasks
      state.explanation := by
  have decided : state.isOpen = false := by simp [State.isOpen, turnsAway.verdict]
  have told : (Position.running state).Told environment zone values state.tasks
      state.explanation := ⟨rfl, turnsAway, rfl, rfl⟩
  cases task with
  | conclude => exact ⟨rfl, turnsAway.change rfl rfl rfl rfl, rfl, rfl⟩
  | directive directive =>
      simp only [runTask, decided]
      exact told
  | leaveRedirect => exact told
  | modifier modifier =>
      cases modifier with
      | redirect spec =>
          simp only [runTask, beginModifier, decided]
          exact told
      | exp spec =>
          simp only [runTask, beginModifier, unwanted rfl]
          exact told
      | unknown name value => exact told
  | hook hook =>
      cases hook with
      | neutralIfUnmatched =>
          have kept : (state.verdict <|> some .neutral) = state.verdict := by
            simp [turnsAway.verdict]
          exact ⟨rfl, turnsAway.change rfl rfl kept rfl, rfl, rfl⟩
      | defaultExplanation text =>
          simp only [runTask, runHook, unwanted rfl]
          exact told
  | _ => cases trailing

/-- A task that begins an explanation promises the one that it has. -/
theorem runTask_promises (may : task.mayExplain = true) (wanted : state.wantsExplanation = true)
    (turnsAway : state.TurnsAway environment zone values) (knows : state.Knows environment zone)
    (known : state.identity.client.isSome = true) :
    (runTask environment state task).settle.position.Promises environment zone values state.tasks
      (task.explanation? environment.localNames zone values) := by
  have unset : state.explanation = none := (wantsExplanation_iff.mp wanted).2.1
  cases task with
  | modifier modifier =>
      cases modifier with
      | exp spec =>
          have pushed : (state.pushAll [.askExplanation spec, .guardExplanation]).TurnsAway
              environment zone values := turnsAway.change rfl rfl rfl rfl
          have begins := prepareExpansion_promises pushed unset
            (rfl : (Task.askExplanation spec).isExplanatory = true) rfl rfl
            (knows.change rfl rfl rfl) known
          simp only [runTask, beginModifier, if_pos wanted]
          exact begins
      | _ => cases may
  | hook hook =>
      cases hook with
      | defaultExplanation text =>
          have pushed : ((state.push .guardExplanation).push (.explain text)).TurnsAway
              environment zone values := turnsAway.change rfl rfl rfl rfl
          have begins := prepareExpansion_promises pushed unset
            (rfl : (Task.explain text).isExplanatory = true) rfl rfl
            (knows.change rfl rfl rfl) known
          simp only [runTask, runHook, if_pos wanted]
          exact begins
      | neutralIfUnmatched => cases may
  | _ => cases may

/-! ## Turns -/

/-- The next task is run, and the client is told its explanation unless there is another. -/
theorem Position.Told.step {position next : Position}
    (told : position.Told environment zone values below promise)
    (trailing : ∀ task ∈ below, task.isTrailing = true)
    (turn : Step environment (fun question answer => answer = zone question) position next)
    (knows : position.Knows environment zone) (consistent : position.IsConsistent environment) :
    ∃ task rest, below = task :: rest
      ∧ next.Promises environment zone values rest
        (promise.or (task.explanation? environment.localNames zone values)) := by
  obtain ⟨running, turnsAway, tasks, told⟩ := told
  cases turn with
  | hear allowed => cases running
  | @run state task rest stack =>
      refine ⟨task, rest, tasks.symm.trans stack, ?_⟩
      have popped : ({ state with tasks := rest } : State).TurnsAway environment zone values :=
        turnsAway.change rfl rfl rfl rfl
      by_cases begins : task.mayExplain = true
          ∧ ({ state with tasks := rest } : State).wantsExplanation = true
      · obtain ⟨may, wanted⟩ := begins
        have none : promise = none := told.symm.trans (wantsExplanation_iff.mp wanted).2.1
        have known : state.identity.client.isSome = true := by
          rcases consistent with consistent | decided
          · exact consistent.known
          · rcases decided.tasks task (stack ▸ List.mem_cons_self ..) with rfl | rfl <;> cases may
        rw [none, Option.none_or]
        exact runTask_promises may wanted popped (State.Knows.change knows rfl rfl rfl) known
      · have late : task.isTrailing = true :=
          trailing task (tasks.symm.trans stack ▸ List.mem_cons_self ..)
        have unwanted : task.mayExplain = true →
            ({ state with tasks := rest } : State).wantsExplanation = false := by
          intro may
          simpa [may] using begins
        have same : promise.or (task.explanation? environment.localNames zone values)
            = promise := by
          cases may : task.mayExplain with
          | true =>
              have set := popped.isSome_of_unwanted (unwanted may)
              obtain ⟨explanation, found⟩ := Option.isSome_iff_exists.mp set
              have here : promise = some explanation := told.symm.trans found
              rw [here, Option.some_or]
          | false =>
              have silent : task.explanation? environment.localNames zone values = none := by
                cases task with
                | modifier modifier => cases modifier <;> first | rfl | cases may
                | hook hook => cases hook <;> first | rfl | cases may
                | askExplanation spec => cases late
                | explain text => cases late
                | _ => rfl
              rw [silent, Option.or_none]
        rw [same]
        obtain rfl : state.explanation = promise := told
        exact .inl (runTask_told late popped unwanted)

/-- Every turn runs the next of the tasks, or goes on with the explanation of the last one. -/
theorem Position.Follows.step {position next : Position}
    (follows : position.Follows environment zone values whole)
    (trailing : ∀ task ∈ whole, task.isTrailing = true)
    (turn : Step environment (fun question answer => answer = zone question) position next)
    (knows : position.Knows environment zone) (consistent : position.IsConsistent environment) :
    next.Follows environment zone values whole := by
  obtain ⟨passed, below, rfl, told | explains⟩ := follows
  · obtain ⟨task, rest, rfl, promises⟩ := told.step
      (fun task member => trailing task (List.mem_append_right _ member)) turn knows consistent
    refine ⟨passed ++ [task], rest, by simp, ?_⟩
    rw [List.findSome?_append, List.findSome?_singleton]
    exact promises
  · exact ⟨passed, below, rfl, explains.step turn knows consistent⟩

/-! ## Rows of turns -/

variable {position last : Position} {left : List Position}

/-- Wherever a row of turns comes by after the client has failed, it has been told the first
explanation of the tasks that have been run. -/
theorem Position.Follows.steps
    (follows : position.Follows environment zone values whole)
    (trailing : ∀ task ∈ whole, task.isTrailing = true)
    (steps : Steps environment (fun question answer => answer = zone question) position left last)
    (knows : position.Knows environment zone) (consistent : position.IsConsistent environment) :
    last.Follows environment zone values whole := by
  have kept := @Steps.keeps environment (fun question answer => answer = zone question)
    (fun position => position.Follows environment zone values whole
      ∧ position.Knows environment zone ∧ position.IsConsistent environment)
    (fun turn ⟨follows, knows, consistent⟩ =>
      ⟨follows.step trailing turn knows consistent, turn.knows knows, turn.isConsistent consistent⟩)
    _ _ _ steps ⟨follows, knows, consistent⟩
  exact kept.1

/-- A client that has been told nothing is told the first explanation of all tasks. -/
theorem Position.Follows.explanation_of_finished {last : State}
    (follows : (Position.running last).Follows environment zone values whole)
    (finished : last.tasks = []) :
    last.explanation
      = whole.findSome? (Task.explanation? environment.localNames zone values) := by
  obtain ⟨passed, below, rfl, told | explains⟩ := follows
  · have empty : below = [] := told.stack.symm.trans finished
    rw [empty, List.append_nil]
    exact told.explanation
  · cases explains with
    | next prepares =>
        obtain ⟨_, _, _, _, stack, _⟩ := prepares
        cases finished.symm.trans stack
    | closes _ stack _ => cases finished.symm.trans stack

/-- Where an explanation that is wanted begins, none of the tasks before it has one. -/
theorem Position.Follows.exists_passed
    (follows : (Position.running (state.push task)).Follows environment zone values whole)
    (may : task.mayExplain = true) (wanted : state.wantsExplanation = true) :
    ∃ passed, whole = passed ++ task :: state.tasks
      ∧ passed.findSome? (Task.explanation? environment.localNames zone values) = none := by
  obtain ⟨passed, below, rfl, told | explains⟩ := follows
  · exact ⟨passed, congrArg _ told.stack.symm,
      told.explanation.symm.trans (wantsExplanation_iff.mp wanted).2.1⟩
  · cases explains with
    | next prepares =>
        obtain ⟨_, _, _, explanatory, stack, _⟩ := prepares
        obtain ⟨rfl, _⟩ := List.cons.inj stack
        cases task <;> first | cases may | cases explanatory
    | closes _ stack _ =>
        obtain ⟨rfl, _⟩ := List.cons.inj stack
        cases may

end

end SenderPolicy.Check
