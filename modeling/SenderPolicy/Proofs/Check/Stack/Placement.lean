import SenderPolicy.Proofs.Check.Stack.Completion

/-!
# Which record a task is from

Every directive, modifier and settled directive on the stack stands above the rest of the record
that it is from, and that record stands above the tasks that waited when it was evaluated. Outside
all includes these are the entry of a redirect, with the rest of the redirecting record below it, or
the conclusion of the check. So the stack tells which redirects have led to a record, and what
stands behind them.
-/

namespace SenderPolicy.Check

/-! ## Stacks whose tasks stand where they may -/

/-- All tasks of a stack stand above what they may. -/
def AllStand (stands : List Task → Task → Prop) : List Task → Prop
  | [] => True
  | task :: below => stands below task ∧ AllStand stands below

section
variable {stands more : List Task → Task → Prop} {tasks above : List Task}

theorem AllStand.mono (all : AllStand stands tasks)
    (weaker : ∀ below task, stands below task → more below task) : AllStand more tasks := by
  induction tasks with
  | nil => trivial
  | cons task below inductionHypothesis =>
      exact ⟨weaker _ _ all.1, inductionHypothesis all.2⟩

theorem AllStand.suffix (all : AllStand stands tasks) (lower : above <:+ tasks) :
    AllStand stands above := by
  induction tasks with
  | nil =>
      rw [List.suffix_nil.mp lower]
      trivial
  | cons task below inductionHypothesis =>
      rcases List.suffix_cons_iff.mp lower with rfl | deeper
      · exact all
      · exact inductionHypothesis all.2 deeper

/-- Tasks that may stand anywhere may be put on a stack. -/
theorem AllStand.append (all : AllStand stands tasks)
    (free : ∀ task ∈ above, ∀ below, stands below task) : AllStand stands (above ++ tasks) := by
  induction above with
  | nil => exact all
  | cons task above inductionHypothesis =>
      obtain ⟨first, others⟩ := List.forall_mem_cons.mp free
      exact ⟨first _, inductionHypothesis others⟩

/-- A row of tasks may be put on a stack if each may stand above those behind it. -/
theorem AllStand.map {α : Type} (make : α → Task) (all : AllStand stands tasks) (items : List α)
    (each : ∀ ahead item behind, items = ahead ++ item :: behind →
      stands (behind.map make ++ tasks) (make item)) :
    AllStand stands (items.map make ++ tasks) := by
  induction items with
  | nil => exact all
  | cons item items inductionHypothesis =>
      refine ⟨each [] item items rfl, inductionHypothesis fun ahead other behind same => ?_⟩
      exact each (item :: ahead) other behind (congrArg _ same)

end

/-! ## Records and redirects -/

/-- The domain specification of an explanation. -/
def explanationSpec? : Modifier → Option Text
  | .exp spec => some spec
  | .redirect _ | .unknown _ _ => none

/-- The domain specifications of the explanations among modifiers. -/
def explanationSpecs (modifiers : List Modifier) : List Text :=
  modifiers.filterMap explanationSpec?

/-- The last modifiers of a record, and its hooks. -/
def restOfRecord (environment : Environment) (record : Record) (modifiers : List Modifier) :
    List Task :=
  modifiers.map .modifier ++ (hooksOf environment record).map .hook

section
variable (environment : Environment) (left : List Position)

/-- The record at hand has been evaluated, with all its hooks. -/
structure Evaluated (record : Record) (outer : State) : Prop where
  ran : .running (outer.push .evaluateRecord) ∈ left
  slot : outer.slot = some (.policy ⟨record, hooksOf environment record⟩)

/-- The tasks that wait below a record outside all includes: the conclusion of the check, or the
entry of the redirect that has led to the record with the rest of the redirecting record below it.
With them come the explanations that stand behind the redirects, the innermost first. -/
inductive Redirected : List Task → List Text → Prop where
  | sender : Redirected [.conclude] []
  | followed {base outer : State} {record : Record} {spec : Text} {ahead behind : List Modifier}
      {specs : List Text}
      (follows : .running (base.push (.followRedirect spec)) ∈ left)
      (evaluated : Evaluated environment left record outer)
      (modifiers : record.modifiers = ahead ++ .redirect spec :: behind)
      (below : base.tasks = restOfRecord environment record behind ++ outer.tasks)
      (rest : Redirected outer.tasks specs) :
      Redirected (.leaveRedirect :: base.tasks) (explanationSpecs behind ++ specs)

/-- Outside all includes redirects have led here. -/
def IsRedirected (below : List Task) : Prop :=
  framesOf below = [] → ∃ specs, Redirected environment left below specs

/-- A modifier stands above the rest of its record. -/
def ModifierStands (modifier : Modifier) (below : List Task) : Prop :=
  ∃ record outer ahead behind, Evaluated environment left record outer
    ∧ record.modifiers = ahead ++ modifier :: behind
    ∧ below = restOfRecord environment record behind ++ outer.tasks
    ∧ IsRedirected environment left outer.tasks

/-- A directive stands above the rest of its record. -/
def DirectiveStands (directive : Directive) (below : List Task) : Prop :=
  ∃ record outer tried later, Evaluated environment left record outer
    ∧ record.directives = tried ++ directive :: later
    ∧ below = later.map .directive
      ++ (restOfRecord environment record record.modifiers ++ outer.tasks)
    ∧ IsRedirected environment left outer.tasks

/-- The task stands above what is left of the record that it is from. -/
def Task.Stands (below : List Task) : Task → Prop
  | .evaluateDomain | .evaluateRecord => IsRedirected environment left below
  | .directive term => DirectiveStands environment left term below
  | .settle qualifier => ∃ test, DirectiveStands environment left ⟨qualifier, test⟩ below
  | .modifier term => ModifierStands environment left term below
  | .followRedirect spec => ModifierStands environment left (.redirect spec) below
  | _ => True

/-- All tasks at a position stand where they may. -/
def Position.Stands (position : Position) : Prop :=
  AllStand (Task.Stands environment left) position.state.tasks

end

section
variable {environment : Environment} {left more : List Position}

/-! ## Later positions -/

theorem Evaluated.mono {record : Record} {outer : State}
    (evaluated : Evaluated environment left record outer) (earlier : left ⊆ more) :
    Evaluated environment more record outer :=
  ⟨earlier evaluated.ran, evaluated.slot⟩

theorem Redirected.mono {below : List Task} {specs : List Text}
    (redirected : Redirected environment left below specs) (earlier : left ⊆ more) :
    Redirected environment more below specs := by
  induction redirected with
  | sender => exact .sender
  | followed follows evaluated modifiers below rest inductionHypothesis =>
      exact .followed (earlier follows) (evaluated.mono earlier) modifiers below inductionHypothesis

theorem IsRedirected.mono {below : List Task} (redirected : IsRedirected environment left below)
    (earlier : left ⊆ more) : IsRedirected environment more below :=
  fun outside => (redirected outside).imp fun _ chain => chain.mono earlier

theorem Task.Stands.mono {below : List Task} {task : Task}
    (stands : task.Stands environment left below) (earlier : left ⊆ more) :
    task.Stands environment more below := by
  have directives {directive : Directive} :
      DirectiveStands environment left directive below →
        DirectiveStands environment more directive below :=
    fun ⟨record, outer, tried, later, evaluated, directives, same, redirected⟩ =>
      ⟨record, outer, tried, later, evaluated.mono earlier, directives, same,
        redirected.mono earlier⟩
  have modifiers {modifier : Modifier} :
      ModifierStands environment left modifier below →
        ModifierStands environment more modifier below :=
    fun ⟨record, outer, ahead, behind, evaluated, modifiers, same, redirected⟩ =>
      ⟨record, outer, ahead, behind, evaluated.mono earlier, modifiers, same,
        redirected.mono earlier⟩
  cases task with
  | evaluateDomain => exact IsRedirected.mono stands earlier
  | evaluateRecord => exact IsRedirected.mono stands earlier
  | directive directive => exact directives stands
  | settle qualifier => exact stands.imp fun _ => directives
  | modifier modifier => exact modifiers stands
  | followRedirect spec => exact modifiers stands
  | _ => trivial

/-! ## Tasks -/

theorem stands_of_isOfExplanation {task : Task} (explains : task.isOfExplanation = true)
    (below : List Task) : task.Stands environment left below := by
  cases task with
  | askExplanation spec | explain text | guardExplanation => trivial
  | _ => cases explains

/-- The tasks of a record may stand where the record was to be evaluated. -/
theorem policyTasks_allStand {base : State} {record : Record}
    (evaluated : Evaluated environment left record base)
    (redirected : IsRedirected environment left base.tasks)
    (all : AllStand (Task.Stands environment left) base.tasks) :
    AllStand (Task.Stands environment left)
      (policyTasks ⟨record, hooksOf environment record⟩ ++ base.tasks) := by
  have rest (modifiers : List Modifier) :
      modifiers.map .modifier ++ ((hooksOf environment record).map .hook ++ base.tasks)
        = restOfRecord environment record modifiers ++ base.tasks :=
    (List.append_assoc ..).symm
  have hooks : AllStand (Task.Stands environment left)
      ((hooksOf environment record).map .hook ++ base.tasks) :=
    all.map _ _ fun _ _ _ _ => trivial
  have modifiers := hooks.map .modifier record.modifiers fun ahead modifier behind same =>
    ⟨record, base, ahead, behind, evaluated, same, rest behind, redirected⟩
  rw [policyTasks, List.append_assoc, List.append_assoc]
  exact modifiers.map .directive record.directives fun tried directive later same =>
    ⟨record, base, tried, later, evaluated, same, congrArg _ (rest record.modifiers), redirected⟩

/-- What a task puts on the stack stands where it may, if the task did. -/
theorem Places.allStand {base : State} {task : Task} {above : List Task} {count : Nat}
    (places : Places environment base task above count)
    (ran : .running (base.push task) ∈ left)
    (hooks : ∀ policy, task = .evaluateRecord → base.slot = some (.policy policy) →
      policy.hooks = hooksOf environment policy.record)
    (all : AllStand (Task.Stands environment left) (task :: base.tasks)) :
    AllStand (Task.Stands environment left) (above ++ base.tasks) := by
  obtain ⟨here, others⟩ := all
  cases places with
  | explanation explains =>
      exact others.append fun task member => stands_of_isOfExplanation (explains task member)
  | stages =>
      rw [List.append_assoc]
      have record : AllStand (Task.Stands environment left) (.evaluateRecord :: base.tasks) :=
        ⟨here, others⟩
      exact record.map _ _ fun _ _ _ _ => trivial
  | @policy policy slot =>
      have complete : policy = ⟨policy.record, hooksOf environment policy.record⟩ := by
        rw [← hooks policy rfl slot]
      rw [complete]
      exact policyTasks_allStand ⟨ran, complete ▸ slot⟩ here others
  | exceeding => exact others
  | @parts directive => exact ⟨trivial, ⟨directive.mechanism, here⟩, others⟩
  | @half _ half begun =>
      refine ⟨?_, others⟩
      cases task with
      | mechanism mechanism =>
          simp only [Task.half?] at begun
          split at begun <;> cases begun
          trivial
      | modifier modifier =>
          cases modifier <;> cases begun
          exact here
      | _ => cases begun
  | «include» => exact ⟨fun outside => by simp [framesOf, Task.frame?] at outside, trivial, others⟩
  | @redirect spec =>
      refine ⟨fun outside => ?_, trivial, others⟩
      obtain ⟨record, outer, ahead, behind, evaluated, modifiers, below, redirected⟩ := here
      have lower : outer.tasks <:+ base.tasks := ⟨_, below.symm⟩
      obtain ⟨specs, rest⟩ :=
        redirected (framesOf_eq_nil_of_suffix lower (framesOf_cons_eq_nil.mp outside).2)
      exact ⟨_, .followed ran evaluated modifiers below rest⟩

end

/-! ## Rows of turns -/

section
variable {environment : Environment} {permitted : Dns.Question → Dns.Answer → Prop}
  {position next last : Position} {left : List Position}

theorem allStand_settle {stands : List Task → Task → Prop} {reaction : Reaction}
    (all : AllStand stands reaction.state.tasks) :
    AllStand stands reaction.settle.position.state.tasks := by
  cases reaction with
  | proceed after => exact all
  | ask after lookup => exact all
  | fail after failure => exact all.suffix (unwind_suffix failure after after.tasks)

/-- A turn puts all tasks where they may stand. -/
theorem Position.Stands.step {before : List Position} (stands : position.Stands environment before)
    (completes : position.Completes environment)
    (turn : Step environment permitted position next) :
    next.Stands environment (before ++ [position]) := by
  have all : AllStand (Task.Stands environment (before ++ [position])) position.state.tasks :=
    AllStand.mono stands fun _ _ stands => stands.mono (List.subset_append_left ..)
  cases turn with
  | @hear state lookup answer allowed =>
      obtain ⟨above, explains, put⟩ := receive_puts answer lookup.awaiting state
      refine allStand_settle ?_
      rw [put.tasks]
      exact all.append fun task member => stands_of_isOfExplanation (explains task member)
  | @run state task below stack =>
      have whole := push_of_tasks stack
      refine allStand_settle ?_
      by_cases concludes : task = .conclude
      · subst concludes
        exact all.suffix (stack ▸ List.suffix_cons ..)
      · obtain ⟨above, count, places, put⟩ :=
          runTask_places environment concludes { state with tasks := below }
        rw [put.tasks]
        refine places.allStand ?ran ?hooks ?all
        case ran => simp [whole]
        case hooks =>
          rintro policy rfl slot
          exact hooks_of_completes (whole.symm ▸ completes) slot
        case all => exact stack ▸ all

/-- Wherever a check comes by, all tasks stand above what is left of their records. -/
theorem Position.Steps.stands {before : List Position}
    (steps : Steps environment permitted position left last)
    (completes : position.Completes environment) (stands : position.Stands environment before) :
    last.Stands environment (before ++ left) := by
  induction steps generalizing before with
  | refl => simpa using stands
  | step turn _ inductionHypothesis =>
      simpa using inductionHypothesis (turn.completes completes) (stands.step completes turn)

theorem stands_start (environment : Environment) (identity : Identity) :
    (Position.running (State.start identity)).Stands environment [] :=
  ⟨fun _ => ⟨[], .sender⟩, trivial, trivial⟩

end

end SenderPolicy.Check
