import SenderPolicy.Proofs.Check.Keeping

/-!
# Includes are left as they were entered

While an include is evaluated, its entry stays on the stack, and what is put above it never
explains anything. However the evaluation ends, the entry puts back the domain, the verdict and
the muting, before a failure can travel further outward. So the domain that a check ends with
was put there outside all includes.
-/

namespace SenderPolicy.Check

/-! ## Within an include -/

/-- What an include that starts in a state puts back. -/
def State.frame (base : State) : Frame :=
  ⟨base.domain, base.verdict, base.muted⟩

/-- All that an include must leave as it was. -/
structure State.Restores (base state : State) : Prop where
  domain : state.domain = base.domain
  verdict : state.verdict = base.verdict
  muted : state.muted = base.muted
  explanation : state.explanation = base.explanation
  tasks : state.tasks = base.tasks

/-- The task explains nothing, and if it leaves an include, explanations stay unwanted. -/
structure Task.IsMuted (task : Task) : Prop where
  other : task.isOfExplanation = false
  frame : ∀ frame, task.frame? = some frame → frame.muted = true

/-- An include that started in a state is evaluated: its entry stands on the stack of that state,
and nothing is explained. -/
structure State.Within (base state : State) : Prop where
  stack : ∃ above, state.tasks = above ++ .leaveInclude base.frame :: base.tasks
    ∧ ∀ task ∈ above, task.IsMuted
  muted : state.muted = true
  explanation : state.explanation = base.explanation

/-- An include that started in a state is evaluated at a position. -/
def Position.Within (base : State) : Position → Prop
  | .running state => base.Within state
  | .waiting state lookup => base.Within state ∧ lookup.awaiting ≠ .explanationTexts

/-- An include that started in a state has just been left: the check goes on below it, or a
failure travels on from there. -/
inductive Position.Leaves (base : State) : Position → Prop where
  | normally {after : State} (restored : base.Restores after) : Leaves base (.running after)
  | outward {after : State} (failure : Failure) (restored : base.Restores after) :
      Leaves base (.running (unwind failure after after.tasks).2)

/-- Every outcome of a reaction is within an include. -/
def Reaction.Within (base : State) : Reaction → Prop
  | .proceed state => base.Within state
  | .ask state lookup => base.Within state ∧ lookup.awaiting ≠ .explanationTexts
  | .fail state _ => base.Within state

section
variable {base state : State}

theorem State.Within.of_keeps (within : base.Within state) {after : State}
    (kept : state.Keeps True after) : base.Within after := by
  obtain ⟨above, stack, only⟩ := within.stack
  obtain ⟨pushed, tasks, others⟩ := kept.stack
  refine ⟨⟨pushed ++ above, ?_, ?_⟩, ?_, ?_⟩
  · rw [tasks, stack, List.append_assoc]
  · refine List.forall_mem_append.mpr ⟨fun task member => ?_, only⟩
    obtain ⟨none, other⟩ := others task member
    exact ⟨other trivial, fun frame found => by rw [none] at found; cases found⟩
  · rw [kept.muted, within.muted]
  · rw [kept.explanation trivial, within.explanation]

theorem Reaction.Keeps.within {reaction : Reaction} (kept : reaction.Keeps True state)
    (within : base.Within state) : reaction.Within base := by
  cases reaction with
  | proceed after => exact within.of_keeps kept
  | ask after lookup => exact ⟨within.of_keeps kept.1, kept.2 trivial⟩
  | fail after failure => exact within.of_keeps kept

/-- A failure is handled within the include, by its entry, or further out. -/
theorem unwind_within {above : List Task} (only : ∀ task ∈ above, task.IsMuted)
    (muted : state.muted = true) (explanation : state.explanation = base.explanation)
    (failure : Failure) :
    let last := (unwind failure state (above ++ .leaveInclude base.frame :: base.tasks)).2
    base.Within last ∨ Position.Leaves base (.running last) := by
  induction above generalizing state failure with
  | nil =>
      right
      have restored : base.Restores
          (base.frame.restore { state with tasks := base.tasks }) :=
        ⟨rfl, rfl, rfl, explanation, rfl⟩
      have caught : base.Restores
          { base.frame.restore { state with tasks := base.tasks } with matched := some false } :=
        ⟨rfl, rfl, rfl, explanation, rfl⟩
      simp only [List.nil_append, unwind, handle]
      cases failure.code <;>
        first | exact .normally caught | exact .outward failure restored
  | cons task above inductionHypothesis =>
      obtain ⟨here, others⟩ := List.forall_mem_cons.mp only
      dsimp only
      rw [List.cons_append, unwind]
      cases handled : handle failure
          { state with tasks := above ++ .leaveInclude base.frame :: base.tasks } task with
      | none => exact inductionHypothesis others muted explanation failure
      | some handling =>
          obtain ⟨tasks, sameExplanation, _, _, mutedAfter⟩ := handle_effect handled
          have stillMuted : handling.state.muted = true := by
            rw [mutedAfter]
            cases found : task.frame? with
            | none => exact muted
            | some frame => exact here.frame frame found
          cases handling with
          | caught after =>
              exact .inl ⟨⟨above, tasks, others⟩, stillMuted, sameExplanation.trans explanation⟩
          | rethrown after next =>
              exact inductionHypothesis others stillMuted (sameExplanation.trans explanation) next

theorem Reaction.Within.settle {reaction : Reaction} (within : reaction.Within base) :
    reaction.settle.position.Within base ∨ reaction.settle.position.Leaves base := by
  cases reaction with
  | proceed after => exact .inl within
  | ask after lookup => exact .inl within
  | fail after failure =>
      obtain ⟨⟨above, stack, only⟩, muted, explanation⟩ := within
      have handled := unwind_within only muted explanation failure
      rw [← stack] at handled
      exact handled

/-- A task within an include stays within it. -/
theorem runTask_within (environment : Environment) {task : Task} (isMuted : task.IsMuted)
    (within : base.Within state) : (runTask environment state task).Within base := by
  cases changes : task.changesDomain with
  | false =>
      have unwanted := wantsExplanation_of_muted within.muted
      exact (runTask_keeps changes (fun _ _ => unwanted) fun _ => isMuted.other).within within
  | true =>
      obtain ⟨⟨above, stack, only⟩, muted, explanation⟩ := within
      cases task with
      | leaveInclude frame =>
          exact ⟨⟨above, stack, only⟩, isMuted.frame frame rfl, explanation⟩
      | followRedirect spec =>
          simp only [runTask, followRedirect]
          split
          · exact ⟨⟨above, stack, only⟩, muted, explanation⟩
          · refine ⟨⟨.evaluateDomain :: .leaveRedirect :: above, ?_, ?_⟩, muted, explanation⟩
            · simp [State.pushAll, stack]
            · refine List.forall_mem_cons.mpr ⟨⟨rfl, ?_⟩,
                List.forall_mem_cons.mpr ⟨⟨rfl, ?_⟩, only⟩⟩ <;> rintro frame ⟨⟩
      | expandedMechanism mechanism =>
          cases mechanism with
          | «include» spec =>
              simp only [runTask, continueMechanism]
              split
              · exact ⟨⟨above, stack, only⟩, muted, explanation⟩
              · -- The inner include saves that explanations are not wanted.
                refine ⟨⟨.evaluateDomain :: .leaveInclude state.frame :: above, ?_, ?_⟩, rfl,
                  explanation⟩
                · simp [enterInclude, State.frame, stack]
                · refine List.forall_mem_cons.mpr ⟨⟨rfl, ?_⟩,
                    List.forall_mem_cons.mpr ⟨⟨rfl, ?_⟩, only⟩⟩
                  · rintro frame ⟨⟩
                  · rintro frame ⟨⟩
                    exact muted
          | _ => cases changes
      | _ => cases changes

end

/-- Every turn within an include stays within it or leaves it with everything put back. -/
theorem Position.Step.within {environment : Environment}
    {permitted : Dns.Question → Dns.Answer → Prop} {base : State} {position next : Position}
    (turn : Step environment permitted position next) (within : position.Within base) :
    next.Within base ∨ next.Leaves base := by
  cases turn with
  | hear allowed =>
      obtain ⟨inside, other⟩ := within
      exact ((receive_keeps _ fun _ => other).within inside).settle
  | @run state task below stack =>
      obtain ⟨⟨above, tasks, only⟩, muted, explanation⟩ := within
      rw [tasks] at stack
      cases above with
      | nil =>
          -- The entry itself is on top, so the evaluation has ended by itself.
          cases stack
          exact .inr (.normally ⟨rfl, rfl, rfl, explanation, rfl⟩)
      | cons first above =>
          cases stack
          obtain ⟨here, others⟩ := List.forall_mem_cons.mp only
          have inside : base.Within
              { state with tasks := above ++ .leaveInclude base.frame :: base.tasks } :=
            ⟨⟨above, rfl, others⟩, muted, explanation⟩
          exact (runTask_within environment here inside).settle

theorem within_enterInclude (host : Text) (base : State) :
    base.Within (enterInclude host base) :=
  ⟨⟨[.evaluateDomain], rfl, List.forall_mem_singleton.mpr ⟨rfl, nofun⟩⟩, rfl, rfl⟩

/-! ## Rows of turns -/

section
variable {environment : Environment} {permitted : Dns.Question → Dns.Answer → Prop}

/-- A row begins with the position that it starts from. -/
theorem Position.Steps.exists_cons {position last : Position} {left : List Position}
    (steps : Steps environment permitted position left last) :
    ∃ after, left ++ [last] = position :: after := by
  cases steps with
  | refl => exact ⟨[], rfl⟩
  | step first rest => exact ⟨_, rfl⟩

/-- A row goes on from each of its positions. -/
theorem Position.Steps.from_middle {position middle last : Position}
    {left before after : List Position}
    (steps : Steps environment permitted position left last)
    (row : left ++ [last] = before ++ middle :: after) :
    ∃ right, Steps environment permitted middle right last ∧ right ++ [last] = middle :: after := by
  induction steps generalizing before with
  | @refl position =>
      cases before with
      | nil =>
          cases row
          exact ⟨[], .refl, rfl⟩
      | cons other before => simp at row
  | @step position next left last first rest inductionHypothesis =>
      cases before with
      | nil =>
          obtain ⟨rfl, _⟩ := List.cons.inj row
          exact ⟨_, .step first rest, row⟩
      | cons other before =>
          obtain ⟨_, later⟩ := List.cons.inj row
          exact inductionHypothesis later

/-- Positions that follow each other in a row are joined by a turn. -/
theorem Position.Steps.turn_of_row {position middle next last : Position}
    {left before after : List Position} (steps : Steps environment permitted position left last)
    (row : left ++ [last] = before ++ middle :: next :: after) :
    Step environment permitted middle next := by
  obtain ⟨right, later, same⟩ := steps.from_middle row
  cases later with
  | refl => simp at same
  | step turn rest =>
      obtain ⟨behind, begins⟩ := rest.exists_cons
      obtain ⟨rfl, _⟩ := List.cons.inj (begins.symm.trans (List.cons.inj same).2)
      exact turn

/-- A row leads to each of its positions. -/
theorem Position.Steps.to_middle {position middle last : Position}
    {left before after : List Position}
    (steps : Steps environment permitted position left last)
    (row : left ++ [last] = before ++ middle :: after) :
    Steps environment permitted position before middle := by
  induction steps generalizing before with
  | @refl position =>
      cases before with
      | nil =>
          cases row
          exact .refl
      | cons other before => simp at row
  | step first rest inductionHypothesis =>
      cases before with
      | nil =>
          obtain ⟨rfl, _⟩ := List.cons.inj row
          exact .refl
      | cons other before =>
          obtain ⟨rfl, later⟩ := List.cons.inj row
          exact .step first (inductionHypothesis later)

/-- A row leads to each position that it leaves behind. -/
theorem Position.Steps.to_passed {position middle last : Position}
    {left before after : List Position}
    (steps : Steps environment permitted position left last)
    (row : left = before ++ middle :: after) :
    Steps environment permitted position before middle := by
  have split : left ++ [last] = before ++ middle :: (after ++ [last]) := by
    rw [row, List.append_assoc, List.cons_append]
  exact steps.to_middle split

/-- Under a resolver without a memory, a row that runs to the end goes on from each of its
positions as other turns from there do. -/
theorem Position.Steps.exists_outside {zone : Dns.Question → Dns.Answer}
    {position middle ending : Position} {left before after inside : List Position} {last : State}
    (steps : Steps environment (fun question answer => answer = zone question) position left
      (.running last))
    (finished : last.tasks = []) (row : left ++ [.running last] = before ++ middle :: after)
    (leads : Steps environment (fun question answer => answer = zone question) middle
      (middle :: inside) ending) :
    ∃ outside, after = inside ++ ending :: outside := by
  obtain ⟨right, later, same⟩ := steps.from_middle row
  obtain ⟨rest, ended⟩ := @visited_steps environment (fun _ => zone)
    (fun question answer => answer = zone question) (fun _ _ => rfl) [] ending
  obtain ⟨passed, final⟩ := later.eq_visited finished []
  obtain ⟨joined, sameFinal⟩ := (leads.trans rest).eq_visited ended []
  obtain ⟨outside, tail⟩ := rest.exists_cons
  refine ⟨outside, ?_⟩
  rw [passed, ← joined, final, ← sameFinal, List.append_assoc, tail] at same
  exact (List.cons.inj same).2.symm

/-- A row whose turns stay within some positions or leave them, and that does not end within
them, leaves them on its way. -/
theorem Position.Steps.exists_leaving (within leaves : Position → Prop)
    (each : ∀ {position next}, Step environment permitted position next →
      within position → within next ∨ leaves next)
    {position last : Position} {left : List Position}
    (steps : Steps environment permitted position left last) (begins : within position)
    (ends : ¬ within last) :
    ∃ inside leaving outside, left ++ [last] = inside ++ leaving :: outside
      ∧ inside.head? = some position ∧ (∀ passed ∈ inside, within passed) ∧ leaves leaving := by
  induction steps with
  | refl => exact absurd begins ends
  | @step position next left final turn rest inductionHypothesis =>
      rcases each turn begins with inner | outer
      · obtain ⟨inside, leaving, outside, row, _, all, left⟩ := inductionHypothesis inner ends
        exact ⟨position :: inside, leaving, outside, congrArg (position :: ·) row, rfl,
          List.forall_mem_cons.mpr ⟨begins, all⟩, left⟩
      · obtain ⟨outside, row⟩ := rest.exists_cons
        exact ⟨[position], next, outside, congrArg (position :: ·) row, rfl,
          List.forall_mem_singleton.mpr begins, outer⟩

/-- A row that begins within an include and ends without a task leaves the include on its way. -/
theorem Position.Steps.leaves {base last : State} {position : Position} {left : List Position}
    (steps : Steps environment permitted position left (.running last))
    (within : position.Within base) (finished : last.tasks = []) :
    ∃ inside leaving outside, left ++ [.running last] = inside ++ leaving :: outside
      ∧ inside.head? = some position ∧ (∀ passed ∈ inside, passed.Within base)
      ∧ leaving.Leaves base := by
  refine steps.exists_leaving (·.Within base) (·.Leaves base)
    (fun turn inner => turn.within inner) within fun inner => ?_
  obtain ⟨above, stack, _⟩ := State.Within.stack inner
  rw [finished] at stack
  cases above <;> cases stack

end

/-! ## The domain outside all includes -/

/-- The entries of includes on a stack, the innermost first. -/
def framesOf (tasks : List Task) : List Frame :=
  tasks.filterMap Task.frame?

/-- The domain under evaluation outside all includes. -/
def State.outerDomain (state : State) : Text :=
  ((framesOf state.tasks).getLast?.map Frame.domain).getD state.domain

/-- The target of a redirect that is followed in the next turn outside all includes. -/
def Position.outerTarget? (environment : Environment) : Position → Option Text
  | .waiting _ _ => none
  | .running state =>
      match state.tasks with
      | .followRedirect spec :: below =>
          if framesOf below = [] then
            ({ state with tasks := below }.targetHost environment (some spec)).toOption
          else
            none
      | _ => none

theorem framesOf_append (above tasks : List Task) :
    framesOf (above ++ tasks) = framesOf above ++ framesOf tasks :=
  List.filterMap_append

theorem framesOf_eq_nil_of_suffix {below tasks : List Task} (lower : below <:+ tasks)
    (outside : framesOf tasks = []) : framesOf below = [] := by
  obtain ⟨above, rfl⟩ := lower
  rw [framesOf_append] at outside
  exact (List.append_eq_nil_iff.mp outside).2

theorem framesOf_cons_eq_nil {task : Task} {tasks : List Task} :
    framesOf (task :: tasks) = [] ↔ task.frame? = none ∧ framesOf tasks = [] := by
  cases frame : task.frame? <;> simp [framesOf, frame]

section
variable {environment : Environment} {base state : State}

theorem State.Keeps.framesOf_eq {quiet : Prop} (kept : base.Keeps quiet state) :
    framesOf state.tasks = framesOf base.tasks := by
  obtain ⟨above, stack, only⟩ := kept.stack
  have none : framesOf above = [] := List.filterMap_eq_nil_iff.mpr fun task member =>
    (only task member).1
  rw [stack, framesOf_append, none, List.nil_append]

theorem State.Keeps.outerDomain_eq {quiet : Prop} (kept : base.Keeps quiet state) :
    state.outerDomain = base.outerDomain := by
  rw [State.outerDomain, kept.framesOf_eq, kept.domain, State.outerDomain]

theorem Reaction.Keeps.outerDomain_eq {quiet : Prop} {reaction : Reaction}
    (kept : reaction.Keeps quiet base) : reaction.state.outerDomain = base.outerDomain :=
  kept.keeps.outerDomain_eq

/-- Leaving an include puts back the domain that counted outside it. -/
theorem outerDomain_cons (state : State) (task : Task) (below : List Task) :
    ({ state with tasks := task :: below } : State).outerDomain
      = ((framesOf below).getLast?.map Frame.domain).getD
          ((task.frame?.map Frame.domain).getD state.domain) := by
  cases frame : task.frame? with
  | none => simp [State.outerDomain, framesOf, frame]
  | some found =>
      have frames : framesOf (task :: below) = found :: framesOf below := by
        simp [framesOf, frame]
      simp only [State.outerDomain, frames, List.getLast?_cons]
      cases (framesOf below).getLast? <;> rfl

theorem outerDomain_unwind (failure : Failure) (state : State) (tasks : List Task) :
    (unwind failure state tasks).2.outerDomain
      = ({ state with tasks } : State).outerDomain := by
  induction tasks generalizing failure state with
  | nil => rfl
  | cons task tasks inductionHypothesis =>
      rw [outerDomain_cons, unwind]
      cases handled : handle failure { state with tasks } task with
      | none =>
          have none : task.frame? = none := by
            cases task with
            | leaveInclude frame =>
                simp only [handle] at handled
                split at handled <;> cases handled
            | _ => rfl
          dsimp only
          rw [inductionHypothesis, none]
          rfl
      | some handling =>
          obtain ⟨sameTasks, _, _, domain, _⟩ := handle_effect handled
          have after : ({ handling.state with tasks } : State).outerDomain
              = ((framesOf tasks).getLast?.map Frame.domain).getD
                ((task.frame?.map Frame.domain).getD state.domain) := by
            rw [State.outerDomain, domain]
          cases handling with
          | caught final =>
              rw [← after]
              dsimp only
              rw [State.outerDomain, State.outerDomain]
              exact congrArg (fun rest => ((framesOf rest).getLast?.map Frame.domain).getD
                final.domain) sameTasks
          | rethrown final next =>
              rw [← after]
              exact inductionHypothesis next final

theorem Reaction.outerDomain_settle (reaction : Reaction) :
    reaction.settle.position.state.outerDomain = reaction.state.outerDomain := by
  cases reaction with
  | proceed state => rfl
  | ask state lookup => rfl
  | fail state failure => exact outerDomain_unwind failure state state.tasks

theorem frame?_of_not_changesDomain {task : Task} (other : task.changesDomain = false) :
    task.frame? = none := by
  cases task with
  | leaveInclude frame => cases other
  | _ => rfl

/-- A task that has been taken from the stack changes the domain outside all includes only if it
follows a redirect there. -/
theorem runTask_outerDomain (environment : Environment) (state : State) (task : Task)
    (below : List Task) :
    (runTask environment { state with tasks := below } task).state.outerDomain
      = ((Position.running { state with tasks := task :: below }).outerTarget? environment).getD
          ({ state with tasks := task :: below } : State).outerDomain := by
  rw [outerDomain_cons]
  cases changes : task.changesDomain with
  | false =>
      have kept : (runTask environment { state with tasks := below } task).Keeps False _ :=
        runTask_keeps changes nofun nofun
      have target : (Position.running { state with tasks := task :: below }).outerTarget?
          environment = none := by
        cases task with
        | followRedirect spec => cases changes
        | _ => rfl
      rw [kept.outerDomain_eq, target, frame?_of_not_changesDomain changes]
      rfl
  | true =>
      cases task with
      | leaveInclude frame => rfl
      | followRedirect spec =>
          simp only [runTask, followRedirect, Position.outerTarget?]
          by_cases outside : framesOf below = []
          · rw [if_pos outside]
            cases State.targetHost environment (some spec) { state with tasks := below } with
            | error failure => rfl
            | ok host =>
                have frames : framesOf (.evaluateDomain :: .leaveRedirect :: below) = [] := outside
                simp [Reaction.state, State.outerDomain, State.pushAll, frames, Except.toOption]
          · rw [if_neg outside]
            obtain ⟨frame, last⟩ : ∃ frame, (framesOf below).getLast? = some frame :=
              ⟨_, List.getLast?_eq_some_getLast outside⟩
            cases State.targetHost environment (some spec) { state with tasks := below } with
            | error failure => rfl
            | ok host =>
                have frames : framesOf (.evaluateDomain :: .leaveRedirect :: below)
                    = framesOf below := rfl
                simp [Reaction.state, State.outerDomain, State.pushAll, frames, last]
      | expandedMechanism mechanism =>
          cases mechanism with
          | «include» spec =>
              simp only [runTask, continueMechanism, Position.outerTarget?]
              cases State.targetHost environment (Mechanism.include spec).domain?
                { state with tasks := below } with
              | error failure => rfl
              | ok host =>
                  -- The domain that counted so far stands in the entry of the include.
                  have frames : framesOf (enterInclude host { state with tasks := below }).tasks
                      = state.frame :: framesOf below := rfl
                  dsimp only
                  rw [Reaction.state, State.outerDomain, frames, List.getLast?_cons]
                  cases (framesOf below).getLast? <;> rfl
          | _ => cases changes
      | _ => cases changes

end

/-- Only redirects that are followed outside all includes change the domain there. -/
theorem Position.Step.outerDomain {environment : Environment}
    {permitted : Dns.Question → Dns.Answer → Prop} {position next : Position}
    (turn : Step environment permitted position next) :
    next.state.outerDomain
      = (position.outerTarget? environment).getD position.state.outerDomain := by
  cases turn with
  | @hear state lookup answer allowed =>
      have kept : (receive environment answer state lookup.awaiting).Keeps False state :=
        receive_keeps answer nofun
      exact (Reaction.outerDomain_settle _).trans kept.outerDomain_eq
  | @run state task below stack =>
      have whole : state = { state with tasks := task :: below } := by
        rw [← stack]
      have ran := runTask_outerDomain environment state task below
      rw [← whole] at ran
      exact (Reaction.outerDomain_settle _).trans ran

/-- After a row of turns the domain outside all includes is the last target there, or else what
it was. -/
theorem Position.Steps.outerDomain {environment : Environment}
    {permitted : Dns.Question → Dns.Answer → Prop} {position last : Position}
    {left : List Position} (steps : Steps environment permitted position left last) :
    last.state.outerDomain
      = ((left.filterMap (Position.outerTarget? environment)).getLast?).getD
          position.state.outerDomain := by
  induction steps with
  | refl => rfl
  | @step position next left last turn rest inductionHypothesis =>
      rw [inductionHypothesis, turn.outerDomain]
      cases target : position.outerTarget? environment with
      | none => rw [List.filterMap_cons_none target]; rfl
      | some host =>
          rw [List.filterMap_cons_some target, List.getLast?_cons]
          cases (left.filterMap (Position.outerTarget? environment)).getLast? <;> rfl

/-- A finished check has left all its includes. -/
theorem outerDomain_of_finished {state : State} (finished : state.tasks = []) :
    state.outerDomain = state.domain := by
  rw [State.outerDomain, finished]
  rfl

/-! ## Whole runs -/

/-- The turn that starts an include puts its entry on the stack. -/
theorem Position.Step.enters {environment : Environment}
    {permitted : Dns.Question → Dns.Answer → Prop} {base : State} {spec host : Text}
    {next : Position}
    (turn : Step environment permitted
      (.running (base.push (.expandedMechanism (.include spec)))) next)
    (expanded : base.targetHost environment (some spec) = .ok host) :
    next = .running (enterInclude host base) := by
  cases turn with
  | run stack =>
      obtain ⟨rfl, rfl⟩ := List.cons.inj stack
      have below : { base.push (.expandedMechanism (.include spec)) with tasks := base.tasks }
          = base := rfl
      simp only [runTurn, below, runTask, continueMechanism, Mechanism.domain?, expanded]
      rfl

/-- Wherever a check starts an include, its positions from there on are within the include until
one that leaves it, with the domain, the verdict, the muting, the explanation and the stack of
before. So its header names the sender's domain, or the last target of a redirect that was
followed outside all includes. -/
theorem include_restores (environment : Environment) (resolver : Resolver)
    (identity : Identity) :
    let report := run environment resolver identity
    let passed := visited environment resolver [] (.running (State.start identity))
    let last := (converse environment resolver [] (.running (State.start identity))).2
    (∀ base spec host before after,
        passed ++ [.running last]
            = before ++ .running (base.push (.expandedMechanism (.include spec))) :: after →
        base.targetHost environment (some spec) = .ok host →
        ∃ inside leaving outside, after = inside ++ leaving :: outside
          ∧ inside.head? = some (.running (enterInclude host base))
          ∧ (∀ position ∈ inside, position.Within base) ∧ leaving.Leaves base)
      ∧ report.outcome.headerText
        = headerValue report.outcome.code identity
          ((passed.filterMap (Position.outerTarget? environment)).getLast?.getD
            identity.domain) := by
  intro report passed last
  have whole : Position.Steps environment (fun _ _ => True) _ _ _ ∧ _ :=
    visited_steps environment resolver (fun _ _ => trivial) [] (.running (State.start identity))
  obtain ⟨steps, finished⟩ := whole
  constructor
  · intro base spec host before after row expanded
    obtain ⟨right, later, same⟩ := steps.from_middle row
    generalize began : Position.running (base.push _) = start at later
    cases later with
    | refl =>
        rw [← Position.running.inj began] at finished
        cases finished
    | @step _ next left _ turn rest =>
        subst began
        obtain rfl := turn.enters expanded
        obtain ⟨inside, leaving, outside, parts, first, all, leaves⟩ :=
          rest.leaves (within_enterInclude host base) finished
        refine ⟨inside, leaving, outside, ?_, first, all, leaves⟩
        rw [← parts]
        exact (List.cons.inj same).2.symm
  · have sameIdentity : last.identity = identity :=
      @Position.Steps.keeps _ _ (fun position => position.state.identity = identity)
        (fun turn holds => turn.identity.trans holds) _ _ _ steps rfl
    have outer := steps.outerDomain
    rw [Position.state, outerDomain_of_finished finished] at outer
    change headerValue (Outcome.ofState last).code last.identity last.domain = _
    rw [sameIdentity, outer]
    rfl

end SenderPolicy.Check
