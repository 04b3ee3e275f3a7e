import SenderPolicy.Proofs.Check.Stack.Shape

/-!
# Only failing clients get an explanation

An explanation begins only for a client that a directive outside all includes has failed. By then
nothing stands on the stack but modifiers, hooks, the entries of redirects and the conclusion of
the check. None of these changes a verdict, so the check ends in this fail. A check with another
result never begins an explanation.
-/

namespace SenderPolicy.Check

/-! ## What stands below -/

/-- The task leaves a verdict as it is. -/
def Task.isEnding : Task → Bool
  | .modifier _ | .hook _ | .leaveRedirect | .conclude => true
  | _ => false

/-- What stands below a task: nothing below the conclusion, no include below one that was
entered where explanations are wanted, and outside all includes only endings below what comes
after the directives of a record. -/
def Task.Closes (below : List Task) : Task → Prop
  | .conclude => below = []
  | .leaveInclude frame => frame.muted = false → framesOf below = []
  | .evaluateDomain | .evaluateRecord | .modifier _ | .followRedirect _ | .leaveRedirect
  | .hook _ => framesOf below = [] → ∀ task ∈ below, task.isEnding = true
  | _ => True

/-- All tasks of a stack stand above what they may. -/
def AllClose : List Task → Prop
  | [] => True
  | task :: below => task.Closes below ∧ AllClose below

section
variable {environment : Environment} {base : State} {task : Task} {tasks above : List Task}

theorem closes_of_isOfExplanation (explains : task.isOfExplanation = true) (below : List Task) :
    task.Closes below := by
  cases task <;> trivial

theorem AllClose.append (close : AllClose tasks)
    (free : ∀ task ∈ above, ∀ below, task.Closes below) : AllClose (above ++ tasks) := by
  induction above with
  | nil => exact close
  | cons task above inductionHypothesis =>
      obtain ⟨first, others⟩ := List.forall_mem_cons.mp free
      exact ⟨first _, inductionHypothesis others⟩

/-- Tasks that leave the verdict may stand above each other. -/
theorem AllClose.append_endings (close : AllClose tasks)
    (ending : framesOf tasks = [] → ∀ task ∈ tasks, task.isEnding = true)
    (above : List Task)
    (late : ∀ task ∈ above, task.isEnding = true ∧ ∀ below,
      (framesOf below = [] → ∀ task ∈ below, task.isEnding = true) → task.Closes below) :
    AllClose (above ++ tasks)
      ∧ (framesOf (above ++ tasks) = [] → ∀ task ∈ above ++ tasks, task.isEnding = true) := by
  induction above with
  | nil => exact ⟨close, ending⟩
  | cons task above inductionHypothesis =>
      obtain ⟨⟨here, closes⟩, others⟩ := List.forall_mem_cons.mp late
      obtain ⟨rest, endings⟩ := inductionHypothesis others
      refine ⟨⟨closes _ endings, rest⟩, fun outside => ?_⟩
      exact List.forall_mem_cons.mpr ⟨here, endings (framesOf_cons_eq_nil.mp outside).2⟩

/-- The tasks of a record may stand where the record was to be evaluated. -/
theorem policyTasks_allClose (policy : Policy) (close : AllClose tasks)
    (ending : framesOf tasks = [] → ∀ task ∈ tasks, task.isEnding = true) :
    AllClose (policyTasks policy ++ tasks) := by
  rw [policyTasks, List.append_assoc, List.append_assoc]
  have hooks := close.append_endings ending (policy.hooks.map Task.hook) (by
    intro task member
    obtain ⟨hook, _, rfl⟩ := List.mem_map.mp member
    exact ⟨rfl, fun _ endings => endings⟩)
  have modifiers := hooks.1.append_endings hooks.2 (policy.record.modifiers.map Task.modifier) (by
    intro task member
    obtain ⟨modifier, _, rfl⟩ := List.mem_map.mp member
    exact ⟨rfl, fun _ endings => endings⟩)
  refine modifiers.1.append ?_
  intro task member below
  obtain ⟨directive, _, rfl⟩ := List.mem_map.mp member
  trivial

/-- What a task puts on the stack stands above what it may, if the task did. -/
theorem Places.allClose {count : Nat} (places : Places environment base task above count)
    (loud : base.muted = false → framesOf base.tasks = [])
    (close : AllClose (task :: base.tasks)) : AllClose (above ++ base.tasks) := by
  obtain ⟨here, others⟩ := close
  cases places with
  | explanation all =>
      exact others.append fun task member below => closes_of_isOfExplanation (all task member) below
  | stages =>
      rw [List.append_assoc, List.singleton_append]
      refine AllClose.append (⟨here, others⟩ : AllClose (.evaluateRecord :: base.tasks)) ?_
      intro task member below
      obtain ⟨stage, _, rfl⟩ := List.mem_map.mp member
      trivial
  | policy slot => exact policyTasks_allClose _ others here
  | exceeding => exact others
  | parts => exact ⟨trivial, trivial, others⟩
  | @half _ half begun =>
      refine ⟨?_, others⟩
      cases task with
      | mechanism mechanism =>
          simp only [Task.half?] at begun
          split at begun <;> cases begun
          trivial
      | modifier modifier =>
          cases modifier <;> cases begun
          exact here
      | _ => cases begun
  | «include» => exact ⟨fun outside => by simp [framesOf, Task.frame?] at outside, loud, others⟩
  | redirect =>
      refine ⟨fun outside => ?_, here, others⟩
      exact List.forall_mem_cons.mpr ⟨rfl, here (framesOf_cons_eq_nil.mp outside).2⟩

/-! ## Checks that have explained nothing -/

/-- Nothing is explained, nor is an explanation under way. Explanations are wanted only outside
all includes. -/
structure State.Silent (state : State) : Prop where
  close : AllClose state.tasks
  loud : state.muted = false → framesOf state.tasks = []
  explanation : state.explanation = none
  undecided : state.tasks ≠ [] → state.result = none
  unexplained : ∀ task ∈ state.tasks, task.isOfExplanation = false

theorem State.Silent.pop {state : State} (silent : ({ state with tasks := task :: tasks }
    : State).Silent) : ({ state with tasks } : State).Silent where
  close := silent.close.2
  loud := fun wanted => (framesOf_cons_eq_nil.mp (silent.loud wanted)).2
  explanation := silent.explanation
  undecided := fun _ => silent.undecided (List.cons_ne_nil _ _)
  unexplained := (List.forall_mem_cons.mp silent.unexplained).2

/-- A catcher begins no explanation. -/
theorem handle_silent {failure : Failure} {state : State} {handling : Handling}
    (handled : handle failure { state with tasks } task = some handling)
    (silent : ({ state with tasks := task :: tasks } : State).Silent) : handling.state.Silent := by
  obtain ⟨stack, explanation, _, _, muted⟩ := handle_effect handled
  have below := silent.pop
  have close : AllClose handling.state.tasks := stack ▸ below.close
  have loud : handling.state.muted = false → framesOf handling.state.tasks = [] := by
    rw [muted, stack]
    cases task with
    | leaveInclude frame => exact silent.close.1
    | _ => exact below.loud
  have undecided : handling.state.tasks ≠ [] → handling.state.result = none := by
    intro more
    rw [stack] at more
    have open' := below.undecided more
    cases task with
    | conclude => exact absurd silent.close.1 more
    | leaveInclude frame =>
        simp only [handle] at handled
        split at handled <;> cases handled <;> exact open'
    | leaveRedirect =>
        simp only [handle] at handled
        split at handled <;> cases handled <;> exact open'
    | guardExplanation =>
        cases handled
        exact open'
    | _ => cases handled
  exact ⟨close, loud, explanation.trans silent.explanation, undecided, stack ▸ below.unexplained⟩

theorem unwind_silent (failure : Failure) (state : State) (tasks : List Task)
    (silent : ({ state with tasks } : State).Silent) : (unwind failure state tasks).2.Silent := by
  induction tasks generalizing failure state with
  | nil =>
      refine ⟨trivial, fun _ => rfl, silent.explanation, fun more => absurd rfl more, ?_⟩
      simp [unwind, State.decide]
  | cons task tasks inductionHypothesis =>
      rw [unwind]
      cases handled : handle failure { state with tasks } task with
      | none => exact inductionHypothesis failure state silent.pop
      | some handling =>
          have after := handle_silent handled silent
          cases handling with
          | caught final => exact after
          | rethrown final next =>
              have same : final.tasks = tasks := (handle_effect handled).1
              refine inductionHypothesis next final ?_
              rw [← same]
              exact after

/-- A check has explained nothing, and waits for nothing that would be an explanation. -/
def Position.Silent : Position → Prop
  | .running state => state.Silent
  | .waiting state lookup =>
      state.Silent ∧ state.result = none ∧ lookup.awaiting ≠ .explanationTexts

/-- Whatever becomes of the reaction, nothing has been explained. -/
def Reaction.Silent : Reaction → Prop
  | .proceed state => state.Silent
  | .ask state lookup => state.Silent ∧ state.result = none ∧ lookup.awaiting ≠ .explanationTexts
  | .fail state _ => state.Silent

theorem Reaction.Silent.settle {reaction : Reaction} (silent : reaction.Silent) :
    reaction.settle.position.Silent := by
  cases reaction with
  | proceed state => exact silent
  | ask state lookup => exact silent
  | fail state failure => exact unwind_silent failure state state.tasks silent

/-- What keeps the explanation and the muting explains nothing. -/
theorem State.Silent.keeps {after : State} (silent : base.Silent) (undecided : base.result = none)
    (kept : base.Keeps True after) (close : AllClose after.tasks)
    (result : after.result = base.result) : after.Silent where
  close := close
  loud := fun wanted => kept.framesOf_eq.trans (silent.loud (kept.muted.symm.trans wanted))
  explanation := (kept.explanation trivial).trans silent.explanation
  undecided := fun _ => result.trans undecided
  unexplained := by
    obtain ⟨above, stack, only⟩ := kept.stack
    rw [stack]
    exact List.forall_mem_append.mpr
      ⟨fun task member => (only task member).2 trivial, silent.unexplained⟩

theorem Reaction.Keeps.silent {reaction : Reaction} (kept : reaction.Keeps True base)
    (silent : base.Silent) (undecided : base.result = none)
    (close : AllClose reaction.state.tasks) (result : reaction.state.result = base.result) :
    reaction.Silent := by
  cases reaction with
  | proceed after => exact silent.keeps undecided kept close result
  | ask after lookup =>
      exact ⟨silent.keeps undecided kept.1 close result, result.trans undecided, kept.2 trivial⟩
  | fail after failure => exact silent.keeps undecided kept close result

/-- A task explains nothing unless it begins an explanation that is wanted. -/
theorem runTask_silent (silent : (base.push task).Silent)
    (unwanted : task.mayExplain = true → base.wantsExplanation = false) :
    (runTask environment base task).Silent := by
  have popped : base.Silent := silent.pop
  have undecided : base.result = none := silent.undecided (List.cons_ne_nil _ _)
  by_cases concludes : task = .conclude
  · subst concludes
    have empty : base.tasks = [] := silent.close.1
    exact ⟨popped.close, popped.loud, popped.explanation, fun more => absurd empty more,
      popped.unexplained⟩
  · obtain ⟨above, count, places, put⟩ := runTask_places environment concludes base
    have close : AllClose (runTask environment base task).state.tasks :=
      put.tasks ▸ places.allClose popped.loud silent.close
    cases changes : task.changesDomain with
    | false =>
        have quiet : task.isOfExplanation = false := silent.unexplained _ (List.mem_cons_self ..)
        have kept : (runTask environment base task).Keeps True base :=
          runTask_keeps changes (fun _ => unwanted) fun _ => quiet
        exact kept.silent popped undecided close put.result
    | true =>
        cases task with
        | leaveInclude frame =>
            exact ⟨popped.close, silent.close.1, popped.explanation, fun _ => undecided,
              popped.unexplained⟩
        | followRedirect spec =>
            revert close
            simp only [runTask, followRedirect]
            cases base.targetHost environment (some spec) with
            | error failure => exact fun _ => popped
            | ok host =>
                intro close
                refine ⟨close, popped.loud, popped.explanation, fun _ => undecided, ?_⟩
                exact List.forall_mem_cons.mpr ⟨rfl, List.forall_mem_cons.mpr
                  ⟨rfl, popped.unexplained⟩⟩
        | expandedMechanism mechanism =>
            cases mechanism with
            | «include» spec =>
                revert close
                simp only [runTask, continueMechanism]
                cases base.targetHost environment (Mechanism.include spec).domain? with
                | error failure => exact fun _ => popped
                | ok host =>
                    intro close
                    refine ⟨close, Bool.noConfusion, popped.explanation, fun _ => undecided, ?_⟩
                    exact List.forall_mem_cons.mpr ⟨rfl, List.forall_mem_cons.mpr
                      ⟨rfl, popped.unexplained⟩⟩
            | _ => cases changes
        | _ => cases changes

/-- An answer that is not for an explanation explains nothing. -/
theorem receive_silent {awaiting : Awaiting} (answer : Dns.Answer) (silent : base.Silent)
    (undecided : base.result = none) (other : awaiting ≠ .explanationTexts) :
    (receive environment answer base awaiting).Silent := by
  have kept : (receive environment answer base awaiting).Keeps True base :=
    receive_keeps answer fun _ => other
  have put : base.Puts [] 0 (receive environment answer base awaiting).state :=
    receive_puts_nothing answer other base
  refine kept.silent silent undecided ?_ put.result
  rw [put.tasks]
  exact silent.close

end

/-! ## Checks whose result is a fail -/

/-- A directive has failed the client, and nothing will change that. -/
structure State.Failing (state : State) : Prop where
  verdict : state.verdict = some .fail
  result : state.result = none ∨ state.result = some .fail
  endings : ∀ task ∈ state.tasks, task.isEnding = true

/-- The client has failed by the record of a domain, and possibly an explanation is under way. -/
def Position.Failing (domain : Text) (position : Position) : Prop :=
  ∃ base : State, base.Failing ∧ base.domain = domain
    ∧ (position.Explaining base base.tasks ∨ position.Explained base base.tasks)

section
variable {environment : Environment} {base : State} {task : Task}

theorem State.Failing.position {state : State} (failing : state.Failing) :
    (Position.running state).Failing state.domain :=
  ⟨state, failing, rfl, .inr ⟨rfl, .refl state⟩⟩

theorem failing_of_explaining {reaction : Reaction} (failing : base.Failing)
    (explaining : reaction.Explaining base base.tasks) :
    reaction.settle.position.Failing base.domain :=
  ⟨base, failing, rfl, explaining.settle⟩

/-- What is left of a record after its directives leaves the client failing. -/
theorem runTask_failing (failing : base.Failing) (ending : task.isEnding = true) :
    (runTask environment base task).settle.position.Failing base.domain := by
  have rests : (Position.running base).Failing base.domain := failing.position
  cases task with
  | conclude =>
      have failed : (base.decide .fail).result = some .fail := by
        rcases failing.result with undecided | decided
        · rw [State.decide, undecided]; rfl
        · rw [State.decide, decided]; rfl
      have concluded : (base.decide .fail).Failing :=
        ⟨failing.verdict, .inr failed, failing.endings⟩
      simp only [runTask, failing.verdict]
      exact concluded.position
  | leaveRedirect => exact rests
  | modifier modifier =>
      cases modifier with
      | redirect spec =>
          have decided : base.isOpen = false := by simp [State.isOpen, failing.verdict]
          simp only [runTask, beginModifier, decided]
          exact rests
      | exp spec =>
          by_cases wanted : base.wantsExplanation = true
          · exact failing_of_explaining failing (runTask_explaining_of_wanted rfl wanted)
          · simp only [runTask, beginModifier, if_neg wanted]
            exact rests
      | unknown name value => exact rests
  | hook hook =>
      cases hook with
      | neutralIfUnmatched =>
          have unmoved : ({ base with verdict := base.verdict <|> some .neutral }
              : State).Failing :=
            ⟨by simp [failing.verdict], failing.result, failing.endings⟩
          exact unmoved.position
      | defaultExplanation text =>
          by_cases wanted : base.wantsExplanation = true
          · exact failing_of_explaining failing (runTask_explaining_of_wanted rfl wanted)
          · simp only [runTask, runHook, if_neg wanted]
            exact rests
  | _ => cases ending

end

/-! ## Rows of turns -/

section
variable {environment : Environment} {permitted : Dns.Question → Dns.Answer → Prop}
  {position next last : Position} {left : List Position} {domain : Text}

/-- A client that has failed goes on to do so. -/
theorem Position.Failing.step (failing : position.Failing domain)
    (turn : Step environment permitted position next) : next.Failing domain := by
  obtain ⟨base, fails, rfl, explaining | explained⟩ := failing
  · exact ⟨base, fails, rfl, turn.explaining explaining⟩
  · cases turn with
    | hear allowed => exact absurd explained not_false
    | @run state task below stack =>
        obtain ⟨same, undisturbed⟩ := explained
        obtain ⟨ending, endings⟩ := List.forall_mem_cons.mp (stack.symm.trans same ▸ fails.endings)
        have popped : ({ state with tasks := below } : State).Failing :=
          ⟨undisturbed.verdict.trans fails.verdict, undisturbed.result.symm ▸ fails.result, endings⟩
        rw [← undisturbed.domain]
        exact runTask_failing popped ending

/-- A check that has explained nothing goes on so, unless the client has failed. -/
theorem Position.Silent.step (silent : position.Silent)
    (turn : Step environment permitted position next) :
    next.Silent ∨ next.Failing position.state.domain := by
  cases turn with
  | hear allowed =>
      exact .inl (receive_silent _ silent.1 silent.2.1 silent.2.2).settle
  | @run state task below stack =>
      have whole := push_of_tasks stack
      have here : (({ state with tasks := below } : State).push task).Silent := whole.symm ▸ silent
      by_cases explains : task.mayExplain = true
        ∧ ({ state with tasks := below } : State).wantsExplanation = true
      · right
        obtain ⟨may, wanted⟩ := explains
        obtain ⟨failed, _, loud⟩ := wantsExplanation_iff.mp wanted
        have outside := here.pop.loud loud
        have endings : ∀ other ∈ below, other.isEnding = true := by
          have closes := here.close.1
          cases task with
          | modifier modifier => exact closes outside
          | hook hook => exact closes outside
          | _ => cases may
        have failing : ({ state with tasks := below } : State).Failing :=
          ⟨failed, .inl (here.undecided (List.cons_ne_nil _ _)), endings⟩
        have fails := failing_of_explaining failing
          (@runTask_explaining_of_wanted environment _ _ may wanted)
        exact fails
      · refine .inl (runTask_silent here fun may => ?_).settle
        simpa [may] using explains

theorem Position.Silent.isExplaining (silent : position.Silent) :
    position.isExplaining = false := by
  have unexplained : ∀ task ∈ position.state.tasks, task.isOfExplanation = false := by
    cases position with
    | running state => exact State.Silent.unexplained silent
    | waiting state lookup => exact silent.1.unexplained
  refine decide_eq_false fun guarded => ?_
  cases unexplained _ guarded

/-- A row of turns explains nothing, or leads to a fail. -/
theorem Position.Silent.steps (silent : position.Silent)
    (steps : Steps environment permitted position left last) :
    (last.Silent ∧ ∀ passed ∈ left, passed.isExplaining = false)
      ∨ ∃ domain, last.Failing domain := by
  induction steps with
  | refl => exact .inl ⟨silent, by simp⟩
  | step turn rest inductionHypothesis =>
      rcases silent.step turn with goesOn | failing
      · refine (inductionHypothesis goesOn).imp_left fun ⟨ends, others⟩ => ⟨ends, ?_⟩
        exact List.forall_mem_cons.mpr ⟨silent.isExplaining, others⟩
      · exact .inr ⟨_, rest.keeps (fun turn fails => fails.step turn) failing⟩

/-- A finished check that has failed the client reports this, with the domain of the record that
did so. -/
theorem Position.Failing.finished {last : State}
    (failing : (Position.running last).Failing domain) (finished : last.tasks = [])
    (decided : last.result.isSome) : last.result = some .fail ∧ last.domain = domain := by
  obtain ⟨base, fails, rfl, explaining | ⟨_, undisturbed⟩⟩ := failing
  · have guarded := State.Explaining.guarded explaining
    rw [finished] at guarded
    cases guarded
  · refine ⟨?_, undisturbed.domain⟩
    rw [undisturbed.result] at decided ⊢
    rcases fails.result with undecided | failed
    · rw [undecided] at decided
      cases decided
    · exact failed

/-- A check of a client whose address is known has explained nothing at its beginning. -/
theorem silent_start {identity : Identity} (known : identity.client.isSome) :
    (Position.running (State.start identity)).Silent := by
  refine ⟨⟨fun _ => by simp [Task.isEnding], rfl, trivial⟩, fun _ => rfl, rfl, fun _ => ?_, ?_⟩
  · simp [State.start, known]
  · simp [State.start, Task.isOfExplanation]

/-- A finished check with another result than a fail has no explanation, and has been looking
for none. -/
theorem unexplained_of_result {identity : Identity} {last : State}
    (known : identity.client.isSome)
    (steps : Position.Steps environment permitted (.running (State.start identity)) left
      (.running last))
    (finished : last.tasks = []) (other : last.result ≠ some .fail) :
    last.explanation = none ∧ ∀ passed ∈ left, passed.isExplaining = false := by
  rcases Position.Silent.steps (silent_start known) steps with ⟨silent, all⟩ | ⟨_, failing⟩
  · exact ⟨State.Silent.explanation silent, all⟩
  · rcases (shaped_start identity).steps steps with ⟨unfinished, _⟩ | ⟨_, decided⟩
    · exact absurd finished unfinished
    · exact absurd (failing.finished finished decided).1 other

end

/-- A check without a client address ends at once, whatever the options are. -/
theorem run_of_noClient (environment : Environment) (resolver : Resolver) {identity : Identity}
    (unknown : identity.client = none) :
    let report := run environment resolver identity
    report.outcome = ⟨.permError, [], headerValue .permError identity identity.domain⟩
      ∧ report.questions = [] := by
  have decided : (State.start identity).result = some .permError := by
    simp [State.start, unknown]
  have passes : runTurn environment (State.start identity) .evaluateDomain [.conclude]
      = ⟨[.run .evaluateDomain], .running { State.start identity with tasks := [.conclude] }⟩ := by
    have decided : ({ State.start identity with tasks := [.conclude] } : State).isOpen = false := by
      simp [State.isOpen, decided]
    simp [runTurn, runTask, decided, Reaction.settle]
  have concludes :
      runTurn environment { State.start identity with tasks := [.conclude] } .conclude []
        = ⟨[.run .conclude], .running { State.start identity with tasks := [] }⟩ := by
    simp [runTurn, runTask, State.decide, decided, Reaction.settle]
  have conversation : converse environment resolver [] (.running (State.start identity))
      = ([.run .evaluateDomain, .run .conclude], { State.start identity with tasks := [] }) := by
    rw [converse_running rfl, passes]
    dsimp only
    rw [converse_running rfl, concludes]
    dsimp only
    rw [converse_finished rfl]
    rfl
  simp only [run, conversation]
  refine ⟨?_, rfl⟩
  simp only [Outcome.ofState, decided]
  rfl

end SenderPolicy.Check
