import SenderPolicy.Proofs.Check.Explanation
import SenderPolicy.Proofs.Check.Terms

/-!
# What most turns keep

Only a redirect, the start of an include and its end change the domain under evaluation or
whether explanations are wanted. All other turns leave both as they are and put tasks on top
of the stack, none of which leaves an include. Where explanations are not wanted, no turn
begins one. `runTask_keeps` and `receive_keeps` say so of every task and every answer.
-/

namespace SenderPolicy.Check

/-- The tasks that look up an explanation, set it or guard it. -/
def Task.isOfExplanation : Task → Bool
  | .askExplanation _ | .explain _ | .guardExplanation => true
  | _ => false

/-- What the task puts back, if it leaves an include. -/
def Task.frame? : Task → Option Frame
  | .leaveInclude frame => some frame
  | _ => none

/-- The task may start an include, leave one, or follow a redirect. -/
def Task.changesDomain : Task → Bool
  | .leaveInclude _ | .followRedirect _ | .expandedMechanism (.include _) => true
  | _ => false

/-- The domain is as it was, and tasks have been put on the stack, none of which leaves an
include. If nothing is to be explained, the explanation is as it was too, and none of the tasks
is for one. -/
structure State.Keeps (quiet : Prop) (base state : State) : Prop where
  identity : state.identity = base.identity
  domain : state.domain = base.domain
  muted : state.muted = base.muted
  explanation : quiet → state.explanation = base.explanation
  stack : ∃ above, state.tasks = above ++ base.tasks
    ∧ ∀ task ∈ above, task.frame? = none ∧ (quiet → task.isOfExplanation = false)

/-- Every outcome of a reaction keeps this. -/
def Reaction.Keeps (quiet : Prop) (base : State) : Reaction → Prop
  | .proceed state => base.Keeps quiet state
  | .ask state lookup => base.Keeps quiet state ∧ (quiet → lookup.awaiting ≠ .explanationTexts)
  | .fail state _ => base.Keeps quiet state

section
variable {quiet : Prop} {environment : Environment} {base state : State}

namespace State.Keeps

theorem refl (quiet : Prop) (state : State) : state.Keeps quiet state :=
  ⟨rfl, rfl, rfl, fun _ => rfl, [], rfl, nofun⟩

/-- Other fields may change. -/
theorem change {after : State} (kept : base.Keeps quiet state)
    (identity : after.identity = state.identity) (domain : after.domain = state.domain)
    (muted : after.muted = state.muted)
    (explanation : quiet → after.explanation = state.explanation)
    (tasks : after.tasks = state.tasks) : base.Keeps quiet after where
  identity := identity.trans kept.identity
  domain := domain.trans kept.domain
  muted := muted.trans kept.muted
  explanation := fun quietly => (explanation quietly).trans (kept.explanation quietly)
  stack := tasks ▸ kept.stack

theorem pushAll (kept : base.Keeps quiet state) {tasks : List Task}
    (none : ∀ task ∈ tasks, task.frame? = none ∧ (quiet → task.isOfExplanation = false)) :
    base.Keeps quiet (state.pushAll tasks) := by
  obtain ⟨above, stack, only⟩ := kept.stack
  refine ⟨kept.identity, kept.domain, kept.muted, kept.explanation, tasks ++ above, ?_, ?_⟩
  · rw [State.pushAll, stack, List.append_assoc]
  · exact List.forall_mem_append.mpr ⟨none, only⟩

theorem push (kept : base.Keeps quiet state) {task : Task} (frame : task.frame? = none)
    (other : quiet → task.isOfExplanation = false) : base.Keeps quiet (state.push task) :=
  kept.pushAll (List.forall_mem_singleton.mpr ⟨frame, other⟩)

end State.Keeps

/-! ## Steps of a task -/

theorem prepareExpansion_keeps (mode : Macro.Mode) (text : Text) (kept : base.Keeps quiet state) :
    (state.prepareExpansion environment mode text).Keeps quiet base := by
  have after : base.Keeps quiet (state.afterExpansion environment mode text) :=
    kept.change rfl rfl rfl (fun _ => rfl) rfl
  unfold State.prepareExpansion
  split
  · exact after
  · exact after
  · split
    · exact after
    · exact ⟨after, fun _ => nofun⟩

theorem setMatched_keeps (matched : Bool) (kept : base.Keeps quiet state) :
    (setMatched matched state).Keeps quiet base :=
  kept.change rfl rfl rfl (fun _ => rfl) rfl

theorem askHost_keeps {host : Text} {type : Dns.RecordType} {awaiting : Awaiting}
    (other : awaiting ≠ .explanationTexts) (kept : base.Keeps quiet state) :
    (askHost host type awaiting state).Keeps quiet base := by
  unfold askHost
  split
  · exact ⟨kept, fun _ => other⟩
  · exact setMatched_keeps _ kept

/-! ## Stages -/

theorem useRecordText_keeps (text : Text) (kept : base.Keeps quiet state) :
    (useRecordText text state).Keeps quiet base := by
  unfold useRecordText
  split
  · exact kept
  · exact kept.change rfl rfl rfl (fun _ => rfl) rfl

theorem useLocalRecord_keeps (source : Option RecordSource) (kept : base.Keeps quiet state) :
    (useLocalRecord source state).Keeps quiet base := by
  unfold useLocalRecord
  split
  · exact kept
  · split
    · exact kept
    · exact useRecordText_keeps _ kept

theorem askRecords_keeps (type : Dns.RecordType) {awaiting : Awaiting}
    (other : awaiting ≠ .explanationTexts) (kept : base.Keeps quiet state) :
    (askRecords type awaiting state).Keeps quiet base := by
  unfold askRecords
  split
  · exact kept
  · exact ⟨kept, fun _ => other⟩

theorem changePolicy_keeps (change : Policy → Policy) (kept : base.Keeps quiet state) :
    base.Keeps quiet (changePolicy change state) := by
  unfold changePolicy
  split
  · exact kept.change rfl rfl rfl (fun _ => rfl) rfl
  · exact kept

theorem runStage_keeps (stage : Stage) (kept : base.Keeps quiet state) :
    (runStage environment state stage).Keeps quiet base := by
  cases stage with
  | override => exact useLocalRecord_keeps _ kept
  | initialChecks =>
      simp only [runStage]
      split
      · exact kept
      · split <;> exact kept
  | retrieve => exact askRecords_keeps _ (by decide) kept
  | retrieveStrict => exact askRecords_keeps _ (by decide) kept
  | bestGuess => exact kept.change rfl rfl rfl (fun _ => rfl) rfl
  | parseRecord =>
      simp only [runStage]
      split
      · exact useRecordText_keeps _ kept
      · exact kept
  | fallback => exact useLocalRecord_keeps _ kept
  | noRecordFound =>
      simp only [runStage]
      split <;> exact kept
  | trustedForwarder =>
      simp only [runStage]
      split
      · exact changePolicy_keeps _ kept
      · exact kept
  | neutralIfUnmatched => exact changePolicy_keeps _ kept
  | defaultExplanation => exact changePolicy_keeps _ kept

/-! ## Terms and hooks -/

theorem beginTerm_keeps {half : Task} (frame : half.frame? = none)
    (other : half.isOfExplanation = false) (spec : Option Text) (kept : base.Keeps quiet state) :
    (beginTerm environment half spec state).Keeps quiet base := by
  have counted : base.Keeps quiet state.countLookup := kept.change rfl rfl rfl (fun _ => rfl) rfl
  have pushed : base.Keeps quiet (state.countLookup.push half) := counted.push frame fun _ => other
  simp only [beginTerm]
  split
  · exact counted
  · split
    · exact pushed
    · exact prepareExpansion_keeps _ _ pushed

theorem beginMechanism_keeps (mechanism : Mechanism) (kept : base.Keeps quiet state) :
    (beginMechanism environment state mechanism).Keeps quiet base := by
  cases asks : mechanism.asksDns with
  | true =>
      rw [beginMechanism_of_asksDns asks]
      exact beginTerm_keeps rfl rfl _ kept
  | false =>
      cases mechanism with
      | all => exact setMatched_keeps _ kept
      | network range =>
          simp only [beginMechanism]
          split
          · exact kept
          · exact setMatched_keeps _ kept
      | _ => cases asks

theorem continueMechanism_keeps {mechanism : Mechanism}
    (other : (Task.expandedMechanism mechanism).changesDomain = false)
    (kept : base.Keeps quiet state) :
    (continueMechanism environment mechanism state).Keeps quiet base := by
  unfold continueMechanism
  split
  · exact kept
  · split
    · simp only [compareHost]
      split
      · exact setMatched_keeps _ kept
      · exact askHost_keeps nofun kept
    · exact kept
    · exact askHost_keeps nofun kept
    · exact ⟨kept, fun _ => nofun⟩
    · exact kept
    · cases other
    · exact askHost_keeps nofun kept
    · exact kept
    · exact kept

/-- No explanation is wanted where it is muted. -/
theorem wantsExplanation_of_muted (muted : state.muted = true) :
    state.wantsExplanation = false := by
  simp [State.wantsExplanation, muted]

theorem beginModifier_keeps (modifier : Modifier)
    (unwanted : quiet → (Task.modifier modifier).mayExplain = true →
      state.wantsExplanation = false)
    (kept : base.Keeps quiet state) :
    (beginModifier environment state modifier).Keeps quiet base := by
  cases modifier with
  | redirect spec =>
      by_cases opened : state.isOpen = true
      · rw [beginModifier_redirect opened]
        exact beginTerm_keeps rfl rfl _ kept
      · rw [beginModifier, if_neg opened]
        exact kept
  | exp spec =>
      simp only [beginModifier]
      split
      · rename_i wanted
        have loud : ¬ quiet := fun quietly =>
          Bool.noConfusion ((unwanted quietly rfl).symm.trans wanted)
        refine prepareExpansion_keeps _ _ (kept.pushAll ?_)
        simp [Task.frame?, loud]
      · exact kept
  | unknown name value => exact kept

theorem runHook_keeps (hook : Hook)
    (unwanted : quiet → (Task.hook hook).mayExplain = true → state.wantsExplanation = false)
    (kept : base.Keeps quiet state) :
    (runHook environment state hook).Keeps quiet base := by
  cases hook with
  | neutralIfUnmatched => exact kept.change rfl rfl rfl (fun _ => rfl) rfl
  | defaultExplanation text =>
      simp only [runHook]
      split
      · rename_i wanted
        have loud : ¬ quiet := fun quietly =>
          Bool.noConfusion ((unwanted quietly rfl).symm.trans wanted)
        exact prepareExpansion_keeps _ _
          ((kept.push rfl (absurd · loud)).push rfl (absurd · loud))
      · exact kept

theorem explain_keeps (text : Text) (loud : ¬ quiet) (kept : base.Keeps quiet state) :
    (explain environment text state).Keeps quiet base := by
  unfold explain
  split
  · exact kept.change rfl rfl rfl (absurd · loud) rfl
  · exact kept.change rfl rfl rfl (fun _ => rfl) rfl
  · exact kept.change rfl rfl rfl (fun _ => rfl) rfl

theorem policyTasks_keeps (policy : Policy) :
    ∀ task ∈ policyTasks policy, task.frame? = none ∧ (quiet → task.isOfExplanation = false) := by
  intro task member
  simp only [policyTasks, List.mem_append, List.mem_map] at member
  rcases member with (⟨_, _, rfl⟩ | ⟨_, _, rfl⟩) | ⟨_, _, rfl⟩ <;> exact ⟨rfl, fun _ => rfl⟩

/-- A task that is no redirect and has no part in an include. -/
theorem runTask_keeps {task : Task} (other : task.changesDomain = false)
    (unwanted : quiet → task.mayExplain = true → state.wantsExplanation = false)
    (spoken : quiet → task.isOfExplanation = false) :
    (runTask environment state task).Keeps quiet state := by
  have kept := State.Keeps.refl quiet state
  cases task with
  | conclude => exact kept.change rfl rfl rfl (fun _ => rfl) rfl
  | evaluateDomain =>
      simp only [runTask]
      split
      · have cleared : state.Keeps quiet { state with slot := none } :=
          kept.change rfl rfl rfl (fun _ => rfl) rfl
        refine cleared.pushAll ?_
        intro task member
        simp only [List.mem_append, List.mem_map, List.mem_singleton] at member
        rcases member with ⟨_, _, rfl⟩ | rfl <;> exact ⟨rfl, fun _ => rfl⟩
      · exact kept
  | stage stage => exact runStage_keeps stage kept
  | evaluateRecord =>
      have cleared : state.Keeps quiet { state with slot := none } :=
        kept.change rfl rfl rfl (fun _ => rfl) rfl
      simp only [runTask]
      split
      · exact cleared.pushAll (policyTasks_keeps _)
      · exact cleared
  | directive directive =>
      simp only [runTask]
      split
      · have cleared : state.Keeps quiet { state with matched := none } :=
          kept.change rfl rfl rfl (fun _ => rfl) rfl
        refine cleared.pushAll ?_
        simp [Task.frame?, Task.isOfExplanation]
      · exact kept
  | settle qualifier =>
      simp only [runTask]
      split <;> exact kept.change rfl rfl rfl (fun _ => rfl) rfl
  | mechanism mechanism => exact beginMechanism_keeps mechanism kept
  | expandedMechanism mechanism => exact continueMechanism_keeps other kept
  | leaveInclude frame => cases other
  | modifier modifier => exact beginModifier_keeps modifier unwanted kept
  | followRedirect spec => cases other
  | leaveRedirect => exact kept
  | askExplanation spec =>
      have loud : ¬ quiet := fun quietly => Bool.noConfusion (spoken quietly)
      simp only [runTask, askExplanation]
      split
      · exact kept
      · exact ⟨kept, (absurd · loud)⟩
  | explain text => exact explain_keeps text (fun quietly => Bool.noConfusion (spoken quietly)) kept
  | guardExplanation => exact kept
  | hook hook => exact runHook_keeps hook unwanted kept

/-! ## Answers -/

theorem receiveRecords_keeps {answer : Dns.Answer} {next : Option Text → Reaction}
    (kept : base.Keeps quiet state) (each : ∀ found, (next found).Keeps quiet base) :
    (receiveRecords answer state next).Keeps quiet base := by
  unfold receiveRecords
  split
  · exact kept
  · split
    · exact kept
    · exact each _

theorem keepRecordText_keeps (found : Option Text) (kept : base.Keeps quiet state) :
    base.Keeps quiet (keepRecordText found state) := by
  cases found with
  | none => exact kept
  | some text => exact kept.change rfl rfl rfl (fun _ => rfl) rfl

theorem askExchangerAddresses_keeps (lengths : PrefixLengths) (hosts : List Text)
    (kept : base.Keeps quiet state) :
    (askExchangerAddresses lengths hosts state).Keeps quiet base := by
  unfold askExchangerAddresses
  split
  · exact kept
  · split
    · exact setMatched_keeps _ kept
    · exact ⟨kept, fun _ => nofun⟩

theorem askHostAddresses_keeps (target : Text) (names : List Text)
    (kept : base.Keeps quiet state) :
    (askHostAddresses target names state).Keeps quiet base := by
  unfold askHostAddresses
  split
  · exact kept
  · split
    · exact setMatched_keeps _ kept
    · exact ⟨kept, fun _ => nofun⟩

theorem askClientAddresses_keeps (names : List Text) (kept : base.Keeps quiet state) :
    (askClientAddresses names state).Keeps quiet base := by
  unfold askClientAddresses
  split
  · exact kept
  · split
    · exact kept.change rfl rfl rfl (fun _ => rfl) rfl
    · exact ⟨kept, fun _ => nofun⟩

/-- An answer, except that an explanation is prepared from those asked for it. -/
theorem receive_keeps (answer : Dns.Answer) {awaiting : Awaiting}
    (other : quiet → awaiting ≠ .explanationTexts) :
    (receive environment answer state awaiting).Keeps quiet state := by
  have kept := State.Keeps.refl quiet state
  cases awaiting with
  | spfRecords =>
      refine receiveRecords_keeps kept fun found => ?_
      cases found with
      | none => exact askRecords_keeps _ nofun kept
      | some text => exact keepRecordText_keeps _ kept
  | txtRecords => exact receiveRecords_keeps kept fun found => keepRecordText_keeps _ kept
  | strictSpfRecords => exact receiveRecords_keeps kept fun found => ⟨kept, fun _ => nofun⟩
  | strictTxtRecords spf =>
      refine receiveRecords_keeps kept fun found => ?_
      split
      · exact kept
      · exact keepRecordText_keeps _ kept
  | addresses lengths =>
      simp only [receive, receiveAddresses]
      split
      · exact kept
      · split
        · exact kept
        · exact setMatched_keeps _ kept
  | exchangers lengths =>
      simp only [receive, receiveExchangers]
      split
      · exact kept
      · split
        · exact kept
        · exact askExchangerAddresses_keeps _ _ kept
  | exchangerAddresses lengths pending =>
      simp only [receive, receiveExchangerAddresses]
      split
      · exact kept
      · split
        · exact kept
        · split
          · exact setMatched_keeps _ kept
          · exact askExchangerAddresses_keeps _ _ kept
  | hostNames target =>
      simp only [receive, receiveHostNames]
      split
      · exact setMatched_keeps _ kept
      · exact askHostAddresses_keeps _ _ kept
  | hostAddresses target candidate pending =>
      simp only [receive, receiveHostAddresses]
      split
      · exact askHostAddresses_keeps _ _ kept
      · split
        · exact kept
        · split
          · exact setMatched_keeps _ kept
          · exact askHostAddresses_keeps _ _ kept
  | existence =>
      simp only [receive, receiveExistence]
      split
      · exact kept
      · exact setMatched_keeps _ kept
  | explanationTexts =>
      have loud : ¬ quiet := fun quietly => other quietly rfl
      simp only [receive, receiveExplanationTexts]
      split
      · exact prepareExpansion_keeps _ _ (kept.push rfl (absurd · loud))
      · exact kept
  | clientNames =>
      simp only [receive, receiveClientNames]
      split
      · exact kept.change rfl rfl rfl (fun _ => rfl) rfl
      · exact askClientAddresses_keeps _ kept
  | clientAddresses candidate pending =>
      simp only [receive, receiveClientAddresses]
      split
      · exact askClientAddresses_keeps _ kept
      · split
        · exact kept
        · split
          · exact kept.change rfl rfl rfl (fun _ => rfl) rfl
          · exact askClientAddresses_keeps _ kept

end

/-! ## Handling failures -/

/-- The state after a failure has been handled. -/
def Handling.state : Handling → State
  | .caught after => after
  | .rethrown after _ => after

/-- A catcher keeps the stack, the explanation and the identity. Only one that leaves an include
changes the domain and the muting, to those of its frame. -/
theorem handle_effect {failure : Failure} {state : State} {task : Task} {handling : Handling}
    (handled : handle failure state task = some handling) :
    handling.state.tasks = state.tasks ∧ handling.state.explanation = state.explanation
      ∧ handling.state.identity = state.identity
      ∧ handling.state.domain = (task.frame?.map Frame.domain).getD state.domain
      ∧ handling.state.muted = (task.frame?.map Frame.muted).getD state.muted := by
  cases task with
  | conclude =>
      cases handled
      exact ⟨rfl, rfl, rfl, rfl, rfl⟩
  | leaveInclude frame =>
      simp only [handle] at handled
      split at handled <;> cases handled <;> exact ⟨rfl, rfl, rfl, rfl, rfl⟩
  | leaveRedirect =>
      simp only [handle] at handled
      split at handled <;> cases handled <;> exact ⟨rfl, rfl, rfl, rfl, rfl⟩
  | guardExplanation =>
      cases handled
      exact ⟨rfl, rfl, rfl, rfl, rfl⟩
  | _ => cases handled

/-! ## What failures leave -/

/-- The state of a reaction. -/
def Reaction.state : Reaction → State
  | .proceed state => state
  | .ask state _ => state
  | .fail state _ => state

/-- What a failure leaves as it is, whoever handles it. It sets the result at most if there is
none. -/
structure State.Outlasts (base after : State) : Prop where
  identity : after.identity = base.identity
  depth : after.depth = base.depth
  explanation : after.explanation = base.explanation
  slot : after.slot = base.slot
  clientDomain : after.clientDomain = base.clientDomain
  receiver : after.receiver = base.receiver
  result : after.result = base.result
    ∨ base.result = none ∧ ∃ failure : Failure, after.result = some failure.code

theorem State.Outlasts.refl (state : State) : state.Outlasts state :=
  ⟨rfl, rfl, rfl, rfl, rfl, rfl, .inl rfl⟩

theorem State.Outlasts.stack (state : State) (tasks : List Task) :
    state.Outlasts { state with tasks } :=
  ⟨rfl, rfl, rfl, rfl, rfl, rfl, .inl rfl⟩

theorem State.Outlasts.trans {base middle after : State} (first : base.Outlasts middle)
    (second : middle.Outlasts after) : base.Outlasts after where
  identity := second.identity.trans first.identity
  depth := second.depth.trans first.depth
  explanation := second.explanation.trans first.explanation
  slot := second.slot.trans first.slot
  clientDomain := second.clientDomain.trans first.clientDomain
  receiver := second.receiver.trans first.receiver
  result := by
    rcases second.result with same | ⟨undecided, failure, set⟩
    · rw [same]
      exact first.result
    · rcases first.result with same | ⟨_, other, set'⟩
      · exact .inr ⟨same.symm.trans undecided, failure, set⟩
      · cases set'.symm.trans undecided

theorem State.Outlasts.result_eq {base after : State} {code : ResultCode}
    (kept : base.Outlasts after) (decided : base.result = some code) :
    after.result = some code := by
  rcases kept.result with same | ⟨undecided, _⟩
  · exact same.trans decided
  · cases decided.symm.trans undecided

theorem outlasts_decide (failure : Failure) (state : State) :
    state.Outlasts (state.decide failure.code) := by
  refine ⟨rfl, rfl, rfl, rfl, rfl, rfl, ?_⟩
  unfold State.decide
  cases state.result with
  | none => exact .inr ⟨rfl, failure, rfl⟩
  | some code => exact .inl rfl

theorem handle_outlasts {failure : Failure} {state : State} {task : Task} {handling : Handling}
    (handled : handle failure state task = some handling) : state.Outlasts handling.state := by
  cases task with
  | conclude =>
      cases handled
      exact outlasts_decide failure state
  | leaveInclude frame =>
      simp only [handle] at handled
      split at handled <;> cases handled <;> exact ⟨rfl, rfl, rfl, rfl, rfl, rfl, .inl rfl⟩
  | leaveRedirect =>
      simp only [handle] at handled
      split at handled <;> cases handled <;> exact ⟨rfl, rfl, rfl, rfl, rfl, rfl, .inl rfl⟩
  | guardExplanation =>
      cases handled
      exact .refl state
  | _ => cases handled

theorem unwind_outlasts (failure : Failure) (state : State) (tasks : List Task) :
    state.Outlasts (unwind failure state tasks).2 := by
  induction tasks generalizing failure state with
  | nil => exact (State.Outlasts.stack state []).trans (outlasts_decide failure _)
  | cons task tasks inductionHypothesis =>
      rw [unwind]
      cases handled : handle failure { state with tasks } task with
      | none => exact inductionHypothesis failure state
      | some handling =>
          have here := (State.Outlasts.stack state tasks).trans (handle_outlasts handled)
          cases handling with
          | caught after => exact here
          | rethrown after next => exact here.trans (inductionHypothesis next after)

theorem Reaction.outlasts_settle (reaction : Reaction) :
    reaction.state.Outlasts reaction.settle.position.state := by
  cases reaction with
  | proceed state => exact .refl state
  | ask state lookup => exact .refl state
  | fail state failure => exact unwind_outlasts failure state state.tasks

theorem Reaction.Keeps.keeps {quiet : Prop} {base : State} {reaction : Reaction}
    (kept : reaction.Keeps quiet base) : base.Keeps quiet reaction.state := by
  cases reaction with
  | proceed after => exact kept
  | ask after lookup => exact kept.1
  | fail after failure => exact kept

theorem Reaction.Keeps.identity_eq {quiet : Prop} {base : State} {reaction : Reaction}
    (kept : reaction.Keeps quiet base) : reaction.state.identity = base.identity :=
  kept.keeps.identity

theorem runTask_identity (environment : Environment) (state : State) (task : Task) :
    (runTask environment state task).state.identity = state.identity := by
  cases changes : task.changesDomain with
  | false =>
      have kept : (runTask environment state task).Keeps False state :=
        runTask_keeps changes nofun nofun
      exact kept.identity_eq
  | true =>
      cases task with
      | leaveInclude frame => rfl
      | followRedirect spec =>
          simp only [runTask, followRedirect]
          split <;> rfl
      | expandedMechanism mechanism =>
          cases mechanism with
          | «include» spec =>
              simp only [runTask, continueMechanism]
              split <;> rfl
          | _ => cases changes
      | _ => cases changes

/-- A check is about one identity from its beginning to its end. -/
theorem Position.Step.identity {environment : Environment}
    {permitted : Dns.Question → Dns.Answer → Prop} {position next : Position}
    (turn : Step environment permitted position next) :
    next.state.identity = position.state.identity := by
  cases turn with
  | @hear state lookup answer allowed =>
      have kept : (receive environment answer state lookup.awaiting).Keeps False state :=
        receive_keeps answer nofun
      exact (Reaction.outlasts_settle _).identity.trans kept.identity_eq
  | @run state task below stack =>
      exact (Reaction.outlasts_settle _).identity.trans (runTask_identity environment _ task)

theorem Position.Steps.identity {environment : Environment}
    {permitted : Dns.Question → Dns.Answer → Prop} {identity : Identity} {left : List Position}
    {last : Position}
    (steps : Steps environment permitted (.running (State.start identity)) left last) :
    last.state.identity = identity :=
  @Steps.keeps _ _ (fun position => position.state.identity = identity)
    (fun turn holds => turn.identity.trans holds) _ _ _ steps rfl

theorem identity_visited (environment : Environment) (resolver : Resolver) (identity : Identity) :
    ∀ position ∈ visited environment resolver [] (.running (State.start identity)),
      position.state.identity = identity :=
  (@visited_keeps environment (fun position => position.state.identity = identity)
    (fun turn holds => turn.identity.trans holds) resolver [] _ rfl).1

theorem identity_converse (environment : Environment) (resolver : Resolver)
    (identity : Identity) :
    (converse environment resolver [] (.running (State.start identity))).2.identity
      = identity :=
  (@visited_keeps environment (fun position => position.state.identity = identity)
    (fun turn holds => turn.identity.trans holds) resolver [] _ rfl).2

end SenderPolicy.Check
