import SenderPolicy.Proofs.Check.Consistency.Basic
import SenderPolicy.Proofs.Check.Terms
import SenderPolicy.Proofs.Record.Proper

/-!
# Tasks keep states consistent

One lemma for each step of a task says that its outcome is consistent and that it fails by an
ordinary failure. `runStage_isConsistent` follows what is at hand through the stages;
`prepareExpansion_isConsistent` is where a prepared task comes to stand on the stack, and
`isOfCell_of_targetHost` is where it relies on having been prepared.
-/

namespace SenderPolicy

/-- The expander accepts all domain specifications of a record that has been read. -/
theorem Record.isExpandable_of_read {text : Text} {record : Record}
    (reads : Record.read text = .ok record) : record.IsExpandable := by
  have proper := Record.isProper_of_read reads
  refine Record.isExpandable_iff.mpr ⟨fun directive member spec same => ?_,
    fun modifier member spec same => ?_⟩
  · exact Macro.isDomainSpec_iff.mpr ((proper.directives directive member).domain spec same)
  · cases proper.modifiers modifier member with
    | redirect domain =>
        cases same
        exact Macro.isDomainSpec_iff.mpr domain
    | exp domain =>
        cases same
        exact Macro.isDomainSpec_iff.mpr domain
    | unknown named free plain => cases same

namespace Check

section
variable {environment : Environment} {state : State} {explains : Bool}

/-! ## Expansions -/

/-- An expansion does not change what other expansions give. -/
theorem expand_afterExpansion (mode looked : Macro.Mode) (text asking : Text) :
    (state.afterExpansion environment looked asking).expand environment mode text
      = state.expand environment mode text :=
  Macro.expand_receiverAfter environment.localNames (state.values environment) mode looked text
    asking

/-- A text that a prepared task expands fails by its cells, or where it may by text outside
tokens. -/
theorem failure_of_expand {mode : Macro.Mode} {text : Text} {failure : Failure}
    (failed : state.expand environment mode text = .error (.failure failure))
    (domain : mode = .domain → Macro.isDomainSpec text = true) :
    failure.IsOrdinary ∨ mode = .explanation ∧ failure.IsUnreadable := by
  cases mode with
  | domain => exact .inl (.ofCell (Macro.isOfCell_of_expand (domain rfl) failed))
  | explanation =>
      rcases Macro.failure_of_expand_explanation failed with ofCell | unreadable
      · exact .inl (.ofCell ofCell)
      · exact .inr ⟨rfl, unreadable⟩

/-- Preparing the text of the task on top of the stack. -/
theorem prepareExpansion_isConsistent {task : Task} {mode : Macro.Mode} {text : Text}
    {below : List Task} (known : state.identity.client.isSome = true)
    (tasks : state.tasks = task :: below) (expands : task.expansion? = some (mode, text))
    (prepared : task.isPrepared = true) (expandable : task.IsExpandable)
    (domain : mode = .domain → Macro.isDomainSpec text = true)
    (spoken : mode = .explanation → explains = true) (plain : ∀ task ∈ below, task.IsPlain) :
    (state.prepareExpansion environment mode text).IsConsistent environment explains := by
  obtain ⟨client, isClient⟩ := Option.isSome_iff_exists.mp known
  unfold State.prepareExpansion
  cases expanded : state.expand environment mode text with
  | ok value =>
      refine ⟨known, [task], below, tasks, .prepared prepared expandable ?_, plain⟩
      intro other otherText same
      cases expands.symm.trans same
      rw [expand_afterExpansion, expanded]
      nofun
  | error obstacle =>
      cases obstacle with
      | failure failure =>
          refine ⟨⟨known, [task], below, tasks, ?_, plain⟩, ?_⟩
          · exact List.forall_mem_singleton.mpr (.inr prepared)
          · exact (failure_of_expand expanded domain).imp_right
              fun unreadable => ⟨spoken unreadable.1, unreadable.2⟩
      | clientDomainUnknown =>
          simp only [isClient]
          refine ⟨known, .client rfl tasks prepared expandable expands ?_ plain⟩
          rw [expand_afterExpansion, expanded]

/-- Preparing a domain specification. -/
theorem prepareExpansion_domain_isConsistent {task : Task} {spec : Text} {below : List Task}
    (known : state.identity.client.isSome = true) (tasks : state.tasks = task :: below)
    (expands : task.expansion? = some (.domain, spec)) (named : task.spec? = some spec)
    (prepared : task.isPrepared = true) (expandable : task.IsExpandable)
    (plain : ∀ task ∈ below, task.IsPlain) :
    (state.prepareExpansion environment .domain spec).IsConsistent environment explains :=
  prepareExpansion_isConsistent known tasks expands prepared expandable
    (fun _ => expandable spec named) nofun plain

/-- Preparing an explanation. -/
theorem prepareExplanation_isConsistent (text : Text) (plain : state.IsPlain) :
    (prepareExplanation environment text state).IsConsistent environment true :=
  have expandable : (Task.explain text).IsExpandable := nofun
  prepareExpansion_isConsistent plain.known rfl rfl rfl expandable nofun (fun _ => rfl) plain.tasks

/-- A domain specification that has been prepared gives a host, or fails by its cells. -/
theorem isOfCell_of_targetHost {spec : Option Text} {failure : Failure}
    (domain : ∀ text, spec = some text → Macro.isDomainSpec text = true)
    (ready : ∀ text, spec = some text →
      state.expand environment .domain text ≠ .error .clientDomainUnknown)
    (failed : state.targetHost environment spec = .error failure) : failure.IsOfCell := by
  unfold State.targetHost at failed
  split at failed
  · cases failed
  · rename_i text
    split at failed
    · cases failed
    · rename_i expanded
      cases failed
      exact Macro.isOfCell_of_expand (domain text rfl) expanded
    · rename_i unknown
      exact absurd unknown (ready text rfl)

/-! ## Stages -/

/-- A state whose record is being obtained. -/
structure State.IsObtaining (remaining : List Stage) (state : State) : Prop where
  known : state.identity.client.isSome = true
  stack : ∃ below, state.tasks = remaining.map .stage ++ .evaluateRecord :: below
    ∧ ∀ task ∈ below, task.IsPlain
  parses : parsesText remaining = true

namespace State.IsObtaining

variable {remaining : List Stage} (obtaining : state.IsObtaining remaining)
include obtaining

theorem proceed (slot : Option Slot) (fits : Fits remaining slot) :
    State.IsConsistent environment { state with slot } := by
  obtain ⟨below, tasks, plain⟩ := obtaining.stack
  refine ⟨obtaining.known, remaining.map .stage ++ [.evaluateRecord], below, ?_,
    .record obtaining.parses fits, plain⟩
  rw [tasks, List.append_assoc]
  rfl

theorem fail {failure : Failure} (ordinary : failure.IsOrdinary) :
    Reaction.IsConsistent environment explains (.fail state failure) := by
  obtain ⟨below, tasks, plain⟩ := obtaining.stack
  refine ⟨⟨obtaining.known, remaining.map .stage ++ [.evaluateRecord], below, ?_, ?_, plain⟩,
    .inl ordinary⟩
  · rw [tasks, List.append_assoc]
    rfl
  · intro task member
    rcases List.mem_append.mp member with stage | last
    · obtain ⟨_, _, rfl⟩ := List.mem_map.mp stage
      exact .inl rfl
    · obtain rfl := List.mem_singleton.mp last
      exact .inl rfl

theorem ask {lookup : Lookup} (finds : lookup.awaiting.findsRecord = true)
    (parse : .parseRecord ∈ remaining) (fits : Fits remaining state.slot) :
    Reaction.IsConsistent environment explains (.ask state lookup) := by
  obtain ⟨below, tasks, plain⟩ := obtaining.stack
  exact ⟨obtaining.known, .record finds tasks obtaining.parses parse fits plain⟩

theorem useRecordText (text : Text) :
    (Check.useRecordText text state).IsConsistent environment explains := by
  unfold Check.useRecordText
  split
  · rename_i failure failed
    exact obtaining.fail (Failure.isOrdinary_of_read failed)
  · rename_i record reads
    exact obtaining.proceed (some (.policy ⟨record, []⟩)) (Record.isExpandable_of_read reads)

theorem useLocalRecord (source : Option RecordSource) (fits : Fits remaining state.slot) :
    (Check.useLocalRecord source state).IsConsistent environment explains := by
  unfold Check.useLocalRecord
  split
  · exact obtaining.proceed _ fits
  · split
    · exact obtaining.proceed _ fits
    · exact obtaining.useRecordText _

theorem askRecords (type : Dns.RecordType) {awaiting : Awaiting}
    (finds : awaiting.findsRecord = true) (parse : .parseRecord ∈ remaining)
    (fits : Fits remaining state.slot) :
    (Check.askRecords type awaiting state).IsConsistent environment explains := by
  unfold Check.askRecords
  split
  · exact obtaining.proceed _ fits
  · exact obtaining.ask finds parse fits

/-- A change to the policy at hand that adds nothing the expander turns down. -/
theorem changePolicy {change : Policy → Policy}
    (keeps : ∀ policy, policy.record.IsExpandable → (change policy).record.IsExpandable)
    (fits : Fits remaining state.slot) :
    (Check.changePolicy change state).IsConsistent environment := by
  unfold Check.changePolicy
  split
  · rename_i policy atHand
    rw [atHand] at fits
    exact obtaining.proceed (some (.policy (change policy))) (keeps policy fits)
  · exact obtaining.proceed _ fits

end State.IsObtaining

theorem isExpandable_admitForwarder {policy : Policy} (expandable : policy.record.IsExpandable) :
    (admitForwarder policy).record.IsExpandable := by
  obtain ⟨directives, modifiers⟩ := Record.isExpandable_iff.mp expandable
  unfold admitForwarder
  split
  · refine Record.isExpandable_iff.mpr ⟨fun directive member spec same => ?_, modifiers⟩
    simp only [Record.insertBeforeLast, List.mem_append, List.mem_cons,
      Option.mem_toList] at member
    rcases member with before | rfl | last
    · exact directives directive (List.dropLast_subset _ before) spec same
    · cases same
      decide +kernel
    · exact directives directive (List.mem_of_getLast? last) spec same
  · exact expandable

/-- What is at hand before a stage is at hand after it, or has been used up. -/
theorem Fits.tail {stage : Stage} {remaining : List Stage} {slot : Option Slot}
    (fits : Fits (stage :: remaining) slot)
    (other : stage ≠ .parseRecord ∧ stage ≠ .noRecordFound) : Fits remaining slot := by
  cases slot with
  | none => exact (List.mem_cons.mp fits).resolve_left other.2.symm
  | some found =>
      cases found with
      | text text => exact (List.mem_cons.mp fits).resolve_left other.1.symm
      | policy policy => exact fits

/-- Running a stage. -/
theorem runStage_isConsistent {stage : Stage} {remaining : List Stage}
    (obtaining : state.IsObtaining remaining)
    (parses : parsesText (stage :: remaining) = true)
    (fits : Fits (stage :: remaining) state.slot) :
    (runStage environment state stage).IsConsistent environment explains := by
  obtain ⟨client, isClient⟩ := Option.isSome_iff_exists.mp obtaining.known
  cases stage with
  | override => exact obtaining.useLocalRecord _ (fits.tail (by decide))
  | initialChecks =>
      simp only [runStage, isClient, Option.isNone_some, Bool.false_eq_true, if_false]
      split
      · exact obtaining.proceed _ (fits.tail (by decide))
      · exact obtaining.fail (.notFullyQualified _)
  | retrieve =>
      exact obtaining.askRecords _ rfl (parseRecord_mem parses rfl) (fits.tail (by decide))
  | retrieveStrict =>
      exact obtaining.askRecords _ rfl (parseRecord_mem parses rfl) (fits.tail (by decide))
  | bestGuess =>
      refine obtaining.proceed (state.slot <|> some (.text guessedRecord)) ?_
      generalize state.slot = slot at fits
      cases slot with
      | none => exact parseRecord_mem parses rfl
      | some found => exact fits.tail (by decide)
  | parseRecord =>
      simp only [runStage]
      split
      · exact obtaining.useRecordText _
      · rename_i noText
        refine obtaining.proceed state.slot ?_
        generalize state.slot = slot at fits noText ⊢
        cases slot with
        | none => exact (List.mem_cons.mp fits).resolve_left (by decide)
        | some found =>
            cases found with
            | text text => exact absurd rfl (noText text)
            | policy policy => exact fits
  | fallback => exact obtaining.useLocalRecord _ (fits.tail (by decide))
  | noRecordFound =>
      simp only [runStage]
      split
      · rename_i present
        refine obtaining.proceed state.slot ?_
        generalize state.slot = slot at fits present ⊢
        cases slot with
        | none => cases present
        | some found =>
            cases found with
            | text text => exact (List.mem_cons.mp fits).resolve_left (by decide)
            | policy policy => exact fits
      · exact obtaining.fail (.noRecordFound _)
  | trustedForwarder =>
      simp only [runStage]
      split
      · exact obtaining.changePolicy (fun _ => isExpandable_admitForwarder)
          (fits.tail (by decide))
      · exact obtaining.proceed _ (fits.tail (by decide))
  | neutralIfUnmatched =>
      refine obtaining.changePolicy (fun policy expandable => ?_) (fits.tail (by decide))
      split <;> exact expandable
  | defaultExplanation =>
      exact obtaining.changePolicy (fun _ => id) (fits.tail (by decide))

/-! ## Mechanisms -/

theorem setMatched_isConsistent (matched : Bool) (plain : state.IsPlain) :
    (setMatched matched state).IsConsistent environment explains := by
  have after : State.IsPlain { state with matched := some matched } := plain.change rfl rfl
  exact after.consistent

theorem askHost_isConsistent {host : Text} {type : Dns.RecordType} {awaiting : Awaiting}
    (noRecord : awaiting.findsRecord = false) (noClient : awaiting.findsClient = false)
    (plain : state.IsPlain) :
    (askHost host type awaiting state).IsConsistent environment explains := by
  unfold askHost
  split
  · exact plain.ask noRecord noClient
  · exact setMatched_isConsistent false plain

/-- The second half of a term expands the domain specification that has been prepared. -/
theorem beginTerm_isConsistent {half : Task} {spec : Option Text}
    (prepared : half.isPrepared = true) (expands : half.expansion? = spec.map (.domain, ·))
    (named : half.spec? = spec) (expandable : half.IsExpandable) (plain : state.IsPlain) :
    (beginTerm environment half spec state).IsConsistent environment explains := by
  have counted : state.countLookup.IsPlain := plain.change rfl rfl
  simp only [beginTerm]
  split
  · exact counted.fail (.tooManyLookups _)
  · cases spec with
    | none =>
        refine ⟨plain.known, [_], state.tasks, rfl, .prepared prepared expandable ?_, plain.tasks⟩
        intro mode text isExpanded
        rw [expands] at isExpanded
        cases isExpanded
    | some spec =>
        exact prepareExpansion_domain_isConsistent plain.known rfl expands named prepared expandable
          plain.tasks

theorem beginMechanism_isConsistent {mechanism : Mechanism}
    (expandable : (Task.mechanism mechanism).IsExpandable) (plain : state.IsPlain) :
    (beginMechanism environment state mechanism).IsConsistent environment explains := by
  cases asks : mechanism.asksDns with
  | true =>
      rw [beginMechanism_of_asksDns asks]
      exact beginTerm_isConsistent rfl rfl rfl expandable plain
  | false =>
      obtain ⟨client, isClient⟩ := plain.exists_client
      cases mechanism with
      | all => exact setMatched_isConsistent true plain
      | network range =>
          simp only [beginMechanism, isClient]
          exact setMatched_isConsistent _ plain
      | _ => cases asks

section
variable {task : Task} (expandable : task.IsExpandable)
  (ready : ∀ mode text, task.expansion? = some (mode, text) →
    state.expand environment mode text ≠ .error .clientDomainUnknown)
include expandable ready

/-- A prepared task that expands a domain specification. -/
theorem isOfCell_of_prepared {spec : Option Text} {failure : Failure} (named : task.spec? = spec)
    (expands : task.expansion? = spec.map (.domain, ·))
    (failed : state.targetHost environment spec = .error failure) : failure.IsOfCell := by
  refine isOfCell_of_targetHost (fun text same => expandable text (named.trans same)) ?_ failed
  intro text same
  refine ready .domain text ?_
  rw [expands, same]
  rfl

theorem continueMechanism_isConsistent {mechanism : Mechanism}
    (same : task = .expandedMechanism mechanism) (plain : state.IsPlain) :
    (continueMechanism environment mechanism state).IsConsistent environment explains := by
  subst same
  obtain ⟨client, isClient⟩ := plain.exists_client
  unfold continueMechanism
  split
  · rename_i failure failed
    exact plain.fail (.ofCell (isOfCell_of_prepared expandable ready rfl rfl failed))
  · rename_i host _
    cases mechanism with
    | a spec lengths =>
        simp only [isClient, compareHost]
        split
        · exact setMatched_isConsistent _ plain
        · exact askHost_isConsistent rfl rfl plain
    | mx spec lengths => exact askHost_isConsistent rfl rfl plain
    | ptr spec =>
        simp only [isClient]
        exact plain.ask rfl rfl
    | «include» spec =>
        have entered : (enterInclude host state).IsPlain := by
          refine ⟨plain.known, List.forall_mem_cons.mpr ⟨?_, List.forall_mem_cons.mpr
            ⟨?_, plain.tasks⟩⟩⟩ <;> exact Task.isPlain_of_none rfl rfl rfl
        exact entered.consistent
    | «exists» spec => exact askHost_isConsistent rfl rfl plain
    | all => exact plain.consistent
    | network range => exact plain.consistent

theorem followRedirect_isConsistent {spec : Text} (same : task = .followRedirect spec)
    (plain : state.IsPlain) :
    (followRedirect environment spec state).IsConsistent environment explains := by
  subst same
  unfold followRedirect
  split
  · rename_i failure failed
    exact plain.fail (.ofCell (isOfCell_of_prepared expandable ready rfl rfl failed))
  · rename_i host _
    have pushed : (state.pushAll [.evaluateDomain, .leaveRedirect]).IsPlain := by
      refine plain.pushAll (List.forall_mem_cons.mpr ⟨?_, List.forall_mem_singleton.mpr ?_⟩) <;>
        exact Task.isPlain_of_none rfl rfl rfl
    have after : State.IsPlain
        { state.pushAll [.evaluateDomain, .leaveRedirect] with domain := host } :=
      pushed.change rfl rfl
    exact after.consistent

theorem askExplanation_isConsistent {spec : Text} (same : task = .askExplanation spec)
    (plain : state.IsPlain) :
    (askExplanation environment spec state).IsConsistent environment explains := by
  subst same
  unfold askExplanation
  split
  · rename_i failure failed
    exact plain.fail (.ofCell (isOfCell_of_prepared expandable ready rfl rfl failed))
  · exact plain.ask rfl rfl

omit expandable in
theorem explain_isConsistent {text : Text} (same : task = .explain text) (plain : state.IsPlain) :
    (explain environment text state).IsConsistent environment true := by
  subst same
  have after : (state.afterExpansion environment .explanation text).IsPlain :=
    plain.change rfl rfl
  unfold explain
  split
  · rename_i explanation _
    have explained : State.IsPlain
        { state.afterExpansion environment .explanation text with
          explanation := some explanation } :=
      after.change rfl rfl
    exact explained.consistent
  · rename_i failure failed
    exact ⟨after.abandoned, (failure_of_expand failed nofun).imp_right (And.imp_left fun _ => rfl)⟩
  · rename_i unknown
    exact absurd unknown (ready .explanation text rfl)

/-- Running a prepared task above plain ones. -/
theorem runTask_isConsistent_of_prepared (prepared : task.isPrepared = true)
    (plain : state.IsPlain) :
    (runTask environment state task).IsConsistent environment task.expandsExplanation := by
  cases task with
  | expandedMechanism mechanism => exact continueMechanism_isConsistent expandable ready rfl plain
  | followRedirect spec => exact followRedirect_isConsistent expandable ready rfl plain
  | askExplanation spec => exact askExplanation_isConsistent expandable ready rfl plain
  | explain text => exact explain_isConsistent ready rfl plain
  | _ => cases prepared

end

/-! ## Plain tasks -/

theorem beginModifier_isConsistent {modifier : Modifier}
    (expandable : (Task.modifier modifier).IsExpandable) (plain : state.IsPlain) :
    (beginModifier environment state modifier).IsConsistent environment explains := by
  cases modifier with
  | redirect spec =>
      by_cases opened : state.isOpen = true
      · rw [beginModifier_redirect opened]
        exact beginTerm_isConsistent rfl rfl rfl expandable plain
      · rw [beginModifier, if_neg opened]
        exact plain.consistent
  | exp spec =>
      have guard : Task.guardExplanation.IsPlain := Task.isPlain_of_none rfl rfl rfl
      simp only [beginModifier]
      split
      · exact prepareExpansion_domain_isConsistent plain.known rfl rfl rfl rfl expandable
          (List.forall_mem_cons.mpr ⟨guard, plain.tasks⟩)
      · exact plain.consistent
  | unknown name value => exact plain.consistent

theorem runHook_isConsistent (hook : Hook) (plain : state.IsPlain) :
    (runHook environment state hook).IsConsistent environment
      (Task.hook hook).expandsExplanation := by
  cases hook with
  | neutralIfUnmatched =>
      have after : State.IsPlain { state with verdict := state.verdict <|> some .neutral } :=
        plain.change rfl rfl
      exact after.consistent
  | defaultExplanation text =>
      have guarded : (state.push .guardExplanation).IsPlain :=
        plain.pushAll (List.forall_mem_singleton.mpr (Task.isPlain_of_none rfl rfl rfl))
      simp only [runHook]
      split
      · exact prepareExplanation_isConsistent text guarded
      · exact plain.consistent

/-- The tasks of a record that has been read are plain. -/
theorem isPlain_of_mem_policyTasks {policy : Policy} (expandable : policy.record.IsExpandable) :
    ∀ task ∈ policyTasks policy, task.IsPlain := by
  obtain ⟨directives, modifiers⟩ := Record.isExpandable_iff.mp expandable
  intro task member
  simp only [policyTasks, List.mem_append, List.mem_map] at member
  rcases member with (⟨directive, isDirective, rfl⟩ | ⟨modifier, isModifier, rfl⟩) | ⟨hook, _, rfl⟩
  · exact ⟨rfl, rfl, directives directive isDirective⟩
  · exact ⟨rfl, rfl, modifiers modifier isModifier⟩
  · exact Task.isPlain_of_none rfl rfl rfl

/-- Running a plain task above plain ones. -/
theorem runTask_isConsistent_of_plain {task : Task} (isPlain : task.IsPlain)
    (plain : state.IsPlain) :
    (runTask environment state task).IsConsistent environment task.expandsExplanation := by
  cases task with
  | conclude =>
      have after : (state.decide ((state.verdict.map Qualifier.result).getD .neutral)).IsPlain :=
        plain.change rfl rfl
      exact after.consistent
  | evaluateDomain =>
      simp only [runTask]
      split
      · refine ⟨plain.known, _, state.tasks, rfl, ?_, plain.tasks⟩
        exact .record (parsesText_stages _) (noRecordFound_mem_stages _)
      · exact plain.consistent
  | directive directive =>
      simp only [runTask]
      split
      · have cleared : State.IsPlain { state with matched := none } := plain.change rfl rfl
        have pushed : (State.pushAll [.mechanism directive.mechanism, .settle directive.qualifier]
            { state with matched := none }).IsPlain := by
          refine cleared.pushAll (List.forall_mem_cons.mpr
            ⟨⟨rfl, rfl, isPlain.expandable⟩, List.forall_mem_singleton.mpr ?_⟩)
          exact Task.isPlain_of_none rfl rfl rfl
        exact pushed.consistent
      · exact plain.consistent
  | settle qualifier =>
      have cleared : State.IsPlain { state with matched := none } := plain.change rfl rfl
      have settled : State.IsPlain { state with matched := none, verdict := some qualifier } :=
        plain.change rfl rfl
      simp only [runTask]
      split
      · exact settled.consistent
      · exact cleared.consistent
  | mechanism mechanism => exact beginMechanism_isConsistent isPlain.expandable plain
  | leaveInclude frame =>
      have left : (leaveInclude frame state).IsPlain := plain.change rfl rfl
      exact left.consistent
  | modifier modifier => exact beginModifier_isConsistent isPlain.expandable plain
  | leaveRedirect => exact plain.consistent
  | guardExplanation => exact plain.consistent
  | hook hook => exact runHook_isConsistent hook plain
  | stage stage => cases isPlain.record
  | evaluateRecord => cases isPlain.record
  | expandedMechanism mechanism => cases isPlain.prepared
  | followRedirect spec => cases isPlain.prepared
  | askExplanation spec => cases isPlain.prepared
  | explain text => cases isPlain.prepared

/-! ## All tasks -/

/-- Evaluating the record at hand: all stages are behind it, so there is a policy. -/
theorem evaluateRecord_isConsistent (plain : state.IsPlain) (fits : Fits [] state.slot) :
    (runTask environment state .evaluateRecord).IsConsistent environment explains := by
  have cleared : State.IsPlain { state with slot := none } := plain.change rfl rfl
  simp only [runTask]
  generalize state.slot = slot at fits
  cases slot with
  | none => cases fits
  | some found =>
      cases found with
      | text text => cases fits
      | policy policy => exact (cleared.pushAll (isPlain_of_mem_policyTasks fits)).consistent

/-- Running the task on top of the stack. -/
theorem runTask_isConsistent {task : Task} {below : List Task}
    (consistent : state.IsConsistent environment) (stack : state.tasks = task :: below) :
    (runTask environment { state with tasks := below } task).IsConsistent environment
      task.expandsExplanation := by
  obtain ⟨known, top, others, tasks, tops, plain⟩ := consistent
  rw [stack] at tasks
  cases tops with
  | nothing =>
      subst tasks
      obtain ⟨here, rest⟩ := List.forall_mem_cons.mp plain
      exact runTask_isConsistent_of_plain here ⟨known, rest⟩
  | @record remaining parses fits =>
      cases remaining with
      | nil =>
          obtain ⟨rfl, rfl⟩ := List.cons.inj tasks
          exact evaluateRecord_isConsistent ⟨known, plain⟩ fits
      | cons stage remaining =>
          obtain ⟨rfl, rfl⟩ := List.cons.inj tasks
          have rest := List.append_assoc (remaining.map Task.stage) [.evaluateRecord] others
          exact runStage_isConsistent ⟨known, ⟨others, rest, plain⟩, parsesText_tail parses⟩ parses
            fits
  | prepared prepared expandable ready =>
      obtain ⟨rfl, rfl⟩ := List.cons.inj tasks
      exact runTask_isConsistent_of_prepared expandable ready prepared ⟨known, plain⟩

end

end Check

end SenderPolicy
