import SenderPolicy.Proofs.Check.Likeness.Basic

/-!
# Tasks side by side

Every task leads from states alike to reactions alike: both checks go on, ask or fail. The lemmas
follow `runTask` from the stages on, one for each part, and `runTask_alike` puts them together.
-/

namespace SenderPolicy.Check.Likeness

variable {likeness : Likeness} {environment : Environment} {one other : State}

/-! ## Plain records -/

/-- The directives of a plain record have plain specifications. -/
theorem plain_of_directive {record : Record} (plain : ∀ spec ∈ record.specs, likeness.plain spec)
    {directive : Directive} (member : directive ∈ record.directives) :
    ∀ spec, directive.mechanism.domain? = some spec → likeness.plain spec :=
  fun spec same => plain spec
    (List.mem_append_left _ (List.mem_filterMap.mpr ⟨directive, member, same⟩))

theorem plain_of_modifier {record : Record} (plain : ∀ spec ∈ record.specs, likeness.plain spec)
    {modifier : Modifier} (member : modifier ∈ record.modifiers) :
    ∀ spec, modifier.spec? = some spec → likeness.plain spec :=
  fun spec same => plain spec
    (List.mem_append_right _ (List.mem_filterMap.mpr ⟨modifier, member, same⟩))

/-- The forwarder's directive is plain. -/
theorem plain_admitForwarder (holds : likeness.Holds environment) {policy : Policy}
    (plain : ∀ spec ∈ policy.record.specs, likeness.plain spec) :
    ∀ spec ∈ (admitForwarder policy).record.specs, likeness.plain spec := by
  unfold admitForwarder
  split
  · intro spec member
    rcases List.mem_append.mp member with inDirectives | inModifiers
    · obtain ⟨directive, found, same⟩ := List.mem_filterMap.mp inDirectives
      simp only [Record.insertBeforeLast, List.mem_append, List.mem_cons,
        Option.mem_toList] at found
      rcases found with front | rfl | last
      · exact plain_of_directive plain (List.dropLast_subset _ front) spec same
      · cases same
        exact holds.forwarder
      · exact plain_of_directive plain (List.mem_of_getLast? last) spec same
    · exact plain spec (List.mem_append_right _ inModifiers)
  · exact plain

theorem isShared_of_none {task : Task} (none : task.spec? = none)
    (other : task ≠ .stage .trustedForwarder) : likeness.IsShared environment task :=
  ⟨fun _ same => (nomatch none.symm.trans same), fun same => absurd same other⟩

theorem isShared_of_spec {task : Task}
    (plain : ∀ spec, task.spec? = some spec → likeness.plain spec)
    (some : ∀ stage, task ≠ .stage stage) : likeness.IsShared environment task :=
  ⟨plain, fun same => absurd same (some _)⟩

/-- The tasks of a plain record. -/
theorem policyTasks_shared {policy : Policy}
    (plain : ∀ spec ∈ policy.record.specs, likeness.plain spec) :
    ∀ task ∈ policyTasks policy, likeness.IsShared environment task := by
  intro task member
  simp only [policyTasks, List.mem_append, List.mem_map] at member
  rcases member with (⟨directive, found, rfl⟩ | ⟨modifier, found, rfl⟩) | ⟨hook, _, rfl⟩
  · exact isShared_of_spec (plain_of_directive plain found) (by simp)
  · exact isShared_of_spec (plain_of_modifier plain found) (by simp)
  · exact isShared_of_none rfl (by simp)

/-- The stages of a domain, among which the forwarder's stands only if it is wanted. -/
theorem stages_shared :
    ∀ task ∈ (stages environment.options).map Task.stage ++ [Task.evaluateRecord],
      likeness.IsShared environment task := by
  intro task member
  simp only [List.mem_append, List.mem_map, List.mem_singleton] at member
  rcases member with ⟨stage, found, rfl⟩ | rfl
  · refine ⟨by simp [Task.spec?], fun same => ?_⟩
    cases same
    cases wanted : environment.options.trustedForwarder with
    | true => rfl
    | false =>
        rw [stages, wanted, if_neg Bool.false_ne_true] at found
        revert found
        (repeat' split) <;> decide
  · exact isShared_of_none rfl (by simp)

section
variable (holds : likeness.Holds environment) (alike : likeness.AlikeStates environment one other)
include holds alike

/-! ## Stages -/

theorem useRecordText_alike {text : Text} (plain : likeness.plain text) :
    likeness.AlikeReactions environment (useRecordText text one) (useRecordText text other) := by
  unfold useRecordText
  cases read : Record.read text with
  | error failure => exact .fail alike rfl
  | ok record =>
      refine .proceed { alike with slot := rfl, plain := ?_ }
      rintro _ ⟨⟩
      exact holds.specs plain read

theorem useLocalRecord_alike {source : Option RecordSource} (keeps : likeness.KeepsSource source) :
    likeness.AlikeReactions environment (useLocalRecord source one)
      (useLocalRecord source other) := by
  unfold useLocalRecord
  rw [alike.slot]
  split
  · exact .proceed alike
  · cases source with
    | none => exact .proceed alike
    | some records =>
        obtain ⟨same, plain⟩ := keeps records rfl _ _ alike.domain
        simp only [Option.bind_some, ← same]
        cases found : records one.domain with
        | none => exact .proceed alike
        | some text => exact useRecordText_alike holds alike (plain text found)

omit holds in
theorem askRecords_alike (type : Dns.RecordType) {awaiting : Awaiting}
    (fits : likeness.Fits type awaiting) :
    likeness.AlikeReactions environment (askRecords type awaiting one)
      (askRecords type awaiting other) := by
  unfold askRecords
  rw [alike.slot]
  split
  · exact .proceed alike
  · exact .ask alike ⟨⟨alike.domain, rfl⟩, .same fits⟩

omit holds in
theorem changePolicy_alike {change : Policy → Policy}
    (keeps : ∀ policy, (∀ spec ∈ policy.record.specs, likeness.plain spec) →
      ∀ spec ∈ (change policy).record.specs, likeness.plain spec) :
    likeness.AlikeStates environment (changePolicy change one) (changePolicy change other) := by
  unfold changePolicy
  rw [alike.slot]
  split
  · rename_i policy found
    refine { alike with slot := rfl, plain := ?_ }
    rintro _ ⟨⟩
    exact keeps policy (alike.plain _ (alike.slot.trans found))
  · exact alike

theorem runStage_alike {stage : Stage} (shared : likeness.IsShared environment (.stage stage)) :
    likeness.AlikeReactions environment (runStage environment one stage)
      (runStage environment other stage) := by
  cases stage with
  | override => exact useLocalRecord_alike holds alike holds.overrides
  | initialChecks =>
      simp only [runStage, alike.client, holds.isFullyQualified alike.domain]
      split
      · exact .fail alike rfl
      · split
        · exact .proceed alike
        · exact .fail alike rfl
  | retrieve => exact askRecords_alike alike _ rfl
  | retrieveStrict => exact askRecords_alike alike _ rfl
  | bestGuess =>
      refine .proceed { alike with slot := ?_, plain := ?_ }
      · exact congrArg (· <|> _) alike.slot
      · intro slot found
        cases held : one.slot with
        | none =>
            simp only [held, Option.orElse_eq_orElse] at found
            cases found
            exact holds.guessed
        | some before =>
            simp only [held] at found
            cases found
            exact alike.plain _ held
  | parseRecord =>
      simp only [runStage, ← alike.slot]
      split
      · rename_i text found
        exact useRecordText_alike holds alike (alike.plain _ found)
      · exact .proceed alike
  | fallback => exact useLocalRecord_alike holds alike holds.fallbacks
  | noRecordFound =>
      simp only [runStage, alike.slot]
      split
      · exact .proceed alike
      · exact .fail alike rfl
  | trustedForwarder =>
      have same := holds.isSenders (shared.admits rfl) alike.domain alike.identity.domain
      simp only [runStage, same]
      split
      · exact .proceed (changePolicy_alike alike fun _ => plain_admitForwarder holds)
      · exact .proceed alike
  | neutralIfUnmatched =>
      refine .proceed (changePolicy_alike alike fun policy plain => ?_)
      split <;> exact plain
  | defaultExplanation => exact .proceed (changePolicy_alike alike fun _ plain => plain)

/-! ## Terms -/

theorem beginTerm_alike {half : Task} {spec : Option Text}
    (shared : likeness.IsShared environment half) :
    likeness.AlikeReactions environment (beginTerm environment half spec one)
      (beginTerm environment half spec other) := by
  have counted : likeness.AlikeStates environment one.countLookup other.countLookup :=
    { alike with depth := congrArg (· + 1) alike.depth }
  have exceeds : one.countLookup.exceedsLimit = other.countLookup.exceedsLimit := by
    rw [State.exceedsLimit, counted.depth, State.exceedsLimit]
  simp only [beginTerm, exceeds]
  split
  · exact .fail counted rfl
  · cases spec with
    | none => exact .proceed (counted.push shared)
    | some spec => exact prepareExpansion_alike holds (counted.push shared) .domain spec

theorem beginMechanism_alike {mechanism : Mechanism}
    (shared : likeness.IsShared environment (.mechanism mechanism)) :
    likeness.AlikeReactions environment (beginMechanism environment one mechanism)
      (beginMechanism environment other mechanism) := by
  cases asks : mechanism.asksDns with
  | true =>
      rw [beginMechanism_of_asksDns asks, beginMechanism_of_asksDns asks]
      exact beginTerm_alike holds alike (isShared_of_spec shared.spec (by simp))
  | false =>
      cases mechanism with
      | all => exact setMatched_alike alike _
      | network range =>
          simp only [beginMechanism, alike.client]
          split
          · exact .fail alike rfl
          · exact setMatched_alike alike _
      | _ => cases asks

theorem compareHost_alike {host otherHost : Text} (hosts : likeness.names host otherHost)
    (client : Address) (lengths : PrefixLengths) :
    likeness.AlikeReactions environment (compareHost client host lengths one)
      (compareHost client otherHost lengths other) := by
  simp only [compareHost, matchesAny, holds.readAddress hosts]
  split
  · simp only [List.any_cons, List.any_nil, holds.readAddress hosts]
    exact setMatched_alike alike _
  · exact askHost_alike holds alike hosts _ trivial

omit holds in
theorem enterInclude_alike {host otherHost : Text} (hosts : likeness.names host otherHost) :
    likeness.AlikeStates environment (enterInclude host one) (enterInclude otherHost other) := by
  have frames : likeness.AlikeTasks environment
      (.leaveInclude ⟨one.domain, one.verdict, one.muted⟩)
      (.leaveInclude ⟨other.domain, other.verdict, other.muted⟩) := by
    rw [alike.verdict, alike.muted]
    exact .leaveInclude alike.domain
  exact { alike with
    domain := hosts
    verdict := rfl
    muted := rfl
    tasks := .cons (.same (isShared_of_none rfl (by simp))) (.cons frames alike.tasks) }

theorem continueMechanism_alike {mechanism : Mechanism}
    (shared : likeness.IsShared environment (.expandedMechanism mechanism)) :
    likeness.AlikeReactions environment (continueMechanism environment mechanism one)
      (continueMechanism environment mechanism other) := by
  unfold continueMechanism
  rw [alike.client]
  rcases targetHost_cases holds alike mechanism.domain? shared.spec with
    ⟨failure, first, second⟩ | ⟨host, otherHost, first, second, hosts⟩
  · rw [first, second]
    exact .fail alike rfl
  · rw [first, second]
    dsimp only
    split
    · exact compareHost_alike holds alike hosts _ _
    · exact .fail alike rfl
    · exact askHost_alike holds alike hosts _ rfl
    · exact .ask alike ⟨alikeQuestions_refl holds _, .hostNames hosts rfl⟩
    · exact .fail alike rfl
    · exact .proceed (enterInclude_alike alike hosts)
    · exact askHost_alike holds alike hosts _ trivial
    · exact .proceed alike
    · exact .proceed alike

theorem beginModifier_alike {modifier : Modifier}
    (shared : likeness.IsShared environment (.modifier modifier)) :
    likeness.AlikeReactions environment (beginModifier environment one modifier)
      (beginModifier environment other modifier) := by
  cases modifier with
  | redirect spec =>
      by_cases opened : other.isOpen = true
      · rw [beginModifier_redirect opened, beginModifier_redirect (alike.isOpen.trans opened)]
        exact beginTerm_alike holds alike (isShared_of_spec shared.spec (by simp))
      · rw [beginModifier, beginModifier, alike.isOpen, if_neg opened, if_neg opened]
        exact .proceed alike
  | exp spec =>
      simp only [beginModifier, alike.wantsExplanation]
      split
      · refine prepareExpansion_alike holds (alike.pushAll ?_) .domain spec
        simp only [List.forall_mem_cons, List.not_mem_nil, false_implies, implies_true, and_true]
        exact ⟨isShared_of_spec shared.spec (by simp), isShared_of_none rfl (by simp)⟩
      · exact .proceed alike
  | unknown name value => exact .proceed alike

theorem followRedirect_alike {spec : Text}
    (shared : likeness.IsShared environment (.followRedirect spec)) :
    likeness.AlikeReactions environment (followRedirect environment spec one)
      (followRedirect environment spec other) := by
  unfold followRedirect
  rcases targetHost_cases holds alike (some spec) shared.spec with
    ⟨failure, first, second⟩ | ⟨host, otherHost, first, second, hosts⟩
  · rw [first, second]
    exact .fail alike rfl
  · rw [first, second]
    have shared : ∀ task ∈ [Task.evaluateDomain, .leaveRedirect],
        likeness.IsShared environment task := by
      simp only [List.forall_mem_cons, List.not_mem_nil, false_implies, implies_true, and_true]
      exact ⟨isShared_of_none rfl (by simp), isShared_of_none rfl (by simp)⟩
    exact .proceed { alike.pushAll shared with domain := hosts }

/-! ## Explanations -/

theorem askExplanation_alike {spec : Text}
    (shared : likeness.IsShared environment (.askExplanation spec)) :
    likeness.AlikeReactions environment (askExplanation environment spec one)
      (askExplanation environment spec other) := by
  unfold askExplanation
  rcases targetHost_cases holds alike (some spec) shared.spec with
    ⟨failure, first, second⟩ | ⟨host, otherHost, first, second, hosts⟩
  · rw [first, second]
    exact .fail alike rfl
  · rw [first, second]
    exact .ask alike ⟨⟨hosts, rfl⟩, .same rfl⟩

theorem prepareExplanation_alike (text : Text) :
    likeness.AlikeReactions environment (prepareExplanation environment text one)
      (prepareExplanation environment text other) := by
  have shared : likeness.IsShared environment (.explain text) := isShared_of_none rfl (by simp)
  exact prepareExpansion_alike holds (alike.push shared) .explanation text

theorem explain_alike (text : Text) :
    likeness.AlikeReactions environment (explain environment text one)
      (explain environment text other) := by
  have after := alike.afterExpansion .explanation text
  unfold explain
  rcases alike.expand_cases .explanation text with
    ⟨obstacle, first, second⟩ | ⟨explanation, otherExplanation, first, second⟩
  · rw [first, second]
    cases obstacle with
    | failure failure => exact .fail after rfl
    | clientDomainUnknown => exact .fail after rfl
  · rw [first, second]
    exact .proceed { after with
      explanation := .some (holds.explanations alike.values first second) }

theorem runHook_alike (hook : Hook) :
    likeness.AlikeReactions environment (runHook environment one hook)
      (runHook environment other hook) := by
  cases hook with
  | neutralIfUnmatched =>
      exact .proceed { alike with verdict := congrArg (· <|> _) alike.verdict }
  | defaultExplanation text =>
      simp only [runHook, alike.wantsExplanation]
      split
      · have shared : likeness.IsShared environment .guardExplanation :=
          isShared_of_none rfl (by simp)
        exact prepareExplanation_alike holds (alike.push shared) text
      · exact .proceed alike

/-! ## All tasks -/

omit holds in
theorem leaveInclude_alike {domain otherDomain : Text} {verdict : Option Qualifier} {muted : Bool}
    (domains : likeness.names domain otherDomain) :
    likeness.AlikeStates environment (leaveInclude ⟨domain, verdict, muted⟩ one)
      (leaveInclude ⟨otherDomain, verdict, muted⟩ other) :=
  { alike with
    domain := domains
    verdict := rfl
    muted := rfl
    matched := by simp only [leaveInclude, alike.verdict] }

/-- A task that both checks run does the same in both. -/
theorem runTask_alike {task otherTask : Task}
    (tasks : likeness.AlikeTasks environment task otherTask) :
    likeness.AlikeReactions environment (runTask environment one task)
      (runTask environment other otherTask) := by
  cases tasks with
  | leaveInclude domains => exact .proceed (leaveInclude_alike alike domains)
  | same shared =>
      cases task with
      | conclude =>
          refine .proceed { alike with result := ?_ }
          simp only [State.decide, alike.verdict, alike.result]
      | evaluateDomain =>
          simp only [runTask, alike.isOpen]
          split
          · have cleared : likeness.AlikeStates environment { one with slot := none }
                { other with slot := none } := { alike with slot := rfl, plain := by simp }
            exact .proceed (cleared.pushAll stages_shared)
          · exact .proceed alike
      | stage stage => exact runStage_alike holds alike shared
      | evaluateRecord =>
          have cleared : likeness.AlikeStates environment { one with slot := none }
              { other with slot := none } := { alike with slot := rfl, plain := by simp }
          simp only [runTask, ← alike.slot]
          split
          · rename_i policy found
            exact .proceed (cleared.pushAll (policyTasks_shared (alike.plain _ found)))
          · exact .fail cleared rfl
      | directive directive =>
          simp only [runTask, alike.isOpen]
          split
          · have cleared : likeness.AlikeStates environment { one with matched := none }
                { other with matched := none } := { alike with matched := rfl }
            refine .proceed (cleared.pushAll ?_)
            simp only [List.forall_mem_cons, List.not_mem_nil, false_implies, implies_true,
              and_true]
            exact ⟨isShared_of_spec shared.spec (by simp), isShared_of_none rfl (by simp)⟩
          · exact .proceed alike
      | settle qualifier =>
          simp only [runTask, alike.matched]
          split
          · exact .proceed { alike with matched := rfl, verdict := rfl }
          · exact .proceed { alike with matched := rfl }
      | mechanism mechanism => exact beginMechanism_alike holds alike shared
      | expandedMechanism mechanism => exact continueMechanism_alike holds alike shared
      | leaveInclude frame => exact .proceed (leaveInclude_alike alike (holds.refl _))
      | modifier modifier => exact beginModifier_alike holds alike shared
      | followRedirect spec => exact followRedirect_alike holds alike shared
      | leaveRedirect => exact .proceed alike
      | askExplanation spec => exact askExplanation_alike holds alike shared
      | explain text => exact explain_alike holds alike text
      | guardExplanation => exact .proceed alike
      | hook hook => exact runHook_alike holds alike hook

end

end SenderPolicy.Check.Likeness
