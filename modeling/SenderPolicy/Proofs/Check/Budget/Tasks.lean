import SenderPolicy.Proofs.Check.Budget.Basic
import SenderPolicy.Proofs.Check.Terms

/-!
# Tasks pay their price

Whatever a task does, its price can be paid from its own budget and that of the state below it.
-/

namespace SenderPolicy.Check

section
variable {tariff : Tariff} {environment : Environment} {state : State} {price budget : Nat}

/-! ## Steps of a task -/

theorem prepareExpansion_affords (mode : Macro.Mode) (text : Text) (compatible : state.Compatible)
    (affords : state.budget tariff environment.recordLimit + price ≤ budget) :
    (state.prepareExpansion environment mode text).Affords tariff environment price budget := by
  unfold State.prepareExpansion
  cases expanded : state.expand environment mode text with
  | ok host => exact ⟨compatible, affords⟩
  | error obstacle =>
      cases obstacle with
      | failure failure => exact ⟨compatible, affords⟩
      | clientDomainUnknown =>
          cases known : state.identity.client with
          | none => exact ⟨compatible, affords⟩
          | some client =>
              have unknown : state.clientDomain = none := Macro.clientDomain_of_expand expanded
              have paid := budget_clientNames tariff environment.recordLimit
                (state.afterExpansion environment mode text) ⟨client.reverseName, .ptr⟩ unknown
                known
              exact ⟨compatible, paid ▸ affords⟩

/-- A question apart from those for the client's domain. -/
theorem ask_affords {lookup : Lookup} (other : lookup.awaiting.findsClient = false)
    (compatible : state.Compatible)
    (affords : state.budget tariff environment.recordLimit
      + tariff.question * lookup.awaiting.questionLimit environment.recordLimit + price ≤ budget) :
    (Reaction.ask state lookup).Affords tariff environment price budget := by
  refine ⟨compatible, ?_⟩
  rw [budget_waiting tariff _ state other]
  exact affords

theorem askHost_affords {host : Text} {type : Dns.RecordType} {awaiting : Awaiting}
    (other : awaiting.findsClient = false) (compatible : state.Compatible)
    (affords : state.budget tariff environment.recordLimit
      + tariff.question * awaiting.questionLimit environment.recordLimit + price ≤ budget) :
    (askHost host type awaiting state).Affords tariff environment price budget := by
  unfold askHost
  split
  · exact ask_affords other compatible affords
  · have within : state.budget tariff environment.recordLimit + price ≤ budget := by omega
    exact ⟨compatible, within⟩

/-! ## Stages -/

theorem useRecordText_affords (text : Text) (compatible : state.Compatible)
    (affords : state.budget tariff environment.recordLimit + price ≤ budget) :
    (useRecordText text state).Affords tariff environment price budget := by
  unfold useRecordText
  cases reads : Record.read text with
  | error failure => exact ⟨compatible, affords⟩
  | ok record =>
      refine ⟨?_, affords⟩
      intro policy found
      cases found
      exact Record.compatible_of_read reads

theorem useLocalRecord_affords (source : Option RecordSource) (compatible : state.Compatible)
    (affords : state.budget tariff environment.recordLimit + price ≤ budget) :
    (useLocalRecord source state).Affords tariff environment price budget := by
  unfold useLocalRecord
  split
  · exact ⟨compatible, affords⟩
  · split
    · exact ⟨compatible, affords⟩
    · exact useRecordText_affords _ compatible affords

theorem askRecords_affords (type : Dns.RecordType) {awaiting : Awaiting}
    (other : awaiting.findsClient = false) (compatible : state.Compatible)
    (affords : state.budget tariff environment.recordLimit
      + tariff.question * awaiting.questionLimit environment.recordLimit + price ≤ budget) :
    (askRecords type awaiting state).Affords tariff environment price budget := by
  have within : state.budget tariff environment.recordLimit + price ≤ budget := by omega
  unfold askRecords
  split
  · exact ⟨compatible, within⟩
  · exact ask_affords other compatible affords

/-- A change of the policy that keeps its modifiers. -/
theorem changePolicy_affords {change : Policy → Policy}
    (keeps : ∀ policy, (change policy).record.modifiers = policy.record.modifiers)
    (compatible : state.Compatible)
    (affords : state.budget tariff environment.recordLimit + price ≤ budget) :
    (Reaction.proceed (changePolicy change state)).Affords tariff environment price budget := by
  unfold changePolicy
  split
  · rename_i policy slot
    refine ⟨?_, affords⟩
    intro changed found
    cases found
    rw [keeps]
    exact compatible policy slot
  · exact ⟨compatible, affords⟩

theorem runStage_affords (stage : Stage) (compatible : state.Compatible) :
    (runStage environment state stage).Affords tariff environment 0
      (state.budget tariff environment.recordLimit
        + (Task.stage stage).budget tariff environment.recordLimit) := by
  have affords : state.budget tariff environment.recordLimit + 0
      ≤ state.budget tariff environment.recordLimit
        + (Task.stage stage).budget tariff environment.recordLimit := by omega
  cases stage with
  | override => exact useLocalRecord_affords _ compatible affords
  | initialChecks =>
      simp only [runStage]
      split
      · exact ⟨compatible, affords⟩
      · split
        · exact ⟨compatible, affords⟩
        · exact ⟨compatible, affords⟩
  | retrieve => exact askRecords_affords .spf rfl compatible (Nat.le_refl _)
  | retrieveStrict => exact askRecords_affords .spf rfl compatible (Nat.le_refl _)
  | bestGuess =>
      refine ⟨?_, affords⟩
      intro policy found
      apply compatible policy
      cases slot : state.slot with
      | none => simp [slot] at found
      | some held => simpa [slot] using found
  | parseRecord =>
      simp only [runStage]
      split
      · exact useRecordText_affords _ compatible affords
      · exact ⟨compatible, affords⟩
  | fallback => exact useLocalRecord_affords _ compatible affords
  | noRecordFound =>
      simp only [runStage]
      split
      · exact ⟨compatible, affords⟩
      · exact ⟨compatible, affords⟩
  | trustedForwarder =>
      simp only [runStage]
      split
      · apply changePolicy_affords _ compatible affords
        intro policy
        unfold admitForwarder
        split <;> rfl
      · exact ⟨compatible, affords⟩
  | neutralIfUnmatched =>
      apply changePolicy_affords _ compatible affords
      intro policy
      split <;> rfl
  | defaultExplanation => exact changePolicy_affords (fun _ => rfl) compatible affords

/-! ## Terms -/

/-- A term that is counted can be afforded; one beyond the limit costs nothing. -/
theorem beginTerm_affords {half : Task} {takes : Bool} (spec : Option Text)
    (isHalf : half.isSecondHalf) (compatible : state.Compatible)
    (limited : takes = decide (state.depth < lookupLimit)) :
    (beginTerm environment half spec state).Affords tariff environment
      (if takes then tariff.term else 0) (state.budget tariff environment.recordLimit) := by
  simp only [beginTerm]
  by_cases within : state.depth < lookupLimit
  · have room : state.countLookup.exceedsLimit = false :=
      decide_eq_false (Nat.not_lt_of_le (Nat.succ_le_of_lt within))
    have counted := budget_countLookup tariff environment.recordLimit within
    have paid := secondHalf_budget_le tariff environment.recordLimit isHalf
    have affords : (state.countLookup.push half).budget tariff environment.recordLimit
        + tariff.term ≤ state.budget tariff environment.recordLimit := by
      rw [budget_push]
      omega
    rw [room, limited, decide_eq_true within]
    cases spec with
    | none => exact ⟨compatible, affords⟩
    | some spec => exact prepareExpansion_affords _ _ compatible affords
  · have full : state.countLookup.exceedsLimit = true :=
      decide_eq_true (Nat.lt_succ_of_le (Nat.le_of_not_lt within))
    rw [full, limited, decide_eq_false within]
    exact ⟨compatible, budget_countLookup_le tariff environment.recordLimit state⟩

theorem beginMechanism_affords (mechanism : Mechanism) (compatible : state.Compatible) :
    (beginMechanism environment state mechanism).Affords tariff environment
      (if (Task.mechanism mechanism).takesTerm state then tariff.term else 0)
      (state.budget tariff environment.recordLimit) := by
  cases asks : mechanism.asksDns with
  | true =>
      rw [beginMechanism_of_asksDns asks]
      apply beginTerm_affords _ rfl compatible
      simp [Task.takesTerm, asks]
  | false =>
      cases mechanism with
      | all => exact ⟨compatible, Nat.le_refl _⟩
      | network network =>
          simp only [beginMechanism]
          cases state.identity.client with
          | none => exact ⟨compatible, Nat.le_refl _⟩
          | some client => exact ⟨compatible, Nat.le_refl _⟩
      | _ => cases asks

theorem beginModifier_affords (modifier : Modifier) (compatible : state.Compatible) :
    (beginModifier environment state modifier).Affords tariff environment
      (if (Task.modifier modifier).takesTerm state then tariff.term else 0)
      (state.budget tariff environment.recordLimit
        + (Task.modifier modifier).budget tariff environment.recordLimit) := by
  cases modifier with
  | unknown name value => exact ⟨compatible, Nat.le_add_right _ _⟩
  | exp spec =>
      have guarded : (state.pushAll [.askExplanation spec, .guardExplanation]).Compatible :=
        compatible
      simp only [beginModifier]
      cases state.wantsExplanation with
      | true =>
          apply prepareExpansion_affords _ _ guarded
          rw [budget_pushAll]
          exact Nat.le_refl _
      | false => exact ⟨compatible, Nat.le_add_right _ _⟩
  | redirect spec =>
      cases opened : state.isOpen with
      | true =>
          rw [beginModifier_redirect opened]
          apply beginTerm_affords _ rfl compatible
          simp [Task.takesTerm, opened]
      | false =>
          simp only [beginModifier, Task.takesTerm, opened]
          exact ⟨compatible, Nat.le_add_right _ _⟩

theorem continueMechanism_affords (mechanism : Mechanism) (compatible : state.Compatible)
    (affords : state.budget tariff environment.recordLimit
      + tariff.question * mechanismQuestions environment.recordLimit mechanism + price ≤ budget) :
    (continueMechanism environment mechanism state).Affords tariff environment price budget := by
  have within : state.budget tariff environment.recordLimit + price ≤ budget := by omega
  unfold continueMechanism
  split
  · exact ⟨compatible, within⟩
  · cases mechanism with
    | all => exact ⟨compatible, within⟩
    | network network => exact ⟨compatible, within⟩
    | «include» spec =>
        rename_i host _
        have entered := budget_pushAll tariff environment.recordLimit state
          [.evaluateDomain, .leaveInclude ⟨state.domain, state.verdict, state.muted⟩]
        have cost : stackBudget tariff environment.recordLimit
            [.evaluateDomain, .leaveInclude ⟨state.domain, state.verdict, state.muted⟩]
            = tariff.question * 3 := by
          simp [stackBudget, Task.budget, Task.questionLimit, Task.isSecondHalf]
        have same : (enterInclude host state).budget tariff environment.recordLimit
            = (state.pushAll [.evaluateDomain,
                .leaveInclude ⟨state.domain, state.verdict, state.muted⟩]).budget tariff
              environment.recordLimit := rfl
        refine ⟨compatible, ?_⟩
        rw [same, entered, cost]
        exact affords
    | a spec lengths =>
        cases state.identity.client with
        | none => exact ⟨compatible, within⟩
        | some client =>
            simp only [compareHost]
            split
            · exact ⟨compatible, within⟩
            · exact askHost_affords rfl compatible affords
    | mx spec lengths => exact askHost_affords rfl compatible affords
    | ptr spec =>
        cases state.identity.client with
        | none => exact ⟨compatible, within⟩
        | some client => exact ask_affords rfl compatible affords
    | «exists» spec => exact askHost_affords rfl compatible affords

theorem followRedirect_affords (spec : Text) (compatible : state.Compatible)
    (affords : state.budget tariff environment.recordLimit + tariff.question * 3 + price
      ≤ budget) :
    (followRedirect environment spec state).Affords tariff environment price budget := by
  unfold followRedirect
  split
  · have within : state.budget tariff environment.recordLimit + price ≤ budget := by omega
    exact ⟨compatible, within⟩
  · rename_i host _
    have cost : stackBudget tariff environment.recordLimit [.evaluateDomain, .leaveRedirect]
        = tariff.question * 3 := by
      simp [stackBudget, Task.budget, Task.questionLimit, Task.isSecondHalf]
    have same : ({ state.pushAll [.evaluateDomain, .leaveRedirect] with domain := host }
        : State).budget tariff environment.recordLimit
        = (state.pushAll [.evaluateDomain, .leaveRedirect]).budget tariff
          environment.recordLimit := rfl
    refine ⟨compatible, ?_⟩
    rw [same, budget_pushAll, cost]
    exact affords

/-! ## Explanations -/

theorem prepareExplanation_affords (text : Text) (compatible : state.Compatible)
    (affords : state.budget tariff environment.recordLimit + price ≤ budget) :
    (prepareExplanation environment text state).Affords tariff environment price budget := by
  have pushed : (state.push (.explain text)).Compatible := compatible
  apply prepareExpansion_affords _ _ pushed
  rw [budget_push]
  exact affords

theorem explain_affords (text : Text) (compatible : state.Compatible)
    (affords : state.budget tariff environment.recordLimit + price ≤ budget) :
    (explain environment text state).Affords tariff environment price budget := by
  unfold explain
  split
  · exact ⟨compatible, affords⟩
  · exact ⟨compatible, affords⟩
  · exact ⟨compatible, affords⟩

/-! ## Tasks -/

/-- The price of a turn that runs a task. -/
def taskPrice (tariff : Tariff) (state : State) (task : Task) : Nat :=
  (if task.takesTerm state then tariff.term else 0)
    + (if task.isSecondHalf then tariff.secondHalf else 0)

/-- Running a task pays its price from the budgets of the task and of the state below it. -/
theorem runTask_affords (task : Task) (compatible : state.Compatible) :
    (runTask environment state task).Affords tariff environment (taskPrice tariff state task)
      (state.budget tariff environment.recordLimit
        + task.budget tariff environment.recordLimit) := by
  have free : state.budget tariff environment.recordLimit + 0
      ≤ state.budget tariff environment.recordLimit
        + task.budget tariff environment.recordLimit := by omega
  cases task with
  | conclude => exact ⟨compatible, free⟩
  | evaluateDomain =>
      simp only [runTask]
      cases state.isOpen with
      | true =>
          have fresh : ({ state with slot := none } : State).Compatible := by
            intro policy found
            cases found
          refine ⟨fresh, ?_⟩
          rw [budget_pushAll, stackBudget_stages]
          exact Nat.le_refl _
      | false => exact ⟨compatible, free⟩
  | stage stage => exact runStage_affords stage compatible
  | evaluateRecord =>
      have fresh : ({ state with slot := none } : State).Compatible := by
        intro policy found
        cases found
      simp only [runTask]
      split
      · rename_i policy slot
        have tasks := stackBudget_policyTasks tariff environment.recordLimit policy
          (compatible policy slot)
        have one : Task.evaluateRecord.budget tariff environment.recordLimit = tariff.question := by
          simp [Task.budget, Task.questionLimit, Task.isSecondHalf]
        refine ⟨fresh, ?_⟩
        rw [budget_pushAll, one]
        exact Nat.add_le_add_left tasks (state.budget tariff environment.recordLimit)
      · exact ⟨fresh, free⟩
  | directive directive =>
      simp only [runTask]
      cases state.isOpen with
      | true =>
          refine ⟨compatible, ?_⟩
          rw [budget_pushAll]
          exact Nat.le_refl _
      | false => exact ⟨compatible, free⟩
  | settle qualifier =>
      simp only [runTask]
      split
      · exact ⟨compatible, free⟩
      · exact ⟨compatible, free⟩
  | mechanism mechanism => exact beginMechanism_affords mechanism compatible
  | expandedMechanism mechanism =>
      apply continueMechanism_affords mechanism compatible
      simp only [taskPrice, Task.takesTerm, Task.isSecondHalf, Task.budget, Task.questionLimit]
      simp
      omega
  | leaveInclude frame => exact ⟨compatible, free⟩
  | modifier modifier => exact beginModifier_affords modifier compatible
  | followRedirect spec =>
      apply followRedirect_affords spec compatible
      simp only [taskPrice, Task.takesTerm, Task.isSecondHalf, Task.budget, Task.questionLimit]
      simp
      omega
  | leaveRedirect => exact ⟨compatible, free⟩
  | askExplanation spec =>
      simp only [runTask, askExplanation]
      split
      · exact ⟨compatible, free⟩
      · exact ask_affords rfl compatible (Nat.le_refl _)
  | explain text => exact explain_affords text compatible free
  | guardExplanation => exact ⟨compatible, free⟩
  | hook hook =>
      cases hook with
      | neutralIfUnmatched => exact ⟨compatible, free⟩
      | defaultExplanation text =>
          have guarded : (state.push .guardExplanation).Compatible := compatible
          simp only [runTask, runHook]
          cases state.wantsExplanation with
          | true =>
              apply prepareExplanation_affords text guarded
              rw [budget_push]
              exact Nat.le_refl _
          | false => exact ⟨compatible, free⟩

end

end SenderPolicy.Check
