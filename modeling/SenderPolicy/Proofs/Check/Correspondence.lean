import SenderPolicy.Proofs.Check.Realization.Retrieval

/-!
# A check is a direct evaluation

The turns of a check carry out the recursion of `checkHost`, so a check ends with its result and
asks its questions in its order. Only the questions for explanations come on top.
-/

namespace SenderPolicy.Direct

open SenderPolicy.Check
open Evaluation

variable {setting : Setting}

theorem modifiers_completed (setting : Setting) (domain : Text) (record : Record) :
    (completed setting domain record).modifiers = record.modifiers := by
  unfold completed
  split <;> rfl

/-- A verdict that the directives have given is not changed by default. -/
theorem defaultVerdict_some (record : Record) (qualifier : Qualifier) :
    defaultVerdict record (some qualifier) = some qualifier := by
  unfold defaultVerdict
  split <;> rfl

/-- A verdict that is missing becomes neutral by default, or stays missing. -/
theorem eq_of_defaultVerdict {record : Record} {verdict : Option Qualifier}
    (other : defaultVerdict record verdict ≠ some .neutral) :
    verdict ≠ some .neutral := by
  rintro rfl
  exact other (defaultVerdict_some record .neutral)

/-- Once its tasks are on the stack, a record is carried out. -/
theorem realizes_findRecord {level : Level} {below : List Task} {ledger : Ledger}
    {state : State} {domain : Text} {nested : Text → Evaluation Finding}
    (finds : Finds setting (level.depth + 1) nested) (record : Record)
    (compatible : Modifier.Compatible record.modifiers) (clear : Clear below below)
    (tasks : state.tasks = policyTasks ⟨record, hooksOf setting.environment record⟩ ++ below)
    (stands : Stands setting level ledger domain none state) :
    Realizes setting level below (Located setting level) (.running state)
      (findRecord setting nested domain record) ledger := by
  have hooks : Clear ((hooksOf setting.environment record).map Task.hook ++ below) below :=
    clear.append (by simp [isCatcher])
  have modifiers : Clear (record.modifiers.map Task.modifier
      ++ ((hooksOf setting.environment record).map Task.hook ++ below)) below :=
    hooks.append (by simp [isCatcher])
  rw [policyTasks, List.append_assoc, List.append_assoc] at tasks
  apply realizes_tryDirectives finds.nests record.directives modifiers tasks stands
  intro verdict later after stack stands
  cases verdict with
  | some qualifier =>
      apply realizes_idleModifiers record.modifiers (.inr rfl) stack stands.ended
      intro last rest ended same
      apply realizes_hooks record rest ended
      intro final rest ended unmoved
      rw [defaultVerdict_some] at ended
      exact realizes_pure rest ⟨ended, fun _ => unmoved.trans (same.trans stands.domain)⟩
  | none =>
      apply realizes_findRedirect finds record.modifiers compatible hooks stack stands
      intro remaining idle found later after stack located
      apply realizes_idleModifiers remaining (.inl idle) stack located.toEnded
      intro last rest ended same
      apply realizes_hooks record rest ended
      intro final rest ended unmoved
      refine realizes_pure rest ⟨ended, fun other => ?_⟩
      exact unmoved.trans (same.trans (located.place (eq_of_defaultVerdict other)))

/-- The turns of a domain carry out its evaluation if those of the domains it leads to do. -/
theorem realizes_findDomain {depth : Nat} {nested : Text → Evaluation Finding}
    (finds : Finds setting (depth + 1) nested) :
    Finds setting depth (findDomain setting (completed setting) nested) := by
  intro below domain muted ledger state unguarded within tasks stands
  have clear : Clear below below := .refl unguarded
  have opened : ({ state with tasks := below } : State).isOpen = true := by
    simp [State.isOpen, stands.verdict, stands.result]
  have stack : (stages setting.environment.options).map Task.stage ++ [.evaluateRecord] ++ below
      = (stages setting.environment.options).map Task.stage ++ .evaluateRecord :: below := by
    rw [List.append_assoc, List.singleton_append]
  apply realizes_run tasks
  simp only [runTask, opened]
  apply realizes_obtainRecord (clear.cons rfl) stack rfl (stands.update _ _ _ _)
  intro record later after compatible tasks slot stands
  apply realizes_completing tasks slot stands
  intro last stack stands
  exact realizes_findRecord finds _ (modifiers_completed setting domain record ▸ compatible)
    clear stack stands

/-- With as many levels as terms may ask the DNS, none is missing. -/
theorem finds_locate {levels depth : Nat} (enough : lookupLimit < levels + depth) :
    Finds setting depth (locate setting (completed setting) levels) := by
  induction levels generalizing depth with
  | zero =>
      intro below domain muted ledger state unguarded within tasks stands
      have counted : depth ≤ ledger.lookups := stands.counted
      omega
  | succ levels inductionHypothesis =>
      exact realizes_findDomain (inductionHypothesis (by omega))

/-! ## Whole checks -/

/-- A check of a client whose address is known stands at the beginning of an evaluation. -/
theorem stands_start (setting : Setting) :
    Stands setting ⟨0, false⟩ {} setting.identity.domain none (State.start setting.identity) :=
  ⟨⟨Nat.le_refl 0, rfl, by simp [State.start, setting.known], rfl, rfl, rfl⟩, rfl, rfl⟩

/-- A finished check stands as its evaluation has ended. -/
structure Reflects (setting : Setting) (ended : Except Failure Finding × Ledger)
    (state : State) : Prop where
  identity : state.identity = setting.identity
  depth : state.depth = ended.2.lookups
  result : state.result = some (codeOf (ended.1.map Finding.verdict))
  place : ∀ found, ended.1 = .ok found → found.verdict ≠ some .neutral →
    state.domain = found.place

/-- A check takes turns that ask the questions of its evaluation and end as it does. -/
theorem leads_evaluated (setting : Setting) {levels : Nat} (enough : lookupLimit < levels) :
    ∃ left last, Leads setting (.running (State.start setting.identity)) left (.running last)
      ∧ last.tasks = [] ∧ policyQuestions left = (evaluated setting levels).2.questions
      ∧ Reflects setting (evaluated setting levels) last := by
  have unguarded : Task.guardExplanation ∉ [Task.conclude] := by simp
  have finds : Finds setting 0 (locate setting (completed setting) levels) :=
    finds_locate enough
  obtain ⟨left, last, steps, asked, outcome⟩ :=
    finds unguarded (Nat.zero_le _) rfl (stands_start setting)
  unfold evaluated
  generalize (locate setting (completed setting) levels setting.identity.domain).runFrom {}
    = ended at asked outcome ⊢
  obtain ⟨result, after⟩ := ended
  cases result with
  | ok found =>
      obtain ⟨tasks, located⟩ := outcome
      refine ⟨left ++ [.running last], _, steps.trans (Position.Step.run tasks).steps, rfl, ?_,
        ⟨?_, ?_, ?_, ?_⟩⟩
      · simpa using asked.symm
      · exact located.identity
      · exact located.depth
      · simp only [State.decide, located.result, located.verdict]
        rfl
      · rintro _ ⟨⟩ other
        exact located.place other
  | error failure =>
      obtain ⟨failed, rfl, carries⟩ := outcome
      refine ⟨left, _, steps, rfl, ?_, ⟨?_, ?_, ?_, by rintro _ ⟨⟩⟩⟩
      · simpa using asked.symm
      · exact carries.identity
      · exact carries.depth
      · simp only [unwind, handle, State.decide, carries.result]
        rfl

/-- A check takes turns that end with the result of the evaluation and ask its questions. -/
theorem leads_check (setting : Setting) {levels : Nat} (enough : lookupLimit < levels) :
    ∃ left last, Leads setting (.running (State.start setting.identity)) left (.running last)
      ∧ last.tasks = [] ∧ policyQuestions left = (check setting levels).2
      ∧ last.result = some (check setting levels).1 := by
  obtain ⟨left, last, steps, tasks, asked, reflects⟩ := leads_evaluated setting enough
  rw [check_eq]
  exact ⟨left, last, steps, tasks, asked, reflects.result⟩

/-- A check has the result of the direct evaluation and asks the same questions in the same
order, apart from those for explanations, which are asked under a guard. -/
theorem run_eq_direct (setting : Setting) {levels : Nat} (enough : lookupLimit < levels) :
    let report := run setting.environment (fun _ => setting.zone) setting.identity
    let passed := visited setting.environment (fun _ => setting.zone) []
      (.running (State.start setting.identity))
    report.questions = passed.filterMap Position.question?
      ∧ (report.outcome.code, (passed.filter fun position => !position.isExplaining).filterMap
          Position.question?)
        = check setting levels := by
  obtain ⟨left, last, steps, tasks, asked, result⟩ := leads_check setting enough
  obtain ⟨rfl, rfl⟩ := steps.eq_visited tasks []
  refine ⟨questions_run _ _ _, Prod.ext ?_ asked⟩
  simp only [run, Outcome.ofState, result]
  rfl

/-- A domain whose include does not match and whose redirect decides. -/
def forwarded : Setting where
  environment := {}
  zone question :=
    if question = ⟨"a.example".toList, .spf⟩ then
      .records ["v=spf1 redirect=c.example include:b.example".toList]
    else if question = ⟨"b.example".toList, .txt⟩ then
      .records ["v=spf1 -all".toList]
    else if question = ⟨"c.example".toList, .spf⟩ then
      .records ["v=spf1 ip4:192.0.2.0/24 -all".toList]
    else
      .records []
  identity := Identity.read "192.0.2.1".toList "x@a.example".toList "a.example".toList
  client := ⟨.ip4, [192, 0, 2, 1], rfl, by decide⟩
  known := by decide +kernel

theorem run_eq_direct_forwarded :
    lookupLimit < 11
      ∧ let report := run forwarded.environment (fun _ => forwarded.zone) forwarded.identity
        let passed := visited forwarded.environment (fun _ => forwarded.zone) []
          (.running (State.start forwarded.identity))
        report.questions = passed.filterMap Position.question?
          ∧ (report.outcome.code,
              (passed.filter fun position => !position.isExplaining).filterMap
                Position.question?)
            = (.pass, [⟨"a.example".toList, .spf⟩, ⟨"b.example".toList, .spf⟩,
                ⟨"b.example".toList, .txt⟩, ⟨"c.example".toList, .spf⟩]) := by
  have enough : lookupLimit < 11 := by decide
  have evaluated : check forwarded 11
      = (.pass, [⟨"a.example".toList, .spf⟩, ⟨"b.example".toList, .spf⟩,
          ⟨"b.example".toList, .txt⟩, ⟨"c.example".toList, .spf⟩]) := by
    decide +kernel
  exact ⟨enough, evaluated ▸ run_eq_direct forwarded enough⟩

end SenderPolicy.Direct
