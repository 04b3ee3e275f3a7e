import SenderPolicy.Proofs.Check.Realization.Nested
import SenderPolicy.Proofs.Check.Retrieval.Groups
import SenderPolicy.Proofs.Record.Modifiers

/-!
# What follows the directives

After its directives a record's modifiers are run, of which at most one redirects, and then
the hooks. An explanation among them runs above its guard and leaves the evaluation as it is.
-/

namespace SenderPolicy.Direct

open SenderPolicy.Check
open Evaluation

/-- The modifiers after a redirect hold no other. -/
theorem redirectOf?_eq_none {spec : Text} {modifiers : List Modifier}
    (compatible : Modifier.Compatible (.redirect spec :: modifiers)) :
    redirectOf? modifiers = none := by
  obtain ⟨apart, -⟩ := List.pairwise_cons.mp compatible
  clear compatible
  induction modifiers with
  | nil => rfl
  | cons modifier modifiers inductionHypothesis =>
      have rest := inductionHypothesis fun other member =>
        apart other (List.mem_cons_of_mem _ member)
      have first := apart modifier (List.mem_cons_self ..)
      cases modifier with
      | redirect other => contradiction
      | exp other => exact rest
      | unknown name value => exact rest

/-- Only the stack and what no evaluation reads are different. -/
theorem Ended.update {setting : Setting} {level : Level} {verdict : Option Qualifier}
    {ledger : Ledger} {state : State} (ended : Ended setting level verdict ledger state)
    (tasks : List Task) : Ended setting level verdict ledger { state with tasks } :=
  ⟨ended.counted, ended.identity, ended.result, ended.depth, ended.clientDomain, ended.muted,
    ended.verdict⟩

section
variable {setting : Setting} {level : Level} {β : Type} {below rest : List Task}
  {done : β → Ledger → State → Prop} {ledger : Ledger} {state : State} {domain : Text}

/-! ## Modifiers -/

/-- Without a verdict the modifiers do nothing but redirect. -/
theorem realizes_findRedirect {nested : Text → Evaluation Finding}
    {next : Finding → Evaluation β} (finds : Finds setting (level.depth + 1) nested)
    (modifiers : List Modifier) (compatible : Modifier.Compatible modifiers)
    (clear : Clear rest below)
    (tasks : state.tasks = modifiers.map Task.modifier ++ rest)
    (stands : Stands setting level ledger domain none state)
    (continues : ∀ remaining, redirectOf? remaining = none →
      FindingContinues setting level below done (remaining.map Task.modifier ++ rest) next) :
    Realizes setting level below done (.running state)
      (findRedirect setting nested domain (redirectOf? modifiers) >>= next) ledger := by
  induction modifiers generalizing state with
  | nil =>
      exact continues [] rfl ⟨none, domain⟩ ledger state tasks
        ⟨stands.ended, fun _ => stands.domain⟩
  | cons modifier modifiers inductionHypothesis =>
      rw [List.map_cons, List.cons_append] at tasks
      apply realizes_run tasks
      have popped : Stands setting level ledger domain none
          { state with tasks := modifiers.map Task.modifier ++ rest } := stands.update _ _ _ _
      cases modifier with
      | redirect spec =>
          have passed : Clear (modifiers.map Task.modifier ++ rest) below :=
            clear.append (by simp [isCatcher])
          exact realizes_redirect finds spec passed popped
            (continues modifiers (redirectOf?_eq_none compatible))
      | exp spec =>
          have unwanted : ({ state with tasks := modifiers.map Task.modifier ++ rest }
              : State).wantsExplanation = false := by
            simp [State.wantsExplanation, stands.verdict]
          simp only [runTask, beginModifier, unwanted]
          exact inductionHypothesis compatible.of_cons rfl popped
      | unknown name value => exact inductionHypothesis compatible.of_cons rfl popped

/-- An explanation leaves the evaluation of a domain where it has ended. -/
theorem realizes_explanation {evaluation : Evaluation β} {verdict : Option Qualifier}
    {reaction : Reaction} (explaining : reaction.Explaining state rest)
    (wanted : state.wantsExplanation) (ended : Ended setting level verdict ledger state)
    (continues : ∀ after : State, after.tasks = rest → Ended setting level verdict ledger after →
      after.domain = state.domain →
      Realizes setting level below done (.running after) evaluation ledger) :
    Realizes setting level below done reaction.settle.position evaluation ledger := by
  have failing : verdict = some .fail ∧ level.muted = false := by
    obtain ⟨failed, _, loud⟩ := wantsExplanation_iff.mp wanted
    exact ⟨ended.verdict.symm.trans failed, ended.muted.symm.trans loud⟩
  have undisturbed {after : State} (same : state.Undisturbed after) :
      Ended setting level verdict ledger after :=
    ⟨ended.counted, same.identity.trans ended.identity, same.result.trans ended.result,
      same.depth.trans ended.depth, .inr failing, same.muted.trans ended.muted,
      same.verdict.trans ended.verdict⟩
  rcases explaining.settle with within | past
  · have answered : ∀ question, ∃ answer, answer = setting.zone question :=
      fun question => ⟨setting.zone question, rfl⟩
    obtain ⟨left, last, steps, tasks, same, all⟩ := explaining_ends answered _ within
    exact Realizes.after steps (policyQuestions_of_explaining all)
      (continues last tasks (undisturbed same) same.domain)
  · generalize reaction.settle.position = position at past ⊢
    cases position with
    | running after => exact continues after past.1 (undisturbed past.2) past.2.domain
    | waiting after lookup => exact past.elim

/-- Modifiers without a redirect to follow lead to nothing but an explanation. -/
theorem realizes_idleModifiers {evaluation : Evaluation β} {verdict : Option Qualifier}
    (modifiers : List Modifier) (idle : redirectOf? modifiers = none ∨ verdict.isSome)
    (tasks : state.tasks = modifiers.map Task.modifier ++ rest)
    (ended : Ended setting level verdict ledger state)
    (continues : ∀ after : State, after.tasks = rest → Ended setting level verdict ledger after →
      after.domain = state.domain →
      Realizes setting level below done (.running after) evaluation ledger) :
    Realizes setting level below done (.running state) evaluation ledger := by
  induction modifiers generalizing state with
  | nil => exact continues state tasks ended rfl
  | cons modifier modifiers inductionHypothesis =>
      rw [List.map_cons, List.cons_append] at tasks
      apply realizes_run tasks
      have popped := ended.update (modifiers.map Task.modifier ++ rest)
      cases modifier with
      | redirect spec =>
          rcases idle with absent | present
          · contradiction
          · obtain ⟨qualifier, rfl⟩ := Option.isSome_iff_exists.mp present
            have decided : ({ state with tasks := modifiers.map Task.modifier ++ rest }
                : State).isOpen = false := by
              simp [State.isOpen, ended.verdict]
            simp only [runTask, beginModifier, decided]
            exact inductionHypothesis (.inr present) rfl popped continues
      | exp spec =>
          by_cases wanted : ({ state with tasks := modifiers.map Task.modifier ++ rest }
              : State).wantsExplanation = true
          · apply realizes_explanation (runTask_explaining_of_wanted rfl wanted) wanted popped
            intro after tasks ended same
            apply inductionHypothesis idle tasks ended
            intro last rest ended unmoved
            exact continues last rest ended (unmoved.trans same)
          · simp only [runTask, beginModifier, if_neg wanted]
            exact inductionHypothesis idle rfl popped continues
      | unknown name value => exact inductionHypothesis idle rfl popped continues

/-! ## Hooks -/

/-- The default explanation is the last hook. -/
theorem realizes_defaultExplanation {evaluation : Evaluation β} {verdict : Option Qualifier}
    (text : Text) (tasks : state.tasks = .hook (.defaultExplanation text) :: rest)
    (ended : Ended setting level verdict ledger state)
    (continues : ∀ after : State, after.tasks = rest → Ended setting level verdict ledger after →
      after.domain = state.domain →
      Realizes setting level below done (.running after) evaluation ledger) :
    Realizes setting level below done (.running state) evaluation ledger := by
  have popped := ended.update rest
  apply realizes_run tasks
  by_cases wanted : ({ state with tasks := rest } : State).wantsExplanation = true
  · exact realizes_explanation (runTask_explaining_of_wanted rfl wanted) wanted popped continues
  · simp only [runTask, runHook, if_neg wanted]
    exact continues _ rfl popped rfl

/-- The hooks of a record with directives make a verdict that is still missing neutral. -/
theorem realizes_hooks {evaluation : Evaluation β} {verdict : Option Qualifier} (record : Record)
    (tasks : state.tasks = (hooksOf setting.environment record).map Task.hook ++ rest)
    (ended : Ended setting level verdict ledger state)
    (continues : ∀ after : State, after.tasks = rest →
      Ended setting level (defaultVerdict record verdict) ledger after →
      after.domain = state.domain →
      Realizes setting level below done (.running after) evaluation ledger) :
    Realizes setting level below done (.running state) evaluation ledger := by
  unfold hooksOf at tasks
  unfold defaultVerdict at continues
  split at tasks
  · rename_i empty
    rw [if_pos empty] at continues
    exact realizes_defaultExplanation _ tasks ended continues
  · rename_i nonempty
    rw [if_neg nonempty] at continues
    apply realizes_run tasks
    have neutral (left : List Task) : Ended setting level (verdict <|> some .neutral) ledger
        { state with verdict := state.verdict <|> some .neutral, tasks := left } := by
      refine ⟨ended.counted, ended.identity, ended.result, ended.depth, ?_, ended.muted, ?_⟩
      · rcases ended.clientDomain with same | ⟨rfl, heard⟩
        · exact .inl same
        · exact .inr ⟨rfl, heard⟩
      · show (state.verdict <|> _) = _
        rw [ended.verdict]
    exact realizes_defaultExplanation _ rfl (neutral _) continues

end

end SenderPolicy.Direct
