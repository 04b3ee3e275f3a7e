import SenderPolicy.Proofs.Check.Direct.Comparison

/-!
# The same domain once more

A domain that is evaluated again later in a check is evaluated as before, with the same outcome
and as many terms counted, or the limit of lookups stops it. So a domain that leads back to
itself is never evaluated to an end there: that end would count as many terms as the whole,
which has counted at least one more.
-/

namespace SenderPolicy.Direct

open Evaluation

variable {α β : Type} (setting : Setting)

/-- From a later ledger, an evaluation goes as another does from an earlier one, or fails
permanently. -/
def Repeats (first again : Evaluation α) : Prop :=
  ∀ ledger later, Informed setting ledger → Informed setting later →
    ledger.lookups ≤ later.lookups →
    (∃ failure final, again.runFrom later = (.error failure, final)
        ∧ failure.code = .permError)
      ∨ (∃ outcome after final, first.runFrom ledger = (outcome, after)
        ∧ again.runFrom later = (outcome, final)
        ∧ Informed setting after ∧ Informed setting final
        ∧ after.lookups + later.lookups = final.lookups + ledger.lookups)

theorem comparison_repeats : Comparison setting fun _ _ => Repeats setting where
  steady := by
    rintro _ _ _ ⟨outcome, runs⟩ ledger later informed known le
    obtain ⟨after, ends, counted, informs⟩ := runs ledger informed
    obtain ⟨final, again, same, knows⟩ := runs later known
    exact .inr ⟨outcome, after, final, ends, again, informs, knows, by omega⟩
  bind := by
    intro _ _ _ first again next next' same continues ledger later informed known le
    rcases same ledger later informed known le with
      ⟨failure, final, fails, permanent⟩ |
      ⟨outcome, after, final, ends, repeated, informs, knows, sum⟩
    · exact .inl ⟨failure, final, by rw [runFrom_bind, fails], permanent⟩
    · simp only [runFrom_bind, ends, repeated]
      cases outcome with
      | error failure => exact .inr ⟨_, after, final, rfl, rfl, informs, knows, sum⟩
      | ok value =>
          rcases continues value after final informs knows (by omega) with
            stopped | ⟨outcome, last, end', ends, repeated, informs, knows, total⟩
          · exact .inl stopped
          · exact .inr ⟨outcome, last, end', ends, repeated, informs, knows, by omega⟩
  count := by
    intro _ _ next next' continues ledger later informed known le
    simp only [runFrom_bind, runFrom_count]
    by_cases exceeded : Check.lookupLimit < later.lookups + 1
    · rw [if_pos exceeded]
      exact .inl ⟨_, _, rfl, rfl⟩
    · rw [if_neg exceeded, if_neg (by omega)]
      rcases continues { ledger with lookups := ledger.lookups + 1 }
        { later with lookups := later.lookups + 1 } informed known (Nat.succ_le_succ le) with
        stopped | ⟨outcome, after, final, ends, repeated, informs, knows, sum⟩
      · exact .inl stopped
      · refine .inr ⟨outcome, after, final, ends, repeated, informs, knows, ?_⟩
        dsimp only at sum
        omega
  handle := by
    intro _ _ _ first again next same steady rethrows ledger later informed known le
    rcases same ledger later informed known le with
      ⟨failure, final, fails, permanent⟩ |
      ⟨outcome, after, final, ends, repeated, informs, knows, sum⟩
    · refine .inl ⟨failure, final, ?_, permanent⟩
      rw [runFrom_bind, runFrom_attempt, fails]
      dsimp only
      rw [rethrows failure permanent, runFrom_throw]
    · simp only [runFrom_bind, runFrom_attempt, ends, repeated]
      obtain ⟨handled, runs⟩ := steady outcome
      obtain ⟨last, ends, counted, informs⟩ := runs after informs
      obtain ⟨end', again, same, knows⟩ := runs final knows
      exact .inr ⟨handled, last, end', ends, again, informs, knows, by omega⟩

/-- A domain is evaluated again as before, even with fewer levels below it. -/
theorem repeats_locate (complete : Text → Record → Record) {levels fewer : Nat}
    (le : fewer ≤ levels) (domain : Text) :
    Repeats setting (locate setting complete levels domain)
      (locate setting complete fewer domain) := by
  induction fewer generalizing levels domain with
  | zero => exact fun _ later _ _ _ => .inl ⟨_, later, rfl, rfl⟩
  | succ fewer inductionHypothesis =>
      obtain ⟨levels, rfl⟩ : ∃ more, levels = more + 1 := ⟨levels - 1, by omega⟩
      apply (comparison_repeats setting).findDomain 0
      intro record
      exact (comparison_repeats setting).findRecord 0
        (inductionHypothesis (Nat.le_of_succ_le_succ le)) domain _

end SenderPolicy.Direct
