import SenderPolicy.Text.Basic

/-!
# Letter case

Lower case changes the upper-case letters and nothing else, so what is no letter can be found
again in the lower-case text.
-/

namespace SenderPolicy

/-- The upper-case letters. -/
theorem exists_of_isUpper {c : Char} (upper : c.isUpper = true) :
    ∃ n < 26, c = Char.ofNat (65 + n) := by
  obtain ⟨low, high⟩ : c ≥ 'A' ∧ c ≤ 'Z' := of_decide_eq_true upper
  have atLeast : 65 ≤ c.toNat := low
  have atMost : c.toNat ≤ 90 := high
  have position : 65 + (c.toNat - 65) = c.toNat := by omega
  refine ⟨c.toNat - 65, by omega, ?_⟩
  rw [position, Char.ofNat_toNat]

/-- Changing the case of an upper-case letter twice gives it back. -/
theorem toUpper_toLower_of_isUpper {c : Char} (upper : c.isUpper = true) :
    c.toLower.toUpper = c := by
  have each : ∀ n < 26, (Char.ofNat (65 + n)).toLower.toUpper = Char.ofNat (65 + n) := by decide
  obtain ⟨n, small, rfl⟩ := exists_of_isUpper upper
  exact each n small

theorem toLower_of_not_isUpper {c : Char} (notUpper : ¬ c.isUpper = true) : c.toLower = c := by
  unfold Char.toLower
  split
  · rename_i bounds
    exact absurd (decide_eq_true bounds) notUpper
  · rfl

/-- What is no lower-case letter comes from itself only. -/
theorem eq_of_toLower {c d : Char} (same : c.toLower = d) (notLower : d.isLower = false) :
    c = d := by
  by_cases upper : c.isUpper = true
  · have each : ∀ n < 26, (Char.ofNat (65 + n)).toLower.isLower = true := by decide
    obtain ⟨n, small, rfl⟩ := exists_of_isUpper upper
    have lower := each n small
    rw [same, notLower] at lower
    cases lower
  · rw [← same, toLower_of_not_isUpper upper]

namespace Text

theorem lower_append (left right : Text) : (left ++ right).lower = left.lower ++ right.lower :=
  List.map_append

/-- A character that is no letter is in a text if it is in its lower-case form. -/
theorem mem_lower_iff {c : Char} (noLetter : c.toLower = c) (notLower : c.isLower = false)
    {text : Text} : c ∈ text.lower ↔ c ∈ text := by
  constructor
  · intro member
    obtain ⟨d, inside, same⟩ := List.mem_map.mp member
    exact eq_of_toLower same notLower ▸ inside
  · intro member
    exact List.mem_map.mpr ⟨c, member, noLetter⟩

end Text

end SenderPolicy
