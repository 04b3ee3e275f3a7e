import SenderPolicy.Text.Digit

/-!
# Decimal numbers

`Text.ofNat` writes a number without leading zeros and `Text.toNat?` reads digits. Reading
gives back what was written, and digits that start with no zero are the written form of
their number, so a number without leading zeros has one spelling.
-/

namespace SenderPolicy

/-- An ASCII digit is the digit of its value. -/
theorem digitChar_of_isDigit {c : Char} (digit : c.isDigit = true) :
    c.toNat - '0'.toNat < 10 ∧ (c.toNat - '0'.toNat).digitChar = c := by
  simp only [Char.isDigit, Bool.and_eq_true, decide_eq_true_eq] at digit
  obtain ⟨low, high⟩ := digit
  have atLeast : 48 ≤ c.toNat := low
  have atMost : c.toNat ≤ 57 := high
  have zero : '0'.toNat = 48 := rfl
  have small : c.toNat - '0'.toNat < 10 := by omega
  refine ⟨small, Char.toNat_inj.mp ?_⟩
  rw [Nat.toNat_digitChar_of_lt_ten small]
  omega

/-- The digits but the zero. -/
theorem isDigit_and_ne_zero_iff {c : Char} :
    c.isDigit = true ∧ c ≠ '0' ↔ '1' ≤ c ∧ c ≤ '9' := by
  have low : '1' ≤ c ↔ 49 ≤ c.toNat := Iff.rfl
  have high : c ≤ '9' ↔ c.toNat ≤ 57 := Iff.rfl
  have digit : c.isDigit = true ↔ 48 ≤ c.toNat ∧ c.toNat ≤ 57 := by
    simp only [Char.isDigit, Bool.and_eq_true, decide_eq_true_eq]
    rfl
  have zero : c = '0' ↔ c.toNat = 48 := Char.toNat_inj.symm
  rw [low, high, digit, Ne, zero]
  omega

namespace Text

/-- Digits after a number that is not zero continue its written form. -/
theorem ofNat_ofDigitChars {digits : Text} (all : digits.all Char.isDigit = true) {n : Nat}
    (positive : 0 < n) : ofNat (Nat.ofDigitChars 10 digits n) = ofNat n ++ digits := by
  induction digits generalizing n with
  | nil => simp
  | cons c digits inductionHypothesis =>
      obtain ⟨digit, others⟩ := Bool.and_eq_true_iff.mp all
      obtain ⟨small, same⟩ := digitChar_of_isDigit digit
      have next := inductionHypothesis others (by omega : 0 < 10 * n + (c.toNat - '0'.toNat))
      have appended := Nat.toDigits_append_toDigits (by decide : 1 < 10) positive small
      rw [Nat.toDigits_of_lt_base small, same] at appended
      rw [Nat.ofDigitChars_cons, next, ofNat, ← appended, List.append_assoc]
      rfl

theorem toNat?_eq_some_iff {text : Text} {n : Nat} :
    toNat? text = some n
      ↔ text ≠ [] ∧ text.all Char.isDigit = true ∧ n = Nat.ofDigitChars 10 text 0 := by
  unfold toNat?
  constructor
  · intro read
    split at read
    · rename_i shape
      cases read
      exact ⟨shape.1, shape.2, rfl⟩
    · cases read
  · rintro ⟨nonempty, digits, rfl⟩
    rw [if_pos ⟨nonempty, digits⟩]
    rfl

theorem ofNat_ne_nil (n : Nat) : ofNat n ≠ [] :=
  Nat.toDigits_ne_nil

theorem isDigit_of_mem_ofNat {n : Nat} {c : Char} (member : c ∈ ofNat n) : c.isDigit = true :=
  Nat.isDigit_of_mem_toDigits (by decide) (by decide) member

/-- A written number is read. -/
theorem toNat?_ofNat (n : Nat) : toNat? (ofNat n) = some n := by
  refine toNat?_eq_some_iff.mpr ⟨ofNat_ne_nil n, ?_, Nat.ofDigitChars_ten_toDigits.symm⟩
  exact List.all_eq_true.mpr fun c member => isDigit_of_mem_ofNat member

/-- Digits without leading zeros are the written form of their number. -/
theorem ofNat_of_toNat? {text : Text} {n : Nat} (read : toNat? text = some n)
    (plain : text.head? = some '0' → text = ['0']) : text = ofNat n := by
  obtain ⟨nonempty, digits, rfl⟩ := toNat?_eq_some_iff.mp read
  cases text with
  | nil => contradiction
  | cons c rest =>
      obtain ⟨digit, others⟩ := Bool.and_eq_true_iff.mp digits
      obtain ⟨small, same⟩ := digitChar_of_isDigit digit
      by_cases zero : c = '0'
      · cases plain (congrArg some zero)
        rfl
      · have positive : 0 < c.toNat - '0'.toNat := by
          refine Nat.pos_of_ne_zero fun nothing => zero ?_
          rw [nothing] at same
          exact same.symm
        have written := ofNat_ofDigitChars others positive
        rw [Nat.ofDigitChars_cons, Nat.mul_zero, Nat.zero_add, written, ofNat,
          Nat.toDigits_of_lt_base small, same]
        rfl

/-- A written number starts with a zero only if it is zero. -/
theorem ofNat_head? {n : Nat} (zero : (ofNat n).head? = some '0') : ofNat n = ['0'] := by
  induction n using Nat.strongRecOn with
  | ind n inductionHypothesis =>
      by_cases small : n < 10
      · rw [ofNat, Nat.toDigits_of_lt_base small] at zero ⊢
        simpa using zero
      · have shorter : ofNat n = ofNat (n / 10) ++ [(n % 10).digitChar] :=
          Nat.toDigits_of_base_le (by decide) (Nat.le_of_not_lt small)
        have leading : ofNat (n / 10) = ['0'] := by
          apply inductionHypothesis (n / 10) (by omega)
          rw [shorter] at zero
          cases front : ofNat (n / 10) with
          | nil => exact absurd front (ofNat_ne_nil _)
          | cons c rest => simpa [front] using zero
        have nothing : some (n / 10) = some 0 := by
          rw [← toNat?_ofNat, leading]
          rfl
        simp only [Option.some.injEq] at nothing
        omega

end Text

end SenderPolicy
