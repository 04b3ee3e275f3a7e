import SenderPolicy.Text.Digit

/-!
# ASCII text

Parts of ASCII text are ASCII text, and the only decimal digits in it are those of the first
row.
-/

namespace SenderPolicy

namespace Text

theorem ascii_of_mem {text : Text} (ascii : text.isAscii = true) {c : Char} (member : c ∈ text) :
    c.toNat < 128 := by
  have all := List.all_eq_true.mp ascii c member
  simpa using all

theorem isAscii_append {left right : Text} :
    (left ++ right).isAscii = true ↔ left.isAscii = true ∧ right.isAscii = true := by
  simp [isAscii]

theorem isAscii_of_cons {c : Char} {text : Text} (ascii : isAscii (c :: text) = true) :
    text.isAscii = true := by
  simp only [isAscii, List.all_cons, Bool.and_eq_true] at ascii
  exact ascii.2

/-- ASCII text takes one byte for each character. -/
theorem byteLength_of_isAscii {text : Text} (ascii : text.isAscii = true) :
    text.byteLength = text.length := by
  induction text with
  | nil => rfl
  | cons c rest inductionHypothesis =>
      have bound := ascii_of_mem ascii List.mem_cons_self
      have size : c.utf8Size = 1 := by
        rw [Char.utf8Size_eq_one_iff]
        exact UInt32.le_iff_toNat_le.mpr (Nat.le_of_lt_succ bound)
      rw [byteLength, inductionHypothesis (isAscii_of_cons ascii), size, List.length_cons,
        Nat.add_comm]

end Text

/-- The only ASCII digits are those of the first row. -/
theorem isDigit_of_isDecimalDigit {c : Char} (ascii : c.toNat < 128)
    (digit : isDecimalDigit c = true) : c.isDigit = true := by
  rcases Bool.or_eq_true_iff.mp digit with plain | other
  · exact plain
  · obtain ⟨row, member, bounds⟩ := List.any_eq_true.mp other
    have beyond : ∀ row ∈ decimalZeros, 128 ≤ row := by decide
    have far := beyond row member
    simp only [Bool.and_eq_true, decide_eq_true_eq] at bounds
    omega

namespace Text

/-- All decimal digits of the text are those of the first row. -/
def DigitsAreAscii (text : Text) : Prop :=
  ∀ c ∈ text, isDecimalDigit c = true → c.isDigit = true

theorem digitsAreAscii_of_isAscii {text : Text} (ascii : text.isAscii = true) :
    text.DigitsAreAscii :=
  fun _ member => isDigit_of_isDecimalDigit (ascii_of_mem ascii member)

end Text

end SenderPolicy
