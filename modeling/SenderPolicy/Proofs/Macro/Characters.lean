import SenderPolicy.Proofs.Macro.Grammar

/-!
# Characters of macro text

Macro text is written in visible ASCII characters and, within cells, in decimal digits of any
row. Neither are blanks, so no token reaches over a space, and neither are letters outside
ASCII.
-/

namespace SenderPolicy

theorem isBlank_of_isGraphic {c : Char} (graphic : Domain.isGraphic c = true) :
    isBlank c = false := by
  simp only [Domain.isGraphic, Bool.and_eq_true, decide_eq_true_eq] at graphic
  simp only [isBlank, Bool.or_eq_false_iff, Bool.and_eq_false_iff, decide_eq_false_iff_not,
    beq_eq_false_iff_ne]
  omega

/-- The letters and digits of names are ASCII characters. -/
theorem toNat_lt_of_isAlphanum {c : Char} (alphanumeric : c.isAlphanum = true) :
    c.toNat < 128 := by
  have := Macro.toNat_of_isAlphanum alphanumeric
  omega

theorem toNat_lt_of_isDigit {c : Char} (digit : c.isDigit = true) : c.toNat < 128 :=
  toNat_lt_of_isAlphanum (Bool.or_eq_true_iff.mpr (.inr digit))

theorem toNat_lt_of_isGraphic {c : Char} (graphic : Domain.isGraphic c = true) :
    c.toNat < 128 := by
  simp only [Domain.isGraphic, Bool.and_eq_true, decide_eq_true_eq] at graphic
  omega

/-- No row of digits meets a blank. -/
theorem isBlank_of_isDecimalDigit {c : Char} (digit : isDecimalDigit c = true) :
    isBlank c = false := by
  have between : ∀ {code : Nat}, code = c.toNat → 0x30 ≤ code →
      (code ≤ 0x39 ∨ 0x660 ≤ code ∧ code ≠ 0x1680 ∧ (code < 0x2000 ∨ 0x3000 < code)) →
        isBlank c = false := by
    rintro _ rfl low high
    simp only [isBlank, Bool.or_eq_false_iff, Bool.and_eq_false_iff, decide_eq_false_iff_not,
      beq_eq_false_iff_ne]
    omega
  rcases Bool.or_eq_true_iff.mp digit with plain | other
  · simp only [Char.isDigit, Bool.and_eq_true, decide_eq_true_eq] at plain
    exact between rfl plain.1 (.inl plain.2)
  · obtain ⟨row, member, bounds⟩ := List.any_eq_true.mp other
    simp only [Bool.and_eq_true, decide_eq_true_eq] at bounds
    have rows : ∀ row ∈ decimalZeros, 0x660 ≤ row ∧ (row + 10 ≤ 0x1680 ∨ 0x1680 < row)
        ∧ (row + 10 ≤ 0x2000 ∨ 0x3000 < row) := by
      decide
    have apart := rows row member
    exact between rfl (by omega) (.inr (by omega))

namespace Text

/-- Every character is a visible ASCII character or a decimal digit. -/
def IsInk (text : Text) : Prop :=
  ∀ c ∈ text, Domain.isGraphic c = true ∨ isDecimalDigit c = true

-- The characters of the text are looked at, not all characters there are.
instance (text : Text) : Decidable (IsInk text) :=
  List.decidableBAll _ text

theorem isInk_append {left right : Text} : IsInk (left ++ right) ↔ IsInk left ∧ IsInk right :=
  List.forall_mem_append

theorem isInk_cons {c : Char} {text : Text} :
    IsInk (c :: text) ↔ (Domain.isGraphic c = true ∨ isDecimalDigit c = true) ∧ IsInk text :=
  List.forall_mem_cons

theorem IsInk.isBlank_eq_false {text : Text} (ink : IsInk text) :
    ∀ c ∈ text, isBlank c = false :=
  fun c member => (ink c member).elim isBlank_of_isGraphic isBlank_of_isDecimalDigit

theorem IsInk.longS_not_mem {text : Text} (ink : IsInk text) : 'ſ' ∉ text :=
  fun member => absurd (ink _ member) (by decide)

end Text

namespace Macro

open Text (IsInk isInk_append isInk_cons)

/-- Visible ASCII characters other than the percent sign are literals. -/
theorem isGraphic_of_isLiteral {c : Char} (literal : isLiteral c = true) :
    Domain.isGraphic c = true := by
  simp only [isLiteral, Bool.and_eq_true] at literal
  simp only [Domain.isGraphic, Bool.and_eq_true]
  exact literal.1

theorem isInk_of_isLiteral {text : Text} (literal : ∀ c ∈ text, isLiteral c = true) :
    IsInk text :=
  fun c member => .inl (isGraphic_of_isLiteral (literal c member))

theorem isInk_of_isPlain {token : Token} (plain : token.IsPlain) : IsInk token.text := by
  cases token with
  | literal c => exact isInk_of_isLiteral (List.forall_mem_singleton.mpr plain)
  | percent => exact (by decide : IsInk "%%".toList)
  | space => exact (by decide : IsInk "%_".toList)
  | encodedSpace => exact (by decide : IsInk "%-".toList)
  | cell found =>
      obtain ⟨letter, encoded, transformers⟩ := found
      obtain ⟨digits, reversal, delimiters, rfl, areDigits, shape, areDelimiters⟩ := plain
      have inkDigits : IsInk digits := fun c member => .inr (areDigits c member)
      have inkReversal : IsInk reversal := by
        rcases shape with rfl | rfl <;> decide
      have inkDelimiters : IsInk delimiters := by
        intro c member
        have delimiter := areDelimiters c member
        simp only [isDelimiter, Bool.or_eq_true, beq_iff_eq] at delimiter
        rcases delimiter with (((((rfl | rfl) | rfl) | rfl) | rfl) | rfl) | rfl <;> decide
      have inkMark :
          IsInk ['%', '{', if encoded then letter.symbol.toUpper else letter.symbol] := by
        cases letter <;> cases encoded <;> decide
      have parts : Token.text (.cell ⟨letter, encoded, digits ++ reversal ++ delimiters⟩)
          = ['%', '{', if encoded then letter.symbol.toUpper else letter.symbol]
            ++ (digits ++ reversal ++ delimiters ++ ['}']) := rfl
      rw [parts]
      exact isInk_append.mpr ⟨inkMark, isInk_append.mpr ⟨isInk_append.mpr
        ⟨isInk_append.mpr ⟨inkDigits, inkReversal⟩, inkDelimiters⟩, by decide⟩⟩

theorem isInk_textOf {tokens : List Token} (plain : ArePlain tokens) :
    IsInk (textOf tokens) := by
  intro c member
  obtain ⟨token, isToken, inside⟩ := List.mem_flatMap.mp member
  exact isInk_of_isPlain (plain token isToken) c inside

theorem isInk_of_isDomainText {spec : Text} (domain : IsDomainText spec) : IsInk spec := by
  obtain ⟨tokens, ending, plain, isEnding, rfl⟩ := domain
  refine isInk_append.mpr ⟨isInk_textOf plain, ?_⟩
  cases isEnding with
  | label top =>
      exact isInk_cons.mpr ⟨by decide, isInk_of_isLiteral (isLiteral_of_mem_label top)⟩
  | dotted top =>
      have ink := isInk_of_isLiteral (isLiteral_of_mem_label top)
      exact isInk_cons.mpr ⟨by decide, isInk_append.mpr ⟨ink, by decide⟩⟩
  | expansion plain _ => exact isInk_of_isPlain plain

end Macro

end SenderPolicy
