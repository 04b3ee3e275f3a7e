import SenderPolicy.Proofs.Macro.Expansion

/-!
# What the syntax takes for digits

The syntax of cells takes decimal digits of any row, and the expander counts in those of the
first row alone. Where a cell has other digits the two take it apart at different places: the
first of these digits ends the number, and from there on everything delimits.
-/

namespace SenderPolicy.Macro.WrittenCell

section
variable {cell : WrittenCell} {found : Cell} (isMatch : cell.Matches found)
include isMatch

theorem Matches.symbol_eq :
    cell.symbol
      = if found.encoded then found.letter.symbol.toUpper else found.letter.symbol := by
  have known : Letter.ofSymbol? cell.symbol.toLower = some found.letter := by
    rw [← isMatch.writes.symbol, Letter.ofSymbol?_symbol]
  rw [isMatch.writes.encoded, mark_of_ofSymbol? known]

/-- The digits end where no digit follows. -/
theorem Matches.spanWhile_eq :
    spanWhile isDecimalDigit found.transformers
      = (cell.digits, (if cell.reversed then ['r'] else []) ++ cell.delimiters) := by
  rw [isMatch.writes.transformers, transformers, List.append_assoc]
  refine spanWhile_append isMatch.digits fun c first => ?_
  cases reversed : cell.reversed with
  | true =>
      obtain rfl : 'r' = c := by simpa [reversed] using first
      decide
  | false =>
      have isFirst : cell.delimiters.head? = some c := by simpa [reversed] using first
      exact (isDelimiter_apart (isMatch.delimiters c (List.mem_of_head? isFirst))).1

/-- The syntax takes a cell apart in one way. -/
theorem Matches.unique {other : WrittenCell} (otherMatch : other.Matches found) :
    other = cell := by
  have symbols := otherMatch.symbol_eq.trans isMatch.symbol_eq.symm
  have spans := otherMatch.spanWhile_eq.symm.trans isMatch.spanWhile_eq
  have free : 'r' ∉ cell.delimiters :=
    fun member => absurd (isMatch.delimiters _ member) (by decide)
  have otherFree : 'r' ∉ other.delimiters :=
    fun member => absurd (otherMatch.delimiters _ member) (by decide)
  obtain ⟨symbol, digits, reversed, delimiters⟩ := cell
  obtain ⟨otherSymbol, otherDigits, otherReversed, otherDelimiters⟩ := other
  obtain ⟨rfl, rests⟩ := Prod.mk.inj spans
  obtain rfl : otherSymbol = symbol := symbols
  -- If only one of them reversed, its `r` would be a delimiter of the other.
  have same : otherReversed = reversed ∧ otherDelimiters = delimiters := by
    cases reversed <;> cases otherReversed
    case false.false => exact ⟨rfl, rests⟩
    case false.true =>
      have reversal : 'r' :: otherDelimiters = delimiters := rests
      exact absurd (reversal ▸ List.mem_cons_self) free
    case true.false =>
      have reversal : otherDelimiters = 'r' :: delimiters := rests
      exact absurd (reversal ▸ List.mem_cons_self) otherFree
    case true.true => exact ⟨rfl, (List.cons.inj rests).2⟩
  rw [same.1, same.2]

/-- What the expander makes of a cell whose number ends in front of a digit of another row: it
reverses nothing, and that digit delimits. -/
theorem Matches.read_of_otherDigit {front back : Text} {digit : Char}
    (parts : cell.digits = front ++ digit :: back)
    (counted : ∀ c ∈ front, c.isDigit = true) (other : digit.isDigit = false) :
    ∃ delimiters, Transformer.read found.transformers
      = (Transformer.readKeep front).map fun keep => ⟨keep, false, digit :: delimiters⟩ := by
  have decimal := isMatch.digits digit (by simp [parts])
  have noReversal : digit ≠ 'r' := by
    rintro rfl
    exact absurd decimal (by decide)
  obtain ⟨delimiters, text⟩ : ∃ rest, found.transformers = front ++ digit :: rest := by
    refine ⟨back ++ ((if cell.reversed then ['r'] else []) ++ cell.delimiters), ?_⟩
    rw [isMatch.writes.transformers, transformers, parts]
    simp
  have ends : ∀ c, (digit :: delimiters).head? = some c → c.isDigit = false :=
    fun c first => Option.some.inj first ▸ other
  have split := spanWhile_append counted ends
  rw [← text] at split
  obtain ⟨taken, dropped⟩ := Prod.mk.inj split
  refine ⟨delimiters, ?_⟩
  simp only [Transformer.read, taken, dropped]
  congr 1
  funext keep
  split
  · rename_i same
    exact absurd (List.cons.inj same).1 noReversal
  · rfl

/-- The expander takes a cell apart as the syntax does exactly if the digits of the cell are
ASCII digits. -/
theorem Matches.read_eq_iff :
    Transformer.read found.transformers
        = (Transformer.readKeep cell.digits).map (⟨·, cell.reversed, cell.delimiters⟩)
      ↔ cell.digits.isAscii = true := by
  constructor
  · intro read
    cases otherDigit : cell.digits.find? fun c => !c.isDigit with
    | none =>
        refine List.all_eq_true.mpr fun c member => ?_
        have digit := List.find?_eq_none.mp otherDigit c member
        exact decide_eq_true (toNat_lt_of_isDigit (by simpa using digit))
    | some digit =>
        -- The first digit of another row would have to be a delimiter.
        obtain ⟨other, front, back, parts, counted⟩ :=
          List.find?_eq_some_iff_append.mp otherDigit
        obtain ⟨delimiters, reads⟩ := isMatch.read_of_otherDigit parts
          (fun c member => by simpa using counted c member) (by simpa using other)
        have notAll : ¬ cell.digits.all Char.isDigit = true := fun all => by
          rw [List.all_eq_true.mp all digit (by simp [parts])] at other
          cases other
        have uncounted : Transformer.readKeep cell.digits = .ok none := by
          simp [Transformer.readKeep, Text.toNat?, notAll]
        rw [reads, uncounted] at read
        cases keep : Transformer.readKeep front with
        | error failure =>
            rw [keep] at read
            cases read
        | ok count =>
            rw [keep] at read
            have same : digit :: delimiters = cell.delimiters :=
              congrArg Transformer.delimiters (Except.ok.inj read)
            have delimits := isMatch.delimiters digit (same ▸ List.mem_cons_self)
            have decimal := isMatch.digits digit (by simp [parts])
            rw [(isDelimiter_apart delimits).1] at decimal
            cases decimal
  · intro ascii
    have counted : ∀ c ∈ cell.digits, c.isDigit = true := fun c member =>
      isDigit_of_isDecimalDigit (Text.ascii_of_mem ascii member) (isMatch.digits c member)
    rw [isMatch.writes.transformers]
    exact read_transformers (isMatch.isWellFormed counted)

end

end SenderPolicy.Macro.WrittenCell
