import SenderPolicy.Proofs.Macro.Expansion
import SenderPolicy.Proofs.Text.Caseless

/-!
# Expansions without their letter case

A cell splits its value at marks, which have no letter case, and everything else that a transformer
does looks at whole parts. So values that differ in letter case only expand to texts that do, as
long as the digits of a cell are ASCII digits: any other digit is taken for a delimiter, and so is
an `r` behind it.
-/

namespace SenderPolicy.Macro

/-! ## Transformers -/

namespace Transformer

/-- Delimiters are marks, and no other character becomes one in lower case. -/
theorem isCaseless_contains {delimiters : Text}
    (areDelimiters : ∀ c ∈ delimiters, isDelimiter c = true) : IsCaseless delimiters.contains := by
  have marks : ∀ {c : Char}, isDelimiter c = true → c.toLower = c ∧ c.isLower = false := by
    intro c delimiter
    simp only [isDelimiter, Bool.or_eq_true, beq_iff_eq] at delimiter
    rcases delimiter with (((((rfl | rfl) | rfl) | rfl) | rfl) | rfl) | rfl <;> decide
  intro c
  rw [Bool.eq_iff_iff, List.contains_iff_mem, List.contains_iff_mem]
  constructor
  · intro member
    rwa [eq_of_toLower rfl (marks (areDelimiters _ member)).2]
  · intro member
    rwa [(marks (areDelimiters _ member)).1]

theorem keepLast_map (count : Option Nat) (change : Text → Text) (parts : List Text) :
    keepLast count (parts.map change) = (keepLast count parts).map change := by
  cases count with
  | none => rfl
  | some count => simp [keepLast, List.map_drop]

/-- Rearranging a value and writing it in lower case change places. -/
theorem apply_lower {transformer : Transformer}
    (areDelimiters : ∀ c ∈ transformer.delimiters, isDelimiter c = true) (value : Text) :
    transformer.apply value.lower = (transformer.apply value).lower := by
  have separators : ∀ c ∈ if transformer.delimiters = [] then ['.'] else transformer.delimiters,
      isDelimiter c = true := by
    split
    · exact List.forall_mem_singleton.mpr rfl
    · exact areDelimiters
  have caseless := isCaseless_contains separators
  unfold apply
  split
  · rfl
  · simp only [Text.split_lower caseless, Text.lower_join, ← keepLast_map]
    split
    · rw [List.map_reverse]
    · rfl

end Transformer

/-! ## Values and outcomes up to letter case -/

/-- The letters have the same values up to letter case. -/
def Values.AlikeIn (localNames : List Text) (values other : Values) : Prop :=
  ∀ letter, (values.value? localNames letter).map Text.lower
    = (other.value? localNames letter).map Text.lower

/-- The outcomes are one obstacle, or texts that differ in letter case only. -/
def AlikeTexts (one other : Except Obstacle Text) : Prop :=
  (∃ obstacle, one = .error obstacle ∧ other = .error obstacle)
    ∨ ∃ text otherText, one = .ok text ∧ other = .ok otherText ∧ text.lower = otherText.lower

theorem alikeTexts_error (obstacle : Obstacle) : AlikeTexts (.error obstacle) (.error obstacle) :=
  .inl ⟨obstacle, rfl, rfl⟩

theorem alikeTexts_ok {text otherText : Text} (same : text.lower = otherText.lower) :
    AlikeTexts (.ok text) (.ok otherText) :=
  .inr ⟨text, otherText, rfl, rfl, same⟩

section
variable {localNames : List Text} (mode : Mode) {values other : Values}
  (alike : values.AlikeIn localNames other)
include alike

/-- A cell whose digits are ASCII digits takes a value apart at marks, whatever the case of the
letters between them. -/
theorem expandCell_alike {found : Cell} (plain : IsTransformers found.transformers)
    (digits : Text.DigitsAreAscii found.transformers) :
    AlikeTexts (expandCell localNames mode values found)
      (expandCell localNames mode other found) := by
  obtain ⟨cell, wellFormed, writes⟩ := exists_writtenCell plain digits
  have same := alike found.letter
  rw [expandCell_eq, expandCell_eq]
  split
  · cases first : values.value? localNames found.letter <;>
      cases second : other.value? localNames found.letter <;>
      simp only [first, second, Option.map_none, Option.map_some, reduceCtorEq,
        Option.some.injEq] at same
    · exact alikeTexts_error _
    · rename_i value otherValue
      dsimp only
      cases read : Transformer.read found.transformers with
      | error failure => exact alikeTexts_error _
      | ok transformer =>
          have areDelimiters : ∀ c ∈ transformer.delimiters, isDelimiter c = true :=
            WrittenCell.isDelimiter_of_read wellFormed (writes.transformers ▸ read)
          refine alikeTexts_ok ?_
          rw [← Transformer.apply_lower areDelimiters, ← Transformer.apply_lower areDelimiters]
          split
          · rw [← Text.percentEncode_lower value, same, Text.percentEncode_lower]
          · rw [same]
  · exact alikeTexts_error _

/-! ## Texts -/

theorem expandToken_alike {token : Token} (plain : token.IsPlain)
    (digits : token.text.DigitsAreAscii) :
    AlikeTexts (expandToken localNames mode values token)
      (expandToken localNames mode other token) := by
  cases token with
  | cell found =>
      refine expandCell_alike mode alike plain fun c member => digits c ?_
      simp [Token.text, Cell.text, member]
  | _ => exact alikeTexts_ok rfl

theorem expandTokens_alike {tokens : List Token} (plain : ArePlain tokens)
    (digits : (textOf tokens).DigitsAreAscii) :
    AlikeTexts (expandTokens localNames mode values tokens)
      (expandTokens localNames mode other tokens) := by
  induction tokens with
  | nil => exact alikeTexts_ok rfl
  | cons token tokens inductionHypothesis =>
      obtain ⟨firstPlain, restPlain⟩ := List.forall_mem_cons.mp plain
      have first := expandToken_alike mode alike firstPlain
        fun c member => digits c (List.mem_append_left _ member)
      have rest := inductionHypothesis restPlain
        fun c member => digits c (List.mem_append_right _ member)
      simp only [expandTokens]
      rcases first with ⟨obstacle, one, two⟩ | ⟨text, otherText, one, two, same⟩
      · rw [one, two]
        exact alikeTexts_error obstacle
      · rw [one, two]
        rcases rest with ⟨obstacle, one, two⟩ | ⟨later, otherLater, one, two, sameLater⟩
        · rw [one, two]
          exact alikeTexts_error obstacle
        · rw [one, two]
          refine alikeTexts_ok ?_
          rw [Text.lower_append, Text.lower_append, same, sameLater]

theorem expandString_alike {text : Text} (digits : text.DigitsAreAscii) :
    AlikeTexts (expandString localNames mode values text)
      (expandString localNames mode other text) := by
  obtain ⟨plain, written⟩ := scan_sound text
  have tokens := expandTokens_alike mode alike plain fun c member =>
    digits c (written ▸ List.mem_append_left _ member)
  simp only [expandString]
  rcases tokens with ⟨obstacle, one, two⟩ | ⟨expanded, otherExpanded, one, two, same⟩
  · rw [one, two]
    exact alikeTexts_error obstacle
  · rw [one, two]
    dsimp only
    split
    · exact alikeTexts_ok same
    · exact alikeTexts_error _

end

/-! ## Names that are too long -/

theorem shortenDomain_eq (domain : Text) :
    shortenDomain domain
      = if domain.byteLength ≤ maximumDomainLength then domain
        else (domain.splitAtFirst '.').elim domain fun (_, after) => shortenDomain after := by
  rw [shortenDomain]
  split
  · rfl
  · split
    · rename_i single
      rw [single]
      rfl
    · rename_i before after found
      rw [found]
      rfl

/-- Labels are taken from the start of a name on account of its length, not of its letters. -/
theorem shortenDomain_lower (domain : Text) :
    shortenDomain domain.lower = (shortenDomain domain).lower := by
  have cut : ∀ name : Text, name.lower.splitAtFirst '.' = _ :=
    @Text.splitAtFirst_lower '.' (by decide) (by decide)
  induction domain using shortenDomain.induct with
  | case1 domain fits =>
      rw [shortenDomain_eq, Text.byteLength_lower, if_pos fits, shortenDomain_eq, if_pos fits]
  | case2 domain long single =>
      rw [shortenDomain_eq, Text.byteLength_lower, if_neg long, cut, single, shortenDomain_eq,
        if_neg long, single]
      rfl
  | case3 domain long before after found inductionHypothesis =>
      rw [shortenDomain_eq, Text.byteLength_lower, if_neg long, cut, found, shortenDomain_eq,
        if_neg long, found]
      exact inductionHypothesis

/-- Values that are the same up to letter case name hosts that are. -/
theorem expand_domain_alike {localNames : List Text} {values other : Values}
    (alike : values.AlikeIn localNames other) {spec : Text} (digits : spec.DigitsAreAscii) :
    AlikeTexts (expand localNames .domain values spec) (expand localNames .domain other spec) := by
  simp only [expand, expandDomainFully]
  split
  · rcases expandString_alike .domain alike digits with
      ⟨obstacle, one, two⟩ | ⟨full, otherFull, one, two, same⟩
    · rw [one, two]
      exact alikeTexts_error obstacle
    · rw [one, two]
      refine alikeTexts_ok ?_
      rw [← shortenDomain_lower, ← shortenDomain_lower, same]
  · exact alikeTexts_error _

end SenderPolicy.Macro
