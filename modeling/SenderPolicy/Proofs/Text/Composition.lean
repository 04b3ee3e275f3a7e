import SenderPolicy.Proofs.Text.Controls
import SenderPolicy.Text.Composition

/-!
# Composing brings in no control characters

To bring a text into composed form its characters are taken apart, ordered and joined again. The
parts of a character and the character with given parts come from a table or are Hangul, so none
of them is a control character: one that the composed text holds stood in the text itself.
-/

namespace SenderPolicy

/-! ## The table -/

/-- The table names no control character, neither as a part nor as a whole. -/
theorem areVisible_compositionLines :
    ∀ row ∈ compositionLines.flatMap hexRows, areVisible row = true := by
  apply forall_mem_lines
  unfold compositionLines
  repeat refine List.forall_mem_cons.mpr ⟨forall_mem_hexRows (by decide +kernel), ?_⟩
  exact List.forall_mem_nil _

theorem not_isControl_of_mem_compositions {whole first second : Char}
    (member : (whole, first, second) ∈ compositions) :
    ¬ IsControl whole ∧ ¬ IsControl first ∧ ¬ IsControl second := by
  obtain ⟨row, inTable, spelled⟩ := List.mem_filterMap.mp member
  have visible := areVisible_compositionLines row inTable
  split at spelled
  · cases spelled
    have each := not_isControl_of_areVisible visible
    simp only [List.map_cons, List.map_nil, List.forall_mem_cons] at each
    exact ⟨each.1, each.2.1, each.2.2.1⟩
  · cases spelled

/-! ## Parts and wholes -/

/-- No part of a character is a control character. -/
theorem not_isControl_of_parts? {c first second : Char} (parts : parts? c = some (first, second)) :
    ¬ IsControl first ∧ ¬ IsControl second := by
  rcases Option.or_eq_some_iff.mp parts with syllable | ⟨-, composition⟩
  · obtain ⟨index, -, parts⟩ := Option.map_eq_some_iff.mp syllable
    split at parts
    · cases parts
      exact ⟨not_isControl_charOfCode (by simp only [firstLeading]; omega),
        not_isControl_charOfCode (by simp only [firstVowel]; omega)⟩
    · cases parts
      exact ⟨not_isControl_charOfCode (by simp only [firstSyllable]; omega),
        not_isControl_charOfCode (by simp only [noTrailing]; omega)⟩
  · obtain ⟨entry, found, same⟩ := Option.map_eq_some_iff.mp composition
    cases same
    exact (not_isControl_of_mem_compositions (List.mem_of_find?_eq_some found)).2

/-- No character with parts is a control character. -/
theorem not_isControl_of_whole? {first second whole : Char}
    (joined : whole? first second = some whole) : ¬ IsControl whole := by
  rcases Option.or_eq_some_iff.mp joined with syllable | ⟨-, joined⟩
  · obtain ⟨leading, -, joined⟩ := Option.bind_eq_some_iff.mp syllable
    obtain ⟨vowel, -, rfl⟩ := Option.map_eq_some_iff.mp joined
    exact not_isControl_charOfCode (by simp only [firstSyllable]; omega)
  rcases Option.or_eq_some_iff.mp joined with syllable | ⟨-, composition⟩
  · obtain ⟨index, isIndex, joined⟩ := Option.bind_eq_some_iff.mp syllable
    obtain ⟨trailing, -, joined⟩ := Option.bind_eq_some_iff.mp joined
    split at joined
    · cases joined
      unfold indexIn at isIndex
      split at isIndex
      · rename_i inRow
        refine not_isControl_charOfCode ?_
        simp only [firstSyllable] at inRow
        omega
      · cases isIndex
    · cases joined
  · obtain ⟨entry, found, rfl⟩ := Option.map_eq_some_iff.mp composition
    exact (not_isControl_of_mem_compositions (List.mem_of_find?_eq_some found)).1

namespace Text

/-! ## Texts -/

section
variable {c : Char} (control : IsControl c)
include control

theorem eq_of_mem_takeApart {depth : Nat} {other : Char} (member : c ∈ takeApart depth other) :
    c = other := by
  induction depth generalizing other with
  | zero => exact List.mem_singleton.mp member
  | succ depth inductionHypothesis =>
      unfold takeApart at member
      split at member
      · exact List.mem_singleton.mp member
      · rename_i first second parts
        obtain ⟨firstVisible, secondVisible⟩ := not_isControl_of_parts? parts
        rcases List.mem_append.mp member with inFirst | isSecond
        · exact absurd (inductionHypothesis inFirst ▸ control) firstVisible
        · exact absurd (List.mem_singleton.mp isSecond ▸ control) secondVisible

omit control in
theorem mem_placeMark {other : Char} {placed : Text} :
    c ∈ placeMark other placed ↔ c = other ∨ c ∈ placed := by
  induction placed with
  | nil => simp [placeMark]
  | cons last earlier inductionHypothesis =>
      unfold placeMark
      split
      · rw [List.mem_cons, inductionHypothesis, List.mem_cons]
        exact or_left_comm
      · exact List.mem_cons

omit control in
theorem mem_foldl_placeMark {text placed : Text} :
    c ∈ text.foldl (fun placed c => placeMark c placed) placed ↔ c ∈ text ∨ c ∈ placed := by
  induction text generalizing placed with
  | nil => simp
  | cons other rest inductionHypothesis =>
      rw [List.foldl_cons, inductionHypothesis, mem_placeMark, List.mem_cons]
      exact ⟨by grind, by grind⟩

theorem mem_of_mem_decomposed {text : Text} (member : c ∈ text.decomposed) : c ∈ text := by
  rcases mem_foldl_placeMark.mp (List.mem_reverse.mp member) with apart | nowhere
  · obtain ⟨other, inText, inParts⟩ := List.mem_flatMap.mp apart
    exact eq_of_mem_takeApart control inParts ▸ inText
  · cases nowhere

theorem mem_of_mem_joinParts {starter : Char} {marks text : Text}
    (member : c ∈ joinParts starter marks text) : c = starter ∨ c ∈ marks ∨ c ∈ text := by
  induction text generalizing starter marks with
  | nil =>
      rcases List.mem_cons.mp member with rfl | inMarks
      · exact .inl rfl
      · exact .inr (.inl (List.mem_reverse.mp inMarks))
  | cons next rest inductionHypothesis =>
      unfold joinParts at member
      dsimp only at member
      split at member
      · rename_i whole joined
        have visible : ¬ IsControl whole :=
          not_isControl_of_whole? (Option.ite_none_left_eq_some.mp joined).2
        rcases inductionHypothesis member with rfl | inMarks | inRest
        · exact absurd control visible
        · exact .inr (.inl inMarks)
        · exact .inr (.inr (List.mem_cons_of_mem _ inRest))
      · split at member
        · rcases List.mem_append.mp member with before | after
          · rcases List.mem_cons.mp before with rfl | inMarks
            · exact .inl rfl
            · exact .inr (.inl (List.mem_reverse.mp inMarks))
          · rcases inductionHypothesis after with rfl | nowhere | inRest
            · exact .inr (.inr List.mem_cons_self)
            · cases nowhere
            · exact .inr (.inr (List.mem_cons_of_mem _ inRest))
        · rcases inductionHypothesis member with rfl | inMarks | inRest
          · exact .inl rfl
          · rcases List.mem_cons.mp inMarks with rfl | earlier
            · exact .inr (.inr List.mem_cons_self)
            · exact .inr (.inl earlier)
          · exact .inr (.inr (List.mem_cons_of_mem _ inRest))

theorem mem_of_mem_recomposed {text : Text} (member : c ∈ recomposed text) : c ∈ text := by
  induction text with
  | nil => cases member
  | cons first rest inductionHypothesis =>
      unfold recomposed at member
      split at member
      · rcases mem_of_mem_joinParts control member with rfl | nowhere | inRest
        · exact List.mem_cons_self
        · cases nowhere
        · exact List.mem_cons_of_mem _ inRest
      · rcases List.mem_cons.mp member with rfl | later
        · exact List.mem_cons_self
        · exact List.mem_cons_of_mem _ (inductionHypothesis later)

/-- A control character of a composed text stands in the text. -/
theorem mem_of_mem_composed {text : Text} (member : c ∈ text.composed) : c ∈ text :=
  mem_of_mem_decomposed control (mem_of_mem_recomposed control member)

end

end Text

end SenderPolicy
