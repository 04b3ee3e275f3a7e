import SenderPolicy.LocalRecords
import SenderPolicy.Proofs.Text.Caseless

/-!
# Names without their letter case

Whether a name is fully qualified, may be asked about, lies within another one or has a local
record does not depend on the case of its letters.
-/

namespace SenderPolicy

theorem Text.dropEndDot_lower (text : Text) : text.lower.dropEndDot = text.dropEndDot.lower := by
  have ends : text.lower.getLast? = some '.' ↔ text.getLast? = some '.' := by
    rw [getLast?_lower]
    cases text.getLast? with
    | none => rfl
    | some c => simp [@toLower_eq_iff '.' (by decide) (by decide)]
  unfold dropEndDot
  by_cases dot : text.getLast? = some '.'
  · rw [if_pos dot, if_pos (ends.mpr dot), lower, lower, List.map_dropLast]
  · rw [if_neg dot, if_neg fun other => dot (ends.mp other)]

namespace Domain

open Text (all_lower any_lower head?_lower getLast?_lower)

theorem isCaseless_isAlphanum : IsCaseless Char.isAlphanum :=
  isCaseless_of_upper (by decide)

theorem isLabel_lower (label : Text) : isLabel label.lower = isLabel label := by
  have ends : IsCaseless isEndCharacter := isCaseless_of_upper (by decide)
  have inner : IsCaseless fun c => isEndCharacter c || c == '-' := isCaseless_of_upper (by decide)
  have endings : isEndCharacter ∘ Char.toLower = isEndCharacter := funext ends
  simp only [isLabel, all_lower inner, head?_lower, getLast?_lower, Option.map_map, endings]

theorem isTopLabel_lower (label : Text) : isTopLabel label.lower = isTopLabel label := by
  have letters : IsCaseless Char.isAlpha := isCaseless_of_upper (by decide)
  have inner : IsCaseless isLabelCharacter := isCaseless_of_upper (by decide)
  have hyphens : IsCaseless fun c => c == '-' := isCaseless_of_upper (by decide)
  have endings : Char.isAlphanum ∘ Char.toLower = Char.isAlphanum := funext isCaseless_isAlphanum
  simp only [isTopLabel, all_lower isCaseless_isAlphanum, any_lower letters, all_lower inner,
    any_lower hyphens, head?_lower, getLast?_lower, Option.map_map, endings]

theorem areQualifiedLabels_lower (labels : List Text) :
    areQualifiedLabels (labels.map Text.lower) = areQualifiedLabels labels := by
  induction labels with
  | nil => rfl
  | cons label labels inductionHypothesis =>
      match labels with
      | [] => rfl
      | [top] =>
          simp only [List.map_cons, List.map_nil, areQualifiedLabels, isLabel_lower,
            isTopLabel_lower]
      | next :: after :: rest =>
          have here : ∀ first second third : Text, ∀ others,
              areQualifiedLabels (first :: second :: third :: others)
                = (isLabel first && areQualifiedLabels (second :: third :: others)) :=
            fun _ _ _ _ => rfl
          simp only [List.map_cons] at inductionHypothesis ⊢
          rw [here, here, isLabel_lower, inductionHypothesis]

theorem isFullyQualified_lower (name : Text) :
    isFullyQualified name.lower = isFullyQualified name := by
  rw [isFullyQualified, Text.dropEndDot_lower, Text.split_lower isCaseless_isDot,
    areQualifiedLabels_lower, isFullyQualified]

theorem isHostLabel_lower (label : Text) : isHostLabel label.lower = isHostLabel label := by
  have graphic : IsCaseless isGraphic := isCaseless_of_upper (by decide)
  have empty : label.lower = [] ↔ label = [] := List.map_eq_nil_iff
  simp only [isHostLabel, ne_eq, empty, Text.byteLength_lower, all_lower graphic]

theorem isHostName_lower (name : Text) : isHostName name.lower = isHostName name := by
  have empty : name.dropEndDot.lower = [] ↔ name.dropEndDot = [] := List.map_eq_nil_iff
  simp only [isHostName, Text.dropEndDot_lower, ne_eq, empty, Text.byteLength_lower,
    Text.split_lower isCaseless_isDot, List.all_map, Function.comp_def, isHostLabel_lower]

theorem dropEndDots_lower (name : Text) : name.lower.dropEndDots = name.dropEndDots.lower :=
  (Text.lower_dropEnd isCaseless_isDot name).symm

theorem isWithin_lower (name domain : Text) :
    isWithin name domain.lower = isWithin name domain := by
  simp only [isWithin, dropEndDots_lower, Text.lower_lower]

theorem normal_lower (name : Text) : normal name.lower = normal name := by
  simp only [normal, Text.trim_lower, dropEndDots_lower, Text.lower_lower]

end Domain

theorem LocalRecords.find?_lower (records : LocalRecords) (domain : Text) :
    records.find? domain.lower = records.find? domain := by
  simp only [find?, Domain.normal_lower]

end SenderPolicy
