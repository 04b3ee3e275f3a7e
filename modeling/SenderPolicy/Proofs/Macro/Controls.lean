import SenderPolicy.Proofs.Domain.HostName
import SenderPolicy.Proofs.Macro.Caseless
import SenderPolicy.Proofs.Text.Controls

/-!
# Macro text brings in no control characters

What macro text can spell by itself is visible, or a space. Percent encoding writes letters,
digits and percent signs, and a transformer only leaves out characters and puts in dots. So a
control character in an expansion stands in the value of a letter that the text may use.
-/

namespace SenderPolicy

theorem Text.not_isControl_of_mem_percentEncode {text : Text} {c : Char}
    (member : c ∈ percentEncode text) : ¬ IsControl c := by
  have marks : ∀ d ∈ "-._~".toList, Domain.isGraphic d = true := List.all_eq_true.mp (by decide)
  have digits : ∀ d ∈ "%0123456789ABCDEF".toList, Domain.isGraphic d = true :=
    List.all_eq_true.mp (by decide)
  apply not_isControl_of_isGraphic
  obtain ⟨source, -, inside⟩ := List.mem_flatMap.mp member
  cases unreserved : isUnreserved source with
  | true =>
      rw [percentChar_of_isUnreserved unreserved, List.mem_singleton] at inside
      subst inside
      simp only [isUnreserved, Bool.or_eq_true, beq_iff_eq, or_assoc] at unreserved
      rcases unreserved with alphanumeric | mark
      · exact Domain.isGraphic_of_isAlphanum alphanumeric
      · exact marks c (by simpa using mark)
  | false =>
      refine digits c ?_
      rcases isHexDigit_of_mem_percentChar unreserved inside with rfl | digit
      · exact List.mem_cons_self
      · exact List.mem_cons_of_mem _ (List.contains_iff_mem.mp digit)

namespace Macro

theorem Transformer.mem_of_mem_keepLast {count : Option Nat} {parts : List Text} {part : Text}
    (member : part ∈ keepLast count parts) : part ∈ parts := by
  cases count with
  | none => exact member
  | some count => exact List.mem_of_mem_drop member

/-- A rearranged value holds dots and what the value holds. -/
theorem Transformer.mem_of_mem_apply {transformer : Transformer} {value : Text} {c : Char}
    (member : c ∈ transformer.apply value) : c = '.' ∨ c ∈ value := by
  unfold apply at member
  split at member
  · exact .inr member
  · refine (Text.mem_of_mem_join member).imp_right ?_
    rintro ⟨part, kept, inside⟩
    have ordered := mem_of_mem_keepLast kept
    split at ordered
    · exact Text.mem_of_mem_split (List.mem_reverse.mp ordered) inside
    · exact Text.mem_of_mem_split ordered inside

/-- Shortening a name takes labels from its start. -/
theorem shortenDomain_suffix (domain : Text) : shortenDomain domain <:+ domain := by
  induction domain using shortenDomain.induct with
  | case1 domain fits => exact ⟨[], by rw [List.nil_append, shortenDomain_eq, if_pos fits]⟩
  | case2 domain long single =>
      exact ⟨[], by rw [List.nil_append, shortenDomain_eq, if_neg long, single]; rfl⟩
  | case3 domain long before after found inductionHypothesis =>
      rw [shortenDomain_eq, if_neg long, found]
      obtain ⟨same, -⟩ := Text.splitAtFirst_eq_some_iff.mp found
      have later : after <:+ domain := ⟨before ++ ['.'], by simp [same]⟩
      exact inductionHypothesis.trans later

/-- No letter that a mode allows has a value with the character. -/
def Values.AreFree (localNames : List Text) (mode : Mode) (values : Values) (c : Char) : Prop :=
  ∀ letter value, mode.allows letter = true → values.value? localNames letter = some value →
    c ∉ value

section
variable {c : Char} (control : IsControl c) {localNames : List Text} {mode : Mode}
  {values : Values} (free : values.AreFree localNames mode c)
include control free

theorem not_mem_of_expandCell {cell : Cell} {text : Text}
    (found : expandCell localNames mode values cell = .ok text) : c ∉ text := by
  intro member
  rw [expandCell_eq] at found
  split at found
  · rename_i allowed
    split at found
    · cases found
    · rename_i value known
      split at found
      · cases found
      · rename_i transformer _
        cases found
        rcases Transformer.mem_of_mem_apply member with rfl | inside
        · exact absurd control (by decide)
        · split at inside
          · exact Text.not_isControl_of_mem_percentEncode inside control
          · exact free _ _ allowed known inside
  · cases found

theorem not_mem_of_expandToken {token : Token} (plain : token.IsPlain) {text : Text}
    (found : expandToken localNames mode values token = .ok text) : c ∉ text := by
  cases token with
  | literal d =>
      cases found
      exact control.not_mem (List.forall_mem_singleton.mpr
        (not_isControl_of_isGraphic (isGraphic_of_isLiteral plain)))
  | percent =>
      cases found
      exact control.not_mem_of_isVisible (by decide)
  | space =>
      cases found
      exact control.not_mem_of_isVisible (by decide)
  | encodedSpace =>
      cases found
      exact control.not_mem_of_isVisible (by decide)
  | cell cell => exact not_mem_of_expandCell control free found

theorem not_mem_of_expandTokens {tokens : List Token} (plain : ArePlain tokens) {text : Text}
    (found : expandTokens localNames mode values tokens = .ok text) : c ∉ text := by
  induction tokens generalizing text with
  | nil =>
      cases found
      exact List.not_mem_nil
  | cons token tokens inductionHypothesis =>
      obtain ⟨firstPlain, restPlain⟩ := List.forall_mem_cons.mp plain
      unfold expandTokens at found
      split at found
      · cases found
      · rename_i front first
        cases rest : expandTokens localNames mode values tokens with
        | error obstacle =>
            rw [rest] at found
            cases found
        | ok back =>
            rw [rest] at found
            cases found
            exact List.not_mem_append (not_mem_of_expandToken control free firstPlain first)
              (inductionHypothesis restPlain rest)

theorem not_mem_of_expandString {spec text : Text}
    (found : expandString localNames mode values spec = .ok text) : c ∉ text := by
  simp only [expandString] at found
  split at found
  · cases found
  · rename_i expanded tokens
    split at found
    · cases found
      exact not_mem_of_expandTokens control free (scan_sound spec).1 tokens
    · cases found

end

/-- A domain specification names a host without control characters that are in no value. -/
theorem not_mem_of_expand {c : Char} (control : IsControl c) {localNames : List Text}
    {values : Values} (free : values.AreFree localNames .domain c) {spec host : Text}
    (found : expand localNames .domain values spec = .ok host) : c ∉ host := by
  simp only [expand, expandDomainFully] at found
  split at found
  · cases full : expandString localNames .domain values spec with
    | error obstacle =>
        rw [full] at found
        cases found
    | ok text =>
        rw [full] at found
        cases found
        exact fun member => not_mem_of_expandString control free full
          ((shortenDomain_suffix text).subset member)
  · cases found

end Macro

end SenderPolicy
