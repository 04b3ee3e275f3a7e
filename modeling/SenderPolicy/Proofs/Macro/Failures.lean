import SenderPolicy.Proofs.Macro.Values

/-!
# What expansions can fail with

A cell can have a letter without a value or ask for a number of parts that cannot be kept. All
else is text where no token starts, and a domain specification has none: it consists of tokens.
So the expansion of a domain specification fails by one of its cells or not at all.
-/

namespace SenderPolicy

/-- The failures that a cell can have. -/
inductive Failure.IsOfCell : Failure → Prop where
  | letterNotAllowed (cell : Text) : IsOfCell (.letterNotAllowed cell)
  | zeroParts : IsOfCell .zeroParts
  | tooManyParts (digits : Text) : IsOfCell (.tooManyParts digits)

/-- The failures of text that is not made up of tokens. -/
inductive Failure.IsUnreadable : Failure → Prop where
  | middle (before gap after text : Text) : IsUnreadable (.unreadableMiddle before gap after text)
  | ending (rest : Text) : IsUnreadable (.unreadableEnd rest)

namespace Macro

theorem isUnreadable_unreadable (text rest : Text) : (unreadable text rest).IsUnreadable := by
  unfold unreadable
  split
  · exact .ending _
  · exact .middle ..

section
variable {localNames : List Text} {mode : Mode} {values : Values} {failure : Failure}

theorem isOfCell_of_read {text : Text} (failed : Transformer.read text = .error failure) :
    failure.IsOfCell := by
  simp only [Transformer.read] at failed
  cases keep : Transformer.readKeep (text.takeWhile Char.isDigit) with
  | ok count =>
      rw [keep] at failed
      cases failed
  | error other =>
      rw [keep] at failed
      cases failed
      unfold Transformer.readKeep at keep
      split at keep
      · cases keep
      · cases keep
        exact .zeroParts
      · split at keep
        · cases keep
        · cases keep
          exact .tooManyParts _

theorem isOfCell_of_expandToken {token : Token}
    (failed : expandToken localNames mode values token = .error (.failure failure)) :
    failure.IsOfCell := by
  cases token with
  | cell cell =>
      simp only [expandToken, expandCell_eq] at failed
      split at failed
      · split at failed
        · cases failed
        · split at failed
          · rename_i read
            cases failed
            exact isOfCell_of_read read
          · cases failed
      · cases failed
        exact .letterNotAllowed _
  | _ => cases failed

theorem isOfCell_of_expandTokens {tokens : List Token}
    (failed : expandTokens localNames mode values tokens = .error (.failure failure)) :
    failure.IsOfCell := by
  induction tokens with
  | nil => cases failed
  | cons token tokens inductionHypothesis =>
      simp only [expandTokens] at failed
      split at failed
      · rename_i first
        cases failed
        exact isOfCell_of_expandToken first
      · exact inductionHypothesis (error_of_map failed)

theorem failure_of_expandString {text : Text}
    (failed : expandString localNames mode values text = .error (.failure failure)) :
    failure.IsOfCell ∨ failure.IsUnreadable ∧ (scan text).2 ≠ [] := by
  simp only [expandString] at failed
  split at failed
  · rename_i tokens
    cases failed
    exact .inl (isOfCell_of_expandTokens tokens)
  · split at failed
    · cases failed
    · rename_i rest
      cases failed
      exact .inr ⟨isUnreadable_unreadable _ _, rest⟩

theorem failure_of_expandStrings {texts : List Text}
    (failed : expandStrings localNames mode values texts = .error (.failure failure)) :
    failure.IsOfCell ∨ failure.IsUnreadable := by
  induction texts with
  | nil => cases failed
  | cons text texts inductionHypothesis =>
      simp only [expandStrings] at failed
      split at failed
      · rename_i first
        cases failed
        exact (failure_of_expandString first).imp_right And.left
      · exact inductionHypothesis (error_of_map failed)

/-- An explanation fails by one of its cells or by text between its tokens. -/
theorem failure_of_expand_explanation {text : Text}
    (failed : expand localNames .explanation values text = .error (.failure failure)) :
    failure.IsOfCell ∨ failure.IsUnreadable :=
  failure_of_expandStrings (error_of_map failed)

/-- Whatever is taken for a domain specification, its expansion fails permanently. -/
theorem code_of_expand_domain {text : Text}
    (failed : expand localNames .domain values text = .error (.failure failure)) :
    failure.code = .permError := by
  have expanded := error_of_map failed
  unfold expandDomainFully at expanded
  split at expanded
  · rcases failure_of_expandString expanded with ofCell | ⟨unreadable, _⟩
    · cases ofCell <;> rfl
    · cases unreadable <;> rfl
  · cases expanded
    rfl

/-- A domain specification fails by one of its cells. -/
theorem isOfCell_of_expand {text : Text} (domain : isDomainSpec text = true)
    (failed : expand localNames .domain values text = .error (.failure failure)) :
    failure.IsOfCell := by
  have expanded := error_of_map failed
  rw [expandDomainFully, if_pos domain] at expanded
  rcases failure_of_expandString expanded with ofCell | ⟨_, rest⟩
  · exact ofCell
  · have nothing : (scan text).2 = [] := by
      unfold isDomainSpec tokens? at domain
      split at domain
      · cases domain
      · rename_i tokens read
        split at read
        · rename_i scanned
          rw [scanned]
        · cases read
    exact absurd nothing rest

end

end Macro

end SenderPolicy
