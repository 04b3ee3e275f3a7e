import SenderPolicy.Macro.Expansion

/-!
# What expansions depend on

An expansion depends on the values of the letters that its mode allows. The receiver's name is
not among them in a domain, and elsewhere looking it up once more gives the same name. Only the
client's domain can be unknown, so once it is known no expansion is put off.
-/

namespace SenderPolicy.Macro

/-! ## Values that count -/

section
variable {localNames : List Text} {mode : Mode} {values other : Values}

/-- The letters that have a value in a mode have the same values. -/
def Values.AgreeIn (localNames : List Text) (mode : Mode) (values other : Values) : Prop :=
  ∀ letter, mode.allows letter = true →
    values.value? localNames letter = other.value? localNames letter

variable (agree : values.AgreeIn localNames mode other)
include agree

theorem expandToken_congr (token : Token) :
    expandToken localNames mode values token = expandToken localNames mode other token := by
  cases token with
  | cell cell =>
      simp only [expandToken, expandCell_eq]
      split
      · rename_i allowed
        rw [agree _ allowed]
      · rfl
  | _ => rfl

theorem expandTokens_congr (tokens : List Token) :
    expandTokens localNames mode values tokens = expandTokens localNames mode other tokens := by
  induction tokens with
  | nil => rfl
  | cons token tokens inductionHypothesis =>
      simp only [expandTokens, expandToken_congr agree, inductionHypothesis]

theorem expandString_congr (text : Text) :
    expandString localNames mode values text = expandString localNames mode other text := by
  simp only [expandString, expandTokens_congr agree]

theorem expandStrings_congr (texts : List Text) :
    expandStrings localNames mode values texts = expandStrings localNames mode other texts := by
  induction texts with
  | nil => rfl
  | cons text texts inductionHypothesis =>
      simp only [expandStrings, expandString_congr agree, inductionHypothesis]

/-- An expansion depends on the values of the letters that its mode allows. -/
theorem expand_congr (text : Text) :
    expand localNames mode values text = expand localNames mode other text := by
  cases mode with
  | domain => simp only [expand, expandDomainFully, expandString_congr agree]
  | explanation => simp only [expand, expandStrings_congr agree]

end

/-- The expansion of a domain specification does not depend on the receiver's name. -/
theorem expand_domain_receiver (localNames : List Text) (values : Values)
    (receiver : Option Text) (text : Text) :
    expand localNames .domain { values with receiver } text
      = expand localNames .domain values text := by
  refine expand_congr (fun letter allowed => ?_) text
  cases letter with
  | receiver => cases allowed
  | _ => rfl

/-- Looking up the receiver's name for one expansion changes no other. -/
theorem expand_receiverAfter (localNames : List Text) (values : Values) (mode looked : Mode)
    (text asking : Text) :
    expand localNames mode
        { values with receiver := receiverAfter localNames looked values asking } text
      = expand localNames mode values text := by
  refine expand_congr (fun letter _ => ?_) text
  cases letter with
  | receiver =>
      simp only [Values.value?, receiverAfter]
      split
      · -- Looking the name up again gives the same name.
        cases values.receiver <;> simp [findReceiver]
      · rfl
  | _ => rfl

/-! ## The client's domain -/

section
variable {localNames : List Text} {mode : Mode} {values : Values}

/-- Only the client's domain can be unknown. -/
theorem value?_eq_none_iff {letter : Letter} :
    values.value? localNames letter = none
      ↔ letter = .clientDomain ∧ values.clientDomain = none := by
  cases letter <;> simp [Values.value?]

theorem clientDomain_of_expandToken {token : Token}
    (unknown : expandToken localNames mode values token = .error .clientDomainUnknown) :
    values.clientDomain = none := by
  cases token with
  | cell cell =>
      simp only [expandToken, expandCell_eq] at unknown
      split at unknown
      · cases found : values.value? localNames cell.letter with
        | none => exact (value?_eq_none_iff.mp found).2
        | some value =>
            rw [found] at unknown
            simp only at unknown
            split at unknown <;> cases unknown
      · cases unknown
  | literal c => contradiction
  | percent => contradiction
  | space => contradiction
  | encodedSpace => contradiction

/-- What is put in front of an expansion is no obstacle. -/
theorem error_of_map {α β : Type} {outcome : Except Obstacle α} {change : α → β}
    {obstacle : Obstacle} (failed : outcome.map change = .error obstacle) :
    outcome = .error obstacle := by
  cases outcome with
  | error other => exact congrArg Except.error (Except.error.inj failed)
  | ok value => contradiction

theorem clientDomain_of_expandTokens {tokens : List Token}
    (unknown : expandTokens localNames mode values tokens = .error .clientDomainUnknown) :
    values.clientDomain = none := by
  induction tokens with
  | nil => contradiction
  | cons token tokens inductionHypothesis =>
      unfold expandTokens at unknown
      cases first : expandToken localNames mode values token with
      | error obstacle =>
          rw [first] at unknown
          cases unknown
          exact clientDomain_of_expandToken first
      | ok text =>
          rw [first] at unknown
          exact inductionHypothesis (error_of_map unknown)

theorem clientDomain_of_expandString {text : Text}
    (unknown : expandString localNames mode values text = .error .clientDomainUnknown) :
    values.clientDomain = none := by
  unfold expandString at unknown
  cases tokens : expandTokens localNames mode values (scan text).1 with
  | error obstacle =>
      simp only [tokens, Except.error.injEq] at unknown
      subst unknown
      exact clientDomain_of_expandTokens tokens
  | ok expanded =>
      simp only [tokens] at unknown
      split at unknown <;> simp at unknown

theorem clientDomain_of_expandStrings {texts : List Text}
    (unknown : expandStrings localNames mode values texts = .error .clientDomainUnknown) :
    values.clientDomain = none := by
  induction texts with
  | nil => contradiction
  | cons text texts inductionHypothesis =>
      unfold expandStrings at unknown
      cases first : expandString localNames mode values text with
      | error obstacle =>
          rw [first] at unknown
          cases unknown
          exact clientDomain_of_expandString first
      | ok expanded =>
          rw [first] at unknown
          exact inductionHypothesis (error_of_map unknown)

/-- An expansion is put off only as long as the client's domain is unknown. -/
theorem clientDomain_of_expand {text : Text}
    (unknown : expand localNames mode values text = .error .clientDomainUnknown) :
    values.clientDomain = none := by
  unfold expand at unknown
  cases mode with
  | domain =>
      have failed := error_of_map unknown
      unfold expandDomainFully at failed
      split at failed
      · exact clientDomain_of_expandString failed
      · simp at failed
  | explanation => exact clientDomain_of_expandStrings (error_of_map unknown)

/-! An expansion that is not put off stays as it is when the client's domain becomes known. -/

theorem expandToken_known (found : Text) (unknown : values.clientDomain = none) (token : Token) :
    expandToken localNames mode values token = .error .clientDomainUnknown
      ∨ expandToken localNames mode { values with clientDomain := some found } token
        = expandToken localNames mode values token := by
  cases token with
  | cell cell =>
      simp only [expandToken, expandCell_eq]
      by_cases allowed : mode.allows cell.letter = true
      · by_cases client : cell.letter = .clientDomain
        · left
          rw [if_pos allowed, value?_eq_none_iff.mpr ⟨client, unknown⟩]
        · right
          have same : ({ values with clientDomain := some found } : Values).value? localNames
              cell.letter = values.value? localNames cell.letter := by
            cases letter : cell.letter <;> first | rfl | exact absurd letter client
          rw [same]
      · right
        rw [if_neg allowed, if_neg allowed]
  | _ => exact .inr rfl

theorem expandTokens_known (found : Text) (unknown : values.clientDomain = none)
    (tokens : List Token) :
    expandTokens localNames mode values tokens = .error .clientDomainUnknown
      ∨ expandTokens localNames mode { values with clientDomain := some found } tokens
        = expandTokens localNames mode values tokens := by
  induction tokens with
  | nil => exact .inr rfl
  | cons token tokens inductionHypothesis =>
      simp only [expandTokens]
      rcases expandToken_known found unknown token with first | first
      · exact .inl (by rw [first])
      · rw [first]
        cases expandToken localNames mode values token with
        | error obstacle => exact .inr rfl
        | ok text =>
            rcases inductionHypothesis with rest | rest
            · exact .inl (by rw [rest]; rfl)
            · exact .inr (by rw [rest])

theorem expandString_known (found : Text) (unknown : values.clientDomain = none) (text : Text) :
    expandString localNames mode values text = .error .clientDomainUnknown
      ∨ expandString localNames mode { values with clientDomain := some found } text
        = expandString localNames mode values text := by
  simp only [expandString]
  rcases expandTokens_known found unknown (scan text).1 with tokens | tokens
  · exact .inl (by rw [tokens])
  · exact .inr (by rw [tokens])

theorem expandStrings_known (found : Text) (unknown : values.clientDomain = none)
    (texts : List Text) :
    expandStrings localNames mode values texts = .error .clientDomainUnknown
      ∨ expandStrings localNames mode { values with clientDomain := some found } texts
        = expandStrings localNames mode values texts := by
  induction texts with
  | nil => exact .inr rfl
  | cons text texts inductionHypothesis =>
      simp only [expandStrings]
      rcases expandString_known found unknown text with first | first
      · exact .inl (by rw [first])
      · rw [first]
        cases expandString localNames mode values text with
        | error obstacle => exact .inr rfl
        | ok expanded =>
            rcases inductionHypothesis with rest | rest
            · exact .inl (by rw [rest]; rfl)
            · exact .inr (by rw [rest])

/-- A text that does not need the client's domain does not depend on it. -/
theorem expand_known (found : Text) (unknown : values.clientDomain = none) (text : Text) :
    expand localNames mode values text = .error .clientDomainUnknown
      ∨ expand localNames mode { values with clientDomain := some found } text
        = expand localNames mode values text := by
  cases mode with
  | domain =>
      simp only [expand, expandDomainFully]
      by_cases domain : isDomainSpec text = true
      · rw [if_pos domain, if_pos domain]
        rcases expandString_known found unknown text with expanded | expanded
        · exact .inl (by rw [expanded]; rfl)
        · exact .inr (by rw [expanded])
      · exact .inr (by rw [if_neg domain, if_neg domain])
  | explanation =>
      simp only [expand]
      rcases expandStrings_known found unknown (pieces .explanation text) with expanded | expanded
      · exact .inl (by rw [expanded]; rfl)
      · exact .inr (by rw [expanded])

end

end SenderPolicy.Macro
