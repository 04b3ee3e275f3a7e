import SenderPolicy.Proofs.Macro.Values

/-!
# What keeps text from being expanded

An expansion can fail by the text that is expanded and by the client's domain being unknown, and
by nothing else: two expansions of one text meet the same obstacle, whatever the values are, as
long as the client's domain is known to both or to neither. So they also ask for the receiver's
name alike.
-/

namespace SenderPolicy.Macro

/-- What an expansion has met, unless it has come to its end. -/
def obstacle? {α : Type} : Except Obstacle α → Option Obstacle
  | .ok _ => none
  | .error obstacle => some obstacle

theorem obstacle?_map {α β : Type} (change : α → β) (outcome : Except Obstacle α) :
    obstacle? (outcome.map change) = obstacle? outcome := by
  cases outcome <;> rfl

/-- Two outcomes with the same obstacle both have it, or both have come to their end. -/
theorem obstacle?_eq_cases {α : Type} {one other : Except Obstacle α}
    (same : obstacle? one = obstacle? other) :
    (∃ obstacle, one = .error obstacle ∧ other = .error obstacle)
      ∨ ∃ value otherValue, one = .ok value ∧ other = .ok otherValue := by
  cases one with
  | ok value =>
      cases other with
      | ok otherValue => exact .inr ⟨value, otherValue, rfl, rfl⟩
      | error obstacle => cases same
  | error obstacle =>
      cases other with
      | ok value => cases same
      | error other =>
          cases same
          exact .inl ⟨obstacle, rfl, rfl⟩

section
variable (localNames : List Text) (mode : Mode) {values other : Values}
  (known : values.clientDomain.isSome = other.clientDomain.isSome)
include known

theorem isSome_value?_congr (letter : Letter) :
    (values.value? localNames letter).isSome = (other.value? localNames letter).isSome := by
  cases letter with
  | clientDomain => exact known
  | _ => rfl

theorem obstacle?_expandToken (token : Token) :
    obstacle? (expandToken localNames mode values token)
      = obstacle? (expandToken localNames mode other token) := by
  cases token with
  | cell cell =>
      have value := isSome_value?_congr localNames known cell.letter
      simp only [expandToken, expandCell_eq]
      split
      · cases one : values.value? localNames cell.letter <;>
          cases two : other.value? localNames cell.letter
        · rfl
        · simp [one, two] at value
        · simp [one, two] at value
        · dsimp only
          split <;> rfl
      · rfl
  | _ => rfl

theorem obstacle?_expandTokens (tokens : List Token) :
    obstacle? (expandTokens localNames mode values tokens)
      = obstacle? (expandTokens localNames mode other tokens) := by
  induction tokens with
  | nil => rfl
  | cons token tokens inductionHypothesis =>
      simp only [expandTokens]
      rcases obstacle?_eq_cases (obstacle?_expandToken localNames mode known token) with
          ⟨obstacle, one, two⟩ | ⟨text, otherText, one, two⟩
      · rw [one, two]
      · rw [one, two]
        simp only [obstacle?_map, inductionHypothesis]

theorem obstacle?_expandString (text : Text) :
    obstacle? (expandString localNames mode values text)
      = obstacle? (expandString localNames mode other text) := by
  simp only [expandString]
  rcases obstacle?_eq_cases (obstacle?_expandTokens localNames mode known (scan text).1) with
      ⟨obstacle, one, two⟩ | ⟨expanded, otherExpanded, one, two⟩
  · rw [one, two]
  · rw [one, two]
    dsimp only
    split <;> rfl

theorem obstacle?_expandStrings (texts : List Text) :
    obstacle? (expandStrings localNames mode values texts)
      = obstacle? (expandStrings localNames mode other texts) := by
  induction texts with
  | nil => rfl
  | cons text texts inductionHypothesis =>
      simp only [expandStrings]
      rcases obstacle?_eq_cases (obstacle?_expandString localNames mode known text) with
          ⟨obstacle, one, two⟩ | ⟨expanded, otherExpanded, one, two⟩
      · rw [one, two]
      · rw [one, two]
        simp only [obstacle?_map, inductionHypothesis]

/-- Two expansions of one text meet the same obstacle. -/
theorem obstacle?_expand (text : Text) :
    obstacle? (expand localNames mode values text)
      = obstacle? (expand localNames mode other text) := by
  cases mode with
  | domain =>
      simp only [expand, expandDomainFully, obstacle?_map]
      split
      · exact obstacle?_expandString localNames .domain known text
      · rfl
  | explanation =>
      simp only [expand, obstacle?_map]
      exact obstacle?_expandStrings localNames .explanation known _

theorem tokensAskReceiver_congr (tokens : List Token) :
    tokensAskReceiver localNames mode values tokens
      = tokensAskReceiver localNames mode other tokens := by
  induction tokens with
  | nil => rfl
  | cons token tokens inductionHypothesis =>
      unfold tokensAskReceiver
      split
      · rfl
      · rcases obstacle?_eq_cases (obstacle?_expandToken localNames mode known token) with
            ⟨obstacle, one, two⟩ | ⟨text, otherText, one, two⟩
        · rw [one, two]
        · rw [one, two]
          exact inductionHypothesis

theorem stringsAskReceiver_congr (texts : List Text) :
    stringsAskReceiver localNames mode values texts
      = stringsAskReceiver localNames mode other texts := by
  induction texts with
  | nil => rfl
  | cons text texts inductionHypothesis =>
      unfold stringsAskReceiver
      rw [tokensAskReceiver_congr localNames mode known]
      rcases obstacle?_eq_cases (obstacle?_expandString localNames mode known text) with
          ⟨obstacle, one, two⟩ | ⟨expanded, otherExpanded, one, two⟩
      · rw [one, two]
      · rw [one, two, inductionHypothesis]

/-- Two expansions of one text look up the receiver's name alike. -/
theorem receiverAfter_congr (receiver : values.receiver = other.receiver) (text : Text) :
    receiverAfter localNames mode values text = receiverAfter localNames mode other text := by
  unfold receiverAfter
  rw [stringsAskReceiver_congr localNames mode known, receiver]

end

end SenderPolicy.Macro
