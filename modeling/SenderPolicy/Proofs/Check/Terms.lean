import SenderPolicy.Check.Mechanism
import SenderPolicy.Check.Modifier

/-!
# How terms that ask the DNS begin

A mechanism that asks the DNS and a redirect begin alike: the term is counted, its second half is
put on the stack, and its domain specification is prepared, if it has one. What holds of
`beginTerm` need not be shown for each kind of term.
-/

namespace SenderPolicy.Check

/-- Begin a term: count it, put its second half on the stack, and prepare its expansion. -/
def beginTerm (environment : Environment) (half : Task) (spec : Option Text) (state : State) :
    Reaction :=
  let counted := state.countLookup
  if counted.exceedsLimit then
    .fail counted (.tooManyLookups counted.depth)
  else
    match spec with
    | none => .proceed (counted.push half)
    | some spec => (counted.push half).prepareExpansion environment .domain spec

section
variable {environment : Environment} {state : State}

/-- A mechanism that asks the DNS begins as every such term. -/
theorem beginMechanism_of_asksDns {mechanism : Mechanism} (asks : mechanism.asksDns = true) :
    beginMechanism environment state mechanism
      = beginTerm environment (.expandedMechanism mechanism) mechanism.domain? state := by
  cases mechanism with
  | all => cases asks
  | network network => cases asks
  | «include» spec => rfl
  | a spec lengths => rfl
  | mx spec lengths => rfl
  | ptr spec => rfl
  | «exists» spec => rfl

/-- A redirect that is wanted begins as every such term. -/
theorem beginModifier_redirect {spec : Text} (opened : state.isOpen = true) :
    beginModifier environment state (.redirect spec)
      = beginTerm environment (.followRedirect spec) (some spec) state := by
  rw [beginModifier, if_pos opened]
  rfl

end

end SenderPolicy.Check
