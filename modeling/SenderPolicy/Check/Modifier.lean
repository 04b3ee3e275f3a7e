import SenderPolicy.Check.State

/-!
# Redirects and explanations

A redirect evaluates another domain in place of the current one, if nothing is decided
yet. An explanation is looked up only for a failing client, below a guard, so that no
failure on the way can change the result.
-/

namespace SenderPolicy.Check

/-- Begin a modifier. -/
def beginModifier (environment : Environment) (state : State) : Modifier → Reaction
  | .redirect spec =>
      if state.isOpen then
        let counted := state.countLookup
        if counted.exceedsLimit then
          .fail counted (.tooManyLookups counted.depth)
        else
          (counted.push (.followRedirect spec)).prepareExpansion environment .domain spec
      else
        .proceed state
  | .exp spec =>
      if state.wantsExplanation then
        (state.pushAll [.askExplanation spec, .guardExplanation]).prepareExpansion
          environment .domain spec
      else
        .proceed state
  | .unknown _ _ => .proceed state

/-- Evaluate the target of a redirect in place of the current domain. -/
def followRedirect (environment : Environment) (spec : Text) (state : State) : Reaction :=
  match state.targetHost environment (some spec) with
  | .error failure => .fail state failure
  | .ok host =>
      .proceed { state.pushAll [.evaluateDomain, .leaveRedirect] with domain := host }

/-- Ask for the texts that a domain publishes as its explanation. -/
def askExplanation (environment : Environment) (spec : Text) (state : State) : Reaction :=
  match state.targetHost environment (some spec) with
  | .error failure => .fail state failure
  | .ok host => .ask state ⟨⟨host, .txt⟩, .explanationTexts⟩

/-- Prepare to set an explanation. -/
def prepareExplanation (environment : Environment) (text : Text) (state : State) : Reaction :=
  (state.push (.explain text)).prepareExpansion environment .explanation text

/-- The texts of an explanation have been asked for; there must be exactly one. -/
def receiveExplanationTexts (environment : Environment) (answer : Dns.Answer)
    (state : State) : Reaction :=
  match answer with
  | .records [text] => prepareExplanation environment text state
  | _ => .proceed state

/-- Set an explanation. -/
def explain (environment : Environment) (text : Text) (state : State) : Reaction :=
  let after := state.afterExpansion environment .explanation text
  match state.expand environment .explanation text with
  | .ok explanation => .proceed { after with explanation := some explanation }
  | .error (.failure failure) => .fail after failure
  | .error .clientDomainUnknown => .fail after .unexpandableExplanation

/-- Run a hook. -/
def runHook (environment : Environment) (state : State) : Hook → Reaction
  | .neutralIfUnmatched =>
      .proceed { state with verdict := state.verdict <|> some .neutral }
  | .defaultExplanation text =>
      if state.wantsExplanation then
        prepareExplanation environment text (state.push .guardExplanation)
      else
        .proceed state

end SenderPolicy.Check
