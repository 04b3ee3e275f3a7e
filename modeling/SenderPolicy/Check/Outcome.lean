import SenderPolicy.Check.State

/-!
# Outcomes

An outcome is what a finished check reports: a result, an explanation, which is empty
unless one was published or configured, and the text of the header that records the check.
-/

namespace SenderPolicy.Check

/-- What a finished check reports. -/
structure Outcome where
  code : ResultCode
  explanation : Text
  headerText : Text
deriving DecidableEq

/-- The name of the header that records a check. -/
def headerName : Text := "Received-SPF".toList

/-- The remark on a result in the header. -/
def comment (code : ResultCode) (domain address : Text) : Text :=
  match code with
  | .pass =>
      "domain of ".toList ++ domain ++ " designates ".toList ++ address
        ++ " as permitted sender".toList
  | .fail =>
      "domain of ".toList ++ domain ++ " does not designate ".toList ++ address
        ++ " as permitted sender".toList
  | .softFail =>
      "transitioning domain of ".toList ++ domain ++ " does not designate ".toList ++ address
        ++ " as permitted sender".toList
  | .neutral | .none =>
      address ++ " is neither permitted nor denied by domain of ".toList ++ domain
  | .permError => "Error in processing SPF Record".toList
  | .tempError => "Error in retrieving data from DNS".toList

/-- The text of the header that records a check of an identity. -/
def headerValue (code : ResultCode) (identity : Identity) (domain : Text) : Text :=
  code.name ++ " (spfCheck: ".toList ++ comment code domain identity.addressText
    ++ ") client-ip=".toList ++ identity.addressText
    ++ "; envelope-from=".toList ++ identity.sender
    ++ "; helo=".toList ++ identity.helo ++ [';']

/-- The outcome of a check that has run all its tasks. -/
def Outcome.ofState (state : State) : Outcome :=
  let code := state.result.getD .permError
  { code
    explanation := state.explanation.getD []
    headerText := headerValue code state.identity state.domain }

/-- The whole header line. -/
def Outcome.header (outcome : Outcome) : Text :=
  headerName ++ ": ".toList ++ outcome.headerText

end SenderPolicy.Check
