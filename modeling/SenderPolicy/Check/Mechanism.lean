import SenderPolicy.Check.State

/-!
# Evaluating mechanisms

A mechanism without questions matches or not at once. The others count against the limit
of a check, make sure that their domain specification can be expanded, and then ask. Each
evaluation ends by setting whether the mechanism has matched; an include does so when it
is left.
-/

namespace SenderPolicy.Check

/-- Set whether the mechanism has matched. -/
def setMatched (matched : Bool) (state : State) : Reaction :=
  .proceed { state with matched := some matched }

/-- Begin a mechanism. -/
def beginMechanism (environment : Environment) (state : State) : Mechanism → Reaction
  | .all => setMatched true state
  | .network network =>
      match state.identity.client with
      | none => .fail state state.noClient
      | some client => setMatched (network.contains client) state
  | mechanism =>
      let counted := state.countLookup
      if counted.exceedsLimit then
        .fail counted (.tooManyLookups counted.depth)
      else
        let prepared := counted.push (.expandedMechanism mechanism)
        match mechanism.domain? with
        | none => .proceed prepared
        | some spec => prepared.prepareExpansion environment .domain spec

/-- Ask about a host; a name that no such question may ask for does not match. -/
def askHost (host : Text) (type : Dns.RecordType) (awaiting : Awaiting) (state : State) :
    Reaction :=
  match Dns.Question.make host type with
  | .ok question => .ask state ⟨question, awaiting⟩
  | .error _ => setMatched false state

/-- Compare the client with a host, which may be an address itself. -/
def compareHost (client : Address) (host : Text) (lengths : PrefixLengths) (state : State) :
    Reaction :=
  if (Address.read? host).isSome then
    setMatched (matchesAny client lengths [host]) state
  else
    askHost host (.ofFamily client.family) (.addresses lengths) state

/-- Evaluate another domain, remembering what to put back afterwards. -/
def enterInclude (host : Text) (state : State) : State :=
  { state with
    domain := host
    verdict := none
    muted := true
    tasks := .evaluateDomain :: .leaveInclude ⟨state.domain, state.verdict, state.muted⟩
      :: state.tasks }

/-- Go on with a mechanism whose domain specification can be expanded. -/
def continueMechanism (environment : Environment) (mechanism : Mechanism) (state : State) :
    Reaction :=
  match state.targetHost environment mechanism.domain? with
  | .error failure => .fail state failure
  | .ok host =>
      match mechanism, state.identity.client with
      | .a _ lengths, some client => compareHost client host lengths state
      | .a _ _, none => .fail state state.noClient
      | .mx _ lengths, _ => askHost host .mx (.exchangers lengths) state
      | .ptr _, some client => .ask state ⟨⟨client.reverseName, .ptr⟩, .hostNames host⟩
      | .ptr _, none => .fail state state.noClient
      | .include _, _ => .proceed (enterInclude host state)
      | .exists _, _ => askHost host .a .existence state
      | .all, _ => .proceed state
      | .network _, _ => .proceed state

/-! ## Answers -/

/-- The addresses of a host have been asked for. -/
def receiveAddresses (lengths : PrefixLengths) (answer : Dns.Answer) (state : State) :
    Reaction :=
  match answer with
  | .timeout note => .fail state (.unanswered (Dns.timeoutReason note))
  | .records records =>
      match state.identity.client with
      | none => .fail state state.noClient
      | some client => setMatched (matchesAny client lengths records) state

/-- Ask for the addresses of the next mail exchanger that may be asked about. -/
def askExchangerAddresses (lengths : PrefixLengths) (hosts : List Text) (state : State) :
    Reaction :=
  match state.identity.client with
  | none => .fail state state.noClient
  | some client =>
      match nextQuestion? (.ofFamily client.family) hosts with
      | none => setMatched false state
      | some (_, question, pending) =>
          .ask state ⟨question, .exchangerAddresses lengths pending⟩

/-- The mail exchangers of a host have been asked for; there may not be too many. -/
def receiveExchangers (environment : Environment) (lengths : PrefixLengths)
    (answer : Dns.Answer) (state : State) : Reaction :=
  match answer with
  | .timeout note => .fail state (.unanswered (Dns.timeoutReason note))
  | .records hosts =>
      if environment.recordLimit < hosts.length then
        .fail state (.tooManyExchangers environment.recordLimit)
      else
        askExchangerAddresses lengths (hosts.map Text.dropEndDots) state

/-- The addresses of a mail exchanger have been asked for. -/
def receiveExchangerAddresses (lengths : PrefixLengths) (pending : List Text)
    (answer : Dns.Answer) (state : State) : Reaction :=
  match answer with
  | .timeout note => .fail state (.unanswered (Dns.timeoutReason note))
  | .records records =>
      match state.identity.client with
      | none => .fail state state.noClient
      | some client =>
          if matchesAny client lengths records then
            setMatched true state
          else
            askExchangerAddresses lengths pending state

/-- Ask for the addresses of the next host name that may be asked about. -/
def askHostAddresses (target : Text) (names : List Text) (state : State) : Reaction :=
  match state.identity.client with
  | none => .fail state state.noClient
  | some client =>
      match nextQuestion? (.ofFamily client.family) names with
      | none => setMatched false state
      | some (candidate, question, pending) =>
          .ask state ⟨question, .hostAddresses target candidate pending⟩

/-- The client's host names have been asked for; only so many are tried. -/
def receiveHostNames (environment : Environment) (target : Text) (answer : Dns.Answer)
    (state : State) : Reaction :=
  match answer with
  | .timeout _ => setMatched false state
  | .records names =>
      askHostAddresses target ((names.take environment.recordLimit).map Text.dropEndDots) state

/-- The addresses of one of the client's host names have been asked for. -/
def receiveHostAddresses (target candidate : Text) (pending : List Text)
    (answer : Dns.Answer) (state : State) : Reaction :=
  match answer with
  | .timeout _ => askHostAddresses target pending state
  | .records records =>
      match state.identity.client with
      | none => .fail state state.noClient
      | some client =>
          if confirms client records && Domain.isWithin candidate target then
            setMatched true state
          else
            askHostAddresses target pending state

/-- It has been asked whether a host has an address. -/
def receiveExistence (answer : Dns.Answer) (state : State) : Reaction :=
  match answer with
  | .timeout note => .fail state (.unanswered (Dns.timeoutReason note))
  | .records records => setMatched (!records.isEmpty) state

/-! ## Leaving an include -/

/-- Put back what an include has changed. -/
def Frame.restore (frame : Frame) (state : State) : State :=
  { state with domain := frame.domain, verdict := frame.verdict, muted := frame.muted }

/-- An include matches if the other domain's record lets the client pass. -/
def leaveInclude (frame : Frame) (state : State) : State :=
  { frame.restore state with matched := some (state.verdict = some .pass) }

end SenderPolicy.Check
