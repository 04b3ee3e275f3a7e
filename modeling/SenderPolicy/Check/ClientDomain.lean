import SenderPolicy.Check.State

/-!
# The client's domain

The client's domain is the first of its host names whose addresses include the client's.
The names are looked up once, when a macro first needs the domain, and no more of them are
tried than the record limit allows. Without such a name the domain is called unknown.
-/

namespace SenderPolicy.Check

/-- Settle the client's domain. -/
def setClientDomain (domain : Text) (state : State) : Reaction :=
  .proceed { state with clientDomain := some domain }

/-- Ask for the addresses of the next name that may be asked about. -/
def askClientAddresses (names : List Text) (state : State) : Reaction :=
  match state.identity.client with
  | none => .fail state state.noClient
  | some client =>
      match nextQuestion? (.ofFamily client.family) names with
      | none => setClientDomain Macro.unknownName state
      | some (candidate, question, pending) =>
          .ask state ⟨question, .clientAddresses candidate pending⟩

/-- The client's host names have been asked for. -/
def receiveClientNames (environment : Environment) (answer : Dns.Answer) (state : State) :
    Reaction :=
  match answer with
  | .timeout _ => setClientDomain Macro.unknownName state
  | .records names =>
      askClientAddresses ((names.take environment.recordLimit).map Text.dropEndDots) state

/-- The addresses of one of the client's host names have been asked for. -/
def receiveClientAddresses (candidate : Text) (pending : List Text) (answer : Dns.Answer)
    (state : State) : Reaction :=
  match answer with
  | .timeout _ => askClientAddresses pending state
  | .records records =>
      match state.identity.client with
      | none => .fail state state.noClient
      | some client =>
          if confirms client records then
            setClientDomain candidate state
          else
            askClientAddresses pending state

end SenderPolicy.Check
