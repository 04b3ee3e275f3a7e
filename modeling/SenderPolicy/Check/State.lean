import SenderPolicy.Check.Task
import SenderPolicy.Identity
import SenderPolicy.Macro.Expansion

/-!
# The state of a check

`State` is all that a check remembers between two tasks, and `Reaction` is what running a
task or receiving an answer leads to. Tasks put on the stack before a failure stay there,
so that a catcher among them can handle it.
-/

namespace SenderPolicy.Check

/-- What a check takes from its surroundings besides answers. -/
structure Environment where
  options : Options := {}
  /-- The greatest number of exchangers or host names that one mechanism asks for. -/
  recordLimit : Nat := Dns.defaultRecordLimit
  /-- The names of the receiving host. -/
  localNames : List Text := []

/-- Greatest number of terms that ask the DNS in one check. -/
def lookupLimit : Nat := 10

/-- What a check remembers. -/
structure State where
  identity : Identity
  /-- The domain under evaluation. -/
  domain : Text
  /-- Number of terms that have asked the DNS. -/
  depth : Nat := 0
  /-- The qualifier of the directive that has matched. -/
  verdict : Option Qualifier := none
  /-- The result, once there is one. -/
  result : Option ResultCode := none
  explanation : Option Text := none
  /-- Explanations are not wanted, because an include is evaluated. -/
  muted : Bool := false
  /-- Whether the mechanism evaluated last has matched. -/
  matched : Option Bool := none
  slot : Option Slot := none
  clientDomain : Option Text := none
  receiver : Option Text := none
  /-- The stack, top first. -/
  tasks : List Task := []

/-- What running a task or receiving an answer leads to. -/
inductive Reaction where
  | proceed (state : State)
  | ask (state : State) (lookup : Lookup)
  | fail (state : State) (failure : Failure)

namespace State

/-- The state before the first task. A client address that cannot be read has decided the
result already. -/
def start (identity : Identity) : State :=
  { identity
    domain := identity.domain
    result := if identity.client.isSome then none else some .permError
    tasks := [.evaluateDomain, .conclude] }

/-- The state with one more task on the stack. -/
def push (task : Task) (state : State) : State :=
  { state with tasks := task :: state.tasks }

/-- The state with more tasks on the stack, the first of them on top. -/
def pushAll (tasks : List Task) (state : State) : State :=
  { state with tasks := tasks ++ state.tasks }

/-- Nothing is decided yet. -/
def isOpen (state : State) : Bool :=
  state.verdict.isNone && state.result.isNone

/-- Set the result, unless there is one. -/
def decide (code : ResultCode) (state : State) : State :=
  { state with result := state.result <|> some code }

/-- A failing client still needs an explanation. -/
def wantsExplanation (state : State) : Bool :=
  state.verdict = some .fail && state.explanation.isNone && !state.muted

/-- The failure of a step that needs the client's address. -/
def noClient (state : State) : Failure :=
  .noClientAddress state.identity.addressText

/-- Count one more term that asks the DNS. -/
def countLookup (state : State) : State :=
  { state with depth := state.depth + 1 }

/-- More terms have asked the DNS than a check may evaluate. -/
def exceedsLimit (state : State) : Bool :=
  lookupLimit < state.depth

/-- The values that cells stand for. All of them belong to the check, also the time. -/
def values (_ : Environment) (state : State) : Macro.Values :=
  { sender := state.identity.sender
    localPart := state.identity.localPart
    senderDomain := state.identity.domain
    domain := state.domain
    address := state.identity.addressLabels
    clientDomain := state.clientDomain
    family := state.identity.familyLabel
    helo := state.identity.helo
    readableAddress := state.identity.readableAddress
    receiver := state.receiver
    timestamp := state.identity.timestamp }

/-- The expansion of macro text. -/
def expand (environment : Environment) (mode : Macro.Mode) (text : Text) (state : State) :
    Except Macro.Obstacle Text :=
  Macro.expand environment.localNames mode (state.values environment) text

/-- The state after an expansion, which may have looked up the receiver's name. -/
def afterExpansion (environment : Environment) (mode : Macro.Mode) (text : Text)
    (state : State) : State :=
  { state with
    receiver := Macro.receiverAfter environment.localNames mode (state.values environment) text }

/-- Make sure that text can be expanded: if only the client's domain is missing, ask for
the client's host names. -/
def prepareExpansion (environment : Environment) (mode : Macro.Mode) (text : Text)
    (state : State) : Reaction :=
  let after := state.afterExpansion environment mode text
  match state.expand environment mode text with
  | .ok _ => .proceed after
  | .error (.failure failure) => .fail after failure
  | .error .clientDomainUnknown =>
      match state.identity.client with
      | none => .fail after state.noClient
      | some client => .ask after ⟨⟨client.reverseName, .ptr⟩, .clientNames⟩

/-- The host that a domain specification names; without one, the current domain. -/
def targetHost (environment : Environment) (spec : Option Text) (state : State) :
    Except Failure Text :=
  match spec with
  | none => .ok state.domain
  | some spec =>
      match state.expand environment .domain spec with
      | .ok host => .ok host
      | .error (.failure failure) => .error failure
      | .error .clientDomainUnknown => .error (.unexpandable spec)

end State

/-! ## Walks through host names -/

/-- The first name that may be asked about, its question, and the names after it. -/
def nextQuestion? (type : Dns.RecordType) : List Text → Option (Text × Dns.Question × List Text)
  | [] => none
  | name :: names =>
      match Dns.Question.make name type with
      | .ok question => some (name, question, names)
      | .error _ => nextQuestion? type names

/-- A name that may be asked about leaves fewer names. -/
theorem length_lt_of_nextQuestion? {type : Dns.RecordType} {names rest : List Text} {name : Text}
    {question : Dns.Question} (found : nextQuestion? type names = some (name, question, rest)) :
    rest.length < names.length := by
  induction names with
  | nil => simp [nextQuestion?] at found
  | cons first names inductionHypothesis =>
      unfold nextQuestion? at found
      split at found
      · simp only [Option.some.injEq, Prod.mk.injEq] at found
        simp [found.2.2]
      · have := inductionHypothesis found
        simp only [List.length_cons]
        omega

/-- Some address record holds the client's address. -/
def confirms (client : Address) (records : List Text) : Bool :=
  records.any fun record => Address.read? record = some client

/-- Some address record agrees with the client's address in its first bits. -/
def matchesAny (client : Address) (lengths : PrefixLengths) (records : List Text) : Bool :=
  let network := Network.ofAddress client (lengths.ofFamily client.family)
  records.any fun record => (Address.read? record).any network.contains

end SenderPolicy.Check
