import SenderPolicy.Check.ClientDomain
import SenderPolicy.Check.Mechanism
import SenderPolicy.Check.Modifier
import SenderPolicy.Check.Retrieval

/-!
# One turn of a check

`runTask` says what each task does and `receive` what each answer does. A failure is
handled by `unwind`, which removes tasks from the stack until a catcher among them handles
it. After a turn a check is `running`, with a stack that may be empty, or `waiting` for
an answer.
-/

namespace SenderPolicy.Check

/-- The tasks of a policy: its directives, its modifiers, and its hooks. -/
def policyTasks (policy : Policy) : List Task :=
  policy.record.directives.map Task.directive ++ policy.record.modifiers.map Task.modifier
    ++ policy.hooks.map Task.hook

/-- Run a task that has been taken from the stack. -/
def runTask (environment : Environment) (state : State) : Task → Reaction
  | .conclude =>
      .proceed (state.decide ((state.verdict.map Qualifier.result).getD .neutral))
  | .evaluateDomain =>
      if state.isOpen then
        .proceed ({ state with slot := none }.pushAll
          ((stages environment.options).map Task.stage ++ [Task.evaluateRecord]))
      else
        .proceed state
  | .stage stage => runStage environment state stage
  | .evaluateRecord =>
      let after := { state with slot := none }
      match state.slot with
      | some (.policy policy) => .proceed (after.pushAll (policyTasks policy))
      | _ => .fail after .recordNotParsed
  | .directive directive =>
      if state.isOpen then
        .proceed ({ state with matched := none }.pushAll
          [.mechanism directive.mechanism, .settle directive.qualifier])
      else
        .proceed state
  | .settle qualifier =>
      let after := { state with matched := none }
      if state.matched = some true then
        .proceed { after with verdict := some qualifier }
      else
        .proceed after
  | .mechanism mechanism => beginMechanism environment state mechanism
  | .expandedMechanism mechanism => continueMechanism environment mechanism state
  | .leaveInclude frame => .proceed (leaveInclude frame state)
  | .modifier modifier => beginModifier environment state modifier
  | .followRedirect spec => followRedirect environment spec state
  | .leaveRedirect => .proceed state
  | .askExplanation spec => askExplanation environment spec state
  | .explain text => explain environment text state
  | .guardExplanation => .proceed state
  | .hook hook => runHook environment state hook

/-- Give an answer to the step that has asked for it. -/
def receive (environment : Environment) (answer : Dns.Answer) (state : State) :
    Awaiting → Reaction
  | .spfRecords => receiveSpfRecords answer state
  | .txtRecords => receiveTxtRecords answer state
  | .strictSpfRecords => receiveStrictSpfRecords answer state
  | .strictTxtRecords spf => receiveStrictTxtRecords spf answer state
  | .addresses lengths => receiveAddresses lengths answer state
  | .exchangers lengths => receiveExchangers environment lengths answer state
  | .exchangerAddresses lengths pending =>
      receiveExchangerAddresses lengths pending answer state
  | .hostNames target => receiveHostNames environment target answer state
  | .hostAddresses target candidate pending =>
      receiveHostAddresses target candidate pending answer state
  | .existence => receiveExistence answer state
  | .explanationTexts => receiveExplanationTexts environment answer state
  | .clientNames => receiveClientNames environment answer state
  | .clientAddresses candidate pending =>
      receiveClientAddresses candidate pending answer state

/-! ## Failures -/

/-- What a catcher makes of a failure. -/
inductive Handling where
  | caught (state : State)
  | rethrown (state : State) (failure : Failure)

/-- What a task makes of a failure; nothing, if it is no catcher. -/
def handle (failure : Failure) (state : State) : Task → Option Handling
  | .conclude => some (.caught (state.decide failure.code))
  | .leaveInclude frame =>
      let restored := frame.restore state
      match failure.code with
      | .none | .neutral => some (.caught { restored with matched := some false })
      | _ => some (.rethrown restored failure)
  | .leaveRedirect =>
      match failure.code with
      | .none => some (.rethrown state (.redirectWithoutRecord failure))
      | .neutral => some (.caught { state with verdict := some .neutral })
      | _ => some (.rethrown state failure)
  | .guardExplanation => some (.caught state)
  | _ => none

/-- What happens in a check, for its log. -/
inductive Event where
  | run (task : Task)
  | catch (task : Task) (failure : Failure)
  | ask (question : Dns.Question)
deriving DecidableEq

/-- An event in one line. -/
def Event.line : Event → Text
  | .run task => "run ".toList ++ task.name
  | .catch task failure => "catch ".toList ++ task.name ++ " <- ".toList ++ failure.line
  | .ask question => "dns ".toList ++ question.text

/-- Remove tasks from a stack until one of them handles a failure. A failure that none
handles decides the result. -/
def unwind (failure : Failure) (state : State) : List Task → List Event × State
  | [] => ([], { state with tasks := [] }.decide failure.code)
  | task :: tasks =>
      match handle failure { state with tasks } task with
      | none => unwind failure state tasks
      | some (.caught after) => ([.catch task failure], after)
      | some (.rethrown after next) =>
          let (events, last) := unwind next after tasks
          (.catch task failure :: events, last)

/-! ## Turns -/

/-- Where a check stands between two turns. -/
inductive Position where
  | running (state : State)
  | waiting (state : State) (lookup : Lookup)

/-- What happened in a turn, and where the check stands afterwards. -/
structure Turn where
  events : List Event
  position : Position

/-- End a turn, handling a failure. -/
def Reaction.settle : Reaction → Turn
  | .proceed state => ⟨[], .running state⟩
  | .ask state lookup => ⟨[], .waiting state lookup⟩
  | .fail state failure =>
      let (events, after) := unwind failure state state.tasks
      ⟨events, .running after⟩

/-- The turn that runs a task; the stack is the one below it. -/
def runTurn (environment : Environment) (state : State) (task : Task) (below : List Task) :
    Turn :=
  let turn := (runTask environment { state with tasks := below } task).settle
  { turn with events := .run task :: turn.events }

/-- The turn that receives an answer. -/
def receiveTurn (environment : Environment) (state : State) (awaiting : Awaiting)
    (answer : Dns.Answer) : Turn :=
  (receive environment answer state awaiting).settle

end SenderPolicy.Check
