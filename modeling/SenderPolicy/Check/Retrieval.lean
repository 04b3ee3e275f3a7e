import SenderPolicy.Check.State
import SenderPolicy.Record.Parser

/-!
# Obtaining a domain's record

Before a domain's record is evaluated, the stages obtain it: from the overrides, from the
DNS, as a guess, or from the fallbacks, in this order. They parse it and complete it with
the forwarder's directive and with hooks. `stages` lists the stages that the options ask
for; `runStage` runs one of them.
-/

namespace SenderPolicy.Check

/-- The record of domains that publish none, if guessing is wanted. -/
def guessedRecord : Text := "v=spf1 a/24 mx/24 ptr ~all".toList

/-- The host whose record lists well-known forwarders. -/
def forwarderHost : Text := "spf.trusted-forwarder.org".toList

/-- The stages that run for every domain, in order. -/
def stages (options : Options) : List Stage :=
  (if options.overrides.isSome then [.override] else [])
    ++ [.initialChecks, if options.strict then .retrieveStrict else .retrieve]
    ++ (if options.bestGuess then [.bestGuess] else [])
    ++ [.parseRecord]
    ++ (if options.fallbacks.isSome then [.fallback] else [])
    ++ [.noRecordFound]
    ++ (if options.trustedForwarder then [.trustedForwarder] else [])
    ++ [.neutralIfUnmatched, .defaultExplanation]

/-- Use the record that text spells. -/
def useRecordText (text : Text) (state : State) : Reaction :=
  match Record.read text with
  | .error failure => .fail state failure
  | .ok record => .proceed { state with slot := some (.policy ⟨record, []⟩) }

/-- Use the record that a local source has for the current domain, if one is still needed. -/
def useLocalRecord (source : Option RecordSource) (state : State) : Reaction :=
  if state.slot.isSome then
    .proceed state
  else
    match source.bind fun records => records state.domain with
    | none => .proceed state
    | some text => useRecordText text state

/-- Ask for the current domain's records of one type, if a record is still needed. -/
def askRecords (type : Dns.RecordType) (awaiting : Awaiting) (state : State) : Reaction :=
  if state.slot.isSome then .proceed state else .ask state ⟨⟨state.domain, type⟩, awaiting⟩

/-- The last directive turns away, or neither lets pass nor turns away, all clients. -/
def endsStrict (record : Record) : Bool :=
  match record.directives.getLast? with
  | some directive =>
      directive.mechanism = .all
        && (directive.qualifier = .fail || directive.qualifier = .neutral)
  | none => false

/-- The directive that lets well-known forwarders pass. -/
def forwarderDirective : Directive :=
  ⟨.pass, .include forwarderHost⟩

/-- The policy with the forwarder's directive in front of a strict ending. -/
def admitForwarder (policy : Policy) : Policy :=
  if endsStrict policy.record then
    { policy with record := policy.record.insertBeforeLast forwarderDirective }
  else
    policy

/-- Change the policy at hand, if there is one. -/
def changePolicy (change : Policy → Policy) (state : State) : State :=
  match state.slot with
  | some (.policy policy) => { state with slot := some (.policy (change policy)) }
  | _ => state

/-- A policy with one more hook after the ones it has. -/
def Policy.addHook (hook : Hook) (policy : Policy) : Policy :=
  { policy with hooks := policy.hooks ++ [hook] }

/-- Run one stage. -/
def runStage (environment : Environment) (state : State) : Stage → Reaction
  | .override => useLocalRecord environment.options.overrides state
  | .initialChecks =>
      if state.identity.client.isNone then
        .fail state state.noClient
      else if Domain.isFullyQualified state.domain then
        .proceed state
      else
        .fail state (.notFullyQualified state.domain)
  | .retrieve => askRecords .spf .spfRecords state
  | .retrieveStrict => askRecords .spf .strictSpfRecords state
  | .bestGuess =>
      .proceed { state with slot := state.slot <|> some (.text guessedRecord) }
  | .parseRecord =>
      match state.slot with
      | some (.text text) => useRecordText text state
      | _ => .proceed state
  | .fallback => useLocalRecord environment.options.fallbacks state
  | .noRecordFound =>
      if state.slot.isSome then .proceed state else .fail state (.noRecordFound state.domain)
  | .trustedForwarder =>
      if state.domain = state.identity.domain ∧ state.domain ≠ forwarderHost then
        .proceed (changePolicy admitForwarder state)
      else
        .proceed state
  | .neutralIfUnmatched =>
      .proceed (changePolicy
        (fun policy =>
          if policy.record.directives = [] then policy else policy.addHook .neutralIfUnmatched)
        state)
  | .defaultExplanation =>
      .proceed (changePolicy
        (Policy.addHook (.defaultExplanation environment.options.explanation)) state)

/-! ## Answers to record questions -/

/-- The one record among the texts of an answer. -/
def publishedRecord (texts : List Text) : Except Failure (Option Text) :=
  match texts.filter Record.announcesVersion with
  | [] => .ok none
  | [text] => .ok (some text)
  | _ => .error .severalRecords

/-- Go on with the one record among the texts of an answer, if there is one. -/
def receiveRecords (answer : Dns.Answer) (state : State)
    (next : Option Text → Reaction) : Reaction :=
  match answer with
  | .timeout _ => .fail state (.recordUnanswered state.domain)
  | .records texts =>
      match publishedRecord texts with
      | .error failure => .fail state failure
      | .ok found => next found

/-- Keep the text of a record that was found. -/
def keepRecordText (found : Option Text) (state : State) : State :=
  match found with
  | some text => { state with slot := some (.text text) }
  | none => state

/-- The first kind of records has been asked for; the second is asked for if needed. -/
def receiveSpfRecords (answer : Dns.Answer) (state : State) : Reaction :=
  receiveRecords answer state fun found =>
    match found with
    | some _ => .proceed (keepRecordText found state)
    | none => askRecords .txt .txtRecords state

/-- The second kind of records has been asked for. -/
def receiveTxtRecords (answer : Dns.Answer) (state : State) : Reaction :=
  receiveRecords answer state fun found => .proceed (keepRecordText found state)

/-- Both kinds of records are asked for, whatever the first has given. -/
def receiveStrictSpfRecords (answer : Dns.Answer) (state : State) : Reaction :=
  receiveRecords answer state fun found =>
    .ask state ⟨⟨state.domain, .txt⟩, .strictTxtRecords found⟩

/-- Records of both kinds must be equal texts if both were found. -/
def receiveStrictTxtRecords (spf : Option Text) (answer : Dns.Answer) (state : State) :
    Reaction :=
  receiveRecords answer state fun txt =>
    if spf.isSome && txt.isSome && spf ≠ txt then
      .fail state .recordsDiffer
    else
      .proceed (keepRecordText (spf <|> txt) state)

end SenderPolicy.Check
