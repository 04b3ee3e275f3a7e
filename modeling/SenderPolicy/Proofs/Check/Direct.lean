import SenderPolicy.Check.Run

/-!
# Direct evaluation

The evaluation of a domain as a recursion, without a stack of tasks: obtain the record, try
its directives from left to right, and follow its redirect if none of them has matched. An
include and a redirect evaluate their domain by the same function, one level deeper. What
has to outlive a failure is kept in a ledger: how many terms have asked the DNS, the
client's domain once it is known, and the questions in order.

Explanations are left out, because no result depends on them.
-/

namespace SenderPolicy.Direct

open SenderPolicy.Check (Environment)

/-- What an evaluation is about, for a client whose address is known. -/
structure Setting where
  environment : Environment
  zone : Dns.Question → Dns.Answer
  identity : Identity
  client : Address
  known : identity.client = some client

/-- What an evaluation keeps, also when a part of it fails. -/
structure Ledger where
  /-- Number of terms that have asked the DNS. -/
  lookups : Nat := 0
  clientDomain : Option Text := none
  /-- The questions asked, in order. -/
  questions : List Dns.Question := []

/-- An evaluation, which may fail, over a ledger. -/
abbrev Evaluation := ExceptT Failure (StateM Ledger)

namespace Evaluation

/-- The outcome of an evaluation, failures included, as a value. -/
def attempt {α : Type} (evaluation : Evaluation α) : Evaluation (Except Failure α) :=
  ExceptT.lift (ExceptT.run evaluation)

/-- Count one more term that asks the DNS. -/
def count : Evaluation Unit := do
  modify fun ledger => { ledger with lookups := ledger.lookups + 1 }
  let ledger ← get
  if Check.lookupLimit < ledger.lookups then throw (.tooManyLookups ledger.lookups) else pure ()

/-- The outcome of an evaluation from a ledger, and the ledger that it leaves. -/
def runFrom {α : Type} (ledger : Ledger) (evaluation : Evaluation α) :
    Except Failure α × Ledger :=
  StateT.run (ExceptT.run evaluation) ledger

section
variable {α β : Type} (ledger : Ledger)

@[simp] theorem runFrom_pure (value : α) :
    (pure value : Evaluation α).runFrom ledger = (.ok value, ledger) := rfl

@[simp] theorem runFrom_throw (failure : Failure) :
    (throw failure : Evaluation α).runFrom ledger = (.error failure, ledger) := rfl

theorem runFrom_bind (evaluation : Evaluation α) (next : α → Evaluation β) :
    (evaluation >>= next).runFrom ledger
      = match evaluation.runFrom ledger with
        | (.ok value, after) => (next value).runFrom after
        | (.error failure, after) => (.error failure, after) := by
  unfold runFrom
  simp only [ExceptT.run_bind, StateT.run_bind]
  rcases StateT.run (ExceptT.run evaluation) ledger with ⟨outcome, after⟩
  cases outcome <;> rfl

@[simp] theorem runFrom_attempt (evaluation : Evaluation α) :
    evaluation.attempt.runFrom ledger
      = (.ok (evaluation.runFrom ledger).1, (evaluation.runFrom ledger).2) :=
  rfl

theorem runFrom_count :
    count.runFrom ledger
      = (if Check.lookupLimit < ledger.lookups + 1 then
            .error (.tooManyLookups (ledger.lookups + 1))
          else
            .ok (),
        { ledger with lookups := ledger.lookups + 1 }) := by
  unfold count
  simp only [runFrom_bind]
  show runFrom _ (if _ then _ else _) = _
  split <;> rfl

end

end Evaluation

open Evaluation

variable (setting : Setting)

/-- Ask the DNS. -/
def ask (question : Dns.Question) : Evaluation Dns.Answer := do
  modify fun ledger => { ledger with questions := ledger.questions ++ [question] }
  pure (setting.zone question)

@[simp] theorem runFrom_ask (question : Dns.Question) (ledger : Ledger) :
    (ask setting question).runFrom ledger
      = (.ok (setting.zone question),
        { ledger with questions := ledger.questions ++ [question] }) :=
  rfl

/-! ## Walks through host names -/

/-- Ask for the addresses of host names in order, until an answer decides. A name that no
such question may ask for is passed over. -/
def walk {α : Type} (decides : Text → Dns.Answer → Except Failure (Option α)) (otherwise : α) :
    List Text → Evaluation α
  | [] => pure otherwise
  | name :: names =>
      match Dns.Question.make name (.ofFamily setting.client.family) with
      | .error _ => walk decides otherwise names
      | .ok question => do
          let answer ← ask setting question
          match ← MonadExcept.ofExcept (decides name answer) with
          | some value => pure value
          | none => walk decides otherwise names

/-- A host name is the client's if its addresses include the client's. -/
def confirmedName (name : Text) : Dns.Answer → Except Failure (Option Text)
  | .timeout _ => .ok none
  | .records records => .ok (if Check.confirms setting.client records then some name else none)

/-- One of the client's own names within a domain is a match. -/
def ownedName (target name : Text) : Dns.Answer → Except Failure (Option Bool)
  | .timeout _ => .ok none
  | .records records =>
      .ok (if Check.confirms setting.client records && Domain.isWithin name target then some true
        else none)

/-- One mail exchanger that agrees with the client is a match; an answer must come. -/
def agreeingExchanger (lengths : PrefixLengths) (_name : Text) :
    Dns.Answer → Except Failure (Option Bool)
  | .timeout note => .error (.unanswered (Dns.timeoutReason note))
  | .records records =>
      .ok (if Check.matchesAny setting.client lengths records then some true else none)

/-! ## The client's domain -/

/-- Look up the client's domain and remember it. -/
def learnClientDomain : Evaluation Unit := do
  let name ←
    match ← ask setting ⟨setting.client.reverseName, .ptr⟩ with
    | .timeout _ => pure Macro.unknownName
    | .records names =>
        walk setting (confirmedName setting) Macro.unknownName
          ((names.take setting.environment.recordLimit).map Text.dropEndDots)
  modify fun ledger => { ledger with clientDomain := some name }

/-! ## Domain specifications -/

/-- The values that cells stand for in a domain specification. -/
def values (domain : Text) (clientDomain : Option Text) : Macro.Values :=
  { sender := setting.identity.sender
    localPart := setting.identity.localPart
    senderDomain := setting.identity.domain
    domain
    address := setting.identity.addressLabels
    clientDomain
    family := setting.identity.familyLabel
    helo := setting.identity.helo
    readableAddress := setting.identity.readableAddress
    receiver := none
    timestamp := setting.identity.timestamp }

/-- The expansion of a domain specification under what is known of the client's domain. -/
def expansion (domain spec : Text) : Evaluation (Except Macro.Obstacle Text) := do
  let ledger ← get
  pure (Macro.expand setting.environment.localNames .domain
    (values setting domain ledger.clientDomain) spec)

/-- The host that an expansion gives. -/
def hostOf (spec : Text) : Except Macro.Obstacle Text → Evaluation Text
  | .ok host => pure host
  | .error (.failure failure) => throw failure
  | .error .clientDomainUnknown => throw (.unexpandable spec)

/-- The host that a domain specification names. The client's domain is looked up when it is
needed for the first time. -/
def expandSpec (domain spec : Text) : Evaluation Text := do
  match ← expansion setting domain spec with
  | .error .clientDomainUnknown => do
      learnClientDomain setting
      hostOf spec (← expansion setting domain spec)
  | other => hostOf spec other

/-- The host of a term that asks the DNS; without a specification, the current domain. -/
def termHost (domain : Text) (spec : Option Text) : Evaluation Text := do
  count
  match spec with
  | none => pure domain
  | some spec => expandSpec setting domain spec

/-! ## Mechanisms -/

/-- The records of an answer that a mechanism cannot do without. -/
def recordsOf : Dns.Answer → Evaluation (List Text)
  | .records records => pure records
  | .timeout note => throw (.unanswered (Dns.timeoutReason note))

/-- The client agrees with a host, which may be an address itself. -/
def matchesHost (lengths : PrefixLengths) (host : Text) : Evaluation Bool :=
  if (Address.read? host).isSome then
    pure (Check.matchesAny setting.client lengths [host])
  else
    match Dns.Question.make host (.ofFamily setting.client.family) with
    | .error _ => pure false
    | .ok question => do
        let records ← recordsOf (← ask setting question)
        pure (Check.matchesAny setting.client lengths records)

/-- The client agrees with a mail exchanger of a host, of which there may not be too many. -/
def matchesExchanger (lengths : PrefixLengths) (host : Text) : Evaluation Bool :=
  match Dns.Question.make host .mx with
  | .error _ => pure false
  | .ok question => do
      let hosts ← recordsOf (← ask setting question)
      if setting.environment.recordLimit < hosts.length then
        throw (.tooManyExchangers setting.environment.recordLimit)
      else
        walk setting (agreeingExchanger setting lengths) false (hosts.map Text.dropEndDots)

/-- One of the client's host names lies within a domain; only so many are tried. -/
def isWithin (target : Text) : Evaluation Bool := do
  match ← ask setting ⟨setting.client.reverseName, .ptr⟩ with
  | .timeout _ => pure false
  | .records names =>
      walk setting (ownedName setting target) false
        ((names.take setting.environment.recordLimit).map Text.dropEndDots)

/-- A host has an IPv4 address. -/
def hasAddress (host : Text) : Evaluation Bool :=
  match Dns.Question.make host .a with
  | .error _ => pure false
  | .ok question => do
      let records ← recordsOf (← ask setting question)
      pure (!records.isEmpty)

/-- An include matches if the other domain lets the client pass. A domain without a usable
record does not match; other failures are failures of the include. -/
def includeMatches : Except Failure (Option Qualifier) → Evaluation Bool
  | .ok verdict => pure (verdict = some .pass)
  | .error failure =>
      match failure.code with
      | .none | .neutral => pure false
      | _ => throw failure

/-- A redirect decides what its target decides. A target without a record is a permanent
failure, and one with an empty record is neutral. -/
def redirectVerdict : Except Failure (Option Qualifier) → Evaluation (Option Qualifier)
  | .ok verdict => pure verdict
  | .error failure =>
      match failure.code with
      | .none => throw (.redirectWithoutRecord failure)
      | .neutral => pure (some .neutral)
      | _ => throw failure

section
variable (nested : Text → Evaluation (Option Qualifier)) (domain : Text)

/-- A mechanism of a domain's record matches. -/
def mechanismMatches : Mechanism → Evaluation Bool
  | .all => pure true
  | .network network => pure (network.contains setting.client)
  | .include spec => do
      let host ← termHost setting domain (some spec)
      includeMatches (← (nested host).attempt)
  | .a spec lengths => do
      let host ← termHost setting domain spec
      matchesHost setting lengths host
  | .mx spec lengths => do
      let host ← termHost setting domain spec
      matchesExchanger setting lengths host
  | .ptr spec => do
      let host ← termHost setting domain spec
      isWithin setting host
  | .exists spec => do
      let host ← termHost setting domain (some spec)
      hasAddress setting host

/-- The first directive that matches decides. -/
def tryDirectives : List Directive → Evaluation (Option Qualifier)
  | [] => pure none
  | directive :: directives => do
      if ← mechanismMatches setting nested domain directive.mechanism then
        pure (some directive.qualifier)
      else
        tryDirectives directives

/-- The target of a redirect decides, if the record has one. -/
def tryRedirect : Option Text → Evaluation (Option Qualifier)
  | none => pure none
  | some spec => do
      let host ← termHost setting domain (some spec)
      redirectVerdict (← (nested host).attempt)

end

/-! ## Records -/

/-- The record that text spells. -/
def recordOf (text : Text) : Evaluation Record :=
  MonadExcept.ofExcept (Record.read text)

/-- The record that a local source has for a domain. -/
def localRecord (source : Option RecordSource) (domain : Text) : Evaluation (Option Record) :=
  match source.bind fun records => records domain with
  | none => pure none
  | some text => do pure (some (← recordOf text))

/-- The one record among the texts of an answer, if there is one. -/
def publishedIn (domain : Text) : Dns.Answer → Evaluation (Option Text)
  | .timeout _ => throw (.recordUnanswered domain)
  | .records texts => MonadExcept.ofExcept (Check.publishedRecord texts)

/-- The text that a domain publishes. If both kinds of records have to agree, both are asked
for; otherwise the second only if the first has none. -/
def publishedText (domain : Text) : Evaluation (Option Text) := do
  let spf ← publishedIn domain (← ask setting ⟨domain, .spf⟩)
  if setting.environment.options.strict then
    let txt ← publishedIn domain (← ask setting ⟨domain, .txt⟩)
    if spf.isSome && txt.isSome && spf ≠ txt then throw .recordsDiffer else pure (spf <|> txt)
  else
    match spf with
    | some text => pure (some text)
    | none => publishedIn domain (← ask setting ⟨domain, .txt⟩)

/-- The record of a domain that publishes this text; without one, a guess or the record to
fall back on. -/
def foreignRecord (domain : Text) : Option Text → Evaluation Record
  | some text => recordOf text
  | none =>
      if setting.environment.options.bestGuess then
        recordOf Check.guessedRecord
      else do
        match ← localRecord setting.environment.options.fallbacks domain with
        | some record => pure record
        | none => throw (.noRecordFound domain)

/-- The record of a domain. A local record goes first, and even so the domain must be fully
qualified. -/
def obtainRecord (domain : Text) : Evaluation Record := do
  let own ← localRecord setting.environment.options.overrides domain
  if Domain.isFullyQualified domain then
    match own with
    | some record => pure record
    | none => foreignRecord setting domain (← publishedText setting domain)
  else
    throw (.notFullyQualified domain)

/-- The record as it is evaluated: well-known forwarders may relay for the sender's domain. -/
def completed (domain : Text) (record : Record) : Record :=
  if setting.environment.options.trustedForwarder ∧ domain = setting.identity.domain
      ∧ domain ≠ Check.forwarderHost ∧ Check.endsStrict record then
    record.insertBeforeLast Check.forwarderDirective
  else
    record

/-- The target of a redirect, wherever it stands among the modifiers. -/
def redirectOf? : List Modifier → Option Text
  | [] => none
  | .redirect spec :: _ => some spec
  | .exp _ :: modifiers => redirectOf? modifiers
  | .unknown _ _ :: modifiers => redirectOf? modifiers

/-- The verdict of a record with directives is neutral if nothing else decides. -/
def defaultVerdict (record : Record) (verdict : Option Qualifier) : Option Qualifier :=
  if record.directives = [] then verdict else verdict <|> some .neutral

/-! ## Domains -/

section
variable (nested : Text → Evaluation (Option Qualifier)) (domain : Text)

/-- The verdict of a record. Its redirect counts only if no directive matches. -/
def recordVerdict (record : Record) : Evaluation (Option Qualifier) := do
  match ← tryDirectives setting nested domain record.directives with
  | some qualifier => pure (some qualifier)
  | none => do
      let verdict ← tryRedirect setting nested domain (redirectOf? record.modifiers)
      pure (defaultVerdict record verdict)

/-- The verdict of a domain, whose record may lead to other domains. -/
def domainVerdict : Evaluation (Option Qualifier) := do
  let record ← obtainRecord setting domain
  recordVerdict setting nested domain (completed setting domain record)

end

/-- The verdict on the client by a domain's record. Each include and each redirect is
evaluated one level deeper, and each counts against the limit of a check. -/
def checkHost : Nat → Text → Evaluation (Option Qualifier)
  | 0, _ => throw (.tooManyLookups Check.lookupLimit)
  | levels + 1, domain => domainVerdict setting (checkHost levels) domain

/-- The result that an evaluation leads to. -/
def codeOf : Except Failure (Option Qualifier) → ResultCode
  | .ok verdict => (verdict.map Qualifier.result).getD .neutral
  | .error failure => failure.code

/-- The result of a check and its questions, under a number of levels. -/
def check (levels : Nat) : ResultCode × List Dns.Question :=
  let (outcome, ledger) := (checkHost setting levels setting.identity.domain).runFrom {}
  (codeOf outcome, ledger.questions)

end SenderPolicy.Direct
