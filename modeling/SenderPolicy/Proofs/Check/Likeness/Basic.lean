import Mathlib.Data.List.Forall2
import SenderPolicy.Proofs.Check.Consistency.Basic
import SenderPolicy.Proofs.Check.Terms
import SenderPolicy.Proofs.Macro.Obstacles

/-!
# Checks side by side

Two checks run alike if they differ only in what no decision depends on. A `Likeness` says what
that is: which names and which explanations count as alike, and which texts of records are plain
enough to lead from names alike to names alike. `Likeness.Holds` are the laws that it has to obey,
and the relations of this module say when identities, stacks, states and outstanding questions
are alike under it.
-/

namespace SenderPolicy.Check

/-- What two checks that run side by side may differ in. -/
structure Likeness where
  /-- Names that count as alike. -/
  names : Text → Text → Prop
  /-- Explanations that count as alike. -/
  words : Text → Text → Prop
  /-- Texts of records, and domain specifications in them, that are the same for both checks. -/
  plain : Text → Prop

namespace Likeness

section
variable (likeness : Likeness)

/-- The values of a sender and of domains are alike, and the others are the same. -/
structure AlikeValues (one other : Macro.Values) : Prop where
  sender : likeness.names one.sender other.sender
  localPart : one.localPart = other.localPart
  senderDomain : likeness.names one.senderDomain other.senderDomain
  domain : likeness.names one.domain other.domain
  address : one.address = other.address
  clientDomain : one.clientDomain = other.clientDomain
  family : one.family = other.family
  helo : one.helo = other.helo
  readableAddress : one.readableAddress = other.readableAddress
  receiver : one.receiver = other.receiver
  timestamp : one.timestamp = other.timestamp

/-- A local source has the same plain texts for names alike. -/
def KeepsSource (source : Option RecordSource) : Prop :=
  ∀ records, source = some records → ∀ one other, likeness.names one other →
    records one = records other ∧ ∀ text, records one = some text → likeness.plain text

/-- What makes a likeness one that no decision of a check depends on. -/
structure Holds (environment : Environment) : Prop where
  refl : ∀ name, likeness.names name name
  isFullyQualified : ∀ {one other}, likeness.names one other →
    Domain.isFullyQualified one = Domain.isFullyQualified other
  isHostName : ∀ {one other}, likeness.names one other →
    Domain.isHostName one = Domain.isHostName other
  readAddress : ∀ {one other}, likeness.names one other → Address.read? one = Address.read? other
  isWithin : ∀ {one other}, likeness.names one other →
    ∀ name, Domain.isWithin name one = Domain.isWithin name other
  overrides : likeness.KeepsSource environment.options.overrides
  fallbacks : likeness.KeepsSource environment.options.fallbacks
  isSenders : environment.options.trustedForwarder = true →
    ∀ {domain otherDomain sender otherSender}, likeness.names domain otherDomain →
      likeness.names sender otherSender →
        (domain = sender ∧ domain ≠ forwarderHost
          ↔ otherDomain = otherSender ∧ otherDomain ≠ forwarderHost)
  guessed : likeness.plain guessedRecord
  forwarder : likeness.plain forwarderHost
  specs : ∀ {text record}, likeness.plain text → Record.read text = .ok record →
    ∀ spec ∈ record.specs, likeness.plain spec
  domains : ∀ {spec values other host otherHost}, likeness.plain spec →
    likeness.AlikeValues values other →
      Macro.expand environment.localNames .domain values spec = .ok host →
        Macro.expand environment.localNames .domain other spec = .ok otherHost →
          likeness.names host otherHost
  explanations : ∀ {text values other explanation otherExplanation},
    likeness.AlikeValues values other →
      Macro.expand environment.localNames .explanation values text = .ok explanation →
        Macro.expand environment.localNames .explanation other text = .ok otherExplanation →
          likeness.words explanation otherExplanation

/-! ## States -/

/-- Identities of one client and time with senders alike. -/
structure AlikeIdentities (one other : Identity) : Prop where
  client : one.client = other.client
  sender : likeness.names one.sender other.sender
  localPart : one.localPart = other.localPart
  domain : likeness.names one.domain other.domain
  helo : one.helo = other.helo
  addressLabels : one.addressLabels = other.addressLabels
  readableAddress : one.readableAddress = other.readableAddress
  timestamp : one.timestamp = other.timestamp

/-- A task that two checks can have in common. -/
structure IsShared (environment : Environment) (task : Task) : Prop where
  spec : ∀ spec, task.spec? = some spec → likeness.plain spec
  admits : task = .stage .trustedForwarder → environment.options.trustedForwarder = true

/-- The tasks are the same, or leave an include for domains alike. -/
inductive AlikeTasks (environment : Environment) : Task → Task → Prop where
  | same {task} (shared : likeness.IsShared environment task) : AlikeTasks environment task task
  | leaveInclude {domain other verdict muted} (domains : likeness.names domain other) :
      AlikeTasks environment (.leaveInclude ⟨domain, verdict, muted⟩)
        (.leaveInclude ⟨other, verdict, muted⟩)

/-- The record at hand is plain. -/
def IsPlainSlot : Slot → Prop
  | .text text => likeness.plain text
  | .policy policy => ∀ spec ∈ policy.record.specs, likeness.plain spec

/-- States that differ in names and explanations alike. -/
structure AlikeStates (environment : Environment) (one other : State) : Prop where
  identity : likeness.AlikeIdentities one.identity other.identity
  domain : likeness.names one.domain other.domain
  depth : one.depth = other.depth
  verdict : one.verdict = other.verdict
  result : one.result = other.result
  explanation : Option.Rel likeness.words one.explanation other.explanation
  muted : one.muted = other.muted
  matched : one.matched = other.matched
  slot : one.slot = other.slot
  plain : ∀ slot, one.slot = some slot → likeness.IsPlainSlot slot
  clientDomain : one.clientDomain = other.clientDomain
  receiver : one.receiver = other.receiver
  tasks : List.Forall₂ (likeness.AlikeTasks environment) one.tasks other.tasks

/-! ## Questions and answers -/

/-- Questions for records of one type about names alike. -/
structure AlikeQuestions (one other : Dns.Question) : Prop where
  host : likeness.names one.host other.host
  type : one.type = other.type

/-- Records of these types are taken one after the other, in the order in which they come. -/
def keepsOrder : Dns.RecordType → Bool
  | .mx | .ptr => true
  | _ => false

/-- Records of these types are texts that a check may read. -/
def holdsText : Dns.RecordType → Bool
  | .txt | .spf => true
  | _ => false

/-- Answers with the same records, in any order if the order is not what counts. -/
inductive AlikeAnswers (type : Dns.RecordType) : Dns.Answer → Dns.Answer → Prop where
  | timeout (note other : Text) : AlikeAnswers type (.timeout note) (.timeout other)
  | records {one other} (same : one.Perm other) (ordered : keepsOrder type = true → one = other)
      (plain : holdsText type = true → ∀ text ∈ one, likeness.plain text) :
      AlikeAnswers type (.records one) (.records other)

/-- The type of the records that an answer is needed for, where it matters. -/
def Fits (type : Dns.RecordType) : Awaiting → Prop
  | .spfRecords | .txtRecords | .strictSpfRecords | .explanationTexts => holdsText type = true
  | .strictTxtRecords spf =>
      holdsText type = true ∧ ∀ text, spf = some text → likeness.plain text
  | .exchangers _ | .hostNames _ | .clientNames => keepsOrder type = true
  | _ => True

/-- Two answers are for the same step, which may compare host names with targets alike. -/
inductive AlikeAwaiting (type : Dns.RecordType) : Awaiting → Awaiting → Prop where
  | same {awaiting} (fits : likeness.Fits type awaiting) : AlikeAwaiting type awaiting awaiting
  | hostNames {target other} (targets : likeness.names target other)
      (ordered : keepsOrder type = true) :
      AlikeAwaiting type (.hostNames target) (.hostNames other)
  | hostAddresses {target other candidate pending} (targets : likeness.names target other) :
      AlikeAwaiting type (.hostAddresses target candidate pending)
        (.hostAddresses other candidate pending)

/-- Outstanding questions that are alike, with what their answers are for. -/
structure AlikeLookups (one other : Lookup) : Prop where
  question : likeness.AlikeQuestions one.question other.question
  awaiting : likeness.AlikeAwaiting one.question.type one.awaiting other.awaiting

/-- Reactions of one kind with states alike. Failures have the same code. -/
inductive AlikeReactions (environment : Environment) : Reaction → Reaction → Prop where
  | proceed {one other} (states : likeness.AlikeStates environment one other) :
      AlikeReactions environment (.proceed one) (.proceed other)
  | ask {one other lookup otherLookup} (states : likeness.AlikeStates environment one other)
      (lookups : likeness.AlikeLookups lookup otherLookup) :
      AlikeReactions environment (.ask one lookup) (.ask other otherLookup)
  | fail {one other failure otherFailure} (states : likeness.AlikeStates environment one other)
      (code : failure.code = otherFailure.code) :
      AlikeReactions environment (.fail one failure) (.fail other otherFailure)

end

theorem isNone_eq_of_rel {related : Text → Text → Prop} {one other : Option Text}
    (alike : Option.Rel related one other) : one.isNone = other.isNone := by
  cases alike <;> rfl

section
variable {likeness : Likeness} {environment : Environment} {one other : State}

namespace AlikeStates

variable (alike : likeness.AlikeStates environment one other)
include alike

theorem client : one.identity.client = other.identity.client :=
  alike.identity.client

theorem isOpen : one.isOpen = other.isOpen := by
  rw [State.isOpen, State.isOpen, alike.verdict, alike.result]

theorem wantsExplanation : one.wantsExplanation = other.wantsExplanation := by
  have explained := isNone_eq_of_rel alike.explanation
  rw [State.wantsExplanation, State.wantsExplanation, alike.verdict, explained, alike.muted]

theorem values : likeness.AlikeValues (one.values environment) (other.values environment) where
  sender := alike.identity.sender
  localPart := alike.identity.localPart
  senderDomain := alike.identity.domain
  domain := alike.domain
  address := alike.identity.addressLabels
  clientDomain := alike.clientDomain
  family := by simp only [State.values, Identity.familyLabel, alike.client]
  helo := alike.identity.helo
  readableAddress := alike.identity.readableAddress
  receiver := alike.receiver
  timestamp := alike.identity.timestamp

/-- Two expansions in states alike meet the same obstacle, or come to something both. -/
theorem expand_cases (mode : Macro.Mode) (text : Text) :
    (∃ obstacle, one.expand environment mode text = .error obstacle
        ∧ other.expand environment mode text = .error obstacle)
      ∨ ∃ expanded otherExpanded, one.expand environment mode text = .ok expanded
        ∧ other.expand environment mode text = .ok otherExpanded :=
  Macro.obstacle?_eq_cases (Macro.obstacle?_expand _ mode
    (congrArg Option.isSome alike.clientDomain) text)

theorem pushAll {tasks : List Task} (shared : ∀ task ∈ tasks, likeness.IsShared environment task) :
    likeness.AlikeStates environment (one.pushAll tasks) (other.pushAll tasks) :=
  { alike with
    tasks := List.rel_append (List.forall₂_same.mpr fun task member => .same (shared task member))
      alike.tasks }

theorem push {task : Task} (shared : likeness.IsShared environment task) :
    likeness.AlikeStates environment (one.push task) (other.push task) :=
  alike.pushAll (List.forall_mem_singleton.mpr shared)

theorem afterExpansion (mode : Macro.Mode) (text : Text) :
    likeness.AlikeStates environment (one.afterExpansion environment mode text)
      (other.afterExpansion environment mode text) :=
  { alike with
    receiver := Macro.receiverAfter_congr _ mode (congrArg Option.isSome alike.clientDomain)
      alike.receiver text }

end AlikeStates

/-! ## Steps that many tasks take -/

variable (holds : likeness.Holds environment) (alike : likeness.AlikeStates environment one other)

include alike in
theorem setMatched_alike (matched : Bool) :
    likeness.AlikeReactions environment (setMatched matched one) (setMatched matched other) :=
  .proceed { alike with matched := rfl }

include holds

theorem alikeQuestions_refl (question : Dns.Question) :
    likeness.AlikeQuestions question question :=
  ⟨holds.refl _, rfl⟩

include alike

theorem prepareExpansion_alike (mode : Macro.Mode) (text : Text) :
    likeness.AlikeReactions environment (one.prepareExpansion environment mode text)
      (other.prepareExpansion environment mode text) := by
  have after := alike.afterExpansion mode text
  unfold State.prepareExpansion
  rw [alike.client]
  rcases alike.expand_cases mode text with ⟨obstacle, first, second⟩ | ⟨_, _, first, second⟩
  · rw [first, second]
    cases obstacle with
    | failure failure => exact .fail after rfl
    | clientDomainUnknown =>
        dsimp only
        split
        · exact .fail after rfl
        · exact .ask after ⟨alikeQuestions_refl holds _, .same rfl⟩
  · rw [first, second]
    exact .proceed after

/-- Two plain specifications name hosts alike, or fail alike. -/
theorem targetHost_cases (spec : Option Text)
    (plain : ∀ text, spec = some text → likeness.plain text) :
    (∃ failure, one.targetHost environment spec = .error failure
        ∧ other.targetHost environment spec = .error failure)
      ∨ ∃ host otherHost, one.targetHost environment spec = .ok host
        ∧ other.targetHost environment spec = .ok otherHost ∧ likeness.names host otherHost := by
  cases spec with
  | none => exact .inr ⟨_, _, rfl, rfl, alike.domain⟩
  | some text =>
      unfold State.targetHost
      dsimp only
      rcases alike.expand_cases .domain text with ⟨obstacle, first, second⟩ | ⟨_, _, first, second⟩
      · rw [first, second]
        cases obstacle with
        | failure failure => exact .inl ⟨_, rfl, rfl⟩
        | clientDomainUnknown => exact .inl ⟨_, rfl, rfl⟩
      · rw [first, second]
        exact .inr ⟨_, _, rfl, rfl, holds.domains (plain text rfl) alike.values first second⟩

theorem askHost_alike {host otherHost : Text} (hosts : likeness.names host otherHost)
    (type : Dns.RecordType) {awaiting : Awaiting} (fits : likeness.Fits type awaiting) :
    likeness.AlikeReactions environment (askHost host type awaiting one)
      (askHost otherHost type awaiting other) := by
  unfold askHost Dns.Question.make
  rw [holds.isHostName hosts]
  by_cases refused : (type.needsHostName && !Domain.isHostName otherHost) = true
  · rw [if_pos refused, if_pos refused]
    exact setMatched_alike alike false
  · rw [if_neg refused, if_neg refused]
    exact .ask alike ⟨⟨hosts, rfl⟩, .same fits⟩

end

end Likeness

end SenderPolicy.Check
