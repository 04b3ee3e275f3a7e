import SenderPolicy.Proofs.Check.Keeping
import SenderPolicy.Proofs.Check.Sparing
import SenderPolicy.Proofs.Macro.Values

/-!
# The client's name

`clientName` is the client's domain as a zone gives it: the first of the client's host names whose
addresses include the client's. Whatever a check knows of the client's domain is this name, whenever
and for whatever text it has been looked up. So a text that a check expands is expanded with this
name, or put off until the name is known.
-/

namespace SenderPolicy.Check

/-! ## The name -/

/-- The name that an answer confirms, or else one of the others. -/
def answeredName (client : Address) (candidate : Text) (answer : Dns.Answer)
    (others : Option Text) : Option Text :=
  match answer with
  | .timeout _ => others
  | .records records => if confirms client records then some candidate else others

/-- The first of several names whose addresses include the client's. -/
def confirmedName (zone : Dns.Question → Dns.Answer) (client : Address) :
    List Text → Option Text
  | [] => none
  | name :: names =>
      match Dns.Question.make name (.ofFamily client.family) with
      | .error _ => confirmedName zone client names
      | .ok question =>
          answeredName client name (zone question) (confirmedName zone client names)

/-- The client's domain, as a zone gives it. -/
def clientName (environment : Environment) (zone : Dns.Question → Dns.Answer)
    (client : Address) : Text :=
  match zone ⟨client.reverseName, .ptr⟩ with
  | .timeout _ => Macro.unknownName
  | .records names =>
      (confirmedName zone client
        ((names.take environment.recordLimit).map Text.dropEndDots)).getD Macro.unknownName

theorem confirmedName_eq (zone : Dns.Question → Dns.Answer) (client : Address)
    (names : List Text) :
    confirmedName zone client names
      = match nextQuestion? (.ofFamily client.family) names with
        | none => none
        | some (candidate, question, pending) =>
            answeredName client candidate (zone question) (confirmedName zone client pending) := by
  induction names with
  | nil => rfl
  | cons name names inductionHypothesis =>
      rw [confirmedName, nextQuestion?]
      cases Dns.Question.make name (.ofFamily client.family) with
      | error failure => exact inductionHypothesis
      | ok question => rfl

/-! ## What a check knows -/

section
variable (environment : Environment) (zone : Dns.Question → Dns.Answer)

/-- What a check knows of the client's domain and the receiver's name is what looking them up
gives. -/
structure State.Knows (state : State) : Prop where
  clientDomain : ∀ name, state.clientDomain = some name →
    ∃ client, state.identity.client = some client ∧ name = clientName environment zone client
  receiver : state.receiver = none
    ∨ state.receiver = Macro.findReceiver environment.localNames none

/-- An outstanding answer about the client's names leads on to its name. -/
inductive Lookup.LeadsToName (client : Address) : Lookup → Prop where
  | names : LeadsToName client ⟨⟨client.reverseName, .ptr⟩, .clientNames⟩
  | addresses {question : Dns.Question} {candidate : Text} {pending : List Text}
      (leads : (answeredName client candidate (zone question)
        (confirmedName zone client pending)).getD Macro.unknownName
          = clientName environment zone client) :
      LeadsToName client ⟨question, .clientAddresses candidate pending⟩

/-- What is known at a position is what looking it up gives, now or once the answers are there. -/
def Position.Knows : Position → Prop
  | .running state => state.Knows environment zone
  | .waiting state lookup => state.Knows environment zone
      ∧ (lookup.awaiting.findsClient = true → ∃ client, state.identity.client = some client
        ∧ lookup.LeadsToName environment zone client)

/-- What every outcome of a reaction knows is what looking it up gives. -/
def Reaction.Knows : Reaction → Prop
  | .proceed state => state.Knows environment zone
  | .ask state lookup => (Position.waiting state lookup).Knows environment zone
  | .fail state _ => state.Knows environment zone

end

section
variable {environment : Environment} {zone : Dns.Question → Dns.Answer} {base state : State}

/-- Other fields may change. -/
theorem State.Knows.change {after : State} (knows : state.Knows environment zone)
    (identity : after.identity = state.identity)
    (clientDomain : after.clientDomain = state.clientDomain)
    (receiver : after.receiver = state.receiver) : after.Knows environment zone :=
  ⟨by rw [clientDomain, identity]; exact knows.clientDomain, receiver ▸ knows.receiver⟩

theorem State.Knows.spares {after : State} (knows : base.Knows environment zone)
    (spared : base.Spares environment after) : after.Knows environment zone := by
  constructor
  · rw [spared.clientDomain, spared.identity]
    exact knows.clientDomain
  · rcases knows.receiver with unknown | found <;> rcases spared.receiver with same | looked
    · exact .inl (same.trans unknown)
    · exact .inr (by rw [looked, unknown])
    · exact .inr (same.trans found)
    · right
      rw [looked, found]
      simp [Macro.findReceiver]

theorem Reaction.Spares.knows {reaction : Reaction} (spared : reaction.Spares environment base)
    (knows : base.Knows environment zone) : reaction.Knows environment zone := by
  cases reaction with
  | proceed after => exact knows.spares spared
  | ask after lookup =>
      refine ⟨knows.spares spared.1, fun finds => ?_⟩
      obtain ⟨client, known, rfl⟩ := spared.2 finds
      exact ⟨client, spared.1.identity ▸ known, .names⟩
  | fail after failure => exact knows.spares spared

/-! ## Tasks and answers -/

/-- No task looks up the client's domain itself. -/
theorem runTask_knows (task : Task) (knows : state.Knows environment zone) :
    (runTask environment state task).Knows environment zone := by
  cases changes : task.changesVerdict with
  | false => exact (runTask_spares changes state).knows knows
  | true =>
      cases task with
      | settle qualifier =>
          simp only [runTask]
          split <;> exact knows.change rfl rfl rfl
      | leaveInclude frame => exact knows.change rfl rfl rfl
      | expandedMechanism mechanism =>
          cases mechanism with
          | «include» spec =>
              simp only [runTask, continueMechanism]
              split
              · exact knows
              · exact knows.change rfl rfl rfl
          | _ => cases changes
      | hook hook =>
          cases hook with
          | neutralIfUnmatched => exact knows.change rfl rfl rfl
          | defaultExplanation text => cases changes
      | _ => cases changes

/-- The client's name is set where the walk through its names ends. -/
theorem askClientAddresses_knows {client : Address} (known : state.identity.client = some client)
    (knows : state.Knows environment zone) {names : List Text}
    (leads : (confirmedName zone client names).getD Macro.unknownName
      = clientName environment zone client) :
    (askClientAddresses names state).Knows environment zone := by
  rw [confirmedName_eq] at leads
  unfold askClientAddresses
  rw [known]
  dsimp only
  split
  · rename_i ended
    rw [ended] at leads
    refine ⟨?_, knows.receiver⟩
    rintro _ ⟨⟩
    exact ⟨client, known, leads⟩
  · rename_i candidate question pending found
    rw [found] at leads
    exact ⟨knows, fun _ => ⟨client, known, .addresses leads⟩⟩

/-- An answer about the client's names leads on to its name. -/
theorem receive_knows {lookup : Lookup}
    (knows : (Position.waiting state lookup).Knows environment zone) :
    (receive environment (zone lookup.question) state lookup.awaiting).Knows environment zone := by
  obtain ⟨knows, follows⟩ := knows
  cases finds : lookup.awaiting.findsClient with
  | false => exact (receive_spares _ finds state).knows knows
  | true =>
      obtain ⟨client, known, leadsOn⟩ := follows finds
      cases leadsOn with
      | names =>
          simp only [receive, receiveClientNames]
          split
          · rename_i answered
            refine ⟨?_, knows.receiver⟩
            rintro _ ⟨⟩
            exact ⟨client, known, by rw [clientName, answered]⟩
          · rename_i names answered
            exact askClientAddresses_knows known knows (by rw [clientName, answered])
      | @addresses question candidate pending leads =>
          simp only [receive, receiveClientAddresses]
          unfold answeredName at leads
          split
          · rename_i answered
            simp only [answered] at leads
            exact askClientAddresses_knows known knows leads
          · rename_i records answered
            simp only [answered] at leads
            rw [known]
            dsimp only
            split
            · rename_i confirmed
              rw [if_pos confirmed] at leads
              refine ⟨?_, knows.receiver⟩
              rintro _ ⟨⟩
              exact ⟨client, known, leads⟩
            · rename_i unconfirmed
              rw [if_neg unconfirmed] at leads
              exact askClientAddresses_knows known knows leads

/-! ## Expansions -/

/-- The values of all cells, for a domain under evaluation. -/
def fullValues (environment : Environment) (zone : Dns.Question → Dns.Answer)
    (identity : Identity) (domain : Text) : Macro.Values :=
  { sender := identity.sender
    localPart := identity.localPart
    senderDomain := identity.domain
    domain
    address := identity.addressLabels
    clientDomain := identity.client.map (clientName environment zone)
    family := identity.familyLabel
    helo := identity.helo
    readableAddress := identity.readableAddress
    receiver := Macro.findReceiver environment.localNames none
    timestamp := identity.timestamp }

/-- Where the client's domain is given its name, a state gives all cells their values. -/
theorem State.Knows.agreeIn {client : Address} (knows : state.Knows environment zone)
    (known : state.identity.client = some client) (mode : Macro.Mode) :
    Macro.Values.AgreeIn environment.localNames mode
      { state.values environment with clientDomain := some (clientName environment zone client) }
      (fullValues environment zone state.identity state.domain) := by
  intro letter _
  cases letter with
  | receiver =>
      simp only [Macro.Values.value?, fullValues, State.values]
      rcases knows.receiver with unknown | found
      · rw [unknown]
        simp [Macro.findReceiver]
      · rw [found]
  | clientDomain => simp only [Macro.Values.value?, fullValues, known, Option.map_some]
  | _ => rfl

/-- A text is put off until the client's domain is known, or expanded under the values of all
cells. -/
theorem State.Knows.expand_eq {client : Address} (knows : state.Knows environment zone)
    (known : state.identity.client = some client) (mode : Macro.Mode) (text : Text) :
    state.expand environment mode text = .error .clientDomainUnknown
      ∨ state.expand environment mode text
        = Macro.expand environment.localNames mode
          (fullValues environment zone state.identity state.domain) text := by
  rw [← Macro.expand_congr (knows.agreeIn known mode) text]
  cases learned : state.clientDomain with
  | none =>
      have unknown : (state.values environment).clientDomain = none := learned
      exact (Macro.expand_known _ unknown text).imp_right Eq.symm
  | some name =>
      obtain ⟨other, same, rfl⟩ := knows.clientDomain name learned
      obtain rfl := Option.some.inj (known.symm.trans same)
      right
      simp only [State.expand, State.values, learned]

/-! ## Turns -/

theorem Reaction.Knows.settle {reaction : Reaction} (knows : reaction.Knows environment zone) :
    reaction.settle.position.Knows environment zone := by
  cases reaction with
  | proceed after => exact knows
  | ask after lookup => exact knows
  | fail after failure =>
      obtain ⟨identity, _, _, _, clientDomain, receiver, _⟩ :=
        unwind_outlasts failure after after.tasks
      exact State.Knows.change knows identity clientDomain receiver

/-- What is known at a position stays so, and what is learned in a turn is what looking it up
gives. -/
theorem Position.Step.knows {position next : Position}
    (turn : Step environment (fun question answer => answer = zone question) position next)
    (knows : position.Knows environment zone) : next.Knows environment zone := by
  cases turn with
  | @run state task below stack =>
      have popped : ({ state with tasks := below } : State).Knows environment zone :=
        State.Knows.change knows rfl rfl rfl
      exact (runTask_knows task popped).settle
  | hear allowed =>
      subst allowed
      exact (receive_knows knows).settle

/-- A check knows nothing of the client's domain at its beginning. -/
theorem knows_start (environment : Environment) (zone : Dns.Question → Dns.Answer)
    (identity : Identity) :
    (Position.running (State.start identity)).Knows environment zone :=
  ⟨nofun, .inl rfl⟩

end

end SenderPolicy.Check
