import SenderPolicy.Proofs.Address.Reading
import SenderPolicy.Proofs.Address.ReverseName
import SenderPolicy.Proofs.Check.Keeping
import SenderPolicy.Proofs.Check.Lookups
import SenderPolicy.Proofs.Check.Senders
import SenderPolicy.Proofs.Check.Sparing
import SenderPolicy.Proofs.Domain.Ascii
import SenderPolicy.Proofs.Macro.Controls

/-!
# Control characters in the header

The header that records a check shows the client address, the sender and the greeting name as
they are, blanks at their ends apart, and the domain that has been evaluated last. Nothing takes
control characters out of them. The domain is that of the sender, in ASCII form, or one that
macro text stands for, which brings in no control character. So if the conversion into ASCII
brings in none either, the header holds a line end exactly if one of the three texts does,
whatever the zone and the options (`mem_header_iff`).

`State.IsFree` is the invariant: without a control character in the identity there is none in
the current domain, in the domains that includes put back, or in the client's domain.
-/

namespace SenderPolicy

/-! ## Identities -/

namespace Address

theorem not_mem_of_isLiteral {c : Char} (control : IsControl c) {text : Text} {address : Address}
    (literal : IsLiteral text address) : c ∉ text :=
  control.not_mem fun d member => not_isControl_of_isGraphic
    (isGraphic_of_addressCharacter (characters_of_isLiteral literal d member)).1

theorem not_mem_dottedLabels {c : Char} (control : IsControl c) (address : Address) :
    c ∉ address.dottedLabels := by
  have digits : ∀ digit < 16, Domain.isGraphic digit.digitChar = true := by decide
  refine control.not_mem fun d member => not_isControl_of_isGraphic ?_
  rcases Text.mem_of_mem_join member with rfl | ⟨label, isLabel, inside⟩
  · rfl
  · rcases label_cases isLabel with ⟨-, octet, -, rfl⟩ | ⟨-, digit, small, rfl⟩
    · have digit := Text.isDigit_of_mem_ofNat inside
      exact Domain.isGraphic_of_isAlphanum (by simp [Char.isAlphanum, digit])
    · rw [List.mem_singleton.mp inside]
      exact digits digit small

end Address

namespace Identity

/-- No text of the identity holds the character. -/
structure IsFree (identity : Identity) (c : Char) : Prop where
  addressText : c ∉ identity.addressText
  sender : c ∉ identity.sender
  localPart : c ∉ identity.localPart
  domain : c ∉ identity.domain
  helo : c ∉ identity.helo

section
variable {c : Char} (control : IsControl c)
include control

/-- Text that denotes an address holds no control character, nor does the text kept of it. -/
theorem mem_addressText_iff (address sender helo : Text) (conversion : Domain.Conversion)
    (timestamp : Nat) :
    c ∈ (read address sender helo conversion timestamp).addressText ↔ c ∈ address.trim := by
  show c ∈ (Address.clientText? address).getD address.trim ↔ _
  cases denotes : Address.read? address with
  | none => rw [Address.clientText?, denotes, Option.map_none, Option.getD_none]
  | some client =>
      obtain ⟨kept, same, literal⟩ :=
        Address.exists_clientText (congrArg (Option.map Address.unmapped) denotes)
      rw [same, Option.getD_some]
      exact iff_of_false (Address.not_mem_of_isLiteral control literal)
        (Address.not_mem_of_isLiteral control (Address.isLiteral_trim denotes))

/-- The parts of a sender hold no more control characters than the sender and the greeting
name. -/
theorem Reads.not_mem {helo sender text localPart domain : Text}
    (reads : Reads helo sender text localPart domain) (senderFree : c ∉ sender)
    (heloFree : c ∉ helo) : c ∉ text ∧ c ∉ localPart ∧ c ∉ domain := by
  have postmasterFree : c ∉ postmaster := control.not_mem_of_isVisible (by decide)
  cases reads with
  | nobody =>
      have mark : c ≠ '@' := by
        rintro rfl
        exact absurd control (by decide)
      exact ⟨by simp [postmasterFree, mark, heloFree], postmasterFree, heloFree⟩
  | full named last => grind
  | unnamed last => exact ⟨senderFree, postmasterFree, fun member => senderFree (.tail _ member)⟩
  | bare filled last => exact ⟨senderFree, postmasterFree, senderFree⟩

/-- The texts of an identity hold no more control characters than those that it is read from. -/
theorem isFree_read {address sender helo : Text} (addressFree : c ∉ address.trim)
    (senderFree : c ∉ sender.trim) (heloFree : c ∉ helo.trim) {conversion : Domain.Conversion}
    (brings : conversion.BringsNoControls) (timestamp : Nat) :
    (read address sender helo conversion timestamp).IsFree c := by
  obtain ⟨reads, -⟩ := splitSender_reads sender.trim helo.trim
  obtain ⟨text, localPart, domain⟩ := reads.not_mem control senderFree heloFree
  exact ⟨fun member => addressFree ((mem_addressText_iff control ..).mp member), text, localPart,
    fun member => domain (Domain.mem_of_mem_toAscii brings control member), heloFree⟩

theorem IsFree.addressLabels {identity : Identity} (free : identity.IsFree c) :
    c ∉ identity.addressLabels := by
  unfold Identity.addressLabels
  split
  · exact Address.not_mem_dottedLabels control _
  · exact free.addressText

theorem not_mem_familyLabel (identity : Identity) : c ∉ identity.familyLabel := by
  unfold familyLabel
  cases (identity.client.map Address.family).getD .ip4 <;>
    exact control.not_mem_of_isVisible (by decide)

end

/-- The text of a sender holds all that the sender does. -/
theorem Reads.subset {helo sender text localPart domain : Text}
    (reads : Reads helo sender text localPart domain) : sender ⊆ text := by
  cases reads with
  | nobody => exact List.nil_subset _
  | full named last | unnamed last | bare filled last => exact List.Subset.refl _

end Identity

namespace Check

/-! ## States -/

/-- Neither the identity nor a domain that can become the current one, nor what is known of the
client's domain, holds the character. -/
structure State.IsFree (state : State) (c : Char) : Prop where
  identity : state.identity.IsFree c
  domain : c ∉ state.domain
  clientDomain : ∀ name, state.clientDomain = some name → c ∉ name
  frames : ∀ task ∈ state.tasks, ∀ frame, task.frame? = some frame → c ∉ frame.domain

/-- A name whose addresses are awaited can become the client's domain. -/
def Position.IsFree (c : Char) : Position → Prop
  | .running state => state.IsFree c
  | .waiting state lookup => state.IsFree c
      ∧ ∀ candidate pending, lookup.awaiting = .clientAddresses candidate pending → c ∉ candidate

/-- What a reaction leads to is free of the character. -/
def Reaction.IsFree (c : Char) : Reaction → Prop
  | .proceed state => state.IsFree c
  | .ask state lookup => (Position.waiting state lookup).IsFree c
  | .fail state _ => state.IsFree c

/-- A task that leaves no include puts nothing back. -/
theorem not_mem_of_frame?_eq_none {c : Char} {task : Task} (none : task.frame? = none) :
    ∀ frame, task.frame? = some frame → c ∉ frame.domain := by
  intro frame found
  cases none.symm.trans found

section
variable {c : Char} {environment : Environment} {base state : State}

namespace State.IsFree

/-- Other fields may change, and tasks may be taken away. -/
theorem change {after : State} (free : base.IsFree c) (identity : after.identity = base.identity)
    (domain : after.domain = base.domain) (client : after.clientDomain = base.clientDomain)
    (tasks : after.tasks ⊆ base.tasks) : after.IsFree c where
  identity := identity ▸ free.identity
  domain := domain ▸ free.domain
  clientDomain := client ▸ free.clientDomain
  frames := fun task member => free.frames task (tasks member)

theorem keeps {quiet : Prop} {after : State} (free : base.IsFree c)
    (kept : base.Keeps quiet after) (client : after.clientDomain = base.clientDomain) :
    after.IsFree c := by
  obtain ⟨above, stack, only⟩ := kept.stack
  refine ⟨kept.identity ▸ free.identity, kept.domain ▸ free.domain, client ▸ free.clientDomain, ?_⟩
  rw [stack]
  exact List.forall_mem_append.mpr
    ⟨fun task member => not_mem_of_frame?_eq_none (only task member).1, free.frames⟩

end State.IsFree

theorem Reaction.isFree_of_keeps {quiet : Prop} {reaction : Reaction} (free : base.IsFree c)
    (kept : reaction.Keeps quiet base) (spared : reaction.Spares environment base) :
    reaction.IsFree c := by
  cases reaction with
  | proceed after => exact free.keeps kept spared.clientDomain
  | ask after lookup =>
      refine ⟨free.keeps kept.1 spared.1.clientDomain, fun candidate pending awaits => ?_⟩
      obtain ⟨client, -, rfl⟩ := spared.2 (by rw [awaits]; rfl)
      cases awaits
  | fail after failure => exact free.keeps kept spared.clientDomain

end

/-! ## Tasks and answers -/

section
variable {c : Char} (control : IsControl c) {environment : Environment} {state : State}
  (free : state.IsFree c)
include control free

/-- The letters of domain specifications have values without the character. -/
theorem State.IsFree.values :
    (state.values environment).AreFree environment.localNames .domain c := by
  intro letter value allowed known
  cases letter with
  | clientDomain => exact free.clientDomain value known
  | readableAddress | receiver | timestamp => cases allowed
  | sender =>
      cases known
      exact free.identity.sender
  | localPart =>
      cases known
      exact free.identity.localPart
  | senderDomain =>
      cases known
      exact free.identity.domain
  | domain =>
      cases known
      exact free.domain
  | address =>
      cases known
      exact free.identity.addressLabels control
  | family =>
      cases known
      exact Identity.not_mem_familyLabel control state.identity
  | helo =>
      cases known
      exact free.identity.helo

theorem not_mem_targetHost {spec : Option Text} {host : Text}
    (found : state.targetHost environment spec = .ok host) : c ∉ host := by
  unfold State.targetHost at found
  split at found
  · cases found
    exact free.domain
  · split at found
    · rename_i expanded
      cases found
      exact Macro.not_mem_of_expand control (free.values control) expanded
    · cases found
    · cases found

/-- No task brings the character in. -/
theorem runTask_isFree (task : Task)
    (frames : ∀ frame, task.frame? = some frame → c ∉ frame.domain) :
    (runTask environment state task).IsFree c := by
  cases domain : task.changesDomain with
  | false =>
      cases verdict : task.changesVerdict with
      | false =>
          -- The current domain is kept and the client's domain spared, whatever the task asks.
          have kept : (runTask environment state task).Keeps False state :=
            runTask_keeps domain False.elim False.elim
          exact Reaction.isFree_of_keeps free kept (runTask_spares verdict state)
      | true =>
          cases task with
          | settle qualifier =>
              simp only [runTask]
              split <;> exact free.change rfl rfl rfl (List.Subset.refl _)
          | hook hook =>
              cases hook with
              | neutralIfUnmatched => exact free.change rfl rfl rfl (List.Subset.refl _)
              | defaultExplanation text => cases verdict
          | leaveInclude frame => cases domain
          | expandedMechanism mechanism =>
              cases mechanism with
              | «include» spec => cases domain
              | _ => cases verdict
          | _ => cases verdict
  | true =>
      -- A new domain is that of a frame or a host that macro text names.
      cases task with
      | leaveInclude frame =>
          exact ⟨free.identity, frames frame rfl, free.clientDomain, free.frames⟩
      | followRedirect spec =>
          simp only [runTask, followRedirect]
          split
          · exact free
          · rename_i host found
            refine ⟨free.identity, not_mem_targetHost control free found, free.clientDomain, ?_⟩
            exact List.forall_mem_cons.mpr ⟨not_mem_of_frame?_eq_none rfl,
              List.forall_mem_cons.mpr ⟨not_mem_of_frame?_eq_none rfl, free.frames⟩⟩
      | expandedMechanism mechanism =>
          cases mechanism with
          | «include» spec =>
              simp only [runTask, continueMechanism]
              split
              · exact free
              · rename_i host found
                refine ⟨free.identity, not_mem_targetHost control free found, free.clientDomain, ?_⟩
                refine List.forall_mem_cons.mpr ⟨not_mem_of_frame?_eq_none rfl,
                  List.forall_mem_cons.mpr ⟨?_, free.frames⟩⟩
                -- The include puts the current domain by.
                rintro _ ⟨⟩
                exact free.domain
          | _ => cases domain
      | _ => cases domain

omit control in
theorem setClientDomain_isFree {name : Text} (clear : c ∉ name) :
    (setClientDomain name state).IsFree c := by
  refine ⟨free.identity, free.domain, ?_, free.frames⟩
  rintro _ ⟨⟩
  exact clear

/-- Only names that may be asked about can become the client's domain. -/
theorem askClientAddresses_isFree (names : List Text) :
    (askClientAddresses names state).IsFree c := by
  unfold askClientAddresses
  split
  · exact free
  · split
    · exact setClientDomain_isFree free (control.not_mem_of_isVisible (by decide))
    · rename_i candidate question pending found
      obtain ⟨-, isHost⟩ :=
        question_of_nextQuestion? (Dns.RecordType.needsHostName_ofFamily _) found
      refine ⟨free, ?_⟩
      rintro _ _ ⟨⟩
      exact control.not_mem fun d member =>
        not_isControl_of_isGraphic (Domain.isGraphic_of_isHostName isHost d member)

/-- No answer brings the character in. -/
theorem receive_isFree (answer : Dns.Answer) {awaiting : Awaiting}
    (candidates : ∀ candidate pending,
      awaiting = .clientAddresses candidate pending → c ∉ candidate) :
    (receive environment answer state awaiting).IsFree c := by
  have unknown : c ∉ Macro.unknownName := control.not_mem_of_isVisible (by decide)
  cases finds : awaiting.findsClient with
  | false =>
      have kept : (receive environment answer state awaiting).Keeps False state :=
        receive_keeps answer False.elim
      exact Reaction.isFree_of_keeps free kept (receive_spares answer finds state)
  | true =>
      cases awaiting with
      | clientNames =>
          simp only [receive, receiveClientNames]
          split
          · exact setClientDomain_isFree free unknown
          · exact askClientAddresses_isFree control free _
      | clientAddresses candidate pending =>
          simp only [receive, receiveClientAddresses]
          split
          · exact askClientAddresses_isFree control free _
          · split
            · exact free
            · split
              · exact setClientDomain_isFree free (candidates candidate pending rfl)
              · exact askClientAddresses_isFree control free _
      | _ => cases finds

end

/-! ## Turns -/

section
variable {c : Char}

/-- A catcher puts back the domain of its frame, if it changes the domain at all. -/
theorem handle_isFree {failure : Failure} {state : State} {task : Task} {handling : Handling}
    (handled : handle failure state task = some handling) (free : state.IsFree c)
    (frames : ∀ frame, task.frame? = some frame → c ∉ frame.domain) : handling.state.IsFree c := by
  obtain ⟨tasks, -, identity, domain, -⟩ := handle_effect handled
  have client := (handle_outlasts handled).clientDomain
  refine ⟨identity ▸ free.identity, ?_, client ▸ free.clientDomain, tasks ▸ free.frames⟩
  rw [domain]
  cases frame : task.frame? with
  | none => exact free.domain
  | some frame' => exact frames frame' frame

theorem unwind_isFree (failure : Failure) {state : State} {tasks : List Task}
    (free : ({ state with tasks } : State).IsFree c) : (unwind failure state tasks).2.IsFree c := by
  induction tasks generalizing failure state with
  | nil => exact free.change rfl rfl rfl (List.Subset.refl _)
  | cons task tasks inductionHypothesis =>
      have below : ({ state with tasks } : State).IsFree c :=
        free.change rfl rfl rfl (List.subset_cons_self _ _)
      rw [unwind]
      cases handled : handle failure { state with tasks } task with
      | none => exact inductionHypothesis failure below
      | some handling =>
          have after := handle_isFree handled below (free.frames task List.mem_cons_self)
          have stack : tasks ⊆ handling.state.tasks :=
            fun _ member => (handle_effect handled).1.symm ▸ member
          cases handling with
          | caught restored => exact after
          | rethrown restored next => exact inductionHypothesis next (after.change rfl rfl rfl stack)

theorem Reaction.IsFree.settle {reaction : Reaction} (free : reaction.IsFree c) :
    reaction.settle.position.IsFree c := by
  cases reaction with
  | proceed after => exact free
  | ask after lookup => exact free
  | fail after failure =>
      exact unwind_isFree failure (State.IsFree.change free rfl rfl rfl (List.Subset.refl _))

/-- No turn brings a control character in. -/
theorem Position.Step.isFree (control : IsControl c) {environment : Environment}
    {permitted : Dns.Question → Dns.Answer → Prop} {position next : Position}
    (turn : Step environment permitted position next) (free : position.IsFree c) :
    next.IsFree c := by
  cases turn with
  | @run state task below stack =>
      have whole : state.IsFree c := free
      have popped : ({ state with tasks := below } : State).IsFree c :=
        whole.change rfl rfl rfl (stack ▸ List.subset_cons_self _ _)
      have frames := whole.frames task (stack ▸ List.mem_cons_self)
      exact (runTask_isFree control popped task frames).settle
  | @hear state lookup answer allowed =>
      exact (receive_isFree control free.1 answer free.2).settle

theorem isFree_start {identity : Identity} (free : identity.IsFree c) :
    (Position.running (State.start identity)).IsFree c := by
  refine ⟨free, free.domain, by simp [State.start], ?_⟩
  simp [State.start, Task.frame?]

/-- A check ends with a domain without control characters, unless the identity holds one. -/
theorem not_mem_domain_converse (control : IsControl c) (environment : Environment)
    (resolver : Resolver) {identity : Identity} (free : identity.IsFree c) :
    c ∉ (converse environment resolver [] (.running (State.start identity))).2.domain := by
  have last := @visited_keeps environment (Position.IsFree c) (fun turn => turn.isFree control)
    resolver [] _ (isFree_start free)
  exact State.IsFree.domain last.2

end

/-! ## The header -/

section
variable {c : Char} (control : IsControl c)
include control

/-- The words between the texts hold no control character. -/
theorem mem_words_iff {words : String} (visible : Text.isVisible words.toList = true) :
    c ∈ words.toList ↔ False :=
  iff_false_intro (control.not_mem_of_isVisible visible)

theorem mem_of_mem_comment {code : ResultCode} {domain address : Text}
    (member : c ∈ comment code domain address) : c ∈ domain ∨ c ∈ address := by
  have words := @mem_words_iff c control
  unfold comment at member
  split at member <;>
    simp (disch := decide +kernel) only [List.mem_append, words, false_or, or_false] at member
  case h_1 => exact member
  case h_2 => exact member
  case h_3 => exact member
  case h_4 => exact member.symm
  case h_5 => exact member.symm

/-- Besides the remark a header shows three texts, each of them as it is. -/
theorem mem_headerValue_iff {code : ResultCode} {identity : Identity} {domain : Text} :
    c ∈ headerName ++ ": ".toList ++ headerValue code identity domain
      ↔ c ∈ comment code domain identity.addressText
        ∨ c ∈ identity.addressText ∨ c ∈ identity.sender ∨ c ∈ identity.helo := by
  have words := @mem_words_iff c control
  have name : c ∉ code.name := control.not_mem_of_isVisible (by cases code <;> decide)
  have last : c ∉ [';'] := control.not_mem_of_isVisible (by decide)
  unfold headerValue headerName
  simp (disch := decide +kernel) only [List.mem_append, words, name, last, false_or, or_false,
    or_assoc]

/-- The header holds a control character, a line end among others, exactly if the client address,
the sender or the greeting name does, blanks at their ends apart, if the conversion of domains
into ASCII brings none in. -/
theorem mem_header_iff (environment : Environment) (resolver : Resolver)
    (address sender helo : Text) {conversion : Domain.Conversion}
    (brings : conversion.BringsNoControls) (timestamp : Nat) :
    let identity := Identity.read address sender helo conversion timestamp
    c ∈ (run environment resolver identity).outcome.header
      ↔ c ∈ address.trim ∨ c ∈ sender.trim ∨ c ∈ helo.trim := by
  intro identity
  let last := (converse environment resolver [] (.running (State.start identity))).2
  have kept : last.identity = identity := identity_converse environment resolver identity
  have addressIff : c ∈ identity.addressText ↔ c ∈ address.trim :=
    Identity.mem_addressText_iff control address sender helo conversion timestamp
  have shown : c ∈ (run environment resolver identity).outcome.header
      ↔ c ∈ comment (last.result.getD .permError) last.domain identity.addressText
        ∨ c ∈ identity.addressText ∨ c ∈ identity.sender ∨ c ∈ identity.helo := by
    show c ∈ headerName ++ ": ".toList
      ++ headerValue (last.result.getD .permError) last.identity last.domain ↔ _
    rw [kept]
    exact mem_headerValue_iff control
  rw [shown]
  constructor
  case mp =>
    intro member
    by_contra apart
    obtain ⟨addressFree, others⟩ := not_or.mp apart
    obtain ⟨senderFree, heloFree⟩ := not_or.mp others
    have free : identity.IsFree c :=
      Identity.isFree_read control addressFree senderFree heloFree brings timestamp
    have domain : c ∉ last.domain := not_mem_domain_converse control environment resolver free
    rcases member with remark | inAddress | inSender | inHelo
    · rcases mem_of_mem_comment control remark with inDomain | inAddress
      · exact domain inDomain
      · exact free.addressText inAddress
    · exact free.addressText inAddress
    · exact free.sender inSender
    · exact free.helo inHelo
  case mpr =>
    rintro (inAddress | inSender | inHelo)
    · exact .inr (.inl (addressIff.mpr inAddress))
    · obtain ⟨reads, -⟩ := Identity.splitSender_reads sender.trim helo.trim
      exact .inr (.inr (.inl (reads.subset inSender)))
    · exact .inr (.inr (.inr inHelo))

end

/-- A line end behind the sender is left out, also behind a domain that is not ASCII, and one
within the sender stays. -/
theorem mem_header_iff_lineFeed :
    let header (sender : Text) :=
      (run {} (fun _ _ => .records [])
        (Identity.read "192.0.2.1".toList sender "mail.example.net".toList)).outcome.header
    IsControl '\n' ∧ Domain.Conversion.BringsNoControls Domain.asciiForm?
      ∧ '\n' ∉ header "a@example.com\r\n".toList
      ∧ '\n' ∉ header "a@bücher.example\n".toList
      ∧ '\n' ∈ header "a\r\nb@example.com".toList := by
  intro header
  have control : IsControl '\n' := by decide
  have brings := Domain.asciiForm?_bringsNoControls
  refine ⟨control, brings, ?_, ?_, ?_⟩
  · exact (mem_header_iff control _ _ _ _ _ brings 0).not.mpr (by decide +kernel)
  · exact (mem_header_iff control _ _ _ _ _ brings 0).not.mpr (by decide +kernel)
  · exact (mem_header_iff control _ _ _ _ _ brings 0).mpr (by decide +kernel)

/-- A greeting name with a line end in it writes a second line. -/
theorem header_twoLines :
    let identity := Identity.read "192.0.2.1".toList "a@example.com".toList
      "mail.example.net\r\nX-Checked: yes".toList
    let header := (run {} (fun _ _ => .records []) identity).outcome.header
    header = "Received-SPF: none (spfCheck: 192.0.2.1 is neither permitted nor denied by ".toList
        ++ "domain of example.com) client-ip=192.0.2.1; envelope-from=a@example.com; ".toList
        ++ "helo=mail.example.net\r\nX-Checked: yes;".toList
      ∧ '\r' ∈ header ∧ '\n' ∈ header := by
  intro identity header
  have ended : ((lastWithin {} (fun _ => .records []) 60 (.running (State.start identity))).map
      fun last => (Outcome.ofState last).header) = some
        ("Received-SPF: none (spfCheck: 192.0.2.1 is neither permitted nor denied by ".toList
          ++ "domain of example.com) client-ip=192.0.2.1; envelope-from=a@example.com; ".toList
          ++ "helo=mail.example.net\r\nX-Checked: yes;".toList) := by
    decide +kernel
  obtain ⟨last, found, written⟩ := Option.map_eq_some_iff.mp ended
  have same : header = (Outcome.ofState last).header :=
    congrArg (fun last => (Outcome.ofState last).header) (eq_of_lastWithin found [])
  rw [same, written]
  exact ⟨rfl, List.mem_append_right _ (by decide), List.mem_append_right _ (by decide)⟩

end Check

end SenderPolicy
