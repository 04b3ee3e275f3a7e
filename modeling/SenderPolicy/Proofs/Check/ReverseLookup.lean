import SenderPolicy.Proofs.Address.Reading
import SenderPolicy.Proofs.Address.ReverseName
import SenderPolicy.Proofs.Check.Lookups

/-!
# Looking for the names of the client

A check asks for host names of one address only: the client's. It does so under the name that the
address has under `arpa`. Macro text can spell that name by the client's labels in reverse and the
label of its zone, although cells are split and joined again by other rules than those that put the
name together.
-/

namespace SenderPolicy

/-! ## The name in macro text -/

namespace Macro

/-- Macro text for the name of the client's address under `arpa`. -/
def reverseSpec : Text := "%\x7bir\x7d.%\x7bv\x7d.arpa".toList

/-- The tokens of this text. -/
def reverseTokens : List Token :=
  [.cell ⟨.address, false, ['r']⟩, .literal '.', .cell ⟨.family, false, []⟩, .literal '.',
    .literal 'a', .literal 'r', .literal 'p', .literal 'a']

theorem scan_reverseSpec : scan reverseSpec = (reverseTokens, []) := by
  decide +kernel

theorem isDomainSpec_reverseSpec : isDomainSpec reverseSpec = true := by
  decide +kernel

/-- Reversing alone splits at dots. -/
theorem apply_reversed (value : Text) :
    Transformer.apply ⟨none, true, []⟩ value
      = Text.join ['.'] (Text.split (· = '.') value).reverse := by
  have dots : (['.'] : Text).contains = fun c => decide (c = '.') := by
    funext c
    simp
  simp [Transformer.apply, Transformer.isTrivial, Transformer.keepLast, dots]

/-- With the labels of an address and of its family the text stands for the address's name. -/
theorem expand_reverseSpec (localNames : List Text) {values : Values} {client : Address}
    (address : values.address = client.dottedLabels) (family : values.family = client.family.label) :
    expand localNames .domain values reverseSpec = .ok client.reverseName := by
  have turned : Transformer.read ['r'] = .ok ⟨none, true, []⟩ := rfl
  have plain : Transformer.read [] = .ok ⟨none, false, []⟩ := rfl
  have label : Transformer.apply ⟨none, false, []⟩ client.family.label = client.family.label := rfl
  have labels : Transformer.apply ⟨none, true, []⟩ client.dottedLabels
      = Text.join ['.'] client.labels.reverse := by
    rw [apply_reversed, client.split_dottedLabels]
  have expanded : expandString localNames .domain values reverseSpec = .ok client.reverseName := by
    rw [expandString, scan_reverseSpec, client.reverseName_eq]
    simp [reverseTokens, expandTokens, expandToken, expandCell_eq, Mode.allows, Letter.isExplanatory,
      Values.value?, address, family, turned, plain, labels, label, Except.map]
  have short : shortenDomain client.reverseName = client.reverseName := by
    rw [shortenDomain]
    exact if_pos client.byteLength_reverseName_le
  rw [expand, expandDomainFully, if_pos isDomainSpec_reverseSpec, expanded, Except.map, short]

end Macro

namespace Check

/-! ## The client's name -/

/-- A check is about the address that the text of its client stands for. -/
theorem client_read {text : Text} {client : Address}
    (denotes : (Address.read? text).map Address.unmapped = some client) (sender helo : Text)
    (conversion : Domain.Conversion) (timestamp : Nat) :
    (Identity.read text sender helo conversion timestamp).client = some client := by
  obtain ⟨kept, keeps, literal⟩ := Address.exists_clientText denotes
  simp only [Identity.read, keeps, Option.bind_some, Address.read?_of_isLiteral literal]

/-- In every state of a check whose client is known, the labels of the client's address in reverse
and its zone are the name under `arpa`. -/
theorem expand_reverseSpec {environment : Environment} {state : State} {client : Address}
    (known : state.identity.client = some client) :
    state.expand environment .domain Macro.reverseSpec = .ok client.reverseName := by
  refine Macro.expand_reverseSpec environment.localNames ?_ ?_
  · simp only [State.values, Identity.addressLabels, known]
  · simp only [State.values, Identity.familyLabel, known, Option.map_some, Option.getD_some]

/-- Whatever text a client's address is given in and whoever the sender is, the macro text for a
name under `arpa` stands for the name of that address. The mechanism `ptr` asks for host names
under this name, so does macro text that needs the client's domain, and a run asks for no others.
No two addresses have one name. -/
theorem reverseName_asked {text : Text} {client : Address}
    (denotes : (Address.read? text).map Address.unmapped = some client) (sender helo : Text)
    (conversion : Domain.Conversion) (timestamp : Nat) :
    let identity := Identity.read text sender helo conversion timestamp
    identity.client = some client
      ∧ (∀ environment (state : State), state.identity = identity →
          state.expand environment .domain "%\x7bir\x7d.%\x7bv\x7d.arpa".toList
            = .ok client.reverseName)
      ∧ (∀ environment (state : State) spec host, state.identity = identity →
          state.targetHost environment spec = .ok host →
          continueMechanism environment (.ptr spec) state
            = .ask state ⟨⟨client.reverseName, .ptr⟩, .hostNames host⟩)
      ∧ (∀ environment (state : State) mode pending, state.identity = identity →
          state.expand environment mode pending = .error .clientDomainUnknown →
          state.prepareExpansion environment mode pending
            = .ask (state.afterExpansion environment mode pending)
              ⟨⟨client.reverseName, .ptr⟩, .clientNames⟩)
      ∧ (∀ environment resolver, ∀ question ∈ (run environment resolver identity).questions,
          question.type = .ptr → question.host = client.reverseName)
      ∧ ∀ one other : Address, one.reverseName = other.reverseName →
          one.family = other.family ∧ one.cells = other.cells := by
  intro identity
  have known : identity.client = some client := client_read denotes sender helo conversion timestamp
  have knownIn : ∀ {state : State}, state.identity = identity →
      state.identity.client = some client := by
    intro state about
    rw [about, known]
  refine ⟨known, ?_, ?_, ?_, ?_, ?_⟩
  · intro environment state about
    exact expand_reverseSpec (knownIn about)
  · intro environment state spec host about target
    have specified : (Mechanism.ptr spec).domain? = spec := rfl
    simp only [continueMechanism, specified, target, knownIn about]
  · intro environment state mode pending about waits
    simp only [State.prepareExpansion, waits, knownIn about]
  · intro environment resolver question asked names
    obtain ⟨awaiting, isOf⟩ := exists_lookup_of_mem_questions environment resolver known asked
    exact isOf.host_eq names
  · intro one other same
    exact Address.eq_of_reverseName same

/-- A domain whose record looks at the names of the client. -/
def pointing (question : Dns.Question) : Dns.Answer :=
  if question = ⟨"example.com".toList, .txt⟩ then
    .records ["v=spf1 ptr -all".toList]
  else
    .records []

/-- A check of a client with an IPv6 address. -/
theorem reverseName_asked_nibbles :
    let client : Address := ⟨.ip6, [0x2001, 0xdb8, 0, 0, 0, 0, 0, 0xcb01], rfl, by decide⟩
    let text := "2001:DB8::cb01".toList
    let identity := Identity.read text "user@example.com".toList "mail.example.net".toList
    let name := "1.0.b.c.0.0.0.0.0.0.0.0.0.0.0.0.0.0.0.0.0.0.0.0.8.b.d.0.1.0.0.2.ip6.arpa".toList
    (Address.read? text).map Address.unmapped = some client
      ∧ (State.start identity).expand {} .domain "%\x7bir\x7d.%\x7bv\x7d.arpa".toList = .ok name
      ∧ (run {} (fun _ => pointing) identity).questions
        = [⟨"example.com".toList, .spf⟩, ⟨"example.com".toList, .txt⟩, ⟨name, .ptr⟩]
      ∧ name = client.reverseName := by
  intro client text identity name
  have denotes : (Address.read? text).map Address.unmapped = some client := by
    decide +kernel
  have isName : name = client.reverseName := by
    decide +kernel
  have questions : (run {} (fun _ => pointing) identity).questions
      = [⟨"example.com".toList, .spf⟩, ⟨"example.com".toList, .txt⟩, ⟨name, .ptr⟩] :=
    @questions_of_visitedWithin {} pointing _ 60 _ (by decide +kernel)
  obtain ⟨_, expands, _, _, asks, _⟩ :=
    reverseName_asked denotes "user@example.com".toList "mail.example.net".toList
      Domain.asciiForm? 0
  refine ⟨denotes, ?_, questions, ?_⟩
  · rw [isName]
    exact expands {} (State.start identity) rfl
  · exact asks {} (fun _ => pointing) ⟨name, .ptr⟩ (by rw [questions]; simp) rfl

end Check

end SenderPolicy
