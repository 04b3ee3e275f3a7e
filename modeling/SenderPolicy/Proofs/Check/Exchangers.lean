import SenderPolicy.Dns.Zone
import SenderPolicy.Proofs.Address.Prefix
import SenderPolicy.Proofs.Check.Chains

/-!
# Mail exchangers one after another

The mechanism `mx` asks for the mail exchangers of a host and then for their addresses, one
exchanger after the other. What it comes to is told by the answers: the first that has not come
in time is a temporary error, the first with an address that agrees with the client's is a match,
and no question is asked beyond either.
-/

namespace SenderPolicy.Check

/-! ## Answers that decide -/

/-- The answer for an exchanger has not come in time, or holds an address that agrees with the
client's in as many first bits as stand for the client's family. Records that are no addresses
do not count. -/
def DecidesExchanger (client : Address) (lengths : PrefixLengths) : Dns.Answer → Prop
  | .timeout _ => True
  | .records records => ∃ record ∈ records, ∃ address, Address.read? record = some address
      ∧ client.AgreesIn (if client.family = .ip4 then lengths.ip4 else lengths.ip6) address

theorem decidesExchanger_records_iff {client : Address} {lengths : PrefixLengths}
    {records : List Text} :
    DecidesExchanger client lengths (.records records)
      ↔ matchesAny client lengths records = true := by
  have bits : lengths.ofFamily client.family
      = if client.family = .ip4 then lengths.ip4 else lengths.ip6 := by
    cases client.family <;> rfl
  simp only [DecidesExchanger, matchesAny, bits, List.any_eq_true, Option.any_eq_true,
    Network.contains_ofAddress_iff]

instance (client : Address) (lengths : PrefixLengths) (answer : Dns.Answer) :
    Decidable (DecidesExchanger client lengths answer) :=
  match answer with
  | .timeout _ => isTrue trivial
  | .records _ => decidable_of_iff _ decidesExchanger_records_iff.symm

/-- The end of the search by the answer that decides it. -/
def exchangersEnd (state : State) : Option Heard → Reaction
  | none => .proceed { state with matched := some false }
  | some ⟨_, .timeout note⟩ => .fail state (.unanswered (Dns.timeoutReason note))
  | some ⟨_, .records _⟩ => .proceed { state with matched := some true }

section
variable {setting : Direct.Setting} (lengths : PrefixLengths)

theorem isDecisive_agreeingExchanger :
    Direct.isDecisive (Direct.agreeingExchanger setting lengths)
      = fun heard => decide (DecidesExchanger setting.client lengths heard.answer) := by
  funext heard
  obtain ⟨question, answer⟩ := heard
  cases answer with
  | timeout note => rfl
  | records records =>
      simp only [Direct.isDecisive, Direct.agreeingExchanger, decidesExchanger_records_iff]
      cases matchesAny setting.client lengths records <;> rfl

theorem walkEnd_agreeingExchanger {state : State} {found : Option Heard}
    (decisive : ∀ heard, found = some heard →
      DecidesExchanger setting.client lengths heard.answer) :
    Direct.walkEnd (Direct.agreeingExchanger setting lengths)
        (fun matched state => { state with matched := some matched }) false state found
      = exchangersEnd state found := by
  cases found with
  | none => rfl
  | some heard =>
      obtain ⟨question, answer⟩ := heard
      cases answer with
      | timeout note => rfl
      | records records =>
          have agrees := decidesExchanger_records_iff.mp (decisive _ rfl)
          simp only [Direct.walkEnd, Direct.agreeingExchanger, agrees, if_true]
          rfl

end

/-! ## The mechanism -/

section
variable {environment : Environment} {resolver : Resolver} {asked : List Dns.Question}
  {state : State} {client : Address}

/-- The exchangers are tried in order, up to the first whose answer decides. -/
theorem leadsTo_askExchangerAddresses (known : state.identity.client = some client)
    (lengths : PrefixLengths) (hosts : List Text) :
    let decisive : Heard → Bool := fun heard => DecidesExchanger client lengths heard.answer
    let heard := hearing resolver asked (addressQuestions client hosts)
    (askExchangerAddresses lengths hosts state).LeadsTo environment resolver asked
      ((upTo decisive heard).map Heard.question)
      (exchangersEnd state (heard.find? decisive)) := by
  intro decisive heard
  let setting : Direct.Setting :=
    ⟨environment, resolver asked, state.identity, client, known⟩
  have leads := (@Direct.walks_exchangerAddresses setting lengths).leadsTo known resolver asked
    hosts
  rw [isDecisive_agreeingExchanger, walkEnd_agreeingExchanger] at leads
  · exact leads
  · intro found isFirst
    have decides := List.find?_some isFirst
    exact of_decide_eq_true decides

/-- The mechanism asks for the mail exchangers of its host. Without an answer in time the check
ends in a temporary error, and with more exchangers than the limit in a permanent one; no address
is asked for then. Otherwise those that are host names are asked about in the order of the
answer, without the dots at their ends, and for addresses of the client's family. The first
whose answer does not come in time is a temporary error, the first with an address that agrees
with the client's in as many first bits as the mechanism says is a match, and no question is
asked beyond either. Without such an answer the mechanism does not match. -/
theorem leadsTo_mx {spec : Option Text} {lengths : PrefixLengths} {host : Text}
    (known : state.identity.client = some client)
    (target : state.targetHost environment spec = .ok host)
    (isHost : Domain.isHostName host = true) :
    let begun := continueMechanism environment (.mx spec lengths) state
    let question : Dns.Question := ⟨host, .mx⟩
    let decisive : Heard → Bool := fun heard => DecidesExchanger client lengths heard.answer
    (∀ note, resolver asked question = .timeout note →
        begun.LeadsTo environment resolver asked [question]
          (.fail state (.unanswered (Dns.timeoutReason note))))
      ∧ (∀ hosts, resolver asked question = .records hosts →
          environment.recordLimit < hosts.length →
        begun.LeadsTo environment resolver asked [question]
          (.fail state (.tooManyExchangers environment.recordLimit)))
      ∧ (∀ hosts, resolver asked question = .records hosts →
          hosts.length ≤ environment.recordLimit →
        let heard := hearing resolver (asked ++ [question])
          (addressQuestions client (hosts.map Text.dropEndDots))
        begun.LeadsTo environment resolver asked
          (question :: (upTo decisive heard).map Heard.question)
          (exchangersEnd state (heard.find? decisive)))
      ∧ (∀ reason, (Failure.unanswered reason).code = .tempError)
      ∧ ∀ limit, (Failure.tooManyExchangers limit).code = .permError := by
  intro begun question decisive
  have asks : begun = .ask state ⟨question, .exchangers lengths⟩ := by
    have made : Dns.Question.make host .mx = .ok question := by
      simp [Dns.Question.make, isHost, question]
    simp only [begun, continueMechanism, Mechanism.domain?, target, askHost, made]
  rw [asks]
  refine ⟨fun note answered => ?_, fun hosts answered tooMany => ?_,
    fun hosts answered within => ?_, fun _ => rfl, fun _ => rfl⟩
  · apply Reaction.LeadsTo.answered
    simp only [receive, answered, receiveExchangers]
    exact Reaction.leadsTo_fail _ _
  · apply Reaction.LeadsTo.answered
    simp only [receive, answered, receiveExchangers, if_pos tooMany]
    exact Reaction.leadsTo_fail _ _
  · apply Reaction.LeadsTo.answered
    simp only [receive, answered, receiveExchangers, if_neg (Nat.not_lt.mpr within)]
    exact leadsTo_askExchangerAddresses known lengths _

end

/-- Of three exchangers of a client with a long address the first is elsewhere, the second is no
host name, and the third is in the client's network. -/
theorem leadsTo_mx_thirdExchanger :
    let identity := Identity.read "2001:db8::20".toList "user@example.com".toList
      "mail.example.net".toList
    let state := State.start identity
    let client : Address := ⟨.ip6, [0x2001, 0xdb8, 0, 0, 0, 0, 0, 0x20], rfl, by decide⟩
    let host := "example.com".toList
    let zone : Dns.Zone :=
      ⟨[⟨host, .mx,
          some ["mx1.example.com.".toList, "no host".toList, "mx2.example.com".toList]⟩,
        ⟨"mx1.example.com".toList, .aaaa, some ["2001:db8:1::20".toList]⟩,
        ⟨"mx2.example.com".toList, .aaaa, some ["nothing".toList, "2001:db8::99".toList]⟩]⟩
    state.identity.client = some client
      ∧ state.targetHost {} none = .ok host
      ∧ Domain.isHostName host = true
      ∧ (continueMechanism {} (.mx none ⟨24, 64⟩) state).LeadsTo {} (fun _ => zone.answer) []
        [⟨host, .mx⟩, ⟨"mx1.example.com".toList, .aaaa⟩, ⟨"mx2.example.com".toList, .aaaa⟩]
        (.proceed { state with matched := some true }) := by
  intro identity state client host zone
  have known : state.identity.client = some client := by decide +kernel
  have target : state.targetHost {} none = .ok host := by decide +kernel
  have isHost : Domain.isHostName host = true := by decide +kernel
  refine ⟨known, target, isHost, ?_⟩
  let hosts := ["mx1.example.com.".toList, "no host".toList, "mx2.example.com".toList]
  have answered : zone.answer ⟨host, .mx⟩ = .records hosts := by decide +kernel
  let decisive : Heard → Bool := fun heard => DecidesExchanger client ⟨24, 64⟩ heard.answer
  let heard := hearing (fun _ => zone.answer) [⟨host, .mx⟩]
    (addressQuestions client (hosts.map Text.dropEndDots))
  have questions : (upTo decisive heard).map Heard.question
      = [⟨"mx1.example.com".toList, .aaaa⟩, ⟨"mx2.example.com".toList, .aaaa⟩] := by
    decide +kernel
  have first : heard.find? decisive = some ⟨⟨"mx2.example.com".toList, .aaaa⟩,
      .records ["nothing".toList, "2001:db8::99".toList]⟩ := by
    decide +kernel
  have leads := (@leadsTo_mx {} (fun _ => zone.answer) [] state client none ⟨24, 64⟩ host known
    target isHost).2.2.1 hosts answered (by decide)
  have whole : (continueMechanism {} (.mx none ⟨24, 64⟩) state).LeadsTo {}
      (fun _ => zone.answer) [] (⟨host, .mx⟩ :: (upTo decisive heard).map Heard.question)
      (exchangersEnd state (heard.find? decisive)) := leads
  rwa [questions, first] at whole

end SenderPolicy.Check
