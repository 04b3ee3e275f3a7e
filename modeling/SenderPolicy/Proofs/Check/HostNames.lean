import Mathlib.Data.List.Basic
import SenderPolicy.Dns.Zone
import SenderPolicy.Proofs.Check.Chains

/-!
# The client's host names

Two chains walk through the host names of the client: the mechanism `ptr`, which looks for one
within its target, and the lookup of the client's domain, which takes the first that is
confirmed. They ask the same questions in the same order and stop at different answers. So if
the client's domain is a confirmed name within the target, the mechanism finds one as well.
-/

namespace SenderPolicy

/-- The names are the same, or the first ends in a dot and the second. Letter case and the dots
at their ends do not count. -/
def Domain.StandsWithin (name domain : Text) : Prop :=
  name.dropEndDots.lower = domain.dropEndDots.lower
    ∨ ∃ front, name.dropEndDots.lower = front ++ '.' :: domain.dropEndDots.lower

theorem Domain.isWithin_iff {name domain : Text} :
    isWithin name domain = true ↔ StandsWithin name domain := by
  simp only [isWithin, StandsWithin, Bool.or_eq_true, decide_eq_true_eq,
    List.isSuffixOf_iff_suffix]
  exact or_congr_right (exists_congr fun _ => eq_comm)

instance (name domain : Text) : Decidable (Domain.StandsWithin name domain) :=
  decidable_of_iff _ Domain.isWithin_iff

namespace Check

/-! ## Answers that confirm a name -/

/-- The answer has come in time and holds the client's address. -/
def HoldsClient (client : Address) : Dns.Answer → Prop
  | .timeout _ => False
  | .records records => ∃ record ∈ records, Address.read? record = some client

theorem holdsClient_records_iff {client : Address} {records : List Text} :
    HoldsClient client (.records records) ↔ confirms client records = true := by
  simp [HoldsClient, confirms]

instance (client : Address) (answer : Dns.Answer) : Decidable (HoldsClient client answer) :=
  match answer with
  | .timeout _ => isFalse id
  | .records _ => decidable_of_iff _ holdsClient_records_iff.symm

section
variable {setting : Direct.Setting}

theorem isDecisive_confirmedName :
    Direct.isDecisive (Direct.confirmedName setting)
      = fun heard => decide (HoldsClient setting.client heard.answer) := by
  funext heard
  obtain ⟨question, answer⟩ := heard
  cases answer with
  | timeout note => rfl
  | records records =>
      simp only [Direct.isDecisive, Direct.confirmedName, holdsClient_records_iff]
      cases confirms setting.client records <;> rfl

theorem isDecisive_ownedName (target : Text) :
    Direct.isDecisive (Direct.ownedName setting target)
      = fun heard => decide (HoldsClient setting.client heard.answer
        ∧ Domain.StandsWithin heard.question.host target) := by
  funext heard
  obtain ⟨question, answer⟩ := heard
  cases answer with
  | timeout note => simp [Direct.isDecisive, Direct.ownedName, HoldsClient]
  | records records =>
      simp only [Direct.isDecisive, Direct.ownedName, holdsClient_records_iff,
        ← Domain.isWithin_iff]
      cases confirms setting.client records <;> cases Domain.isWithin question.host target <;> rfl

/-- A walk that looks for a name within the target matches if one has been heard of. -/
theorem walkEnd_ownedName (target : Text) (state : State) (heard : List Heard) :
    let owned : Heard → Bool := fun item =>
      HoldsClient setting.client item.answer ∧ Domain.StandsWithin item.question.host target
    Direct.walkEnd (Direct.ownedName setting target)
        (fun matched state => { state with matched := some matched }) false state
        (heard.find? owned)
      = .proceed { state with matched := some (heard.any owned) } := by
  intro owned
  cases found : heard.find? owned with
  | none =>
      have nothing : heard.any owned = false :=
        List.any_eq_false.mpr (List.find?_eq_none.mp found)
      rw [nothing]
      rfl
  | some item =>
      have isOwned := List.find?_some found
      have something : heard.any owned = true :=
        List.any_eq_true.mpr ⟨item, List.mem_of_find?_eq_some found, isOwned⟩
      obtain ⟨holds, within⟩ := of_decide_eq_true isOwned
      obtain ⟨question, answer⟩ := item
      cases answer with
      | timeout note => exact holds.elim
      | records records =>
          have confirmed := holdsClient_records_iff.mp holds
          have inside := Domain.isWithin_iff.mpr within
          simp only [something, Direct.walkEnd, Direct.ownedName, confirmed, inside, Bool.and_self,
            if_true]
          rfl

/-- The lookup of the client's domain gives the name that it ends at. -/
theorem walkEnd_confirmedName {state : State} {found : Option Heard}
    (decisive : ∀ item, found = some item → HoldsClient setting.client item.answer) :
    Direct.walkEnd (Direct.confirmedName setting)
        (fun name state => { state with clientDomain := some name }) Macro.unknownName state found
      = .proceed { state with
          clientDomain := some (found.elim Macro.unknownName (·.question.host)) } := by
  cases found with
  | none => rfl
  | some item =>
      have holds := decisive item rfl
      obtain ⟨question, answer⟩ := item
      cases answer with
      | timeout note => exact holds.elim
      | records records =>
          have confirmed := holdsClient_records_iff.mp holds
          simp only [Direct.walkEnd, Direct.confirmedName, confirmed, if_true]
          rfl

end

/-- The address questions about the client's host names: those of the first names that the limit
allows, without the dots at their ends. Without an answer in time there are none. -/
def nameQuestions (environment : Environment) (client : Address) :
    Dns.Answer → List Dns.Question
  | .timeout _ => []
  | .records names =>
      addressQuestions client ((names.take environment.recordLimit).map Text.dropEndDots)

/-! ## The two walks -/

section
variable {environment : Environment} {client : Address} {resolver : Resolver}
  {asked : List Dns.Question} {state : State} (known : state.identity.client = some client)
include known

/-- The mechanism stops at the first confirmed name within its target. -/
theorem leadsTo_hostNames (host : Text) :
    let reverse : Dns.Question := ⟨client.reverseName, .ptr⟩
    let owned : Heard → Bool := fun item =>
      HoldsClient client item.answer ∧ Domain.StandsWithin item.question.host host
    let heard := hearing resolver (asked ++ [reverse])
      (nameQuestions environment client (resolver asked reverse))
    (Reaction.ask state ⟨reverse, .hostNames host⟩).LeadsTo environment resolver asked
      (reverse :: (upTo owned heard).map Heard.question)
      (.proceed { state with matched := some (heard.any owned) }) := by
  intro reverse owned heard
  apply Reaction.LeadsTo.answered
  simp only [receive]
  cases answered : resolver asked reverse with
  | timeout note =>
      simp only [heard, answered, receiveHostNames, nameQuestions]
      exact Reaction.leadsTo_proceed _
  | records names =>
      let setting : Direct.Setting :=
        ⟨environment, resolver asked, state.identity, client, known⟩
      have leads := (@Direct.walks_hostAddresses setting host).leadsTo known resolver
        (asked ++ [reverse]) ((names.take environment.recordLimit).map Text.dropEndDots)
      rw [isDecisive_ownedName, walkEnd_ownedName] at leads
      simp only [heard, answered, receiveHostNames, nameQuestions]
      exact leads

/-- The lookup of the client's domain stops at the first confirmed name. -/
theorem leadsTo_clientNames :
    let reverse : Dns.Question := ⟨client.reverseName, .ptr⟩
    let confirmed : Heard → Bool := fun item => HoldsClient client item.answer
    let heard := hearing resolver (asked ++ [reverse])
      (nameQuestions environment client (resolver asked reverse))
    (Reaction.ask state ⟨reverse, .clientNames⟩).LeadsTo environment resolver asked
      (reverse :: (upTo confirmed heard).map Heard.question)
      (.proceed { state with
        clientDomain := some ((heard.find? confirmed).elim Macro.unknownName
          (·.question.host)) }) := by
  intro reverse confirmed heard
  apply Reaction.LeadsTo.answered
  simp only [receive]
  cases answered : resolver asked reverse with
  | timeout note =>
      simp only [heard, answered, receiveClientNames, nameQuestions]
      exact Reaction.leadsTo_proceed _
  | records names =>
      let setting : Direct.Setting :=
        ⟨environment, resolver asked, state.identity, client, known⟩
      have leads := (@Direct.walks_clientAddresses setting).leadsTo known resolver
        (asked ++ [reverse]) ((names.take environment.recordLimit).map Text.dropEndDots)
      rw [isDecisive_confirmedName, walkEnd_confirmedName] at leads
      · simp only [heard, answered, receiveClientNames, nameQuestions]
        exact leads
      · intro item isFirst
        have decides := List.find?_some isFirst
        exact of_decide_eq_true decides

end

/-- Both walks ask for the client's host names, and then for the addresses of the first of them
that the limit allows, in the order of the answer, without the dots at their ends, and passing
over what is no host name. The mechanism `ptr` matches if the answer for one of these names holds
the client's address and the name stands within the target, and it asks no more once this is so.
The client's domain is the first name whose answer holds the client's address, and there the
asking ends; without one it is called unknown. If, in a zone, the client's domain is such a name
and stands within the target, the mechanism matches. -/
theorem hostNames_walks (environment : Environment) (client : Address) :
    let reverse : Dns.Question := ⟨client.reverseName, .ptr⟩
    let heard := fun (resolver : Resolver) (asked : List Dns.Question) =>
      hearing resolver (asked ++ [reverse])
        (nameQuestions environment client (resolver asked reverse))
    let confirmed : Heard → Bool := fun item => HoldsClient client item.answer
    let owned : Text → Heard → Bool := fun target item =>
      HoldsClient client item.answer ∧ Domain.StandsWithin item.question.host target
    (∀ resolver asked (state : State) spec target, state.identity.client = some client →
        state.targetHost environment spec = .ok target →
      (continueMechanism environment (.ptr spec) state).LeadsTo environment resolver asked
        (reverse :: (upTo (owned target) (heard resolver asked)).map Heard.question)
        (.proceed { state with matched := some ((heard resolver asked).any (owned target)) }))
      ∧ (∀ resolver asked (state : State) mode text, state.identity.client = some client →
          state.expand environment mode text = .error .clientDomainUnknown →
        (state.prepareExpansion environment mode text).LeadsTo environment resolver asked
          (reverse :: (upTo confirmed (heard resolver asked)).map Heard.question)
          (.proceed { state.afterExpansion environment mode text with
            clientDomain := some (((heard resolver asked).find? confirmed).elim
              Macro.unknownName (·.question.host)) }))
      ∧ ∀ zone asked otherAsked (state : State) spec target item,
          state.identity.client = some client →
          state.targetHost environment spec = .ok target →
          (heard (fun _ => zone) otherAsked).find? confirmed = some item →
          Domain.StandsWithin item.question.host target →
        (continueMechanism environment (.ptr spec) state).LeadsTo environment (fun _ => zone) asked
          (reverse :: (upTo (owned target) (heard (fun _ => zone) asked)).map Heard.question)
          (.proceed { state with matched := some true }) := by
  intro reverse heard confirmed owned
  have ptr : ∀ resolver asked (state : State) spec target, state.identity.client = some client →
      state.targetHost environment spec = .ok target →
      (continueMechanism environment (.ptr spec) state).LeadsTo environment resolver asked
        (reverse :: (upTo (owned target) (heard resolver asked)).map Heard.question)
        (.proceed { state with
          matched := some ((heard resolver asked).any (owned target)) }) := by
    intro resolver asked state spec target known isTarget
    simp only [continueMechanism, Mechanism.domain?, isTarget, known]
    exact leadsTo_hostNames known target
  refine ⟨ptr, ?_, ?_⟩
  · intro resolver asked state mode text known unknown
    have knownAfter : (state.afterExpansion environment mode text).identity.client
        = some client := known
    simp only [State.prepareExpansion, unknown, known]
    exact leadsTo_clientNames knownAfter
  · intro zone asked otherAsked state spec target item known isTarget found within
    -- A zone answers both walks alike, whatever has been asked before each.
    have same : heard (fun _ => zone) otherAsked = heard (fun _ => zone) asked := by
      simp only [heard, hearing_zone]
    rw [same] at found
    have isConfirmed : confirmed item = true := List.find?_some found
    have isOwned : owned target item = true :=
      decide_eq_true ⟨of_decide_eq_true isConfirmed, within⟩
    have anyOwned : (heard (fun _ => zone) asked).any (owned target) = true :=
      List.any_eq_true.mpr ⟨item, List.mem_of_find?_eq_some found, isOwned⟩
    rw [← anyOwned]
    exact ptr (fun _ => zone) asked state spec target known isTarget

/-- Of the three names of a client with a long address the first is not answered for, the second
is no host name, and the third is the client's: it is the client's domain, and within one target
but not within another. -/
theorem hostNames_walks_thirdName :
    let identity := Identity.read "2001:db8::5".toList "user@example.com".toList
      "mail.example.net".toList
    let state := State.start identity
    let client : Address := ⟨.ip6, [0x2001, 0xdb8, 0, 0, 0, 0, 0, 5], rfl, by decide⟩
    let cell : Text := "%\x7bp\x7d".toList
    let reverseName :=
      "5.0.0.0.0.0.0.0.0.0.0.0.0.0.0.0.0.0.0.0.0.0.0.0.8.b.d.0.1.0.0.2.ip6.arpa".toList
    let zone : Dns.Zone :=
      ⟨[⟨reverseName, .ptr,
          some ["gone.example.com".toList, "no host".toList, "Mail.Example.COM.".toList]⟩,
        ⟨"gone.example.com".toList, .aaaa, none⟩,
        ⟨"mail.example.com".toList, .aaaa, some ["2001:db8:0::5".toList]⟩]⟩
    let questions : List Dns.Question :=
      [⟨reverseName, .ptr⟩, ⟨"gone.example.com".toList, .aaaa⟩,
        ⟨"Mail.Example.COM".toList, .aaaa⟩]
    state.identity.client = some client
      ∧ state.targetHost {} none = .ok "example.com".toList
      ∧ state.targetHost {} (some "example.org".toList) = .ok "example.org".toList
      ∧ state.expand {} .domain cell = .error .clientDomainUnknown
      ∧ (continueMechanism {} (.ptr none) state).LeadsTo {} (fun _ => zone.answer) [] questions
        (.proceed { state with matched := some true })
      ∧ (continueMechanism {} (.ptr (some "example.org".toList)) state).LeadsTo {}
        (fun _ => zone.answer) [] questions (.proceed { state with matched := some false })
      ∧ (state.prepareExpansion {} .domain cell).LeadsTo {} (fun _ => zone.answer) [] questions
        (.proceed { state.afterExpansion {} .domain cell with
          clientDomain := some "Mail.Example.COM".toList }) := by
  intro identity state client cell reverseName zone questions
  have known : state.identity.client = some client := by decide +kernel
  have target : state.targetHost {} none = .ok "example.com".toList := by decide +kernel
  have elsewhere : state.targetHost {} (some "example.org".toList)
      = .ok "example.org".toList := by
    decide +kernel
  have unknown : state.expand {} .domain cell = .error .clientDomainUnknown := by
    decide +kernel
  let reverse : Dns.Question := ⟨client.reverseName, .ptr⟩
  let heard := hearing (fun _ => zone.answer) [reverse]
    (nameQuestions {} client (zone.answer reverse))
  let confirmed : Heard → Bool := fun item => HoldsClient client item.answer
  let owned : Text → Heard → Bool := fun target item =>
    HoldsClient client item.answer ∧ Domain.StandsWithin item.question.host target
  let last : Heard := ⟨⟨"Mail.Example.COM".toList, .aaaa⟩, .records ["2001:db8:0::5".toList]⟩
  have first : heard.find? confirmed = some last := by decide +kernel
  have stopped : reverse :: (upTo confirmed heard).map Heard.question = questions := by
    decide +kernel
  have stoppedWithin :
      reverse :: (upTo (owned "example.com".toList) heard).map Heard.question = questions := by
    decide +kernel
  have exhausted :
      reverse :: (upTo (owned "example.org".toList) heard).map Heard.question = questions := by
    decide +kernel
  have noneWithin : heard.any (owned "example.org".toList) = false := by decide +kernel
  obtain ⟨ptr, names, agree⟩ := hostNames_walks {} client
  refine ⟨known, target, elsewhere, unknown, ?_, ?_, ?_⟩
  · have leads : (continueMechanism {} (.ptr none) state).LeadsTo {} (fun _ => zone.answer) []
        (reverse :: (upTo (owned "example.com".toList) heard).map Heard.question)
        (.proceed { state with matched := some true }) :=
      agree zone.answer [] [] state none "example.com".toList last known target first
        (by decide +kernel)
    rwa [stoppedWithin] at leads
  · have leads : (continueMechanism {} (.ptr (some "example.org".toList)) state).LeadsTo {}
        (fun _ => zone.answer) []
        (reverse :: (upTo (owned "example.org".toList) heard).map Heard.question)
        (.proceed { state with matched := some (heard.any (owned "example.org".toList)) }) :=
      ptr (fun _ => zone.answer) [] state _ "example.org".toList known elsewhere
    rwa [exhausted, noneWithin] at leads
  · have leads : (state.prepareExpansion {} .domain cell).LeadsTo {} (fun _ => zone.answer) []
        (reverse :: (upTo confirmed heard).map Heard.question)
        (.proceed { state.afterExpansion {} .domain cell with
          clientDomain := some ((heard.find? confirmed).elim Macro.unknownName
            (·.question.host)) }) :=
      names (fun _ => zone.answer) [] state .domain cell known unknown
    rwa [stopped, first] at leads

end Check

end SenderPolicy
