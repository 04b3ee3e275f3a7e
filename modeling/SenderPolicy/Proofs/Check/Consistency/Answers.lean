import SenderPolicy.Proofs.Check.Consistency.Tasks

/-!
# Answers keep states consistent

Answers about records leave something at hand that the remaining stages can deal with. Answers
about the client's names lead through the names to the end of the walk, from where on no
expansion is put off. All other answers come above plain tasks.
-/

namespace SenderPolicy.Check

section
variable {environment : Environment} {state : State} {explains : Bool} (answer : Dns.Answer)

/-! ## Records -/

theorem eq_severalRecords_of_publishedRecord {texts : List Text} {failure : Failure}
    (failed : publishedRecord texts = .error failure) : failure = .severalRecords := by
  unfold publishedRecord at failed
  split at failed <;> cases failed
  rfl

namespace State.IsObtaining

variable {remaining : List Stage} (obtaining : state.IsObtaining remaining)
include obtaining

theorem receiveRecords {next : Option Text → Reaction}
    (each : ∀ found, (next found).IsConsistent environment explains) :
    (Check.receiveRecords answer state next).IsConsistent environment explains := by
  unfold Check.receiveRecords
  split
  · exact obtaining.fail (.recordUnanswered _)
  · split
    · rename_i failure failed
      rw [eq_severalRecords_of_publishedRecord failed]
      exact obtaining.fail .severalRecords
    · exact each _

theorem keepRecordText (found : Option Text) (parse : .parseRecord ∈ remaining)
    (fits : Fits remaining state.slot) :
    (Check.keepRecordText found state).IsConsistent environment := by
  cases found with
  | none => exact obtaining.proceed state.slot fits
  | some text => exact obtaining.proceed (some (.text text)) parse

end State.IsObtaining

/-- An answer about a record. -/
theorem receive_record_isConsistent {awaiting : Awaiting} {remaining : List Stage}
    (finds : awaiting.findsRecord = true) (obtaining : state.IsObtaining remaining)
    (parse : .parseRecord ∈ remaining) (fits : Fits remaining state.slot) :
    (receive environment answer state awaiting).IsConsistent environment explains := by
  cases awaiting with
  | spfRecords =>
      refine obtaining.receiveRecords _ fun found => ?_
      cases found with
      | none => exact obtaining.askRecords .txt rfl parse fits
      | some text => exact obtaining.keepRecordText (some text) parse fits
  | txtRecords =>
      exact obtaining.receiveRecords _ fun found => obtaining.keepRecordText found parse fits
  | strictSpfRecords =>
      exact obtaining.receiveRecords _ fun found => obtaining.ask rfl parse fits
  | strictTxtRecords spf =>
      refine obtaining.receiveRecords _ fun found => ?_
      split
      · exact obtaining.fail .recordsDiffer
      · exact obtaining.keepRecordText _ parse fits
  | _ => cases finds

/-! ## The client's names -/

theorem askClientAddresses_walks (known : state.identity.client.isSome = true)
    (names : List Text) :
    (∃ domain, askClientAddresses names state
        = .proceed { state with clientDomain := some domain })
      ∨ ∃ lookup, lookup.awaiting.findsClient = true
        ∧ askClientAddresses names state = .ask state lookup := by
  obtain ⟨client, isClient⟩ := Option.isSome_iff_exists.mp known
  simp only [askClientAddresses, isClient]
  split
  · exact .inl ⟨_, rfl⟩
  · exact .inr ⟨_, rfl, rfl⟩

/-- An answer about the client's names ends the walk through them or leads to the next. -/
theorem receive_walks {awaiting : Awaiting} (known : state.identity.client.isSome = true)
    (finds : awaiting.findsClient = true) :
    (∃ domain, receive environment answer state awaiting
        = .proceed { state with clientDomain := some domain })
      ∨ ∃ lookup, lookup.awaiting.findsClient = true
        ∧ receive environment answer state awaiting = .ask state lookup := by
  obtain ⟨client, isClient⟩ := Option.isSome_iff_exists.mp known
  cases awaiting with
  | clientNames =>
      cases answer with
      | timeout note => exact .inl ⟨_, rfl⟩
      | records names => exact askClientAddresses_walks known _
  | clientAddresses candidate pending =>
      cases answer with
      | timeout note => exact askClientAddresses_walks known _
      | records records =>
          simp only [receive, receiveClientAddresses, isClient]
          split
          · exact .inl ⟨_, rfl⟩
          · exact askClientAddresses_walks known _
  | _ => cases finds

/-- Once the client's domain is known, no expansion is put off. -/
theorem expand_of_clientDomain (domain : Text) (mode : Macro.Mode) (text : Text) :
    State.expand environment mode text { state with clientDomain := some domain }
      ≠ .error .clientDomainUnknown := by
  intro unknown
  cases Macro.clientDomain_of_expand unknown

/-! ## Mechanisms -/

theorem askExchangerAddresses_isConsistent (lengths : PrefixLengths) (hosts : List Text)
    (plain : state.IsPlain) :
    (askExchangerAddresses lengths hosts state).IsConsistent environment explains := by
  obtain ⟨client, isClient⟩ := plain.exists_client
  simp only [askExchangerAddresses, isClient]
  split
  · exact setMatched_isConsistent false plain
  · exact plain.ask rfl rfl

theorem askHostAddresses_isConsistent (target : Text) (names : List Text)
    (plain : state.IsPlain) :
    (askHostAddresses target names state).IsConsistent environment explains := by
  obtain ⟨client, isClient⟩ := plain.exists_client
  simp only [askHostAddresses, isClient]
  split
  · exact setMatched_isConsistent false plain
  · exact plain.ask rfl rfl

/-- An answer that comes above plain tasks. -/
theorem receive_plain_isConsistent {awaiting : Awaiting}
    (noRecord : awaiting.findsRecord = false) (noClient : awaiting.findsClient = false)
    (plain : state.IsPlain) :
    (receive environment answer state awaiting).IsConsistent environment
      awaiting.expandsExplanation := by
  obtain ⟨client, isClient⟩ := plain.exists_client
  cases awaiting with
  | addresses lengths =>
      cases answer with
      | timeout note => exact plain.fail (.unanswered _)
      | records records =>
          simp only [receive, receiveAddresses, isClient]
          exact setMatched_isConsistent _ plain
  | exchangers lengths =>
      cases answer with
      | timeout note => exact plain.fail (.unanswered _)
      | records hosts =>
          simp only [receive, receiveExchangers]
          split
          · exact plain.fail (.tooManyExchangers _)
          · exact askExchangerAddresses_isConsistent _ _ plain
  | exchangerAddresses lengths pending =>
      cases answer with
      | timeout note => exact plain.fail (.unanswered _)
      | records records =>
          simp only [receive, receiveExchangerAddresses, isClient]
          split
          · exact setMatched_isConsistent true plain
          · exact askExchangerAddresses_isConsistent _ _ plain
  | hostNames target =>
      cases answer with
      | timeout note => exact setMatched_isConsistent false plain
      | records names => exact askHostAddresses_isConsistent _ _ plain
  | hostAddresses target candidate pending =>
      cases answer with
      | timeout note => exact askHostAddresses_isConsistent _ _ plain
      | records records =>
          simp only [receive, receiveHostAddresses, isClient]
          split
          · exact setMatched_isConsistent true plain
          · exact askHostAddresses_isConsistent _ _ plain
  | existence =>
      cases answer with
      | timeout note => exact plain.fail (.unanswered _)
      | records records => exact setMatched_isConsistent _ plain
  | explanationTexts =>
      simp only [receive, receiveExplanationTexts]
      split
      · exact prepareExplanation_isConsistent _ plain
      · exact plain.consistent
  | clientNames => cases noClient
  | clientAddresses candidate pending => cases noClient
  | _ => cases noRecord

/-! ## All answers -/

/-- Receiving the answer that is awaited. -/
theorem receive_isConsistent {awaiting : Awaiting} (known : state.identity.client.isSome = true)
    (awaits : state.AwaitsWith environment awaiting) :
    (receive environment answer state awaiting).IsConsistent environment
      awaiting.expandsExplanation := by
  cases awaits with
  | record finds tasks parses parse fits plain =>
      exact receive_record_isConsistent answer finds ⟨known, ⟨_, tasks, plain⟩, parses⟩ parse fits
  | client finds tasks prepared expandable expands unknown plain =>
      rcases receive_walks answer known finds with ⟨domain, ended⟩ | ⟨lookup, findsNext, asks⟩
      · rw [ended]
        exact ⟨known, [_], _, tasks, .prepared prepared expandable
          fun mode text _ => expand_of_clientDomain domain mode text, plain⟩
      · rw [asks]
        exact ⟨known, .client findsNext tasks prepared expandable expands unknown plain⟩
  | other noRecord noClient plain =>
      exact receive_plain_isConsistent answer noRecord noClient ⟨known, plain⟩

end

end SenderPolicy.Check
