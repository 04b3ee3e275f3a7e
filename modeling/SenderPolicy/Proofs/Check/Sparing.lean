import SenderPolicy.Proofs.Check.Budget.Basic
import SenderPolicy.Proofs.Check.Terms

/-!
# What most turns spare

Only settled directives, hooks and the two ends of an include change the verdict. Only the answers
about the client's names teach its domain, and the walk through these names begins in one way only:
with the question for them. `runTask_spares` and `receive_spares` say so of every other task and
every other answer.
-/

namespace SenderPolicy.Check

/-- The task may change the verdict. -/
def Task.changesVerdict : Task → Bool
  | .settle _ | .leaveInclude _ | .expandedMechanism (.include _) | .hook .neutralIfUnmatched =>
      true
  | _ => false

/-- The verdict and the client's domain are as they were, and the receiver's name is what it was or
what looking it up gives. -/
structure State.Spares (environment : Environment) (base state : State) : Prop where
  identity : state.identity = base.identity
  verdict : state.verdict = base.verdict
  clientDomain : state.clientDomain = base.clientDomain
  receiver : state.receiver = base.receiver
    ∨ state.receiver = Macro.findReceiver environment.localNames base.receiver

/-- If a lookup is about the client's names, it is the first one, for all of them. -/
def Lookup.BeginsWalk (lookup : Lookup) (identity : Identity) : Prop :=
  lookup.awaiting.findsClient = true →
    ∃ client, identity.client = some client
      ∧ lookup = ⟨⟨client.reverseName, .ptr⟩, .clientNames⟩

/-- Every outcome of a reaction spares the verdict and what is known. -/
def Reaction.Spares (environment : Environment) (base : State) : Reaction → Prop
  | .proceed state => base.Spares environment state
  | .ask state lookup => base.Spares environment state ∧ lookup.BeginsWalk base.identity
  | .fail state _ => base.Spares environment state

section
variable {environment : Environment} {base state : State}

namespace State.Spares

theorem refl (state : State) : state.Spares environment state := ⟨rfl, rfl, rfl, .inl rfl⟩

/-- Other fields may change. -/
theorem change {after : State} (spared : base.Spares environment state)
    (identity : after.identity = state.identity) (verdict : after.verdict = state.verdict)
    (clientDomain : after.clientDomain = state.clientDomain)
    (receiver : after.receiver = state.receiver) : base.Spares environment after :=
  ⟨identity.trans spared.identity, verdict.trans spared.verdict,
    clientDomain.trans spared.clientDomain, receiver ▸ spared.receiver⟩

/-- Looking up the receiver's name again gives the same name. -/
theorem afterExpansion (spared : base.Spares environment state) (mode : Macro.Mode)
    (text : Text) : base.Spares environment (state.afterExpansion environment mode text) := by
  have looked : (state.afterExpansion environment mode text).receiver = state.receiver
      ∨ (state.afterExpansion environment mode text).receiver
        = Macro.findReceiver environment.localNames state.receiver := by
    show Macro.receiverAfter _ _ _ _ = _ ∨ Macro.receiverAfter _ _ _ _ = _
    unfold Macro.receiverAfter
    split
    · exact .inr rfl
    · exact .inl rfl
  refine ⟨spared.identity, spared.verdict, spared.clientDomain, ?_⟩
  rcases looked with same | found
  · exact same ▸ spared.receiver
  · right
    rw [found]
    rcases spared.receiver with same | again
    · rw [same]
    · rw [again]
      cases base.receiver <;> simp [Macro.findReceiver]

/-- Another question than the one for the client's names may be asked. -/
theorem ask (spared : base.Spares environment state) {lookup : Lookup}
    (other : lookup.awaiting.findsClient = false) :
    Reaction.Spares environment base (.ask state lookup) :=
  ⟨spared, fun finds => Bool.noConfusion (other.symm.trans finds)⟩

end State.Spares

/-! ## Steps of a task -/

theorem prepareExpansion_spares (mode : Macro.Mode) (text : Text)
    (spared : base.Spares environment state) :
    (state.prepareExpansion environment mode text).Spares environment base := by
  have after := spared.afterExpansion mode text
  unfold State.prepareExpansion
  split
  · exact after
  · exact after
  · split
    · exact after
    · rename_i client known
      exact ⟨after, fun _ => ⟨client, spared.identity ▸ known, rfl⟩⟩

theorem setMatched_spares (matched : Bool) (spared : base.Spares environment state) :
    (setMatched matched state).Spares environment base :=
  spared.change rfl rfl rfl rfl

theorem askHost_spares {host : Text} {type : Dns.RecordType} {awaiting : Awaiting}
    (other : awaiting.findsClient = false) (spared : base.Spares environment state) :
    (askHost host type awaiting state).Spares environment base := by
  unfold askHost
  split
  · exact spared.ask other
  · exact setMatched_spares _ spared

theorem useRecordText_spares (text : Text) (spared : base.Spares environment state) :
    (useRecordText text state).Spares environment base := by
  unfold useRecordText
  split
  · exact spared
  · exact spared.change rfl rfl rfl rfl

theorem useLocalRecord_spares (source : Option RecordSource)
    (spared : base.Spares environment state) :
    (useLocalRecord source state).Spares environment base := by
  unfold useLocalRecord
  split
  · exact spared
  · split
    · exact spared
    · exact useRecordText_spares _ spared

theorem askRecords_spares (type : Dns.RecordType) {awaiting : Awaiting}
    (other : awaiting.findsClient = false) (spared : base.Spares environment state) :
    (askRecords type awaiting state).Spares environment base := by
  unfold askRecords
  split
  · exact spared
  · exact spared.ask other

theorem changePolicy_spares (change : Policy → Policy) (spared : base.Spares environment state) :
    base.Spares environment (changePolicy change state) := by
  unfold changePolicy
  split
  · exact spared.change rfl rfl rfl rfl
  · exact spared

theorem runStage_spares (stage : Stage) (spared : base.Spares environment state) :
    (runStage environment state stage).Spares environment base := by
  cases stage with
  | override => exact useLocalRecord_spares _ spared
  | initialChecks =>
      simp only [runStage]
      split
      · exact spared
      · split <;> exact spared
  | retrieve => exact askRecords_spares _ rfl spared
  | retrieveStrict => exact askRecords_spares _ rfl spared
  | bestGuess => exact spared.change rfl rfl rfl rfl
  | parseRecord =>
      simp only [runStage]
      split
      · exact useRecordText_spares _ spared
      · exact spared
  | fallback => exact useLocalRecord_spares _ spared
  | noRecordFound =>
      simp only [runStage]
      split <;> exact spared
  | trustedForwarder =>
      simp only [runStage]
      split
      · exact changePolicy_spares _ spared
      · exact spared
  | neutralIfUnmatched => exact changePolicy_spares _ spared
  | defaultExplanation => exact changePolicy_spares _ spared

theorem beginTerm_spares (half : Task) (spec : Option Text)
    (spared : base.Spares environment state) :
    (beginTerm environment half spec state).Spares environment base := by
  have counted : base.Spares environment state.countLookup := spared.change rfl rfl rfl rfl
  have pushed : base.Spares environment (state.countLookup.push half) :=
    counted.change rfl rfl rfl rfl
  simp only [beginTerm]
  split
  · exact counted
  · split
    · exact pushed
    · exact prepareExpansion_spares _ _ pushed

theorem beginMechanism_spares (mechanism : Mechanism) (spared : base.Spares environment state) :
    (beginMechanism environment state mechanism).Spares environment base := by
  cases asks : mechanism.asksDns with
  | true =>
      rw [beginMechanism_of_asksDns asks]
      exact beginTerm_spares _ _ spared
  | false =>
      cases mechanism with
      | all => exact setMatched_spares _ spared
      | network range =>
          simp only [beginMechanism]
          split
          · exact spared
          · exact setMatched_spares _ spared
      | _ => cases asks

theorem continueMechanism_spares {mechanism : Mechanism}
    (other : (Task.expandedMechanism mechanism).changesVerdict = false)
    (spared : base.Spares environment state) :
    (continueMechanism environment mechanism state).Spares environment base := by
  unfold continueMechanism
  split
  · exact spared
  · split
    · simp only [compareHost]
      split
      · exact setMatched_spares _ spared
      · exact askHost_spares rfl spared
    · exact spared
    · exact askHost_spares rfl spared
    · exact spared.ask rfl
    · exact spared
    · cases other
    · exact askHost_spares rfl spared
    · exact spared
    · exact spared

theorem beginModifier_spares (modifier : Modifier) (spared : base.Spares environment state) :
    (beginModifier environment state modifier).Spares environment base := by
  cases modifier with
  | redirect spec =>
      by_cases opened : state.isOpen = true
      · rw [beginModifier_redirect opened]
        exact beginTerm_spares _ _ spared
      · rw [beginModifier, if_neg opened]
        exact spared
  | exp spec =>
      simp only [beginModifier]
      split
      · exact prepareExpansion_spares _ _ (spared.change rfl rfl rfl rfl)
      · exact spared
  | unknown name value => exact spared

theorem prepareExplanation_spares (text : Text) (spared : base.Spares environment state) :
    (prepareExplanation environment text state).Spares environment base :=
  prepareExpansion_spares _ _ (spared.change rfl rfl rfl rfl)

theorem explain_spares (text : Text) (spared : base.Spares environment state) :
    (explain environment text state).Spares environment base := by
  have after := spared.afterExpansion .explanation text
  unfold explain
  split
  · exact after.change rfl rfl rfl rfl
  · exact after
  · exact after

/-- A task that does not change the verdict. -/
theorem runTask_spares {task : Task} (other : task.changesVerdict = false) (state : State) :
    (runTask environment state task).Spares environment state := by
  have spared : state.Spares environment state := .refl state
  cases task with
  | conclude => exact spared.change rfl rfl rfl rfl
  | evaluateDomain =>
      simp only [runTask]
      split
      · exact spared.change rfl rfl rfl rfl
      · exact spared
  | stage stage => exact runStage_spares stage spared
  | evaluateRecord =>
      simp only [runTask]
      split <;> exact spared.change rfl rfl rfl rfl
  | directive directive =>
      simp only [runTask]
      split
      · exact spared.change rfl rfl rfl rfl
      · exact spared
  | settle qualifier => cases other
  | mechanism mechanism => exact beginMechanism_spares mechanism spared
  | expandedMechanism mechanism => exact continueMechanism_spares other spared
  | leaveInclude frame => cases other
  | modifier modifier => exact beginModifier_spares modifier spared
  | followRedirect spec =>
      simp only [runTask, followRedirect]
      split
      · exact spared
      · exact spared.change rfl rfl rfl rfl
  | leaveRedirect => exact spared
  | askExplanation spec =>
      simp only [runTask, askExplanation]
      split
      · exact spared
      · exact spared.ask rfl
  | explain text => exact explain_spares text spared
  | guardExplanation => exact spared
  | hook hook =>
      cases hook with
      | neutralIfUnmatched => cases other
      | defaultExplanation text =>
          simp only [runTask, runHook]
          split
          · exact prepareExplanation_spares text (spared.change rfl rfl rfl rfl)
          · exact spared

/-! ## Answers -/

theorem receiveRecords_spares {answer : Dns.Answer} {next : Option Text → Reaction}
    (spared : base.Spares environment state)
    (each : ∀ found, (next found).Spares environment base) :
    (receiveRecords answer state next).Spares environment base := by
  unfold receiveRecords
  split
  · exact spared
  · split
    · exact spared
    · exact each _

theorem keepRecordText_spares (found : Option Text) (spared : base.Spares environment state) :
    base.Spares environment (keepRecordText found state) := by
  cases found with
  | none => exact spared
  | some text => exact spared.change rfl rfl rfl rfl

theorem askExchangerAddresses_spares (lengths : PrefixLengths) (hosts : List Text)
    (spared : base.Spares environment state) :
    (askExchangerAddresses lengths hosts state).Spares environment base := by
  unfold askExchangerAddresses
  split
  · exact spared
  · split
    · exact setMatched_spares _ spared
    · exact spared.ask rfl

theorem askHostAddresses_spares (target : Text) (names : List Text)
    (spared : base.Spares environment state) :
    (askHostAddresses target names state).Spares environment base := by
  unfold askHostAddresses
  split
  · exact spared
  · split
    · exact setMatched_spares _ spared
    · exact spared.ask rfl

/-- An answer that is not about the client's names. -/
theorem receive_spares (answer : Dns.Answer) {awaiting : Awaiting}
    (other : awaiting.findsClient = false) (state : State) :
    (receive environment answer state awaiting).Spares environment state := by
  have spared : state.Spares environment state := .refl state
  cases awaiting with
  | spfRecords =>
      refine receiveRecords_spares spared fun found => ?_
      cases found with
      | none => exact askRecords_spares _ rfl spared
      | some text => exact keepRecordText_spares _ spared
  | txtRecords => exact receiveRecords_spares spared fun found => keepRecordText_spares _ spared
  | strictSpfRecords => exact receiveRecords_spares spared fun found => spared.ask rfl
  | strictTxtRecords spf =>
      refine receiveRecords_spares spared fun found => ?_
      split
      · exact spared
      · exact keepRecordText_spares _ spared
  | addresses lengths =>
      simp only [receive, receiveAddresses]
      split
      · exact spared
      · split
        · exact spared
        · exact setMatched_spares _ spared
  | exchangers lengths =>
      simp only [receive, receiveExchangers]
      split
      · exact spared
      · split
        · exact spared
        · exact askExchangerAddresses_spares _ _ spared
  | exchangerAddresses lengths pending =>
      simp only [receive, receiveExchangerAddresses]
      split
      · exact spared
      · split
        · exact spared
        · split
          · exact setMatched_spares _ spared
          · exact askExchangerAddresses_spares _ _ spared
  | hostNames target =>
      simp only [receive, receiveHostNames]
      split
      · exact setMatched_spares _ spared
      · exact askHostAddresses_spares _ _ spared
  | hostAddresses target candidate pending =>
      simp only [receive, receiveHostAddresses]
      split
      · exact askHostAddresses_spares _ _ spared
      · split
        · exact spared
        · split
          · exact setMatched_spares _ spared
          · exact askHostAddresses_spares _ _ spared
  | existence =>
      simp only [receive, receiveExistence]
      split
      · exact spared
      · exact setMatched_spares _ spared
  | explanationTexts =>
      simp only [receive, receiveExplanationTexts]
      split
      · exact prepareExplanation_spares _ spared
      · exact spared
  | clientNames => cases other
  | clientAddresses candidate pending => cases other

end

end SenderPolicy.Check
