import SenderPolicy.Proofs.Check.Keeping

/-!
# Where the record at hand comes from

A record comes to hand when a stage reads it from a text. From then on it stays as it is until
its evaluation begins, except that the stage that admits forwarders may put the forwarder's
directive in front of the last one.
-/

namespace SenderPolicy.Check

/-- The record at hand, if it has been read. -/
def State.record? (state : State) : Option Record :=
  match state.slot with
  | some (.policy policy) => some policy.record
  | _ => none

/-- The task is a step that obtains or completes a record. -/
def Task.isStage : Task → Bool
  | .stage _ => true
  | _ => false

section
variable {environment : Environment} {state : State}

/-! ## Tasks that leave the slot -/

theorem prepareExpansion_slot (mode : Macro.Mode) (text : Text) :
    (state.prepareExpansion environment mode text).state.slot = state.slot := by
  unfold State.prepareExpansion
  split
  · rfl
  · rfl
  · split <;> rfl

theorem askHost_slot (host : Text) (type : Dns.RecordType) (awaiting : Awaiting) :
    (askHost host type awaiting state).state.slot = state.slot := by
  unfold askHost
  split <;> rfl

theorem beginTerm_slot (half : Task) (spec : Option Text) :
    (beginTerm environment half spec state).state.slot = state.slot := by
  simp only [beginTerm]
  split
  · rfl
  · split
    · rfl
    · exact prepareExpansion_slot _ _

theorem beginMechanism_slot (mechanism : Mechanism) :
    (beginMechanism environment state mechanism).state.slot = state.slot := by
  cases asks : mechanism.asksDns with
  | true =>
      rw [beginMechanism_of_asksDns asks]
      exact beginTerm_slot _ _
  | false =>
      cases mechanism with
      | all => rfl
      | network range =>
          simp only [beginMechanism]
          split <;> rfl
      | _ => cases asks

theorem continueMechanism_slot (mechanism : Mechanism) :
    (continueMechanism environment mechanism state).state.slot = state.slot := by
  unfold continueMechanism
  split
  · rfl
  · split
    · unfold compareHost
      split
      · rfl
      · exact askHost_slot _ _ _
    · rfl
    · exact askHost_slot _ _ _
    · rfl
    · rfl
    · rfl
    · exact askHost_slot _ _ _
    · rfl
    · rfl

theorem beginModifier_slot (modifier : Modifier) :
    (beginModifier environment state modifier).state.slot = state.slot := by
  cases modifier with
  | redirect spec =>
      by_cases opened : state.isOpen = true
      · rw [beginModifier_redirect opened]
        exact beginTerm_slot _ _
      · rw [beginModifier, if_neg opened]
        rfl
  | exp spec =>
      simp only [beginModifier]
      split
      · exact prepareExpansion_slot _ _
      · rfl
  | unknown name value => rfl

theorem explain_slot (text : Text) : (explain environment text state).state.slot = state.slot := by
  unfold explain
  split <;> rfl

theorem runHook_slot (hook : Hook) :
    (runHook environment state hook).state.slot = state.slot := by
  cases hook with
  | neutralIfUnmatched => rfl
  | defaultExplanation text =>
      simp only [runHook]
      split
      · exact prepareExpansion_slot _ _
      · rfl

/-- A task that is no stage leaves the slot as it is or empties it. -/
theorem runTask_slot {task : Task} (other : task.isStage = false) :
    (runTask environment state task).state.slot = state.slot
      ∨ (runTask environment state task).state.slot = none := by
  cases task with
  | conclude => exact .inl rfl
  | evaluateDomain =>
      simp only [runTask]
      split
      · exact .inr rfl
      · exact .inl rfl
  | stage stage => cases other
  | evaluateRecord =>
      right
      simp only [runTask]
      split <;> rfl
  | directive directive =>
      left
      simp only [runTask]
      split <;> rfl
  | settle qualifier =>
      left
      simp only [runTask]
      split <;> rfl
  | mechanism mechanism => exact .inl (beginMechanism_slot mechanism)
  | expandedMechanism mechanism => exact .inl (continueMechanism_slot mechanism)
  | leaveInclude frame => exact .inl rfl
  | modifier modifier => exact .inl (beginModifier_slot modifier)
  | followRedirect spec =>
      left
      simp only [runTask, followRedirect]
      split <;> rfl
  | leaveRedirect => exact .inl rfl
  | askExplanation spec =>
      left
      simp only [runTask, askExplanation]
      split <;> rfl
  | explain text => exact .inl (explain_slot text)
  | guardExplanation => exact .inl rfl
  | hook hook => exact .inl (runHook_slot hook)

/-! ## Answers -/

/-- The slot is as it was, or holds a text. -/
def State.KeepsSlot (base after : State) : Prop :=
  after.slot = base.slot ∨ ∃ text, after.slot = some (.text text)

theorem receiveRecords_keepsSlot {answer : Dns.Answer} {next : Option Text → Reaction}
    (each : ∀ found, state.KeepsSlot (next found).state) :
    state.KeepsSlot (receiveRecords answer state next).state := by
  unfold receiveRecords
  split
  · exact .inl rfl
  · split
    · exact .inl rfl
    · exact each _

theorem keepRecordText_keepsSlot (found : Option Text) :
    state.KeepsSlot (keepRecordText found state) := by
  cases found with
  | none => exact .inl rfl
  | some text => exact .inr ⟨text, rfl⟩

theorem askRecords_slot (type : Dns.RecordType) (awaiting : Awaiting) :
    (askRecords type awaiting state).state.slot = state.slot := by
  unfold askRecords
  split <;> rfl

theorem askExchangerAddresses_slot (lengths : PrefixLengths) (hosts : List Text) :
    (askExchangerAddresses lengths hosts state).state.slot = state.slot := by
  unfold askExchangerAddresses
  split
  · rfl
  · split <;> rfl

theorem askHostAddresses_slot (target : Text) (names : List Text) :
    (askHostAddresses target names state).state.slot = state.slot := by
  unfold askHostAddresses
  split
  · rfl
  · split <;> rfl

theorem askClientAddresses_slot (names : List Text) :
    (askClientAddresses names state).state.slot = state.slot := by
  unfold askClientAddresses
  split
  · rfl
  · split <;> rfl

/-- An answer leaves the slot as it is or puts a text there. -/
theorem receive_keepsSlot (answer : Dns.Answer) (awaiting : Awaiting) :
    state.KeepsSlot (receive environment answer state awaiting).state := by
  cases awaiting with
  | spfRecords =>
      refine receiveRecords_keepsSlot fun found => ?_
      cases found with
      | none => exact .inl (askRecords_slot _ _)
      | some text => exact keepRecordText_keepsSlot (some text)
  | txtRecords => exact receiveRecords_keepsSlot fun found => keepRecordText_keepsSlot _
  | strictSpfRecords => exact receiveRecords_keepsSlot fun found => .inl rfl
  | strictTxtRecords spf =>
      refine receiveRecords_keepsSlot fun found => ?_
      split
      · exact .inl rfl
      · exact keepRecordText_keepsSlot _
  | addresses lengths =>
      left
      simp only [receive, receiveAddresses]
      (repeat' split) <;> rfl
  | exchangers lengths =>
      left
      simp only [receive, receiveExchangers]
      (repeat' split) <;> first | rfl | exact askExchangerAddresses_slot _ _
  | exchangerAddresses lengths pending =>
      left
      simp only [receive, receiveExchangerAddresses]
      (repeat' split) <;> first | rfl | exact askExchangerAddresses_slot _ _
  | hostNames target =>
      left
      simp only [receive, receiveHostNames]
      split <;> first | rfl | exact askHostAddresses_slot _ _
  | hostAddresses target candidate pending =>
      left
      simp only [receive, receiveHostAddresses]
      (repeat' split) <;> first | rfl | exact askHostAddresses_slot _ _
  | existence =>
      left
      simp only [receive, receiveExistence]
      split <;> rfl
  | explanationTexts =>
      left
      simp only [receive, receiveExplanationTexts]
      split
      · exact prepareExpansion_slot _ _
      · rfl
  | clientNames =>
      left
      simp only [receive, receiveClientNames]
      split
      · rfl
      · exact askClientAddresses_slot _
  | clientAddresses candidate pending =>
      left
      simp only [receive, receiveClientAddresses]
      (repeat' split) <;> first | rfl | exact askClientAddresses_slot _

/-! ## Stages -/

/-- A record that is at hand after a stage was at hand before, or has been read from a text. -/
def State.TakesRecord (base after : State) : Prop :=
  ∀ record, after.record? = some record →
    base.record? = some record ∨ base.record? = none ∧ ∃ text, Record.read text = .ok record

theorem takesRecord_of_slot {base after : State} (same : after.slot = base.slot) :
    base.TakesRecord after := by
  intro record held
  rw [State.record?, same] at held
  exact .inl held

theorem useRecordText_takesRecord (text : Text) (fresh : state.record? = none) :
    state.TakesRecord (useRecordText text state).state := by
  intro record held
  unfold useRecordText at held
  split at held
  · exact .inl held
  · rename_i other read
    cases held
    exact .inr ⟨fresh, text, read⟩

theorem useLocalRecord_takesRecord (source : Option RecordSource) :
    state.TakesRecord (useLocalRecord source state).state := by
  unfold useLocalRecord
  split
  · exact takesRecord_of_slot rfl
  · rename_i empty
    split
    · exact takesRecord_of_slot rfl
    · refine useRecordText_takesRecord _ ?_
      rw [State.record?, Option.not_isSome_iff_eq_none.mp empty]

/-- Adding a hook leaves the record as it is. -/
theorem changePolicy_takesRecord {change : Policy → Policy}
    (same : ∀ policy, (change policy).record = policy.record) :
    state.TakesRecord (changePolicy change state) := by
  intro record held
  left
  unfold changePolicy at held
  split at held
  · rename_i policy slot
    change some (change policy).record = some record at held
    rw [State.record?, slot, ← held, same]
  · exact held

/-- A stage other than the one that admits forwarders reads records or leaves them. -/
theorem runStage_takesRecord {stage : Stage} (other : stage ≠ .trustedForwarder) :
    state.TakesRecord (runStage environment state stage).state := by
  cases stage with
  | override => exact useLocalRecord_takesRecord _
  | initialChecks =>
      simp only [runStage]
      (repeat' split) <;> exact takesRecord_of_slot rfl
  | retrieve => exact takesRecord_of_slot (askRecords_slot _ _)
  | retrieveStrict => exact takesRecord_of_slot (askRecords_slot _ _)
  | bestGuess =>
      intro record held
      left
      cases slot : state.slot with
      | none => simp [runStage, Reaction.state, State.record?, slot] at held
      | some content => simpa [runStage, Reaction.state, State.record?, slot] using held
  | parseRecord =>
      simp only [runStage]
      split
      · rename_i text slot
        refine useRecordText_takesRecord _ ?_
        rw [State.record?, slot]
      · exact takesRecord_of_slot rfl
  | fallback => exact useLocalRecord_takesRecord _
  | noRecordFound =>
      simp only [runStage]
      split <;> exact takesRecord_of_slot rfl
  | trustedForwarder => exact absurd rfl other
  | neutralIfUnmatched =>
      refine changePolicy_takesRecord fun policy => ?_
      split <;> rfl
  | defaultExplanation => exact changePolicy_takesRecord fun policy => rfl

end

end SenderPolicy.Check
