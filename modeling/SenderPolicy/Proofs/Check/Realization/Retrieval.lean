import SenderPolicy.Proofs.Check.Realization.Endings
import SenderPolicy.Proofs.Check.Retrieval.Groups

/-!
# The stages obtain a domain's record

The stages that the options leave out would do nothing, and those after the one that finds a
record leave it as it is. So whatever the options are, the stages carry out `obtainRecord`, and
the last of them complete the record and add its hooks.
-/

namespace SenderPolicy.Direct

open SenderPolicy.Check
open Evaluation

section
variable {setting : Setting} {level : Level} {β : Type} {below rest : List Task}
  {done : β → Ledger → State → Prop} {ledger : Ledger} {state : State} {domain : Text}

/-- Stages that only supply a record leave the one at hand as it is. -/
theorem realizes_suppliers {evaluation : Evaluation β} {policy : Policy} (stages : List Stage)
    (suppliers : ∀ stage ∈ stages, isSupplier stage)
    (stands : Stands setting level ledger domain none state)
    (tasks : state.tasks = stages.map Task.stage ++ rest)
    (slot : state.slot = some (.policy policy))
    (continues : ∀ after : State, after.tasks = rest → after.slot = some (.policy policy) →
      Stands setting level ledger domain none after →
      Realizes setting level below done (.running after) evaluation ledger) :
    Realizes setting level below done (.running state) evaluation ledger := by
  induction stages generalizing state with
  | nil => exact continues state tasks slot stands
  | cons stage stages inductionHypothesis =>
      rw [List.map_cons, List.cons_append] at tasks
      have supplied := runStage_supplied setting.environment
        { state with tasks := stages.map Task.stage ++ rest } slot
        (suppliers stage (List.mem_cons_self ..))
      apply realizes_run tasks
      rw [runTask, supplied]
      exact inductionHypothesis
        (fun other member => suppliers other (List.mem_cons_of_mem _ member))
        (stands.update _ _ _ _) rfl slot

/-! ## Records of local sources -/

/-- What follows a record that has been read. -/
def RecordRead (setting : Setting) (level : Level) (below : List Task)
    (done : β → Ledger → State → Prop) (state : State) (ledger : Ledger)
    (next : Record → Evaluation β) : Prop :=
  ∀ record, Modifier.Compatible record.modifiers →
    Realizes setting level below done
      (.running { state with slot := some (.policy ⟨record, []⟩) }) (next record) ledger

theorem realizes_useRecordText {next : Record → Evaluation β} (text : Text)
    (clear : Clear state.tasks below) (stands : Stands setting level ledger domain none state)
    (continues : RecordRead setting level below done state ledger next) :
    Realizes setting level below done (useRecordText text state).settle.position
      (recordOf text >>= next) ledger := by
  unfold useRecordText recordOf
  cases reads : Record.read text with
  | error failure => exact realizes_fail rfl rfl clear stands.toCarries
  | ok record => exact continues record (Record.compatible_of_read reads)

theorem realizes_localRecord {next : Option Record → Evaluation β} (source : Option RecordSource)
    (stands : Stands setting level ledger domain none state) (missing : state.slot = none)
    (clear : Clear state.tasks below)
    (absent : Realizes setting level below done (.running state) (next none) ledger)
    (present : RecordRead setting level below done state ledger (next ∘ some)) :
    Realizes setting level below done (useLocalRecord source state).settle.position
      (localRecord source domain >>= next) ledger := by
  unfold useLocalRecord localRecord
  rw [missing, stands.domain]
  cases source.bind fun records => records domain with
  | none => exact absent
  | some text =>
      simp only [bind_assoc]
      exact realizes_useRecordText text clear stands present

/-! ## Published records -/

/-- What follows a search for a text, which has not changed the stack. -/
def TextContinues (setting : Setting) (level : Level) (below : List Task)
    (done : β → Ledger → State → Prop) (tasks : List Task) (domain : Text)
    (next : Option Text → Evaluation β) : Prop :=
  ∀ found later after, after.tasks = tasks → after.slot = found.map Slot.text →
    Stands setting level later domain none after →
    Realizes setting level below done (.running after) (next found) later

theorem realizes_keepRecordText {next : Option Text → Evaluation β} (found : Option Text)
    (missing : state.slot = none) (stands : Stands setting level ledger domain none state)
    (continues : TextContinues setting level below done state.tasks domain next) :
    Realizes setting level below done (.running (keepRecordText found state)) (next found)
      ledger := by
  cases found with
  | none => exact continues none ledger state rfl missing stands
  | some text => exact continues (some text) ledger _ rfl rfl (stands.update _ _ _ _)

/-- An answer to a question for records is carried out if what it gives is. -/
theorem realizes_publishedIn {next : Option Text → Evaluation β}
    {react : Option Text → Reaction} (answer : Dns.Answer) (clear : Clear state.tasks below)
    (stands : Stands setting level ledger domain none state)
    (reacts : ∀ found, Realizes setting level below done (react found).settle.position
      (next found) ledger) :
    Realizes setting level below done (receiveRecords answer state react).settle.position
      (publishedIn domain answer >>= next) ledger := by
  unfold receiveRecords publishedIn
  rw [stands.domain]
  cases answer with
  | timeout note => exact realizes_fail rfl rfl clear stands.toCarries
  | records texts =>
      simp only
      cases publishedRecord texts with
      | error failure => exact realizes_fail rfl rfl clear stands.toCarries
      | ok found => exact reacts found

/-- The stage that retrieves asks for the published text. -/
theorem realizes_publishedText {next : Option Text → Evaluation β}
    (stands : Stands setting level ledger domain none state) (missing : state.slot = none)
    (clear : Clear state.tasks below)
    (continues : TextContinues setting level below done state.tasks domain next) :
    Realizes setting level below done
      (runStage setting.environment state
        (if setting.environment.options.strict then .retrieveStrict else .retrieve)).settle.position
      (publishedText setting domain >>= next) ledger := by
  unfold publishedText
  simp only [bind_assoc]
  split
  · simp only [runStage, askRecords, missing, stands.domain]
    apply realizes_ask clear.guardExplanation_notMem
    simp only [receive, receiveStrictSpfRecords]
    apply realizes_publishedIn _ clear (stands.asked _)
    intro spf
    simp only [stands.domain, bind_assoc]
    apply realizes_ask clear.guardExplanation_notMem
    simp only [receive, receiveStrictTxtRecords]
    apply realizes_publishedIn _ clear (stands.asked _)
    intro txt
    split
    · exact realizes_fail rfl rfl clear (stands.asked _).toCarries
    · exact realizes_keepRecordText _ missing (stands.asked _) continues
  · simp only [runStage, askRecords, missing, stands.domain]
    apply realizes_ask clear.guardExplanation_notMem
    simp only [receive, receiveSpfRecords]
    apply realizes_publishedIn _ clear (stands.asked _)
    intro spf
    cases spf with
    | some text => exact realizes_keepRecordText (some text) missing (stands.asked _) continues
    | none =>
        simp only [askRecords, missing, stands.domain, bind_assoc]
        apply realizes_ask clear.guardExplanation_notMem
        simp only [receive, receiveTxtRecords]
        apply realizes_publishedIn _ clear (stands.asked _)
        intro txt
        exact realizes_keepRecordText txt missing (stands.asked _) continues

/-! ## The record of a domain -/

/-- What follows a record that is ready to be completed. -/
def RecordContinues (setting : Setting) (level : Level) (below : List Task)
    (done : β → Ledger → State → Prop) (tasks : List Task) (domain : Text)
    (next : Record → Evaluation β) : Prop :=
  ∀ record later after, Modifier.Compatible record.modifiers → after.tasks = tasks →
    after.slot = some (.policy ⟨record, []⟩) → Stands setting level later domain none after →
    Realizes setting level below done (.running after) (next record) later

/-- Text at hand is read, and no other record is looked for. -/
theorem realizes_parseRecord {next : Record → Evaluation β} {text : Text} (clear : Clear rest below)
    (tasks : state.tasks = .stage .parseRecord
      :: ((fallbackStages setting.environment.options).map Task.stage ++ rest))
    (slot : state.slot = some (.text text))
    (stands : Stands setting level ledger domain none state)
    (continues : RecordContinues setting level below done rest domain next) :
    Realizes setting level below done (.running state) (recordOf text >>= next) ledger := by
  have passed : Clear
      ((fallbackStages setting.environment.options).map Task.stage ++ rest) below :=
    clear.append (by simp [isCatcher])
  apply realizes_run tasks
  simp only [runTask, runStage, slot]
  apply realizes_useRecordText text passed (stands.update _ _ _ _)
  intro record compatible
  apply realizes_suppliers _ isSupplier_of_mem_fallbackStages (stands.update _ _ _ _) rfl rfl
  intro after
  exact continues record ledger after compatible

/-- Without a text, only a record to fall back on is left. -/
theorem realizes_fallback {next : Record → Evaluation β} (clear : Clear rest below)
    (tasks : state.tasks = (fallbackStages setting.environment.options).map Task.stage ++ rest)
    (missing : state.slot = none) (stands : Stands setting level ledger domain none state)
    (continues : RecordContinues setting level below done rest domain next) :
    Realizes setting level below done (.running state)
      ((do
        match ← localRecord setting.environment.options.fallbacks domain with
        | some record => pure record
        | none => throw (.noRecordFound domain)) >>= next) ledger := by
  have givenUp {after : State} (tasks : after.tasks = .stage .noRecordFound :: rest)
      (missing : after.slot = none) (stands : Stands setting level ledger domain none after) :
      Realizes setting level below done (.running after)
        ((throw (.noRecordFound domain) : Evaluation Record) >>= next) ledger := by
    rw [← stands.domain]
    apply realizes_run tasks
    simp only [runTask, runStage, missing]
    exact realizes_fail rfl rfl clear (stands.update rest _ _ _).toCarries
  unfold fallbackStages at tasks
  rw [bind_assoc]
  cases source : setting.environment.options.fallbacks with
  | none =>
      rw [source] at tasks
      exact givenUp tasks missing stands
  | some records =>
      have stack : state.tasks = .stage .fallback :: .stage .noRecordFound :: rest := by
        simpa [source] using tasks
      apply realizes_run stack
      simp only [runTask, runStage, source]
      have passed : Clear (.stage .noRecordFound :: rest) below := clear.cons rfl
      have popped : Stands setting level ledger domain none
          { state with tasks := .stage .noRecordFound :: rest } := stands.update _ _ _ _
      apply realizes_localRecord (some records) popped missing passed
      · exact givenUp rfl missing (stands.update _ _ _ _)
      · intro record compatible
        apply realizes_suppliers [.noRecordFound] (by simp [isSupplier])
          (stands.update _ _ _ _) rfl rfl
        intro after
        exact continues record ledger after compatible

/-- After the retrieval the text that was found is read, or a record is found elsewhere. -/
theorem realizes_foreignRecord {next : Record → Evaluation β} (found : Option Text)
    (clear : Clear rest below)
    (tasks : state.tasks = (readingStages setting.environment.options).map Task.stage
      ++ ((fallbackStages setting.environment.options).map Task.stage ++ rest))
    (slot : state.slot = found.map Slot.text)
    (stands : Stands setting level ledger domain none state)
    (continues : RecordContinues setting level below done rest domain next) :
    Realizes setting level below done (.running state)
      (foreignRecord setting domain found >>= next) ledger := by
  unfold readingStages at tasks
  cases guesses : setting.environment.options.bestGuess with
  | true =>
      rw [guesses] at tasks
      apply realizes_run tasks
      cases found with
      | some text =>
          apply realizes_parseRecord clear rfl _ (stands.update _ _ _ _) continues
          show (state.slot <|> _) = _
          rw [slot]
          rfl
      | none =>
          simp only [foreignRecord, guesses]
          apply realizes_parseRecord clear rfl _ (stands.update _ _ _ _) continues
          show (state.slot <|> _) = _
          rw [slot]
          rfl
  | false =>
      rw [guesses] at tasks
      cases found with
      | some text => exact realizes_parseRecord clear tasks slot stands continues
      | none =>
          apply realizes_run tasks
          simp only [runTask, runStage, slot, Option.map_none, foreignRecord, guesses]
          exact realizes_fallback clear rfl rfl (stands.update _ _ _ _) continues

/-- The stages after the local record, which goes first if there is one. -/
theorem realizes_initialChecks {next : Record → Evaluation β} (own : Option Record)
    (compatible : ∀ record ∈ own, Modifier.Compatible record.modifiers) (clear : Clear rest below)
    (tasks : state.tasks = .stage .initialChecks
      :: .stage (if setting.environment.options.strict then .retrieveStrict else .retrieve)
      :: ((readingStages setting.environment.options).map Task.stage
        ++ ((fallbackStages setting.environment.options).map Task.stage ++ rest)))
    (slot : state.slot = own.map fun record => .policy ⟨record, []⟩)
    (stands : Stands setting level ledger domain none state)
    (continues : RecordContinues setting level below done rest domain next) :
    Realizes setting level below done (.running state)
      ((if Domain.isFullyQualified domain then
          match own with
          | some record => pure record
          | none => publishedText setting domain >>= foreignRecord setting domain
        else
          throw (.notFullyQualified domain)) >>= next) ledger := by
  generalize retrieval : (if setting.environment.options.strict then Stage.retrieveStrict
    else .retrieve) = retrieving at tasks
  generalize choosing : (readingStages setting.environment.options).map Task.stage
    ++ ((fallbackStages setting.environment.options).map Task.stage ++ rest) = remaining at tasks
  have chosen : Clear remaining below :=
    choosing ▸ (clear.append (by simp [isCatcher])).append (by simp [isCatcher])
  have popped : Stands setting level ledger domain none
      { state with tasks := .stage retrieving :: remaining } := stands.update _ _ _ _
  apply realizes_run tasks
  simp only [runTask, runStage, stands.client, Option.isNone_some, Bool.false_eq_true, if_false]
  by_cases qualified : Domain.isFullyQualified state.domain
  · rw [if_pos qualified, if_pos (stands.domain ▸ qualified)]
    cases own with
    | some record =>
        have stages : remaining = (readingStages setting.environment.options
            ++ fallbackStages setting.environment.options).map Task.stage ++ rest := by
          rw [← choosing, List.map_append, List.append_assoc]
        apply realizes_suppliers (retrieving :: (readingStages setting.environment.options
          ++ fallbackStages setting.environment.options)) _ popped (congrArg _ stages) slot
        · intro after
          exact continues record ledger after (compatible record rfl)
        · intro stage member
          simp only [List.mem_cons, List.mem_append] at member
          rcases member with rfl | reads | falls
          · subst retrieval
            split <;> rfl
          · exact isSupplier_of_mem_readingStages stage reads
          · exact isSupplier_of_mem_fallbackStages stage falls
    | none =>
        have running : Stands setting level ledger domain none { state with tasks := remaining } :=
          stands.update _ _ _ _
        apply realizes_run rfl
        rw [bind_assoc, runTask, ← retrieval]
        apply realizes_publishedText running slot chosen
        intro found later after stack slot stands
        exact realizes_foreignRecord found clear (stack.trans choosing.symm) slot stands continues
  · rw [if_neg qualified, if_neg (stands.domain ▸ qualified), ← stands.domain]
    exact realizes_fail rfl rfl (chosen.cons rfl) popped.toCarries

/-- The stages from the first one on obtain a record. -/
theorem realizes_obtainRecord {next : Record → Evaluation β} (clear : Clear rest below)
    (tasks : state.tasks = (stages setting.environment.options).map Task.stage ++ rest)
    (missing : state.slot = none) (stands : Stands setting level ledger domain none state)
    (continues : RecordContinues setting level below done
      ((completingStages setting.environment.options).map Task.stage ++ rest) domain next) :
    Realizes setting level below done (.running state)
      (obtainRecord setting domain >>= next) ledger := by
  rw [stages_eq, List.map_append, List.append_assoc] at tasks
  simp only [List.map_cons, List.map_append, List.cons_append, List.append_assoc] at tasks
  have finished : Clear
      ((completingStages setting.environment.options).map Task.stage ++ rest) below :=
    clear.append (by simp [isCatcher])
  unfold obtainRecord
  rw [bind_assoc]
  cases source : setting.environment.options.overrides with
  | none =>
      rw [source] at tasks
      exact realizes_initialChecks none (by simp) finished tasks missing stands continues
  | some records =>
      rw [source] at tasks
      generalize checking : Task.stage .initialChecks
        :: Task.stage (if setting.environment.options.strict then .retrieveStrict else .retrieve)
        :: ((readingStages setting.environment.options).map Task.stage
          ++ ((fallbackStages setting.environment.options).map Task.stage
            ++ ((completingStages setting.environment.options).map Task.stage ++ rest)))
        = checks at tasks
      have checked : Clear checks below :=
        checking ▸ (((finished.append (by simp [isCatcher])).append (by simp [isCatcher])).cons
          rfl).cons rfl
      have popped : Stands setting level ledger domain none { state with tasks := checks } :=
        stands.update _ _ _ _
      apply realizes_run tasks
      simp only [runTask, runStage, source]
      apply realizes_localRecord (some records) popped missing checked
      · exact realizes_initialChecks none (by simp) finished checking.symm missing popped continues
      · intro record compatible
        exact realizes_initialChecks (some record) (by simpa using compatible) finished
          checking.symm rfl (stands.update _ _ _ _) continues

/-! ## Completing a record -/

/-- The hooks are added, and then the terms and hooks are put on the stack. -/
theorem realizes_addHooks {evaluation : Evaluation β} {record : Record}
    (tasks : state.tasks = .stage .neutralIfUnmatched :: .stage .defaultExplanation
      :: .evaluateRecord :: below)
    (slot : state.slot = some (.policy ⟨record, []⟩))
    (stands : Stands setting level ledger domain none state)
    (continues : ∀ after : State, after.tasks
        = policyTasks ⟨record, hooksOf setting.environment record⟩ ++ below →
      Stands setting level ledger domain none after →
      Realizes setting level below done (.running after) evaluation ledger) :
    Realizes setting level below done (.running state) evaluation ledger := by
  apply realizes_run tasks
  simp only [runTask, runStage, changePolicy, slot]
  apply realizes_run rfl
  simp only [runTask, runStage, changePolicy]
  apply realizes_run rfl
  simp only [runTask]
  apply continues _ _ (stands.update _ _ _ _)
  unfold hooksOf
  split <;> rfl

/-- The last stages complete a record. -/
theorem realizes_completing {evaluation : Evaluation β} {record : Record}
    (tasks : state.tasks = (completingStages setting.environment.options).map Task.stage
      ++ .evaluateRecord :: below)
    (slot : state.slot = some (.policy ⟨record, []⟩))
    (stands : Stands setting level ledger domain none state)
    (continues : ∀ after : State, after.tasks = policyTasks ⟨completed setting domain record,
        hooksOf setting.environment (completed setting domain record)⟩ ++ below →
      Stands setting level ledger domain none after →
      Realizes setting level below done (.running after) evaluation ledger) :
    Realizes setting level below done (.running state) evaluation ledger := by
  unfold completingStages at tasks
  have domain_eq : state.domain = domain := stands.domain
  have identity_eq : state.identity = setting.identity := stands.identity
  cases trusts : setting.environment.options.trustedForwarder with
  | false =>
      have same : completed setting domain record = record := by
        simp [completed, trusts]
      rw [trusts] at tasks
      exact realizes_addHooks tasks slot stands (same ▸ continues)
  | true =>
      have ran (tasks : List Task) :
          runTask setting.environment { state with tasks } (.stage .trustedForwarder)
            = .proceed { state with
                tasks
                slot := some (.policy ⟨completed setting domain record, []⟩) } := by
        simp only [runTask, runStage, completed, trusts, ← domain_eq, ← identity_eq]
        by_cases own : state.domain = state.identity.domain ∧ state.domain ≠ forwarderHost
        · by_cases strict : endsStrict record
          · rw [if_pos own, if_pos ⟨trivial, own.1, own.2, strict⟩]
            simp [changePolicy, slot, admitForwarder, strict]
          · rw [if_pos own, if_neg fun all => strict all.2.2.2]
            simp [changePolicy, slot, admitForwarder, strict]
        · rw [if_neg own, if_neg fun all => own ⟨all.2.1, all.2.2.1⟩, ← slot]
      rw [trusts] at tasks
      apply realizes_run tasks
      rw [ran]
      exact realizes_addHooks rfl rfl (stands.update _ _ _ _) continues

end

end SenderPolicy.Direct
