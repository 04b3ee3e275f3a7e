import SenderPolicy.Check.Engine
import SenderPolicy.Proofs.Check.Terms

/-!
# What sets whether a mechanism has matched

A mechanism that has nothing to ask and the second half of any other try their host: they set
whether they have matched, ask a question of their own, or fail, and change nothing else. So do the
answers to their questions. An include is entered instead, and what leaves it sets the match. No
other task and no other answer gives the state a match, and no other task asks such a question.
-/

namespace SenderPolicy.Check

/-- The answer is for a mechanism. -/
inductive Awaiting.IsFor : Mechanism → Awaiting → Prop where
  | addresses {spec : Option Text} {lengths : PrefixLengths} :
      IsFor (.a spec lengths) (.addresses lengths)
  | exchangers {spec : Option Text} {lengths : PrefixLengths} :
      IsFor (.mx spec lengths) (.exchangers lengths)
  | exchangerAddresses {spec : Option Text} {lengths : PrefixLengths} {pending : List Text} :
      IsFor (.mx spec lengths) (.exchangerAddresses lengths pending)
  | hostNames {spec : Option Text} {target : Text} : IsFor (.ptr spec) (.hostNames target)
  | hostAddresses {spec : Option Text} {target candidate : Text} {pending : List Text} :
      IsFor (.ptr spec) (.hostAddresses target candidate pending)
  | existence {spec : Text} : IsFor (.exists spec) .existence

/-- The answer is for no mechanism. -/
def Awaiting.isForOther : Awaiting → Bool
  | .addresses _ | .exchangers _ | .exchangerAddresses _ _ | .hostNames _ | .hostAddresses _ _ _
  | .existence => false
  | _ => true

/-- The task is a part of a mechanism. -/
def Task.isOfMechanism : Task → Bool
  | .mechanism _ | .expandedMechanism _ | .leaveInclude _ => true
  | _ => false

/-- A mechanism sets whether it has matched, asks a question of its own, or fails, and changes
nothing else. -/
inductive Reaction.Tries (mechanism : Mechanism) (base : State) : Reaction → Prop where
  | set (matched : Bool) : Tries mechanism base (setMatched matched base)
  | ask {lookup : Lookup} (isFor : lookup.awaiting.IsFor mechanism) :
      Tries mechanism base (.ask base lookup)
  | fail (failure : Failure) : Tries mechanism base (.fail base failure)

/-- No outcome of a reaction holds a match, and no question in it is for a mechanism. -/
def Reaction.IsUnmatched : Reaction → Prop
  | .proceed state => state.matched = none
  | .ask state lookup => state.matched = none ∧ lookup.awaiting.isForOther = true
  | .fail state _ => state.matched = none

section
variable {environment : Environment} {mechanism : Mechanism} {awaiting : Awaiting}

/-! ## Mechanisms -/

theorem askHost_tries {type : Dns.RecordType} (host : Text) (base : State)
    (isFor : awaiting.IsFor mechanism) :
    (askHost host type awaiting base).Tries mechanism base := by
  unfold askHost
  split
  · exact .ask isFor
  · exact .set _

/-- A mechanism that has nothing to ask. -/
theorem beginMechanism_tries (silent : mechanism.asksDns = false) (base : State) :
    (beginMechanism environment base mechanism).Tries mechanism base := by
  cases mechanism with
  | all => exact .set true
  | network range =>
      simp only [beginMechanism]
      split
      · exact .fail _
      · exact .set _
  | _ => cases silent

/-- The second half of a mechanism that enters no include. -/
theorem continueMechanism_tries (asks : mechanism.asksDns = true)
    (stays : ∀ spec, mechanism ≠ .include spec) (base : State) :
    (continueMechanism environment mechanism base).Tries mechanism base := by
  unfold continueMechanism
  split
  · exact .fail _
  · split
    · unfold compareHost
      split
      · exact .set _
      · exact askHost_tries _ base .addresses
    · exact .fail _
    · exact askHost_tries _ base .exchangers
    · exact .ask .hostNames
    · exact .fail _
    · exact absurd rfl (stays _)
    · exact askHost_tries _ base .existence
    · cases asks
    · cases asks

/-- The second half of an include enters it, or has no host to evaluate. -/
theorem continueMechanism_include (spec : Text) (base : State) :
    (∃ host, continueMechanism environment (.include spec) base = .proceed (enterInclude host base))
      ∨ ∃ failure, continueMechanism environment (.include spec) base = .fail base failure := by
  unfold continueMechanism
  split
  · exact .inr ⟨_, rfl⟩
  · exact .inl ⟨_, rfl⟩

theorem askExchangerAddresses_tries {spec : Option Text} (lengths : PrefixLengths)
    (hosts : List Text) (base : State) :
    (askExchangerAddresses lengths hosts base).Tries (.mx spec lengths) base := by
  unfold askExchangerAddresses
  split
  · exact .fail _
  · split
    · exact .set _
    · exact .ask .exchangerAddresses

theorem askHostAddresses_tries {spec : Option Text} (target : Text) (names : List Text)
    (base : State) : (askHostAddresses target names base).Tries (.ptr spec) base := by
  unfold askHostAddresses
  split
  · exact .fail _
  · split
    · exact .set _
    · exact .ask .hostAddresses

/-- The answer to a question of a mechanism. -/
theorem receive_tries (answer : Dns.Answer) (isFor : awaiting.IsFor mechanism) (base : State) :
    (receive environment answer base awaiting).Tries mechanism base := by
  cases isFor with
  | addresses =>
      simp only [receive, receiveAddresses]
      split
      · exact .fail _
      · split
        · exact .fail _
        · exact .set _
  | exchangers =>
      simp only [receive, receiveExchangers]
      split
      · exact .fail _
      · split
        · exact .fail _
        · exact askExchangerAddresses_tries _ _ base
  | exchangerAddresses =>
      simp only [receive, receiveExchangerAddresses]
      split
      · exact .fail _
      · split
        · exact .fail _
        · split
          · exact .set _
          · exact askExchangerAddresses_tries _ _ base
  | hostNames =>
      simp only [receive, receiveHostNames]
      split
      · exact .set _
      · exact askHostAddresses_tries _ _ base
  | hostAddresses =>
      simp only [receive, receiveHostAddresses]
      split
      · exact askHostAddresses_tries _ _ base
      · split
        · exact .fail _
        · split
          · exact .set _
          · exact askHostAddresses_tries _ _ base
  | existence =>
      simp only [receive, receiveExistence]
      split
      · exact .fail _
      · exact .set _

/-! ## Other tasks -/

variable {state : State} (unmatched : state.matched = none)
include unmatched

theorem prepareExpansion_isUnmatched (mode : Macro.Mode) (text : Text) :
    (state.prepareExpansion environment mode text).IsUnmatched := by
  unfold State.prepareExpansion
  split
  · exact unmatched
  · exact unmatched
  · split
    · exact unmatched
    · exact ⟨unmatched, rfl⟩

theorem useRecordText_isUnmatched (text : Text) : (useRecordText text state).IsUnmatched := by
  unfold useRecordText
  split <;> exact unmatched

theorem useLocalRecord_isUnmatched (source : Option RecordSource) :
    (useLocalRecord source state).IsUnmatched := by
  unfold useLocalRecord
  split
  · exact unmatched
  · split
    · exact unmatched
    · exact useRecordText_isUnmatched unmatched _

theorem askRecords_isUnmatched (type : Dns.RecordType) (other : awaiting.isForOther = true) :
    (askRecords type awaiting state).IsUnmatched := by
  unfold askRecords
  split
  · exact unmatched
  · exact ⟨unmatched, other⟩

theorem matched_changePolicy (change : Policy → Policy) :
    (changePolicy change state).matched = none := by
  unfold changePolicy
  split <;> exact unmatched

theorem runStage_isUnmatched (stage : Stage) :
    (runStage environment state stage).IsUnmatched := by
  cases stage with
  | override => exact useLocalRecord_isUnmatched unmatched _
  | initialChecks =>
      simp only [runStage]
      split
      · exact unmatched
      · split <;> exact unmatched
  | retrieve => exact askRecords_isUnmatched unmatched _ rfl
  | retrieveStrict => exact askRecords_isUnmatched unmatched _ rfl
  | bestGuess => exact unmatched
  | parseRecord =>
      simp only [runStage]
      split
      · exact useRecordText_isUnmatched unmatched _
      · exact unmatched
  | fallback => exact useLocalRecord_isUnmatched unmatched _
  | noRecordFound =>
      simp only [runStage]
      split <;> exact unmatched
  | trustedForwarder =>
      simp only [runStage]
      split
      · exact matched_changePolicy unmatched _
      · exact unmatched
  | neutralIfUnmatched => exact matched_changePolicy unmatched _
  | defaultExplanation => exact matched_changePolicy unmatched _

theorem beginTerm_isUnmatched (half : Task) (spec : Option Text) :
    (beginTerm environment half spec state).IsUnmatched := by
  simp only [beginTerm]
  split
  · exact unmatched
  · split
    · exact unmatched
    · refine prepareExpansion_isUnmatched ?_ _ _
      exact unmatched

theorem beginModifier_isUnmatched (modifier : Modifier) :
    (beginModifier environment state modifier).IsUnmatched := by
  cases modifier with
  | redirect spec =>
      by_cases opened : state.isOpen = true
      · rw [beginModifier_redirect opened]
        exact beginTerm_isUnmatched unmatched _ _
      · rw [beginModifier, if_neg opened]
        exact unmatched
  | exp spec =>
      simp only [beginModifier]
      split
      · refine prepareExpansion_isUnmatched ?_ _ _
        exact unmatched
      · exact unmatched
  | unknown name value => exact unmatched

theorem explain_isUnmatched (text : Text) : (explain environment text state).IsUnmatched := by
  unfold explain
  split <;> exact unmatched

/-- A task that is no part of a mechanism gives the state no match. -/
theorem runTask_isUnmatched {task : Task} (other : task.isOfMechanism = false) :
    (runTask environment state task).IsUnmatched := by
  cases task with
  | conclude => exact unmatched
  | evaluateDomain =>
      simp only [runTask]
      split <;> exact unmatched
  | stage stage => exact runStage_isUnmatched unmatched stage
  | evaluateRecord =>
      simp only [runTask]
      split <;> exact unmatched
  | directive directive =>
      simp only [runTask]
      split
      · exact rfl
      · exact unmatched
  | settle qualifier =>
      simp only [runTask]
      split <;> exact rfl
  | mechanism mechanism => cases other
  | expandedMechanism mechanism => cases other
  | leaveInclude frame => cases other
  | modifier modifier => exact beginModifier_isUnmatched unmatched modifier
  | followRedirect spec =>
      simp only [runTask, followRedirect]
      split <;> exact unmatched
  | leaveRedirect => exact unmatched
  | askExplanation spec =>
      simp only [runTask, askExplanation]
      split
      · exact unmatched
      · exact ⟨unmatched, rfl⟩
  | explain text => exact explain_isUnmatched unmatched text
  | guardExplanation => exact unmatched
  | hook hook =>
      cases hook with
      | neutralIfUnmatched => exact unmatched
      | defaultExplanation text =>
          simp only [runTask, runHook]
          split
          · refine prepareExpansion_isUnmatched ?_ _ _
            exact unmatched
          · exact unmatched

/-! ## Other answers -/

theorem receiveRecords_isUnmatched {answer : Dns.Answer} {next : Option Text → Reaction}
    (each : ∀ found, (next found).IsUnmatched) :
    (receiveRecords answer state next).IsUnmatched := by
  unfold receiveRecords
  split
  · exact unmatched
  · split
    · exact unmatched
    · exact each _

theorem matched_keepRecordText (found : Option Text) :
    (keepRecordText found state).matched = none := by
  cases found <;> exact unmatched

theorem askClientAddresses_isUnmatched (names : List Text) :
    (askClientAddresses names state).IsUnmatched := by
  unfold askClientAddresses
  split
  · exact unmatched
  · split
    · exact unmatched
    · exact ⟨unmatched, rfl⟩

/-- An answer that is for no mechanism gives the state no match. -/
theorem receive_isUnmatched (answer : Dns.Answer) (other : awaiting.isForOther = true) :
    (receive environment answer state awaiting).IsUnmatched := by
  cases awaiting with
  | spfRecords =>
      refine receiveRecords_isUnmatched unmatched fun found => ?_
      cases found with
      | none => exact askRecords_isUnmatched unmatched _ rfl
      | some text => exact unmatched
  | txtRecords =>
      exact receiveRecords_isUnmatched unmatched fun found => matched_keepRecordText unmatched found
  | strictSpfRecords =>
      exact receiveRecords_isUnmatched unmatched fun found => ⟨unmatched, rfl⟩
  | strictTxtRecords spf =>
      refine receiveRecords_isUnmatched unmatched fun found => ?_
      split
      · exact unmatched
      · exact matched_keepRecordText unmatched _
  | explanationTexts =>
      simp only [receive, receiveExplanationTexts]
      split
      · refine prepareExpansion_isUnmatched ?_ _ _
        exact unmatched
      · exact unmatched
  | clientNames =>
      simp only [receive, receiveClientNames]
      split
      · exact unmatched
      · exact askClientAddresses_isUnmatched unmatched _
  | clientAddresses candidate pending =>
      simp only [receive, receiveClientAddresses]
      split
      · exact askClientAddresses_isUnmatched unmatched _
      · split
        · exact unmatched
        · split
          · exact unmatched
          · exact askClientAddresses_isUnmatched unmatched _
  | _ => cases other

end

end SenderPolicy.Check
