import SenderPolicy.Proofs.Check.Includes

/-!
# What turns put on the stack

Tasks and answers leave the tasks that wait as they are and put others on top of them.
`Places` lists what a task may put there: the stages of a domain, the tasks of a record, the
two parts of a directive, the second half of a term that asks the DNS, the evaluation of
another domain with the entry that leaves it, and otherwise nothing but tasks for an
explanation. `runTask_places` and `receive_puts` say so of every task and every answer, and
that only the conclusion of a check sets its result.
-/

namespace SenderPolicy.Check

/-- The second half of a term that asks the DNS. -/
def Task.half? : Task → Option Task
  | .mechanism term => if term.asksDns then some (.expandedMechanism term) else none
  | .modifier (.redirect spec) => some (.followRedirect spec)
  | _ => none

/-- Tasks have been put on the stack and terms have been counted. The result is as it was. -/
structure State.Puts (base : State) (above : List Task) (count : Nat) (after : State) : Prop where
  result : after.result = base.result
  depth : after.depth = base.depth + count
  tasks : after.tasks = above ++ base.tasks

/-- The tasks that a task may put on the stack and the number of terms that it counts. -/
inductive Places (environment : Environment) (base : State) : Task → List Task → Nat → Prop where
  | explanation {task : Task} {above : List Task}
      (all : ∀ other ∈ above, other.isOfExplanation = true) : Places environment base task above 0
  | exceeding {task : Task} : Places environment base task [] 1
  | stages :
      Places environment base .evaluateDomain
        ((stages environment.options).map Task.stage ++ [.evaluateRecord]) 0
  | policy {policy : Policy} (slot : base.slot = some (.policy policy)) :
      Places environment base .evaluateRecord (policyTasks policy) 0
  | parts {directive : Directive} :
      Places environment base (.directive directive)
        [.mechanism directive.mechanism, .settle directive.qualifier] 0
  | half {task half : Task} (begun : task.half? = some half) (within : base.depth < lookupLimit) :
      Places environment base task [half] 1
  | «include» {spec : Text} :
      Places environment base (.expandedMechanism (.include spec))
        [.evaluateDomain, .leaveInclude base.frame] 0
  | redirect {spec : Text} :
      Places environment base (.followRedirect spec) [.evaluateDomain, .leaveRedirect] 0

/-- A task may put nothing on the stack. -/
theorem Places.nothing {environment : Environment} {base : State} {task : Task} :
    Places environment base task [] 0 :=
  .explanation nofun

section
variable {environment : Environment} {base state : State}

namespace State.Puts

theorem refl (state : State) : state.Puts [] 0 state := ⟨rfl, rfl, rfl⟩

/-- Other fields may change. -/
theorem change {above : List Task} {count : Nat} {after : State}
    (put : base.Puts above count state) (result : after.result = state.result)
    (depth : after.depth = state.depth) (tasks : after.tasks = state.tasks) :
    base.Puts above count after :=
  ⟨result.trans put.result, depth.trans put.depth, tasks.trans put.tasks⟩

theorem pushAll (base : State) (tasks : List Task) : base.Puts tasks 0 (base.pushAll tasks) :=
  ⟨rfl, rfl, rfl⟩

end State.Puts

/-! ## Steps of a task -/

theorem prepareExpansion_puts {above : List Task} {count : Nat} (mode : Macro.Mode) (text : Text)
    (put : base.Puts above count state) :
    base.Puts above count (state.prepareExpansion environment mode text).state := by
  have after : base.Puts above count (state.afterExpansion environment mode text) :=
    put.change rfl rfl rfl
  unfold State.prepareExpansion
  split
  · exact after
  · exact after
  · split <;> exact after

theorem setMatched_puts (matched : Bool) (base : State) :
    base.Puts [] 0 (setMatched matched base).state :=
  ⟨rfl, rfl, rfl⟩

theorem askHost_puts (host : Text) (type : Dns.RecordType) (awaiting : Awaiting) (base : State) :
    base.Puts [] 0 (askHost host type awaiting base).state := by
  unfold askHost
  split
  · exact .refl base
  · exact setMatched_puts _ base

theorem useRecordText_puts (text : Text) (base : State) :
    base.Puts [] 0 (useRecordText text base).state := by
  unfold useRecordText
  split <;> exact ⟨rfl, rfl, rfl⟩

theorem useLocalRecord_puts (source : Option RecordSource) (base : State) :
    base.Puts [] 0 (useLocalRecord source base).state := by
  unfold useLocalRecord
  split
  · exact .refl base
  · split
    · exact .refl base
    · exact useRecordText_puts _ base

theorem askRecords_puts (type : Dns.RecordType) (awaiting : Awaiting) (base : State) :
    base.Puts [] 0 (askRecords type awaiting base).state := by
  unfold askRecords
  split <;> exact .refl base

theorem changePolicy_puts (change : Policy → Policy) (base : State) :
    base.Puts [] 0 (changePolicy change base) := by
  unfold changePolicy
  split <;> exact ⟨rfl, rfl, rfl⟩

theorem runStage_puts (stage : Stage) (base : State) :
    base.Puts [] 0 (runStage environment base stage).state := by
  cases stage with
  | override => exact useLocalRecord_puts _ base
  | initialChecks =>
      simp only [runStage]
      split
      · exact .refl base
      · split <;> exact .refl base
  | retrieve => exact askRecords_puts _ _ base
  | retrieveStrict => exact askRecords_puts _ _ base
  | bestGuess => exact ⟨rfl, rfl, rfl⟩
  | parseRecord =>
      simp only [runStage]
      split
      · exact useRecordText_puts _ base
      · exact .refl base
  | fallback => exact useLocalRecord_puts _ base
  | noRecordFound =>
      simp only [runStage]
      split <;> exact .refl base
  | trustedForwarder =>
      simp only [runStage]
      split
      · exact changePolicy_puts _ base
      · exact .refl base
  | neutralIfUnmatched => exact changePolicy_puts _ base
  | defaultExplanation => exact changePolicy_puts _ base

/-- A term that asks the DNS is counted, and its second half goes on the stack unless that is
one term too many. -/
theorem beginTerm_places {task half : Task} (begun : task.half? = some half) (spec : Option Text)
    (base : State) :
    ∃ above count, Places environment base task above count
      ∧ base.Puts above count (beginTerm environment half spec base).state := by
  have pushed : base.Puts [half] 1 (base.countLookup.push half) := ⟨rfl, rfl, rfl⟩
  unfold beginTerm
  dsimp only
  split
  case isTrue exceeds => exact ⟨[], 1, .exceeding, rfl, rfl, rfl⟩
  case isFalse within =>
    have room : base.depth < lookupLimit := by
      have limited : ¬ lookupLimit < base.depth + 1 :=
        fun exceeds => within (decide_eq_true exceeds)
      omega
    refine ⟨[half], 1, .half begun room, ?_⟩
    split
    · exact pushed
    · exact prepareExpansion_puts _ _ pushed

theorem beginMechanism_places (mechanism : Mechanism) (base : State) :
    ∃ above count, Places environment base (.mechanism mechanism) above count
      ∧ base.Puts above count (beginMechanism environment base mechanism).state := by
  cases asks : mechanism.asksDns with
  | true =>
      have begun : (Task.mechanism mechanism).half? = some (.expandedMechanism mechanism) := by
        rw [Task.half?, if_pos asks]
      rw [beginMechanism_of_asksDns asks]
      exact beginTerm_places begun _ base
  | false =>
      refine ⟨[], 0, .nothing, ?_⟩
      cases mechanism with
      | all => exact setMatched_puts _ base
      | network range =>
          simp only [beginMechanism]
          split
          · exact .refl base
          · exact setMatched_puts _ base
      | _ => cases asks

theorem continueMechanism_places (mechanism : Mechanism) (base : State) :
    ∃ above count, Places environment base (.expandedMechanism mechanism) above count
      ∧ base.Puts above count (continueMechanism environment mechanism base).state := by
  have nothing : Places environment base (.expandedMechanism mechanism) [] 0 := .nothing
  unfold continueMechanism
  split
  · exact ⟨[], 0, nothing, .refl base⟩
  · split
    · refine ⟨[], 0, nothing, ?_⟩
      unfold compareHost
      split
      · exact setMatched_puts _ base
      · exact askHost_puts _ _ _ base
    · exact ⟨[], 0, nothing, .refl base⟩
    · exact ⟨[], 0, nothing, askHost_puts _ _ _ base⟩
    · exact ⟨[], 0, nothing, .refl base⟩
    · exact ⟨[], 0, nothing, .refl base⟩
    · exact ⟨_, 0, .include, rfl, rfl, rfl⟩
    · exact ⟨[], 0, nothing, askHost_puts _ _ _ base⟩
    · exact ⟨[], 0, nothing, .refl base⟩
    · exact ⟨[], 0, nothing, .refl base⟩

theorem beginModifier_places (modifier : Modifier) (base : State) :
    ∃ above count, Places environment base (.modifier modifier) above count
      ∧ base.Puts above count (beginModifier environment base modifier).state := by
  cases modifier with
  | redirect spec =>
      by_cases opened : base.isOpen = true
      · rw [beginModifier_redirect opened]
        exact beginTerm_places rfl _ base
      · rw [beginModifier, if_neg opened]
        exact ⟨[], 0, .nothing, .refl base⟩
  | exp spec =>
      simp only [beginModifier]
      split
      · exact ⟨_, 0, .explanation (by simp [Task.isOfExplanation]),
          prepareExpansion_puts _ _ (.pushAll base _)⟩
      · exact ⟨[], 0, .nothing, .refl base⟩
  | unknown name value => exact ⟨[], 0, .nothing, .refl base⟩

theorem prepareExplanation_puts {above : List Task} (text : Text) (put : base.Puts above 0 state) :
    base.Puts (.explain text :: above) 0 (prepareExplanation environment text state).state :=
  prepareExpansion_puts _ _ ⟨put.result, put.depth, congrArg _ put.tasks⟩

theorem explain_puts (text : Text) (base : State) :
    base.Puts [] 0 (explain environment text base).state := by
  unfold explain
  split <;> exact ⟨rfl, rfl, rfl⟩

/-- What a task puts on the stack. The conclusion of a check puts nothing there. -/
theorem runTask_places (environment : Environment) {task : Task} (other : task ≠ .conclude)
    (base : State) :
    ∃ above count, Places environment base task above count
      ∧ base.Puts above count (runTask environment base task).state := by
  cases task with
  | conclude => exact absurd rfl other
  | evaluateDomain =>
      simp only [runTask]
      split
      · exact ⟨_, 0, .stages, rfl, rfl, rfl⟩
      · exact ⟨[], 0, .nothing, .refl base⟩
  | stage stage => exact ⟨[], 0, .nothing, runStage_puts stage base⟩
  | evaluateRecord =>
      simp only [runTask]
      split
      · rename_i slot
        exact ⟨_, 0, .policy slot, rfl, rfl, rfl⟩
      · exact ⟨[], 0, .nothing, rfl, rfl, rfl⟩
  | directive directive =>
      simp only [runTask]
      split
      · exact ⟨_, 0, .parts, rfl, rfl, rfl⟩
      · exact ⟨[], 0, .nothing, .refl base⟩
  | settle qualifier =>
      refine ⟨[], 0, .nothing, ?_⟩
      simp only [runTask]
      split <;> exact ⟨rfl, rfl, rfl⟩
  | mechanism mechanism => exact beginMechanism_places mechanism base
  | expandedMechanism mechanism => exact continueMechanism_places mechanism base
  | leaveInclude frame => exact ⟨[], 0, .nothing, rfl, rfl, rfl⟩
  | modifier modifier => exact beginModifier_places modifier base
  | followRedirect spec =>
      simp only [runTask, followRedirect]
      split
      · exact ⟨[], 0, .nothing, .refl base⟩
      · exact ⟨_, 0, .redirect, rfl, rfl, rfl⟩
  | leaveRedirect => exact ⟨[], 0, .nothing, .refl base⟩
  | askExplanation spec =>
      refine ⟨[], 0, .nothing, ?_⟩
      simp only [runTask, askExplanation]
      split <;> exact .refl base
  | explain text => exact ⟨[], 0, .nothing, explain_puts text base⟩
  | guardExplanation => exact ⟨[], 0, .nothing, .refl base⟩
  | hook hook =>
      cases hook with
      | neutralIfUnmatched => exact ⟨[], 0, .nothing, rfl, rfl, rfl⟩
      | defaultExplanation text =>
          simp only [runTask, runHook]
          split
          · exact ⟨_, 0, .explanation (by simp [Task.isOfExplanation]),
              prepareExplanation_puts text (.pushAll base [.guardExplanation])⟩
          · exact ⟨[], 0, .nothing, .refl base⟩

/-! ## Answers -/

theorem receiveRecords_puts {answer : Dns.Answer} {next : Option Text → Reaction} (base : State)
    (each : ∀ found, base.Puts [] 0 (next found).state) :
    base.Puts [] 0 (receiveRecords answer base next).state := by
  unfold receiveRecords
  split
  · exact .refl base
  · split
    · exact .refl base
    · exact each _

theorem keepRecordText_puts (found : Option Text) (base : State) :
    base.Puts [] 0 (keepRecordText found base) := by
  cases found <;> exact ⟨rfl, rfl, rfl⟩

theorem askExchangerAddresses_puts (lengths : PrefixLengths) (hosts : List Text) (base : State) :
    base.Puts [] 0 (askExchangerAddresses lengths hosts base).state := by
  unfold askExchangerAddresses
  split
  · exact .refl base
  · split <;> exact ⟨rfl, rfl, rfl⟩

theorem askHostAddresses_puts (target : Text) (names : List Text) (base : State) :
    base.Puts [] 0 (askHostAddresses target names base).state := by
  unfold askHostAddresses
  split
  · exact .refl base
  · split <;> exact ⟨rfl, rfl, rfl⟩

theorem askClientAddresses_puts (names : List Text) (base : State) :
    base.Puts [] 0 (askClientAddresses names base).state := by
  unfold askClientAddresses
  split
  · exact .refl base
  · split <;> exact ⟨rfl, rfl, rfl⟩

/-- An answer that is not for an explanation puts nothing on the stack. -/
theorem receive_puts_nothing (answer : Dns.Answer) {awaiting : Awaiting}
    (other : awaiting ≠ .explanationTexts) (base : State) :
    base.Puts [] 0 (receive environment answer base awaiting).state := by
  cases awaiting with
  | spfRecords =>
      refine receiveRecords_puts base fun found => ?_
      cases found with
      | none => exact askRecords_puts _ _ base
      | some text => exact keepRecordText_puts (some text) base
  | txtRecords => exact receiveRecords_puts base fun found => keepRecordText_puts _ base
  | strictSpfRecords => exact receiveRecords_puts base fun found => .refl base
  | strictTxtRecords spf =>
      refine receiveRecords_puts base fun found => ?_
      split
      · exact .refl base
      · exact keepRecordText_puts _ base
  | addresses lengths =>
      simp only [receive, receiveAddresses]
      split
      · exact .refl base
      · split <;> exact ⟨rfl, rfl, rfl⟩
  | exchangers lengths =>
      simp only [receive, receiveExchangers]
      split
      · exact .refl base
      · split
        · exact .refl base
        · exact askExchangerAddresses_puts _ _ base
  | exchangerAddresses lengths pending =>
      simp only [receive, receiveExchangerAddresses]
      split
      · exact .refl base
      · split
        · exact .refl base
        · split
          · exact setMatched_puts _ base
          · exact askExchangerAddresses_puts _ _ base
  | hostNames target =>
      simp only [receive, receiveHostNames]
      split
      · exact setMatched_puts _ base
      · exact askHostAddresses_puts _ _ base
  | hostAddresses target candidate pending =>
      simp only [receive, receiveHostAddresses]
      split
      · exact askHostAddresses_puts _ _ base
      · split
        · exact .refl base
        · split
          · exact setMatched_puts _ base
          · exact askHostAddresses_puts _ _ base
  | existence =>
      simp only [receive, receiveExistence]
      split
      · exact .refl base
      · exact setMatched_puts _ base
  | explanationTexts => exact absurd rfl other
  | clientNames =>
      simp only [receive, receiveClientNames]
      split
      · exact ⟨rfl, rfl, rfl⟩
      · exact askClientAddresses_puts _ base
  | clientAddresses candidate pending =>
      simp only [receive, receiveClientAddresses]
      split
      · exact askClientAddresses_puts _ base
      · split
        · exact .refl base
        · split
          · exact ⟨rfl, rfl, rfl⟩
          · exact askClientAddresses_puts _ base

/-- An answer puts at most the text of an explanation on the stack. -/
theorem receive_puts (answer : Dns.Answer) (awaiting : Awaiting) (base : State) :
    ∃ above, (∀ task ∈ above, task.isOfExplanation = true)
      ∧ base.Puts above 0 (receive environment answer base awaiting).state := by
  by_cases explanation : awaiting = .explanationTexts
  · subst explanation
    simp only [receive, receiveExplanationTexts]
    split
    · exact ⟨_, by simp [Task.isOfExplanation], prepareExplanation_puts _ (.refl base)⟩
    · exact ⟨[], by simp, .refl base⟩
  · exact ⟨[], by simp, receive_puts_nothing answer explanation base⟩

end

end SenderPolicy.Check
