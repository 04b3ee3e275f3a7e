import SenderPolicy.Check.Engine

/-!
# Why a check ends

`Position.size` is a measure that every turn lowers. Its first component, the energy,
falls whenever a domain or its record is evaluated, because each include and redirect uses
up some of the lookups a check may make. Where the energy stays the same, the weight of
the stack falls, or an answer leads to a later stage of its walk or to fewer names.
`runTurn_precedes` and `receiveTurn_precedes` are the main statements.
-/

namespace SenderPolicy.Check

/-- Tasks that lead to the evaluation of a record carry energy. -/
def Task.energy : Task → Nat
  | .evaluateRecord => 1
  | .evaluateDomain => 2
  | .expandedMechanism _ | .followRedirect _ => 3
  | _ => 0

/-- The number of turns that a task without energy leads to, by tasks alone. -/
def Task.weight : Task → Nat
  | .directive _ | .hook _ => 3
  | .modifier _ => 5
  | .askExplanation _ => 3
  | _ => 1

/-- The weight of the tasks that an answer leads to. -/
def Awaiting.weight : Awaiting → Nat
  | .explanationTexts => 1
  | _ => 0

/-- The stages that an outstanding answer has before it. -/
def Awaiting.rank : Awaiting → Nat
  | .explanationTexts => 3
  | .spfRecords | .strictSpfRecords | .exchangers _ | .hostNames _ | .clientNames => 2
  | _ => 1

/-- The number of names that are still to be asked about. -/
def Awaiting.pending : Awaiting → Nat
  | .exchangerAddresses _ pending | .hostAddresses _ _ pending | .clientAddresses _ pending =>
      pending.length
  | _ => 0

/-- The energy of a stack. -/
def stackEnergy : List Task → Nat
  | [] => 0
  | task :: tasks => task.energy + stackEnergy tasks

/-- The weight of a stack. -/
def stackWeight : List Task → Nat
  | [] => 0
  | task :: tasks => task.weight + stackWeight tasks

/-- The energy of a state: four for each lookup left, and that of the stack. -/
def State.energy (state : State) : Nat :=
  4 * (lookupLimit + 1 - state.depth) + stackEnergy state.tasks

/-- The weight of a state. -/
def State.weight (state : State) : Nat :=
  stackWeight state.tasks

@[simp] theorem stackEnergy_nil : stackEnergy [] = 0 := rfl

@[simp] theorem stackWeight_nil : stackWeight [] = 0 := rfl

@[simp] theorem stackEnergy_cons (task : Task) (tasks : List Task) :
    stackEnergy (task :: tasks) = task.energy + stackEnergy tasks := rfl

@[simp] theorem stackWeight_cons (task : Task) (tasks : List Task) :
    stackWeight (task :: tasks) = task.weight + stackWeight tasks := rfl

@[simp] theorem stackEnergy_append (first second : List Task) :
    stackEnergy (first ++ second) = stackEnergy first + stackEnergy second := by
  induction first with
  | nil => simp
  | cons task tasks inductionHypothesis => simp [inductionHypothesis, Nat.add_assoc]

/-- A list of tasks that carry no energy. -/
theorem stackEnergy_map {α : Type} (make : α → Task) (items : List α)
    (none : ∀ item, (make item).energy = 0) : stackEnergy (items.map make) = 0 := by
  induction items with
  | nil => rfl
  | cons item items inductionHypothesis => simp [none, inductionHypothesis]

/-! ## The measure -/

/-- Energy, weight, rank and pending names of a position. -/
def Position.size : Position → Nat × Nat × Nat × Nat
  | .running state => (state.energy, state.weight, 0, 0)
  | .waiting state lookup =>
      (state.energy, state.weight + lookup.awaiting.weight, lookup.awaiting.rank,
        lookup.awaiting.pending)

/-- A position comes before another in the lexicographic order of sizes. -/
def Position.Precedes (position other : Position) : Prop :=
  Prod.Lex (· < ·) (Prod.Lex (· < ·) (Prod.Lex (· < ·) (· < ·))) position.size other.size

/-- Nothing goes down for ever. -/
theorem Position.precedes_wellFounded : WellFounded Position.Precedes :=
  InvImage.wf Position.size
    (Prod.lex ⟨_, Nat.lt_wfRel.wf⟩
      (Prod.lex ⟨_, Nat.lt_wfRel.wf⟩ (Prod.lex ⟨_, Nat.lt_wfRel.wf⟩ ⟨_, Nat.lt_wfRel.wf⟩))).wf

/-- Energy and weight are below a bound in lexicographic order. -/
def Drops (energy weight energyBound weightBound : Nat) : Prop :=
  energy < energyBound ∨ energy = energyBound ∧ weight < weightBound

/-- Every outcome of a reaction is below a bound in energy and weight. -/
def Reaction.Drops (energy weight : Nat) : Reaction → Prop
  | .proceed state => Check.Drops state.energy state.weight energy weight
  | .ask state lookup =>
      Check.Drops state.energy (state.weight + lookup.awaiting.weight) energy weight
  | .fail state _ => Check.Drops state.energy state.weight energy weight

/-- Every outcome of a reaction has at most this energy and weight, and a new question is
at a later stage or has fewer names before it. -/
def Reaction.Continues (energy weight rank pending : Nat) : Reaction → Prop
  | .proceed state => state.energy ≤ energy ∧ state.weight ≤ weight
  | .ask state lookup =>
      state.energy ≤ energy ∧ state.weight + lookup.awaiting.weight ≤ weight
        ∧ (lookup.awaiting.rank < rank
          ∨ lookup.awaiting.rank = rank ∧ lookup.awaiting.pending < pending)
  | .fail state _ => state.energy ≤ energy ∧ state.weight ≤ weight

/-! ## Failures only remove tasks -/

theorem depth_handle {failure : Failure} {state after : State} {task : Task} {next : Failure}
    (handled : handle failure state task = some (.rethrown after next)) :
    after.depth = state.depth := by
  unfold handle at handled
  split at handled <;> (try split at handled) <;> simp_all [Frame.restore]
  all_goals first | (obtain ⟨rfl, -⟩ := handled; rfl)

theorem caught_handle {failure : Failure} {state after : State} {task : Task}
    (handled : handle failure state task = some (.caught after)) :
    after.depth = state.depth ∧ after.tasks = state.tasks := by
  unfold handle at handled
  split at handled <;> (try split at handled) <;>
    simp_all [Frame.restore, State.decide]
  all_goals (subst handled; exact ⟨rfl, rfl⟩)

/-- Unwinding does not raise energy or weight. -/
theorem unwind_le (failure : Failure) (state : State) (tasks : List Task) :
    (unwind failure state tasks).2.energy
        ≤ 4 * (lookupLimit + 1 - state.depth) + stackEnergy tasks
      ∧ (unwind failure state tasks).2.weight ≤ stackWeight tasks := by
  induction tasks generalizing failure state with
  | nil => simp [unwind, State.energy, State.weight, State.decide]
  | cons task tasks inductionHypothesis =>
      unfold unwind
      split
      · have := inductionHypothesis failure state
        simp only [stackEnergy_cons, stackWeight_cons]
        omega
      · rename_i after handled
        obtain ⟨depth, rest⟩ := caught_handle handled
        simp only [State.energy, State.weight, depth, rest, stackEnergy_cons, stackWeight_cons]
        omega
      · rename_i after next handled
        have depth := depth_handle handled
        have := inductionHypothesis next after
        simp only [depth] at this
        simp only [stackEnergy_cons, stackWeight_cons]
        omega

/-! ## Every turn lowers the measure -/

section
variable {energy weight rank pending : Nat}

theorem prepareExpansion_drops {environment : Environment} {mode : Macro.Mode} {text : Text}
    {state : State} (drops : Drops state.energy state.weight energy weight) :
    (state.prepareExpansion environment mode text).Drops energy weight := by
  unfold State.prepareExpansion
  (repeat' split) <;> exact drops

end

/-- A lookup that does not exceed the limit leaves a state that was below it. -/
theorem depth_lt_of_not_exceedsLimit {state : State}
    (within : ¬ state.countLookup.exceedsLimit = true) : state.depth < lookupLimit :=
  Nat.lt_of_not_le fun full => within (decide_eq_true (Nat.lt_succ_of_le full))

/-- A state with the same stack and as many lookups counted drops below one more task. -/
theorem drops_of_same {state after : State} {task : Task} (depth : after.depth = state.depth)
    (tasks : after.tasks = state.tasks) :
    Drops after.energy after.weight (state.energy + task.energy) (state.weight + task.weight) := by
  have positive : 0 < task.weight := by cases task <;> simp [Task.weight]
  simp only [Drops, State.energy, State.weight, depth, tasks]
  omega

theorem useRecordText_drops (text : Text) (state : State) (task : Task) :
    (useRecordText text state).Drops (state.energy + task.energy)
      (state.weight + task.weight) := by
  unfold useRecordText
  split <;> exact drops_of_same rfl rfl

theorem useLocalRecord_drops (source : Option RecordSource) (state : State) (task : Task) :
    (useLocalRecord source state).Drops (state.energy + task.energy)
      (state.weight + task.weight) := by
  unfold useLocalRecord
  split
  · exact drops_of_same rfl rfl
  · split
    · exact drops_of_same rfl rfl
    · exact useRecordText_drops _ state task

theorem changePolicy_tasks (change : Policy → Policy) (state : State) :
    (changePolicy change state).depth = state.depth
      ∧ (changePolicy change state).tasks = state.tasks := by
  unfold changePolicy
  split <;> exact ⟨rfl, rfl⟩

theorem runStage_drops (environment : Environment) (state : State) (stage : Stage) :
    (runStage environment state stage).Drops (state.energy + (Task.stage stage).energy)
      (state.weight + (Task.stage stage).weight) := by
  cases stage <;> simp only [runStage, askRecords]
  case override => exact useLocalRecord_drops _ state _
  case fallback => exact useLocalRecord_drops _ state _
  case initialChecks => (repeat' split) <;> exact drops_of_same rfl rfl
  case retrieve => split <;> exact drops_of_same rfl rfl
  case retrieveStrict => split <;> exact drops_of_same rfl rfl
  case bestGuess => exact drops_of_same rfl rfl
  case parseRecord =>
    split
    · exact useRecordText_drops _ state _
    · exact drops_of_same rfl rfl
  case noRecordFound => split <;> exact drops_of_same rfl rfl
  case trustedForwarder =>
    split
    · exact drops_of_same (changePolicy_tasks ..).1 (changePolicy_tasks ..).2
    · exact drops_of_same rfl rfl
  case neutralIfUnmatched => exact drops_of_same (changePolicy_tasks ..).1 (changePolicy_tasks ..).2
  case defaultExplanation => exact drops_of_same (changePolicy_tasks ..).1 (changePolicy_tasks ..).2

theorem beginMechanism_drops (environment : Environment) (state : State)
    (mechanism : Mechanism) :
    (beginMechanism environment state mechanism).Drops
      (state.energy + (Task.mechanism mechanism).energy)
      (state.weight + (Task.mechanism mechanism).weight) := by
  unfold beginMechanism
  split
  · exact drops_of_same rfl rfl
  · split <;> exact drops_of_same rfl rfl
  · simp only
    split
    · rename_i exceeds
      simp only [Reaction.Drops, Drops, State.countLookup, State.energy, State.weight,
        Task.energy, Task.weight]
      omega
    · rename_i within
      have room := depth_lt_of_not_exceedsLimit within
      have drops : Drops (state.countLookup.push (.expandedMechanism mechanism)).energy
          (state.countLookup.push (.expandedMechanism mechanism)).weight
          (state.energy + (Task.mechanism mechanism).energy)
          (state.weight + (Task.mechanism mechanism).weight) := by
        left
        simp only [State.push, State.countLookup, State.energy, stackEnergy_cons, Task.energy]
        omega
      split
      · exact drops
      · exact prepareExpansion_drops drops

theorem beginModifier_drops (environment : Environment) (state : State) (modifier : Modifier) :
    (beginModifier environment state modifier).Drops
      (state.energy + (Task.modifier modifier).energy)
      (state.weight + (Task.modifier modifier).weight) := by
  cases modifier with
  | unknown => exact drops_of_same rfl rfl
  | exp spec =>
      simp only [beginModifier]
      split
      · apply prepareExpansion_drops
        right
        simp [State.pushAll, State.energy, State.weight, Task.energy, Task.weight]
        omega
      · exact drops_of_same rfl rfl
  | redirect spec =>
      simp only [beginModifier]
      split
      · split
        · simp only [Reaction.Drops, Drops, State.countLookup, State.energy, State.weight,
            Task.energy, Task.weight]
          omega
        · rename_i within
          have room := depth_lt_of_not_exceedsLimit within
          apply prepareExpansion_drops
          left
          simp only [State.push, State.countLookup, State.energy, stackEnergy_cons, Task.energy]
          omega
      · exact drops_of_same rfl rfl

theorem askHost_drops {host : Text} {type : Dns.RecordType} {awaiting : Awaiting} {state : State}
    {energy weight : Nat} (light : awaiting.weight = 0)
    (drops : Drops state.energy state.weight energy weight) :
    (askHost host type awaiting state).Drops energy weight := by
  unfold askHost
  split
  · simpa [Reaction.Drops, light] using drops
  · exact drops

theorem continueMechanism_drops (environment : Environment) (mechanism : Mechanism)
    (state : State) :
    (continueMechanism environment mechanism state).Drops
      (state.energy + (Task.expandedMechanism mechanism).energy)
      (state.weight + (Task.expandedMechanism mechanism).weight) := by
  have same : Drops state.energy state.weight
      (state.energy + (Task.expandedMechanism mechanism).energy)
      (state.weight + (Task.expandedMechanism mechanism).weight) := drops_of_same rfl rfl
  unfold continueMechanism
  split
  · exact same
  · split
    · unfold compareHost
      split
      · exact same
      · exact askHost_drops rfl same
    · exact same
    · exact askHost_drops rfl same
    · exact same
    · exact same
    · left
      simp only [enterInclude, State.energy, stackEnergy_cons, Task.energy]
      omega
    · exact askHost_drops rfl same
    · exact same
    · exact same

theorem prepareExplanation_drops {environment : Environment} {text : Text} {state : State}
    {energy weight : Nat} (drops : Drops state.energy (state.weight + 1) energy weight) :
    (prepareExplanation environment text state).Drops energy weight := by
  apply prepareExpansion_drops
  simp only [State.push, State.energy, State.weight, stackEnergy_cons, stackWeight_cons,
    Task.energy, Task.weight, Drops] at drops ⊢
  omega

/-- Running a task lowers energy or weight. -/
theorem runTask_drops (environment : Environment) (state : State) (task : Task) :
    (runTask environment state task).Drops (state.energy + task.energy)
      (state.weight + task.weight) := by
  cases task with
  | conclude => exact drops_of_same rfl rfl
  | evaluateDomain =>
      simp only [runTask]
      split
      · left
        simp only [State.pushAll, State.energy, stackEnergy_append, stackEnergy_cons,
          stackEnergy_nil, Task.energy, stackEnergy_map Task.stage _ fun _ => rfl]
        omega
      · exact drops_of_same rfl rfl
  | stage stage => exact runStage_drops environment state stage
  | evaluateRecord =>
      simp only [runTask]
      split
      · left
        simp only [State.pushAll, policyTasks, State.energy, stackEnergy_append, Task.energy,
          stackEnergy_map Task.directive _ fun _ => rfl,
          stackEnergy_map Task.modifier _ fun _ => rfl, stackEnergy_map Task.hook _ fun _ => rfl]
        omega
      · exact drops_of_same rfl rfl
  | directive directive =>
      simp only [runTask]
      split
      · right
        simp [State.pushAll, State.energy, State.weight, Task.energy, Task.weight]
        omega
      · exact drops_of_same rfl rfl
  | settle qualifier =>
      simp only [runTask]
      split <;> exact drops_of_same rfl rfl
  | mechanism mechanism => exact beginMechanism_drops environment state mechanism
  | expandedMechanism mechanism => exact continueMechanism_drops environment mechanism state
  | leaveInclude frame => exact drops_of_same rfl rfl
  | modifier modifier => exact beginModifier_drops environment state modifier
  | followRedirect spec =>
      simp only [runTask, followRedirect]
      split
      · exact drops_of_same rfl rfl
      · left
        simp [State.pushAll, State.energy, Task.energy]
        omega
  | leaveRedirect => exact drops_of_same rfl rfl
  | askExplanation spec =>
      simp only [runTask, askExplanation]
      split
      · exact drops_of_same rfl rfl
      · right
        simp [State.energy, State.weight, Awaiting.weight, Task.energy, Task.weight]
  | explain text =>
      simp only [runTask, explain]
      split <;> exact drops_of_same rfl rfl
  | guardExplanation => exact drops_of_same rfl rfl
  | hook hook =>
      cases hook with
      | neutralIfUnmatched => exact drops_of_same rfl rfl
      | defaultExplanation text =>
          simp only [runTask, runHook]
          split
          · apply prepareExplanation_drops
            right
            simp [State.push, State.energy, State.weight, Task.energy, Task.weight]
            omega
          · exact drops_of_same rfl rfl

/-! ## Answers -/

theorem askRecords_continues {type : Dns.RecordType} {awaiting : Awaiting} {state : State}
    {rank pending : Nat} (light : awaiting.weight = 0) (later : awaiting.rank < rank) :
    (askRecords type awaiting state).Continues state.energy state.weight rank pending := by
  unfold askRecords
  split
  · exact ⟨Nat.le_refl _, Nat.le_refl _⟩
  · simp [Reaction.Continues, light, later]

theorem receiveRecords_continues {answer : Dns.Answer} {state : State}
    {next : Option Text → Reaction} {rank pending : Nat}
    (each : ∀ found, (next found).Continues state.energy state.weight rank pending) :
    (receiveRecords answer state next).Continues state.energy state.weight rank pending := by
  unfold receiveRecords
  (repeat' split) <;> first | exact each _ | exact ⟨Nat.le_refl _, Nat.le_refl _⟩

theorem keepRecordText_same (found : Option Text) (state : State) :
    (keepRecordText found state).energy = state.energy
      ∧ (keepRecordText found state).weight = state.weight := by
  unfold keepRecordText
  split <;> exact ⟨rfl, rfl⟩

theorem proceed_keepRecordText_continues (found : Option Text) (state : State)
    (rank pending : Nat) :
    (Reaction.proceed (keepRecordText found state)).Continues state.energy state.weight rank
      pending :=
  ⟨Nat.le_of_eq (keepRecordText_same found state).1,
    Nat.le_of_eq (keepRecordText_same found state).2⟩

theorem askExchangerAddresses_continues (lengths : PrefixLengths) (hosts : List Text)
    (state : State) {rank pending : Nat} (later : 1 < rank ∨ 1 = rank ∧ hosts.length ≤ pending) :
    (askExchangerAddresses lengths hosts state).Continues state.energy state.weight rank
      pending := by
  unfold askExchangerAddresses
  split
  · exact ⟨Nat.le_refl _, Nat.le_refl _⟩
  · split
    · exact ⟨Nat.le_refl _, Nat.le_refl _⟩
    · rename_i found
      have := length_lt_of_nextQuestion? found
      simp only [Reaction.Continues, Awaiting.weight, Awaiting.rank, Awaiting.pending]
      omega

theorem askHostAddresses_continues (target : Text) (names : List Text) (state : State)
    {rank pending : Nat} (later : 1 < rank ∨ 1 = rank ∧ names.length ≤ pending) :
    (askHostAddresses target names state).Continues state.energy state.weight rank
      pending := by
  unfold askHostAddresses
  split
  · exact ⟨Nat.le_refl _, Nat.le_refl _⟩
  · split
    · exact ⟨Nat.le_refl _, Nat.le_refl _⟩
    · rename_i found
      have := length_lt_of_nextQuestion? found
      simp only [Reaction.Continues, Awaiting.weight, Awaiting.rank, Awaiting.pending]
      omega

theorem askClientAddresses_continues (names : List Text) (state : State)
    {rank pending : Nat} (later : 1 < rank ∨ 1 = rank ∧ names.length ≤ pending) :
    (askClientAddresses names state).Continues state.energy state.weight rank pending := by
  unfold askClientAddresses
  split
  · exact ⟨Nat.le_refl _, Nat.le_refl _⟩
  · split
    · exact ⟨Nat.le_refl _, Nat.le_refl _⟩
    · rename_i found
      have := length_lt_of_nextQuestion? found
      simp only [Reaction.Continues, Awaiting.weight, Awaiting.rank, Awaiting.pending]
      omega

theorem prepareExplanation_continues (environment : Environment) (text : Text) (state : State)
    (pending : Nat) :
    (prepareExplanation environment text state).Continues state.energy (state.weight + 1) 3
      pending := by
  unfold prepareExplanation State.prepareExpansion
  (repeat' split) <;>
    simp only [Reaction.Continues, State.push, State.afterExpansion, State.energy, State.weight,
      stackEnergy_cons, stackWeight_cons, Task.energy, Task.weight, Awaiting.weight,
      Awaiting.rank] <;>
    omega

/-- An answer leads on: to no more energy or weight, and to no earlier question. -/
theorem receive_continues (environment : Environment) (answer : Dns.Answer) (state : State)
    (awaiting : Awaiting) :
    (receive environment answer state awaiting).Continues state.energy
      (state.weight + awaiting.weight) awaiting.rank awaiting.pending := by
  have same : state.energy ≤ state.energy ∧ state.weight ≤ state.weight :=
    ⟨Nat.le_refl _, Nat.le_refl _⟩
  cases awaiting <;> simp only [receive]
  case spfRecords =>
    apply receiveRecords_continues
    intro found
    split
    · exact proceed_keepRecordText_continues ..
    · exact askRecords_continues rfl (by simp [Awaiting.rank])
  case txtRecords =>
    exact receiveRecords_continues fun _ => proceed_keepRecordText_continues ..
  case strictSpfRecords =>
    apply receiveRecords_continues
    intro found
    simp [Reaction.Continues, Awaiting.weight, Awaiting.rank]
  case strictTxtRecords =>
    apply receiveRecords_continues
    intro found
    split
    · exact same
    · exact proceed_keepRecordText_continues ..
  case addresses =>
    unfold receiveAddresses
    (repeat' split) <;> exact same
  case exchangers =>
    unfold receiveExchangers
    split
    · exact same
    · split
      · exact same
      · exact askExchangerAddresses_continues _ _ _ (.inl (by simp [Awaiting.rank]))
  case exchangerAddresses =>
    unfold receiveExchangerAddresses
    split
    · exact same
    · split
      · exact same
      · split
        · exact same
        · exact askExchangerAddresses_continues _ _ _ (.inr ⟨rfl, Nat.le_refl _⟩)
  case hostNames =>
    unfold receiveHostNames
    split
    · exact same
    · exact askHostAddresses_continues _ _ _ (.inl (by simp [Awaiting.rank]))
  case hostAddresses =>
    unfold receiveHostAddresses
    split
    · exact askHostAddresses_continues _ _ _ (.inr ⟨rfl, Nat.le_refl _⟩)
    · split
      · exact same
      · split
        · exact same
        · exact askHostAddresses_continues _ _ _ (.inr ⟨rfl, Nat.le_refl _⟩)
  case existence =>
    unfold receiveExistence
    split <;> exact same
  case explanationTexts =>
    unfold receiveExplanationTexts
    split
    · exact prepareExplanation_continues ..
    · exact ⟨Nat.le_refl _, Nat.le_add_right _ _⟩
  case clientNames =>
    unfold receiveClientNames
    split
    · exact same
    · exact askClientAddresses_continues _ _ (.inl (by simp [Awaiting.rank]))
  case clientAddresses =>
    unfold receiveClientAddresses
    split
    · exact askClientAddresses_continues _ _ (.inr ⟨rfl, Nat.le_refl _⟩)
    · split
      · exact same
      · split
        · exact same
        · exact askClientAddresses_continues _ _ (.inr ⟨rfl, Nat.le_refl _⟩)

/-! ## Turns -/

theorem lex_iff {a b c d a' b' c' d' : Nat} :
    Prod.Lex (· < ·) (Prod.Lex (· < ·) (Prod.Lex (· < ·) (· < ·))) (a, b, c, d) (a', b', c', d')
      ↔ a < a' ∨ a = a' ∧ (b < b' ∨ b = b' ∧ (c < c' ∨ c = c' ∧ d < d')) := by
  simp only [Prod.lex_def]

/-- Running a task makes a position that precedes the one with the task on the stack. -/
theorem runTurn_precedes (environment : Environment) (state : State) (task : Task)
    (below : List Task) (tasks : state.tasks = task :: below) :
    (runTurn environment state task below).position.Precedes (.running state) := by
  have drops := runTask_drops environment { state with tasks := below } task
  have energy : state.energy = ({ state with tasks := below } : State).energy + task.energy := by
    simp only [State.energy, tasks, stackEnergy_cons]
    omega
  have weight : state.weight = ({ state with tasks := below } : State).weight + task.weight := by
    simp only [State.weight, tasks, stackWeight_cons]
    omega
  rw [← energy, ← weight] at drops
  unfold runTurn
  generalize runTask environment { state with tasks := below } task = reaction at drops
  cases reaction with
  | proceed after =>
      simp only [Reaction.Drops, Drops] at drops
      simp only [Reaction.settle, Position.Precedes, Position.size, lex_iff]
      omega
  | ask after lookup =>
      simp only [Reaction.Drops, Drops] at drops
      simp only [Reaction.settle, Position.Precedes, Position.size, lex_iff]
      omega
  | fail after failure =>
      have := unwind_le failure after after.tasks
      simp only [Reaction.Drops, Drops] at drops
      simp only [Reaction.settle, Position.Precedes, Position.size, lex_iff]
      have unfolded : after.energy
        = 4 * (lookupLimit + 1 - after.depth) + stackEnergy after.tasks := rfl
      have unfoldedWeight : after.weight = stackWeight after.tasks := rfl
      omega

/-- Receiving an answer makes a position that precedes the one that waits for it. -/
theorem receiveTurn_precedes (environment : Environment) (state : State) (lookup : Lookup)
    (answer : Dns.Answer) :
    (receiveTurn environment state lookup.awaiting answer).position.Precedes
      (.waiting state lookup) := by
  have continues := receive_continues environment answer state lookup.awaiting
  have positive : 0 < lookup.awaiting.rank := by
    cases lookup.awaiting <;> simp [Awaiting.rank]
  unfold receiveTurn
  generalize receive environment answer state lookup.awaiting = reaction at continues
  cases reaction with
  | proceed after =>
      simp only [Reaction.Continues] at continues
      simp only [Reaction.settle, Position.Precedes, Position.size, lex_iff]
      omega
  | ask after next =>
      simp only [Reaction.Continues] at continues
      simp only [Reaction.settle, Position.Precedes, Position.size, lex_iff]
      omega
  | fail after failure =>
      have := unwind_le failure after after.tasks
      simp only [Reaction.Continues] at continues
      simp only [Reaction.settle, Position.Precedes, Position.size, lex_iff]
      have unfolded : after.energy
        = 4 * (lookupLimit + 1 - after.depth) + stackEnergy after.tasks := rfl
      have unfoldedWeight : after.weight = stackWeight after.tasks := rfl
      omega

end SenderPolicy.Check
