import SenderPolicy.Proofs.Check.Budget.Basic
import SenderPolicy.Proofs.Check.Consistency.Wording
import SenderPolicy.Proofs.Macro.Grammar

/-!
# Consistent states

Two kinds of tasks rely on what has gone before. The evaluation of a record needs a policy at
hand, which the stages below it on the way provide in their order; and a task that expands a text
needs the client's domain, if the text does, which has been looked up when the text was prepared.
Both kinds stand on top of the stack only, above plain tasks that can wait. `State.IsConsistent`
says so of a state whose next task is run, and `State.AwaitsWith` of one that waits for an answer.
-/

namespace SenderPolicy

/-! ## Domain specifications -/

/-- The domain specification that the modifier expands. -/
def Modifier.spec? : Modifier → Option Text
  | .redirect spec | .exp spec => some spec
  | .unknown _ _ => none

/-- The domain specifications of a record. -/
def Record.specs (record : Record) : List Text :=
  record.directives.filterMap (fun directive => directive.mechanism.domain?)
    ++ record.modifiers.filterMap Modifier.spec?

/-- The expander accepts all domain specifications of the record. -/
def Record.IsExpandable (record : Record) : Prop :=
  ∀ spec ∈ record.specs, Macro.isDomainSpec spec = true

theorem Record.isExpandable_iff {record : Record} :
    record.IsExpandable
      ↔ (∀ directive ∈ record.directives, ∀ spec, directive.mechanism.domain? = some spec →
          Macro.isDomainSpec spec = true)
        ∧ ∀ modifier ∈ record.modifiers, ∀ spec, modifier.spec? = some spec →
          Macro.isDomainSpec spec = true := by
  simp only [IsExpandable, specs, List.forall_mem_append, List.mem_filterMap, forall_exists_index,
    and_imp]
  constructor
  · rintro ⟨directives, modifiers⟩
    exact ⟨fun directive member spec same => directives spec directive member same,
      fun modifier member spec same => modifiers spec modifier member same⟩
  · rintro ⟨directives, modifiers⟩
    exact ⟨fun spec directive member same => directives directive member spec same,
      fun spec modifier member same => modifiers modifier member spec same⟩

namespace Check

/-- The domain specification that the task expands, at once or later. -/
def Task.spec? : Task → Option Text
  | .directive term => term.mechanism.domain?
  | .mechanism test | .expandedMechanism test => test.domain?
  | .modifier term => term.spec?
  | .followRedirect spec | .askExplanation spec => some spec
  | _ => none

/-- The expander accepts the domain specification of the task. -/
def Task.IsExpandable (task : Task) : Prop :=
  ∀ spec, task.spec? = some spec → Macro.isDomainSpec spec = true

/-! ## Tasks -/

/-- The tasks that obtain a record and begin to evaluate it. -/
def Task.isOfRecord : Task → Bool
  | .stage _ | .evaluateRecord => true
  | _ => false

/-- The tasks that expand a text after it has been prepared. -/
def Task.isPrepared : Task → Bool
  | .expandedMechanism _ | .followRedirect _ | .askExplanation _ | .explain _ => true
  | _ => false

/-- The text that a prepared task expands, with what for. -/
def Task.expansion? : Task → Option (Macro.Mode × Text)
  | .expandedMechanism test => test.domain?.map (.domain, ·)
  | .followRedirect spec | .askExplanation spec => some (.domain, spec)
  | .explain text => some (.explanation, text)
  | _ => none

/-- The tasks that expand the text of an explanation, or prepare it. -/
def Task.expandsExplanation : Task → Bool
  | .explain _ | .hook (.defaultExplanation _) => true
  | _ => false

/-- The task relies on nothing that has gone before. -/
structure Task.IsPlain (task : Task) : Prop where
  record : task.isOfRecord = false
  prepared : task.isPrepared = false
  expandable : task.IsExpandable

theorem Task.isPlain_of_none {task : Task} (record : task.isOfRecord = false)
    (prepared : task.isPrepared = false) (none : task.spec? = none) : task.IsPlain :=
  ⟨record, prepared, fun spec same => by rw [none] at same; cases same⟩

/-! ## The record at hand -/

/-- The stages that may put the text of a record at hand. -/
def Stage.givesText : Stage → Bool
  | .retrieve | .retrieveStrict | .bestGuess => true
  | _ => false

/-- Behind every stage that may give text there is one that parses it. -/
def parsesText : List Stage → Bool
  | [] => true
  | stage :: stages => (!stage.givesText || stages.contains .parseRecord) && parsesText stages

theorem parsesText_stages (options : Options) : parsesText (stages options) = true := by
  unfold stages
  (repeat' split) <;> rfl

theorem noRecordFound_mem_stages (options : Options) : .noRecordFound ∈ stages options := by
  simp [stages]

theorem parseRecord_mem {stage : Stage} {remaining : List Stage}
    (parses : parsesText (stage :: remaining) = true) (gives : stage.givesText = true) :
    .parseRecord ∈ remaining := by
  simpa [parsesText, gives] using (Bool.and_eq_true_iff.mp parses).1

theorem parsesText_tail {stage : Stage} {remaining : List Stage}
    (parses : parsesText (stage :: remaining) = true) : parsesText remaining = true :=
  (Bool.and_eq_true_iff.mp parses).2

/-- The stages that remain make a policy of what is at hand, or fail. -/
def Fits (remaining : List Stage) : Option Slot → Prop
  | none => .noRecordFound ∈ remaining
  | some (.text _) => .parseRecord ∈ remaining
  | some (.policy policy) => policy.record.IsExpandable

/-! ## States -/

/-- The client's address is known, and all tasks are plain. -/
structure State.IsPlain (state : State) : Prop where
  known : state.identity.client.isSome = true
  tasks : ∀ task ∈ state.tasks, task.IsPlain

/-- The answer is a record or the lack of one. -/
def Awaiting.findsRecord : Awaiting → Bool
  | .spfRecords | .txtRecords | .strictSpfRecords | .strictTxtRecords _ => true
  | _ => false

theorem findsRecord_of_findsClient {awaiting : Awaiting} (finds : awaiting.findsClient = true) :
    awaiting.findsRecord = false := by
  cases awaiting <;> first | rfl | cases finds

/-- The text of an explanation is prepared from the answer. -/
def Awaiting.expandsExplanation : Awaiting → Bool
  | .explanationTexts => true
  | _ => false

section
variable (environment : Environment) (state : State)

/-- What may stand above plain tasks. -/
inductive State.Tops : List Task → Prop where
  | nothing : Tops []
  | record {remaining} (parses : parsesText remaining = true) (fits : Fits remaining state.slot) :
      Tops (remaining.map .stage ++ [.evaluateRecord])
  | prepared {task} (prepared : task.isPrepared = true) (expandable : task.IsExpandable)
      (ready : ∀ mode text, task.expansion? = some (mode, text) →
        state.expand environment mode text ≠ .error .clientDomainUnknown) :
      Tops [task]

/-- The next task can rely on what has gone before. -/
structure State.IsConsistent : Prop where
  known : state.identity.client.isSome = true
  stack : ∃ top below, state.tasks = top ++ below ∧ state.Tops environment top
    ∧ ∀ task ∈ below, task.IsPlain

/-- The next task will be able to rely on the answers. -/
inductive State.AwaitsWith : Awaiting → Prop where
  | record {awaiting remaining below} (finds : awaiting.findsRecord = true)
      (tasks : state.tasks = remaining.map .stage ++ .evaluateRecord :: below)
      (parses : parsesText remaining = true) (parse : .parseRecord ∈ remaining)
      (fits : Fits remaining state.slot) (plain : ∀ task ∈ below, task.IsPlain) :
      AwaitsWith awaiting
  | client {awaiting task below mode text} (finds : awaiting.findsClient = true)
      (tasks : state.tasks = task :: below) (prepared : task.isPrepared = true)
      (expandable : task.IsExpandable) (expands : task.expansion? = some (mode, text))
      (unknown : state.expand environment mode text = .error .clientDomainUnknown)
      (plain : ∀ task ∈ below, task.IsPlain) : AwaitsWith awaiting
  | other {awaiting} (noRecord : awaiting.findsRecord = false)
      (noClient : awaiting.findsClient = false) (plain : ∀ task ∈ state.tasks, task.IsPlain) :
      AwaitsWith awaiting

/-- A turn that fails may leave behind what stood on top of the stack. -/
structure State.IsAbandoned : Prop where
  known : state.identity.client.isSome = true
  stack : ∃ top below, state.tasks = top ++ below
    ∧ (∀ task ∈ top, task.isOfRecord = true ∨ task.isPrepared = true)
    ∧ ∀ task ∈ below, task.IsPlain

/-- Every outcome of a reaction is consistent, and it fails by text outside tokens only where it
may. -/
def Reaction.IsConsistent (explains : Bool) : Reaction → Prop
  | .proceed state => state.IsConsistent environment
  | .ask state lookup =>
      state.identity.client.isSome = true ∧ state.AwaitsWith environment lookup.awaiting
  | .fail state failure =>
      state.IsAbandoned ∧ (failure.IsOrdinary ∨ explains = true ∧ failure.IsUnreadable)

end

/-- The result is decided, and no task depends on anything. -/
structure State.IsDecided (state : State) : Prop where
  decided : state.result.isSome = true
  tasks : ∀ task ∈ state.tasks, task = .evaluateDomain ∨ task = .conclude

/-- Where a check stands, it does so consistently. Without a client's address there is nothing
left to decide. -/
def Position.IsConsistent (environment : Environment) : Position → Prop
  | .running state => state.IsConsistent environment ∨ state.IsDecided
  | .waiting state lookup =>
      state.identity.client.isSome = true ∧ state.AwaitsWith environment lookup.awaiting

/-! ## Plain states -/

section
variable {environment : Environment} {state : State} {explains : Bool}

namespace State.IsPlain

theorem exists_client (plain : state.IsPlain) :
    ∃ client, state.identity.client = some client :=
  Option.isSome_iff_exists.mp plain.known

/-- Other fields may change. -/
theorem change {after : State} (plain : state.IsPlain) (identity : after.identity = state.identity)
    (tasks : after.tasks = state.tasks) : after.IsPlain :=
  ⟨identity ▸ plain.known, tasks ▸ plain.tasks⟩

theorem pushAll (plain : state.IsPlain) {tasks : List Task} (each : ∀ task ∈ tasks, task.IsPlain) :
    (state.pushAll tasks).IsPlain :=
  ⟨plain.known, List.forall_mem_append.mpr ⟨each, plain.tasks⟩⟩

theorem consistent (plain : state.IsPlain) : state.IsConsistent environment :=
  ⟨plain.known, [], state.tasks, rfl, .nothing, plain.tasks⟩

theorem ask (plain : state.IsPlain) {lookup : Lookup}
    (noRecord : lookup.awaiting.findsRecord = false)
    (noClient : lookup.awaiting.findsClient = false) :
    Reaction.IsConsistent environment explains (.ask state lookup) :=
  ⟨plain.known, .other noRecord noClient plain.tasks⟩

theorem abandoned (plain : state.IsPlain) : state.IsAbandoned :=
  ⟨plain.known, [], state.tasks, rfl, nofun, plain.tasks⟩

theorem fail (plain : state.IsPlain) {failure : Failure} (ordinary : failure.IsOrdinary) :
    Reaction.IsConsistent environment explains (.fail state failure) :=
  ⟨plain.abandoned, .inl ordinary⟩

end State.IsPlain

end

/-! ## Handling failures -/

/-- The failure in an entry of the log. -/
def Event.failure? : Event → Option Failure
  | .catch _ failure => some failure
  | .run _ => none
  | .ask _ => none

theorem handle_eq_none {failure : Failure} {state : State} {task : Task}
    (top : task.isOfRecord = true ∨ task.isPrepared = true) : handle failure state task = none := by
  cases task <;> first | rfl | simp [Task.isOfRecord, Task.isPrepared] at top

/-- A failure that travels on is the same, or says that the target of a redirect has no record. -/
theorem expected_of_rethrown {failure next : Failure} {state after : State} {task : Task}
    (expected : failure.IsExpected)
    (handled : handle failure state task = some (.rethrown after next)) : next.IsExpected := by
  cases task with
  | leaveInclude frame =>
      simp only [handle] at handled
      split at handled <;> cases handled
      exact expected
  | leaveRedirect =>
      simp only [handle] at handled
      split at handled <;> cases handled
      · exact .inl (.redirectWithoutRecord _)
      · exact expected
  | _ => cases handled

end Check

end SenderPolicy
