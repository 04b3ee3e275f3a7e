import SenderPolicy.Proofs.Check.Consistency.Answers
import SenderPolicy.Proofs.Check.Includes

/-!
# Checks are never at odds with themselves

Handling a failure removes whatever stood above plain tasks, so consistency is kept by failing
turns too, and by whole runs. What is raised on the way is ordinary, or it comes from the text of
an explanation; and a walk through the client's names ends with the task that it was made for
still on top of the stack.
-/

namespace SenderPolicy.Check

/-- The failure of the entry is one that a check may have. -/
def Event.IsExpected (event : Event) : Prop :=
  ∀ failure, event.failure? = some failure → failure.IsExpected

section
variable {environment : Environment} {state : State} {explains : Bool}

/-! ## Handling failures -/

theorem unwind_top {top : List Task}
    (onTop : ∀ task ∈ top, task.isOfRecord = true ∨ task.isPrepared = true) (failure : Failure)
    (state : State) (below : List Task) :
    unwind failure state (top ++ below) = unwind failure state below := by
  induction top with
  | nil => rfl
  | cons task top inductionHypothesis =>
      obtain ⟨here, rest⟩ := List.forall_mem_cons.mp onTop
      rw [List.cons_append, unwind, handle_eq_none here]
      exact inductionHypothesis rest

theorem unwind_isConsistent {below : List Task} {failure : Failure}
    (known : state.identity.client.isSome = true) (plain : ∀ task ∈ below, task.IsPlain)
    (expected : failure.IsExpected) :
    (unwind failure state below).2.IsConsistent environment
      ∧ ∀ event ∈ (unwind failure state below).1, event.IsExpected := by
  induction below generalizing state failure with
  | nil =>
      have finished : ({ state with tasks := [] }.decide failure.code).IsPlain := ⟨known, nofun⟩
      exact ⟨finished.consistent, nofun⟩
  | cons task below inductionHypothesis =>
      obtain ⟨_, rest⟩ := List.forall_mem_cons.mp plain
      rw [unwind]
      cases handled : handle failure { state with tasks := below } task with
      | none => exact inductionHypothesis known rest expected
      | some handling =>
          obtain ⟨tasks, _, identity, _, _⟩ := handle_effect handled
          have stillKnown : handling.state.identity.client.isSome = true := identity ▸ known
          have first : (Event.catch task failure).IsExpected := by
            rintro _ ⟨⟩
            exact expected
          cases handling with
          | caught after =>
              have afterPlain : after.IsPlain := ⟨stillKnown, tasks ▸ rest⟩
              exact ⟨afterPlain.consistent, List.forall_mem_singleton.mpr first⟩
          | rethrown after next =>
              obtain ⟨consistent, events⟩ := inductionHypothesis stillKnown rest
                (expected_of_rethrown expected handled)
              exact ⟨consistent, List.forall_mem_cons.mpr ⟨first, events⟩⟩

theorem Reaction.IsConsistent.settle {reaction : Reaction}
    (consistent : reaction.IsConsistent environment explains) :
    reaction.settle.position.IsConsistent environment
      ∧ ∀ event ∈ reaction.settle.events, event.IsExpected := by
  cases reaction with
  | proceed after => exact ⟨.inl consistent, nofun⟩
  | ask after lookup => exact ⟨consistent, nofun⟩
  | fail after failure =>
      obtain ⟨⟨known, top, below, tasks, onTop, plain⟩, allowed⟩ := consistent
      have expected : failure.IsExpected := allowed.imp_right And.right
      obtain ⟨handled, events⟩ := unwind_isConsistent known plain expected
      rw [← unwind_top onTop, ← tasks] at handled events
      exact ⟨.inl handled, events⟩

/-! ## Turns -/

/-- What the next turn comes to before failures are handled. -/
def Position.reaction? (environment : Environment) (answer : Dns.Answer) :
    Position → Option Reaction
  | .running state =>
      match state.tasks with
      | [] => none
      | task :: below => some (runTask environment { state with tasks := below } task)
  | .waiting state lookup => some (receive environment answer state lookup.awaiting)

/-- The next turn raises the failure, under some answer if one is awaited. -/
def Position.Raises (environment : Environment) (position : Position) (failure : Failure) : Prop :=
  ∃ answer state, position.reaction? environment answer = some (.fail state failure)

/-- The next turn expands the text of an explanation, or prepares it. -/
def Position.expandsExplanation : Position → Bool
  | .running state => state.tasks.head?.any Task.expandsExplanation
  | .waiting _ lookup => lookup.awaiting.expandsExplanation

/-- Where the result is decided, nothing fails. -/
theorem State.IsDecided.runTask {task : Task} {below : List Task} (decided : state.IsDecided)
    (stack : state.tasks = task :: below) :
    ∃ after, Check.runTask environment { state with tasks := below } task = .proceed after
      ∧ after.IsDecided := by
  obtain ⟨code, isDecided⟩ := Option.isSome_iff_exists.mp decided.decided
  have each := decided.tasks
  rw [stack] at each
  obtain ⟨here, rest⟩ := List.forall_mem_cons.mp each
  rcases here with rfl | rfl
  · refine ⟨{ state with tasks := below }, ?_, decided.decided, rest⟩
    simp [Check.runTask, State.isOpen, isDecided]
  · refine ⟨_, rfl, ?_, rest⟩
    simp [State.decide, isDecided]

theorem Position.IsConsistent.reaction {position : Position} {answer : Dns.Answer}
    {reaction : Reaction} (consistent : position.IsConsistent environment)
    (turn : position.reaction? environment answer = some reaction) :
    reaction.IsConsistent environment position.expandsExplanation
      ∨ ∃ after, reaction = .proceed after ∧ after.IsDecided := by
  cases position with
  | waiting state lookup =>
      cases turn
      exact .inl (receive_isConsistent answer consistent.1 consistent.2)
  | running state =>
      simp only [reaction?] at turn
      split at turn
      · cases turn
      · rename_i task below stack
        cases turn
        rcases consistent with consistent | decided
        · have ran := runTask_isConsistent consistent stack
          rw [expandsExplanation, stack]
          exact .inl ran
        · exact .inr (decided.runTask stack)

theorem Position.IsConsistent.receiveTurn {lookup : Lookup}
    (consistent : (Position.waiting state lookup).IsConsistent environment) (answer : Dns.Answer) :
    (Check.receiveTurn environment state lookup.awaiting answer).position.IsConsistent environment
      ∧ ∀ event ∈ (Check.receiveTurn environment state lookup.awaiting answer).events,
        event.IsExpected := by
  have received := receive_isConsistent answer consistent.1 consistent.2
  exact received.settle

theorem Position.IsConsistent.runTurn {task : Task} {below : List Task}
    (consistent : (Position.running state).IsConsistent environment)
    (stack : state.tasks = task :: below) :
    (Check.runTurn environment state task below).position.IsConsistent environment
      ∧ ∀ event ∈ (Check.runTurn environment state task below).events, event.IsExpected := by
  have first : (Event.run task).IsExpected := by rintro _ ⟨⟩
  rw [Check.runTurn]
  rcases consistent with consistent | decided
  · obtain ⟨next, events⟩ := (runTask_isConsistent consistent stack).settle
    exact ⟨next, List.forall_mem_cons.mpr ⟨first, events⟩⟩
  · obtain ⟨after, proceeds, still⟩ := decided.runTask stack
    rw [proceeds]
    exact ⟨.inr still, List.forall_mem_singleton.mpr first⟩

theorem Position.Step.isConsistent {permitted : Dns.Question → Dns.Answer → Prop}
    {position next : Position} (turn : Step environment permitted position next)
    (consistent : position.IsConsistent environment) : next.IsConsistent environment := by
  cases turn with
  | run stack => exact (consistent.runTurn stack).1
  | hear allowed => exact (consistent.receiveTurn _).1

/-- Failures come from records, cells, answers and limits, or from the text of an explanation. -/
theorem Position.IsConsistent.raises {position : Position} {failure : Failure}
    (consistent : position.IsConsistent environment)
    (raises : position.Raises environment failure) :
    failure.IsOrdinary ∨ position.expandsExplanation = true ∧ failure.IsUnreadable := by
  obtain ⟨answer, state, turn⟩ := raises
  rcases consistent.reaction turn with here | ⟨after, proceeds, _⟩
  · exact here.2
  · cases proceeds

/-! ## Runs -/

theorem isConsistent_start (environment : Environment) (identity : Identity) :
    (Position.running (State.start identity)).IsConsistent environment := by
  cases client : identity.client with
  | some address =>
      have plain : (State.start identity).IsPlain := by
        refine ⟨by simp [State.start, client], ?_⟩
        exact List.forall_mem_cons.mpr ⟨Task.isPlain_of_none rfl rfl rfl,
          List.forall_mem_singleton.mpr (Task.isPlain_of_none rfl rfl rfl)⟩
      exact .inl plain.consistent
  | none =>
      refine .inr ⟨by simp [State.start, client], ?_⟩
      simp [State.start]

/-- All positions of a run are consistent, and all failures in its log are expected. -/
theorem converse_isConsistent (environment : Environment) (resolver : Resolver)
    (asked : List Dns.Question) (position : Position)
    (consistent : position.IsConsistent environment) :
    (∀ passed ∈ visited environment resolver asked position, passed.IsConsistent environment)
      ∧ ∀ event ∈ (converse environment resolver asked position).1, event.IsExpected := by
  induction position using Position.precedes_wellFounded.induction generalizing asked with
  | h position inductionHypothesis =>
      cases position with
      | waiting state lookup =>
          obtain ⟨next, here⟩ := consistent.receiveTurn (resolver asked lookup.question)
          obtain ⟨later, events⟩ := inductionHypothesis _
            (receiveTurn_precedes environment state lookup (resolver asked lookup.question))
            (asked ++ [lookup.question]) next
          rw [visited_waiting, converse_waiting]
          refine ⟨List.forall_mem_cons.mpr ⟨consistent, later⟩, ?_⟩
          exact List.forall_mem_cons.mpr ⟨nofun, List.forall_mem_append.mpr ⟨here, events⟩⟩
      | running state =>
          cases stack : state.tasks with
          | nil =>
              rw [visited_finished stack, converse_finished stack]
              exact ⟨List.forall_mem_nil _, List.forall_mem_nil _⟩
          | cons task below =>
              obtain ⟨next, here⟩ := consistent.runTurn stack
              obtain ⟨later, events⟩ := inductionHypothesis _
                (runTurn_precedes environment state task below stack) asked next
              rw [visited_running stack, converse_running stack]
              refine ⟨List.forall_mem_cons.mpr ⟨consistent, later⟩, ?_⟩
              exact List.forall_mem_append.mpr ⟨here, events⟩

/-- A check that waits for the client's names goes on waiting until its state differs by the
client's domain alone. -/
theorem Position.Steps.walks {permitted : Dns.Question → Dns.Answer → Prop} {lookup : Lookup}
    {left : List Position} {last : State}
    (steps : Steps environment permitted (.waiting state lookup) left (.running last))
    (known : state.identity.client.isSome = true) (finds : lookup.awaiting.findsClient = true) :
    ∃ domain walk rest,
      left ++ [.running last] = walk ++ .running { state with clientDomain := some domain } :: rest
        ∧ ∀ position ∈ walk, ∃ other, position = .waiting state other
          ∧ other.awaiting.findsClient = true := by
  generalize began : Position.waiting state lookup = start at steps
  generalize ended : Position.running last = final at steps ⊢
  induction steps generalizing lookup with
  | refl =>
      rw [← ended] at began
      cases began
  | @step position next left final turn rest inductionHypothesis =>
      subst began
      cases turn with
      | @hear _ _ answer allowed =>
          have here : ∀ other ∈ [Position.waiting state lookup], ∃ lookup,
              other = .waiting state lookup ∧ lookup.awaiting.findsClient = true :=
            List.forall_mem_singleton.mpr ⟨lookup, rfl, finds⟩
          rcases receive_walks answer known finds with ⟨domain, heard⟩ | ⟨other, more, heard⟩
          · rw [receiveTurn, heard] at rest
            obtain ⟨after, row⟩ := rest.exists_cons
            exact ⟨domain, [_], after, congrArg (_ :: ·) row, here⟩
          · rw [receiveTurn, heard] at inductionHypothesis
            obtain ⟨domain, walk, after, row, each⟩ := inductionHypothesis more rfl ended
            exact ⟨domain, _ :: walk, after, congrArg (_ :: ·) row,
              List.forall_mem_cons.mpr ⟨⟨lookup, rfl, finds⟩, each⟩⟩

end

/-- No check is at odds with itself. No failure that it raises or handles is worded so, and only
the text of an explanation can turn out not to be made up of tokens. No text is turned down as a
record in these words: a term that has been recognised is of a known kind and lacks none of its
parts. The expander accepts all domain specifications of a record that has been read. A check
that waits for the client's names has a text on top of its stack that could not be expanded
without them, and when the waiting ends the state differs by the client's domain alone and the
text can be expanded. -/
theorem never_internal (environment : Environment) (resolver : Resolver) (identity : Identity) :
    let report := run environment resolver identity
    let passed := visited environment resolver [] (.running (State.start identity))
    let last := (converse environment resolver [] (.running (State.start identity))).2
    (∀ position ∈ passed, ∀ failure, position.Raises environment failure →
        failure.beginsWith Failure.internalOpenings = false
          ∧ (failure.beginsWith Failure.unreadableOpenings = true →
            position.expandsExplanation = true))
      ∧ (∀ event ∈ report.events, ∀ failure, event.failure? = some failure →
        failure.beginsWith Failure.internalOpenings = false)
      ∧ (∀ text failure, Record.read text = .error failure →
        failure.beginsWith Failure.internalOpenings = false)
      ∧ (∀ text record, Record.read text = .ok record → ∀ spec ∈ record.specs,
        Macro.isDomainSpec spec = true
          ∧ ∀ localNames values failure,
            Macro.expand localNames .domain values spec = .error (.failure failure) →
            failure.beginsWith Failure.internalOpenings = false
              ∧ failure.beginsWith Failure.unreadableOpenings = false)
      ∧ ∀ before state lookup after,
        passed ++ [.running last] = before ++ .waiting state lookup :: after →
        lookup.awaiting.findsClient = true →
        ∃ task mode text domain walk rest,
          state.tasks.head? = some task ∧ task.expansion? = some (mode, text)
            ∧ state.expand environment mode text = .error .clientDomainUnknown
            ∧ .waiting state lookup :: after
              = walk ++ .running { state with clientDomain := some domain } :: rest
            ∧ (∀ position ∈ walk, ∃ other, position = .waiting state other
              ∧ other.awaiting.findsClient = true)
            ∧ State.expand environment mode text { state with clientDomain := some domain }
              ≠ .error .clientDomainUnknown := by
  intro report passed last
  obtain ⟨consistent, events⟩ := converse_isConsistent environment resolver []
    (.running (State.start identity)) (isConsistent_start environment identity)
  refine ⟨?_, ?_, ?_, ?_, ?_⟩
  · intro position member failure raises
    rcases (consistent position member).raises raises with ordinary | ⟨explains, unreadable⟩
    · obtain ⟨noInternal, readable⟩ := ordinary.beginsWith
      exact ⟨noInternal, fun unreadable => by rw [readable] at unreadable; cases unreadable⟩
    · exact ⟨Failure.IsExpected.beginsWith (.inr unreadable), fun _ => explains⟩
  · exact fun event member failure found => (events event member failure found).beginsWith
  · intro text failure failed
    have expected : failure.IsExpected := .inl (Failure.isOrdinary_of_read failed)
    exact expected.beginsWith
  · intro text record reads spec member
    have domain := Record.isExpandable_of_read reads spec member
    exact ⟨domain, fun localNames values failure failed =>
      (Macro.isOfCell_of_expand domain failed).beginsWith⟩
  · intro before state lookup after row finds
    have whole : Position.Steps environment (fun _ _ => True) _ _ _ ∧ _ :=
      visited_steps environment resolver (fun _ _ => trivial) [] (.running (State.start identity))
    obtain ⟨right, steps, same⟩ := whole.1.from_middle row
    have isPassed : .waiting state lookup ∈ passed := by
      have member : .waiting state lookup ∈ passed ++ [.running last] := by
        rw [row]
        exact List.mem_append_right _ (List.mem_cons_self ..)
      simpa using member
    obtain ⟨known, awaits⟩ := consistent _ isPassed
    cases awaits with
    | client _ tasks prepared expandable expands unknown plain =>
        obtain ⟨domain, walk, rest, walks, each⟩ := steps.walks known finds
        refine ⟨_, _, _, domain, walk, rest, ?_, expands, unknown, same.symm.trans walks, each,
          expand_of_clientDomain domain _ _⟩
        rw [tasks, List.head?_cons]
    | record other tasks parses parse fits plain =>
        rw [findsRecord_of_findsClient finds] at other
        cases other
    | other noRecord noClient plain =>
        rw [finds] at noClient
        cases noClient

end SenderPolicy.Check
