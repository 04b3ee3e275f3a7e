import Mathlib.Algebra.GroupWithZero.Nat
import SenderPolicy.Check.Run

/-!
# Turns of a check as steps of a relation

`Position.Step` is one turn under whatever answers a resolver may give, and `Position.Steps`
is a row of turns with the positions it leaves behind. The relation serves invariants and
bounds, which hold for all answers; `visited` is the row that one resolver leads to.
`visited_steps` shows that a run takes these steps, and `Position.Steps.eq_visited` that a
resolver without a memory leaves it no other way to its end.
-/

namespace SenderPolicy.Check

/-- The next task is taken from the stack, and could be put back. -/
theorem push_of_tasks {state : State} {task : Task} {below : List Task}
    (stack : state.tasks = task :: below) :
    ({ state with tasks := below } : State).push task = state := by
  rw [State.push, ← stack]

namespace Position

/-- One turn of a check, under any answer that is permitted for its question. -/
inductive Step (environment : Environment) (permitted : Dns.Question → Dns.Answer → Prop) :
    Position → Position → Prop where
  | run {state task below} (stack : state.tasks = task :: below) :
      Step environment permitted (.running state)
        (runTurn environment state task below).position
  | hear {state lookup answer} (allowed : permitted lookup.question answer) :
      Step environment permitted (.waiting state lookup)
        (receiveTurn environment state lookup.awaiting answer).position

/-- Zero or more turns, with the positions that they leave behind. -/
inductive Steps (environment : Environment) (permitted : Dns.Question → Dns.Answer → Prop) :
    Position → List Position → Position → Prop where
  | refl {position} : Steps environment permitted position [] position
  | step {position next left last}
      (first : Step environment permitted position next)
      (rest : Steps environment permitted next left last) :
      Steps environment permitted position (position :: left) last

/-- The question that a check waits for. -/
def question? : Position → Option Dns.Question
  | .running _ => none
  | .waiting _ lookup => some lookup.question

/-- The state at a position. -/
def state : Position → State
  | .running state => state
  | .waiting state _ => state

section
variable {environment : Environment} {permitted : Dns.Question → Dns.Answer → Prop}

/-- Rows of turns that meet make one row. -/
theorem Steps.trans {position middle last : Position} {left right : List Position}
    (first : Steps environment permitted position left middle)
    (second : Steps environment permitted middle right last) :
    Steps environment permitted position (left ++ right) last := by
  induction first with
  | refl => exact second
  | step turn _ inductionHypothesis => exact .step turn (inductionHypothesis second)

/-- One turn as a row. -/
theorem Step.steps {position next : Position}
    (turn : Step environment permitted position next) :
    Steps environment permitted position [position] next :=
  .step turn .refl

/-- Every turn leads to a position that precedes the one it leaves. -/
theorem Step.precedes {position next : Position}
    (turn : Step environment permitted position next) : next.Precedes position := by
  cases turn with
  | run stack => exact runTurn_precedes environment _ _ _ stack
  | hear allowed => exact receiveTurn_precedes environment _ _ _

/-- What every turn keeps, a row of turns keeps. -/
theorem Steps.keeps {property : Position → Prop}
    (each : ∀ {position next}, Step environment permitted position next →
      property position → property next)
    {position last : Position} {left : List Position}
    (steps : Steps environment permitted position left last) (holds : property position) :
    property last := by
  induction steps with
  | refl => exact holds
  | step turn _ inductionHypothesis => exact inductionHypothesis (each turn holds)

/-- A row of turns begins where it starts from, unless it is empty. -/
theorem Steps.eq_nil_or_cons {position last : Position} {left : List Position}
    (steps : Steps environment permitted position left last) :
    left = [] ∨ ∃ later, left = position :: later := by
  cases steps with
  | refl => exact .inl rfl
  | step turn rest => exact .inr ⟨_, rfl⟩

/-- What every turn keeps holds wherever a row of turns comes by. -/
theorem Steps.forall_mem {property : Position → Prop}
    (each : ∀ {position next}, Step environment permitted position next →
      property position → property next)
    {position last : Position} {left : List Position}
    (steps : Steps environment permitted position left last) (holds : property position) :
    ∀ passed ∈ left, property passed := by
  induction steps with
  | refl =>
      intro passed member
      cases member
  | step turn _ inductionHypothesis =>
      exact List.forall_mem_cons.mpr ⟨holds, inductionHypothesis (each turn holds)⟩

/-- The prices of a row add up to no more than a budget that every turn lowers by its price. -/
theorem Steps.sum_le {property : Position → Prop} {price budget : Position → Nat}
    (each : ∀ {position next}, Step environment permitted position next →
      property position → property next ∧ budget next + price position ≤ budget position)
    {position last : Position} {left : List Position}
    (steps : Steps environment permitted position left last) (holds : property position) :
    (left.map price).sum + budget last ≤ budget position := by
  induction steps with
  | refl => simp
  | step turn _ inductionHypothesis =>
      obtain ⟨kept, lowered⟩ := each turn holds
      have rest := inductionHypothesis kept
      rw [List.map_cons, List.sum_cons]
      omega

end

end Position

/-! ## The steps of a run -/

/-- The positions that a check leaves behind on its way to its end. -/
def visited (environment : Environment) (resolver : Resolver) (asked : List Dns.Question)
    (position : Position) : List Position :=
  match position with
  | .waiting state lookup =>
      let turn := receiveTurn environment state lookup.awaiting (resolver asked lookup.question)
      .waiting state lookup
        :: visited environment resolver (asked ++ [lookup.question]) turn.position
  | .running state =>
      match _stack : state.tasks with
      | [] => []
      | task :: below =>
          .running state
            :: visited environment resolver asked (runTurn environment state task below).position
termination_by position
decreasing_by
  · exact receiveTurn_precedes ..
  · exact runTurn_precedes environment state task below _stack

section
variable {environment : Environment} {resolver : Resolver} {asked : List Dns.Question}

theorem converse_waiting (state : State) (lookup : Lookup) :
    converse environment resolver asked (.waiting state lookup)
      = (.ask lookup.question
            :: (receiveTurn environment state lookup.awaiting
                (resolver asked lookup.question)).events
              ++ (converse environment resolver (asked ++ [lookup.question])
                (receiveTurn environment state lookup.awaiting
                  (resolver asked lookup.question)).position).1,
          (converse environment resolver (asked ++ [lookup.question])
            (receiveTurn environment state lookup.awaiting
              (resolver asked lookup.question)).position).2) := by
  rw [converse]

theorem converse_finished {state : State} (stack : state.tasks = []) :
    converse environment resolver asked (.running state) = ([], state) := by
  rw [converse]
  split
  · rfl
  · rename_i task below cons
    rw [stack] at cons
    contradiction

theorem converse_running {state : State} {task : Task} {below : List Task}
    (stack : state.tasks = task :: below) :
    converse environment resolver asked (.running state)
      = ((runTurn environment state task below).events
            ++ (converse environment resolver asked
              (runTurn environment state task below).position).1,
          (converse environment resolver asked
            (runTurn environment state task below).position).2) := by
  rw [converse]
  split
  · rename_i nil
    rw [stack] at nil
    contradiction
  · rename_i other rest cons
    rw [stack] at cons
    cases cons
    rfl

theorem visited_waiting (state : State) (lookup : Lookup) :
    visited environment resolver asked (.waiting state lookup)
      = .waiting state lookup
        :: visited environment resolver (asked ++ [lookup.question])
          (receiveTurn environment state lookup.awaiting
            (resolver asked lookup.question)).position := by
  rw [visited]

theorem visited_finished {state : State} (stack : state.tasks = []) :
    visited environment resolver asked (.running state) = [] := by
  rw [visited]
  split
  · rfl
  · rename_i task below cons
    rw [stack] at cons
    contradiction

theorem visited_running {state : State} {task : Task} {below : List Task}
    (stack : state.tasks = task :: below) :
    visited environment resolver asked (.running state)
      = .running state
        :: visited environment resolver asked
          (runTurn environment state task below).position := by
  rw [visited]
  split
  · rename_i nil
    rw [stack] at nil
    contradiction
  · rename_i other rest cons
    rw [stack] at cons
    cases cons
    rfl

end

/-- A run takes the steps that its resolver permits, to a position without a task. -/
theorem visited_steps (environment : Environment) (resolver : Resolver)
    {permitted : Dns.Question → Dns.Answer → Prop}
    (allowed : ∀ asked question, permitted question (resolver asked question))
    (asked : List Dns.Question) (position : Position) :
    Position.Steps environment permitted position
        (visited environment resolver asked position)
        (.running (converse environment resolver asked position).2)
      ∧ (converse environment resolver asked position).2.tasks = [] := by
  induction position using Position.precedes_wellFounded.induction generalizing asked with
  | h position inductionHypothesis =>
      cases position with
      | waiting state lookup =>
          obtain ⟨steps, finished⟩ :=
            inductionHypothesis _ (receiveTurn_precedes environment state lookup
              (resolver asked lookup.question)) (asked ++ [lookup.question])
          rw [converse_waiting, visited_waiting]
          exact ⟨.step (.hear (allowed asked _)) steps, finished⟩
      | running state =>
          cases stack : state.tasks with
          | nil =>
              rw [converse_finished stack, visited_finished stack]
              exact ⟨.refl, stack⟩
          | cons task below =>
              obtain ⟨steps, finished⟩ :=
                inductionHypothesis _ (runTurn_precedes environment state task below stack) asked
              rw [converse_running stack, visited_running stack]
              exact ⟨.step (.run stack) steps, finished⟩

/-- What every turn keeps holds wherever a run comes by, and at its end. -/
theorem visited_keeps {environment : Environment} {property : Position → Prop}
    (each : ∀ {position next}, Position.Step environment (fun _ _ => True) position next →
      property position → property next)
    (resolver : Resolver) (asked : List Dns.Question) {position : Position}
    (holds : property position) :
    (∀ passed ∈ visited environment resolver asked position, property passed)
      ∧ property (.running (converse environment resolver asked position).2) := by
  have whole : Position.Steps environment (fun _ _ => True) _ _ _ ∧ _ :=
    visited_steps environment resolver (fun _ _ => trivial) asked position
  exact ⟨whole.1.forall_mem each holds, whole.1.keeps each holds⟩

/-- Under a resolver without a memory there is one way to the end. -/
theorem Position.Steps.eq_visited {environment : Environment}
    {zone : Dns.Question → Dns.Answer} {position : Position} {left : List Position}
    {last : State}
    (steps : Position.Steps environment (fun question answer => answer = zone question)
      position left (.running last))
    (finished : last.tasks = []) (asked : List Dns.Question) :
    left = visited environment (fun _ => zone) asked position
      ∧ last = (converse environment (fun _ => zone) asked position).2 := by
  generalize ended : Position.running last = final at steps
  induction steps generalizing asked with
  | refl =>
      subst ended
      rw [visited_finished finished, converse_finished finished]
      exact ⟨rfl, rfl⟩
  | step turn _ inductionHypothesis =>
      cases turn with
      | run stack =>
          obtain ⟨rest, same⟩ := inductionHypothesis asked ended
          rw [visited_running stack, converse_running stack]
          exact ⟨congrArg _ rest, same⟩
      | hear allowed =>
          subst allowed
          obtain ⟨rest, same⟩ := inductionHypothesis (asked ++ [_]) ended
          rw [visited_waiting, converse_waiting]
          exact ⟨congrArg _ rest, same⟩

/-! ## Runs within a number of turns -/

/-- The positions that a check leaves behind within a number of turns. -/
def visitedWithin (environment : Environment) (zone : Dns.Question → Dns.Answer) :
    Nat → Position → List Position
  | 0, _ => []
  | turns + 1, .waiting state lookup =>
      .waiting state lookup :: visitedWithin environment zone turns
        (receiveTurn environment state lookup.awaiting (zone lookup.question)).position
  | turns + 1, .running state =>
      match state.tasks with
      | [] => []
      | task :: below =>
          .running state :: visitedWithin environment zone turns
            (runTurn environment state task below).position

/-- A check begins with these positions, and leaves no others behind if it needs fewer turns. -/
theorem visitedWithin_begins (environment : Environment) (zone : Dns.Question → Dns.Answer)
    (turns : Nat) (asked : List Dns.Question) (position : Position) :
    visitedWithin environment zone turns position
        <+: visited environment (fun _ => zone) asked position
      ∧ ((visitedWithin environment zone turns position).length < turns →
        visitedWithin environment zone turns position
          = visited environment (fun _ => zone) asked position) := by
  induction turns generalizing asked position with
  | zero => exact ⟨List.nil_prefix, nofun⟩
  | succ turns inductionHypothesis =>
      cases position with
      | waiting state lookup =>
          obtain ⟨begins, all⟩ := inductionHypothesis (asked ++ [lookup.question])
            (receiveTurn environment state lookup.awaiting (zone lookup.question)).position
          rw [visitedWithin, visited_waiting]
          exact ⟨List.cons_prefix_cons.mpr ⟨rfl, begins⟩,
            fun fewer => congrArg _ (all (Nat.lt_of_succ_lt_succ fewer))⟩
      | running state =>
          cases stack : state.tasks with
          | nil =>
              rw [visited_finished stack]
              simp [visitedWithin, stack]
          | cons task below =>
              obtain ⟨begins, all⟩ := inductionHypothesis asked
                (runTurn environment state task below).position
              rw [visited_running stack]
              simp only [visitedWithin, stack]
              exact ⟨List.cons_prefix_cons.mpr ⟨rfl, begins⟩,
                fun fewer => congrArg _ (all (Nat.lt_of_succ_lt_succ fewer))⟩

/-- The last state of a check that ends within a number of turns. -/
def lastWithin (environment : Environment) (zone : Dns.Question → Dns.Answer) :
    Nat → Position → Option State
  | 0, _ => none
  | turns + 1, .waiting state lookup =>
      lastWithin environment zone turns
        (receiveTurn environment state lookup.awaiting (zone lookup.question)).position
  | turns + 1, .running state =>
      match state.tasks with
      | [] => some state
      | task :: below =>
          lastWithin environment zone turns (runTurn environment state task below).position

/-- A check that ends within some turns ends as it does without counting them. -/
theorem eq_of_lastWithin {environment : Environment} {zone : Dns.Question → Dns.Answer}
    {turns : Nat} {position : Position} {last : State}
    (ended : lastWithin environment zone turns position = some last) (asked : List Dns.Question) :
    (converse environment (fun _ => zone) asked position).2 = last := by
  induction turns generalizing asked position with
  | zero => cases ended
  | succ turns inductionHypothesis =>
      cases position with
      | waiting state lookup =>
          rw [converse_waiting]
          exact inductionHypothesis ended _
      | running state =>
          cases stack : state.tasks with
          | nil =>
              simp only [lastWithin, stack, Option.some.injEq] at ended
              rw [converse_finished stack, ended]
          | cons task below =>
              simp only [lastWithin, stack] at ended
              rw [converse_running stack]
              exact inductionHypothesis ended asked

/-! ## The questions of a run -/

/-- The question that an event is about. -/
def Event.question? : Event → Option Dns.Question
  | .ask question => some question
  | .run _ => none
  | .catch _ _ => none

theorem Report.questions_eq (report : Report) :
    report.questions = report.events.filterMap Event.question? := by
  unfold Report.questions
  congr 1
  funext event
  cases event <;> rfl

/-- Handling a failure asks nothing. -/
theorem filterMap_question?_unwind (failure : Failure) (state : State) (tasks : List Task) :
    (unwind failure state tasks).1.filterMap Event.question? = [] := by
  induction tasks generalizing failure state with
  | nil => rfl
  | cons task tasks inductionHypothesis =>
      unfold unwind
      split
      · exact inductionHypothesis failure state
      · rfl
      · exact inductionHypothesis _ _

theorem Reaction.filterMap_question?_settle (reaction : Reaction) :
    reaction.settle.events.filterMap Event.question? = [] := by
  cases reaction with
  | proceed state => rfl
  | ask state lookup => rfl
  | fail state failure => exact filterMap_question?_unwind failure state state.tasks

/-- The questions in the log of a run are those of the positions it waits at. -/
theorem filterMap_question?_converse (environment : Environment) (resolver : Resolver)
    (asked : List Dns.Question) (position : Position) :
    (converse environment resolver asked position).1.filterMap Event.question?
      = (visited environment resolver asked position).filterMap Position.question? := by
  induction position using Position.precedes_wellFounded.induction generalizing asked with
  | h position inductionHypothesis =>
      cases position with
      | waiting state lookup =>
          have rest := inductionHypothesis _ (receiveTurn_precedes environment state lookup
            (resolver asked lookup.question)) (asked ++ [lookup.question])
          have silent : (receiveTurn environment state lookup.awaiting
              (resolver asked lookup.question)).events.filterMap Event.question? = [] :=
            Reaction.filterMap_question?_settle _
          rw [converse_waiting, visited_waiting]
          simp only [List.cons_append, List.filterMap_cons, Event.question?, Position.question?,
            List.filterMap_append, silent, rest, List.nil_append]
      | running state =>
          cases stack : state.tasks with
          | nil => rw [converse_finished stack, visited_finished stack]; rfl
          | cons task below =>
              have rest := inductionHypothesis _
                (runTurn_precedes environment state task below stack) asked
              have silent : (runTurn environment state task below).events.filterMap
                  Event.question? = [] := by
                simp only [runTurn, List.filterMap_cons, Event.question?]
                exact Reaction.filterMap_question?_settle _
              rw [converse_running stack, visited_running stack]
              simp only [List.filterMap_append, List.filterMap_cons, Position.question?, silent,
                rest, List.nil_append]

/-- A run asks the questions of the positions it waits at. -/
theorem questions_run (environment : Environment) (resolver : Resolver) (identity : Identity) :
    (run environment resolver identity).questions
      = (visited environment resolver [] (.running (State.start identity))).filterMap
        Position.question? := by
  rw [Report.questions_eq]
  exact filterMap_question?_converse environment resolver [] (.running (State.start identity))

/-- A run that ends within some turns asks the questions of these turns. -/
theorem questions_of_visitedWithin {environment : Environment} {zone : Dns.Question → Dns.Answer}
    {identity : Identity} {turns : Nat} {questions : List Dns.Question}
    (ended : (visitedWithin environment zone turns (.running (State.start identity))).length < turns
      ∧ (visitedWithin environment zone turns (.running (State.start identity))).filterMap
          Position.question? = questions) :
    (run environment (fun _ => zone) identity).questions = questions := by
  rw [questions_run, ← (visitedWithin_begins environment zone turns [] _).2 ended.1]
  exact ended.2

/-- A run that ends within some turns has the result of its last state. -/
theorem code_of_lastWithin {environment : Environment} {zone : Dns.Question → Dns.Answer}
    {identity : Identity} {turns : Nat} {code : ResultCode}
    (ended : (lastWithin environment zone turns (.running (State.start identity))).map State.result
      = some (some code)) :
    (run environment (fun _ => zone) identity).outcome.code = code := by
  obtain ⟨last, found, result⟩ := Option.map_eq_some_iff.mp ended
  have same := eq_of_lastWithin found []
  simp only [run, Outcome.ofState, same, result, Option.getD_some]

end SenderPolicy.Check
