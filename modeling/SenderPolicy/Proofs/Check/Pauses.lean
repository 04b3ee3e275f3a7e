import SenderPolicy.Proofs.Check.Steps

/-!
# Checks that pause

A check that is kept until its answer comes has a part of its run behind it. `remainder` is
the other part under a zone, from any position: the questions still to be asked and the last
state. It does not depend on what was asked before, so that `advance` and `resume` lead
through it piece by piece, and `Follows` says that the pieces are those of one whole run.
-/

namespace SenderPolicy.Check

/-- What a run has left from a position: the questions it will ask, and its last state. -/
structure Remainder where
  questions : List Dns.Question
  last : State

/-- What a run under a zone has left from a position. -/
def remainder (environment : Environment) (zone : Dns.Question → Dns.Answer)
    (position : Position) : Remainder where
  questions := (visited environment (fun _ => zone) [] position).filterMap Position.question?
  last := (converse environment (fun _ => zone) [] position).2

/-- Where a check stands that cannot take another turn by itself. -/
def Progress.position : Progress → Position
  | .finished state => .running state
  | .waiting state lookup => .waiting state lookup

section
variable {environment : Environment} {zone : Dns.Question → Dns.Answer}

/-- What was asked before does not matter to a zone. -/
theorem remainder_eq (asked : List Dns.Question) (position : Position) :
    remainder environment zone position
      = ⟨(visited environment (fun _ => zone) asked position).filterMap Position.question?,
          (converse environment (fun _ => zone) asked position).2⟩ := by
  obtain ⟨steps, finished⟩ := @visited_steps environment (fun _ => zone)
    (fun question answer => answer = zone question) (fun _ _ => rfl) [] position
  obtain ⟨sameVisited, sameLast⟩ := steps.eq_visited finished asked
  rw [remainder, sameVisited, sameLast]

theorem remainder_finished {state : State} (stack : state.tasks = []) :
    remainder environment zone (.running state) = ⟨[], state⟩ := by
  rw [remainder, visited_finished stack, converse_finished stack]
  rfl

theorem remainder_running {state : State} {task : Task} {below : List Task}
    (stack : state.tasks = task :: below) :
    remainder environment zone (.running state)
      = remainder environment zone (runTurn environment state task below).position := by
  rw [remainder, visited_running stack, converse_running stack]
  rfl

theorem remainder_waiting (state : State) (lookup : Lookup) :
    let next := (receiveTurn environment state lookup.awaiting (zone lookup.question)).position
    remainder environment zone (.waiting state lookup)
      = ⟨lookup.question :: (remainder environment zone next).questions,
          (remainder environment zone next).last⟩ := by
  intro next
  rw [remainder, visited_waiting, converse_waiting, List.nil_append,
    remainder_eq [lookup.question] next]
  rfl

end

/-! ## Pieces of a run -/

/-- Where a check stands next that cannot take another turn by itself. -/
def Position.pause (environment : Environment) : Position → Progress
  | .running state => (advance environment state).2
  | .waiting state lookup => .waiting state lookup

section
variable {environment : Environment} {zone : Dns.Question → Dns.Answer}

theorem advance_finished {state : State} (stack : state.tasks = []) :
    (advance environment state).2 = .finished state := by
  rw [advance]
  split
  · rfl
  · rename_i task below cons
    rw [stack] at cons
    contradiction

theorem advance_running {state : State} {task : Task} {below : List Task}
    (stack : state.tasks = task :: below) :
    (advance environment state).2
      = (runTurn environment state task below).position.pause environment := by
  rw [advance]
  split
  · rename_i nil
    rw [stack] at nil
    contradiction
  · rename_i other rest cons
    rw [stack] at cons
    cases cons
    obtain ⟨events, position⟩ := runTurn environment state task below
    cases position <;> rfl

theorem resume_eq_pause (state : State) (awaiting : Awaiting) (answer : Dns.Answer) :
    (resume environment state awaiting answer).2
      = (receiveTurn environment state awaiting answer).position.pause environment := by
  unfold resume Position.pause
  split <;> rename_i next <;> simp only [next]

/-- A pause leaves the rest of the run as it is, and an end has no task left. -/
theorem Position.remainder_pause (position : Position) :
    remainder environment zone (position.pause environment).position
        = remainder environment zone position
      ∧ ∀ last, position.pause environment = .finished last → last.tasks = [] := by
  induction position using Position.precedes_wellFounded.induction with
  | h position inductionHypothesis =>
      cases position with
      | waiting state lookup =>
          refine ⟨rfl, ?_⟩
          intro last finished
          cases finished
      | running state =>
          rw [Position.pause]
          cases stack : state.tasks with
          | nil =>
              rw [advance_finished stack]
              refine ⟨rfl, ?_⟩
              intro last finished
              cases finished
              exact stack
          | cons task below =>
              rw [advance_running stack, remainder_running stack]
              exact inductionHypothesis _ (runTurn_precedes environment state task below stack)

end

/-! ## Following a run -/

/-- A check of an identity that has asked some questions has the rest of its run left. -/
structure Follows (environment : Environment) (zone : Dns.Question → Dns.Answer)
    (identity : Identity) (asked : List Dns.Question) (rest : Remainder) : Prop where
  questions : (run environment (fun _ => zone) identity).questions = asked ++ rest.questions
  outcome : (run environment (fun _ => zone) identity).outcome = Outcome.ofState rest.last

section
variable {environment : Environment} {zone : Dns.Question → Dns.Answer} {identity : Identity}
  {asked : List Dns.Question}

/-- A check that has not begun has its whole run left. -/
theorem Follows.start :
    Follows environment zone identity []
      (remainder environment zone (.running (State.start identity))) where
  questions := questions_run environment (fun _ => zone) identity
  outcome := rfl

/-- A question that is asked is the next one of the run. -/
theorem Follows.ask {question : Dns.Question} {questions : List Dns.Question} {last : State}
    (follows : Follows environment zone identity asked ⟨question :: questions, last⟩) :
    Follows environment zone identity (asked ++ [question]) ⟨questions, last⟩ where
  questions := by rw [follows.questions, List.append_assoc]; rfl
  outcome := follows.outcome

/-- The questions that have been asked are the first of the run. -/
theorem Follows.isPrefix {rest : Remainder}
    (follows : Follows environment zone identity asked rest) :
    asked <+: (run environment (fun _ => zone) identity).questions :=
  ⟨rest.questions, follows.questions.symm⟩

end

end SenderPolicy.Check
