import SenderPolicy.Check.Measure
import SenderPolicy.Check.Outcome

/-!
# Runs of a check

`advance` runs tasks until the check needs an answer or has no task left, and `resume`
goes on with an answer; between the two a check can be kept for as long as the answer
takes. `converse` runs a check to its end with a resolver that answers at once. All of
them take the same turns, and `Measure` shows why they end.
-/

namespace SenderPolicy.Check

instance : WellFoundedRelation Position :=
  ⟨Position.Precedes, Position.precedes_wellFounded⟩

/-- Where a check stands when it cannot take another turn by itself. -/
inductive Progress where
  | finished (state : State)
  | waiting (state : State) (lookup : Lookup)

/-- Run tasks until the check needs an answer or has no task left. -/
def advance (environment : Environment) (state : State) : List Event × Progress :=
  match _stack : state.tasks with
  | [] => ([], .finished state)
  | task :: below =>
      let turn := runTurn environment state task below
      match _next : turn.position with
      | .waiting after lookup => (turn.events, .waiting after lookup)
      | .running after =>
          let (events, progress) := advance environment after
          (turn.events ++ events, progress)
termination_by Position.running state
decreasing_by exact _next ▸ runTurn_precedes environment state task below _stack

/-- Go on with the answer to the question that a check waits for. -/
def resume (environment : Environment) (state : State) (awaiting : Awaiting)
    (answer : Dns.Answer) : List Event × Progress :=
  let turn := receiveTurn environment state awaiting answer
  match turn.position with
  | .waiting after lookup => (turn.events, .waiting after lookup)
  | .running after =>
      let (events, progress) := advance environment after
      (turn.events ++ events, progress)

/-- A resolver that answers at once. Its answers may depend on what it has been asked
before. -/
abbrev Resolver := List Dns.Question → Dns.Question → Dns.Answer

/-- Run a check to its end, from a position and the questions asked before it. -/
def converse (environment : Environment) (resolver : Resolver) (asked : List Dns.Question)
    (position : Position) : List Event × State :=
  match position with
  | .waiting state lookup =>
      let question := lookup.question
      let turn := receiveTurn environment state lookup.awaiting (resolver asked question)
      let (events, last) := converse environment resolver (asked ++ [question]) turn.position
      (.ask question :: turn.events ++ events, last)
  | .running state =>
      match _stack : state.tasks with
      | [] => ([], state)
      | task :: below =>
          let turn := runTurn environment state task below
          let (events, last) := converse environment resolver asked turn.position
          (turn.events ++ events, last)
termination_by position
decreasing_by
  · exact receiveTurn_precedes ..
  · exact runTurn_precedes environment state task below _stack

/-- A check from its beginning to its end: what happened, and what it reports. -/
structure Report where
  events : List Event
  outcome : Outcome

/-- Check an identity. -/
def run (environment : Environment) (resolver : Resolver) (identity : Identity) : Report :=
  let (events, last) := converse environment resolver [] (.running (State.start identity))
  ⟨events, Outcome.ofState last⟩

/-- The questions of a check, in order. -/
def Report.questions (report : Report) : List Dns.Question :=
  report.events.filterMap fun event =>
    match event with
    | .ask question => some question
    | _ => none

end SenderPolicy.Check
