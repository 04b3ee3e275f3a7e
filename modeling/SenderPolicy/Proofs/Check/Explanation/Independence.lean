import SenderPolicy.Proofs.Check.Explanation.Course

/-!
# Results do not depend on explanations

Two resolvers that give the same answers, except to questions asked below a guard, lead a check
through the same positions up to the first explanation. By then the client has failed, and each
check goes on to report this with the same domain.
-/

namespace SenderPolicy.Check

/-- In the run under the first of two resolvers from a position, both give the same answers,
except to the questions of explanations. -/
def AnswerAlike (environment : Environment) (first second : Resolver) (asked : List Dns.Question)
    (position : Position) : Prop :=
  ∀ before state lookup after,
    visited environment first asked position = before ++ .waiting state lookup :: after →
    .guardExplanation ∉ state.tasks →
    first (asked ++ before.filterMap Position.question?) lookup.question
      = second (asked ++ before.filterMap Position.question?) lookup.question

section
variable {environment : Environment} {first second : Resolver} {asked : List Dns.Question}

/-- What resolvers do alike from a position on, they do alike from the next one on. -/
theorem AnswerAlike.running {state : State} {task : Task} {below : List Task}
    (alike : AnswerAlike environment first second asked (.running state))
    (stack : state.tasks = task :: below) :
    AnswerAlike environment first second asked
      (runTurn environment state task below).position := by
  intro before waiting lookup after row unguarded
  refine alike (.running state :: before) waiting lookup after ?_ unguarded
  rw [visited_running stack, row, List.cons_append]

theorem AnswerAlike.waiting {state : State} {lookup : Lookup}
    (alike : AnswerAlike environment first second asked (.waiting state lookup)) :
    AnswerAlike environment first second (asked ++ [lookup.question])
      (receiveTurn environment state lookup.awaiting (first asked lookup.question)).position := by
  intro before waiting other after row unguarded
  have later := alike (.waiting state lookup :: before) waiting other after
    (by rw [visited_waiting, row, List.cons_append]) unguarded
  simpa [Position.question?] using later

/-- Resolvers that answer alike give the same answer to a question asked without a guard. -/
theorem AnswerAlike.answer {state : State} {lookup : Lookup}
    (alike : AnswerAlike environment first second asked (.waiting state lookup))
    (unguarded : .guardExplanation ∉ state.tasks) :
    first asked lookup.question = second asked lookup.question := by
  have same := alike [] state lookup _ (visited_waiting state lookup) unguarded
  simpa using same

/-- From where the client has failed, a check ends with this, whatever is answered. -/
theorem Position.Failing.converse {position : Position} {left : List Position} {domain : Text}
    (failing : position.Failing domain) (shaped : position.Shaped left) (resolver : Resolver)
    (asked : List Dns.Question) :
    (converse environment resolver asked position).2.result = some .fail
      ∧ (converse environment resolver asked position).2.domain = domain := by
  have whole : Steps environment (fun _ _ => True) _ _ _ ∧ _ :=
    visited_steps environment resolver (fun _ _ => trivial) asked position
  obtain ⟨steps, finished⟩ := whole
  have ends := steps.keeps (fun turn fails => fails.step turn) failing
  rcases shaped.steps steps with ⟨unfinished, _⟩ | ⟨_, decided⟩
  · exact absurd finished unfinished
  · exact ends.finished finished decided

/-- Up to the first explanation two runs are one, and then both fail the client. -/
theorem Position.Silent.converse_eq {position : Position} {left : List Position}
    (silent : position.Silent) (shaped : position.Shaped left)
    (alike : AnswerAlike environment first second asked position) :
    (converse environment first asked position).2.result
        = (converse environment second asked position).2.result
      ∧ (converse environment first asked position).2.domain
        = (converse environment second asked position).2.domain := by
  induction position using Position.precedes_wellFounded.induction generalizing asked left with
  | h position inductionHypothesis =>
      have goesOn {next : Position} {later : List Dns.Question}
          (turn : Step environment (fun _ _ => True) position next)
          (same : AnswerAlike environment first second later next) :
          (converse environment first later next).2.result
              = (converse environment second later next).2.result
            ∧ (converse environment first later next).2.domain
              = (converse environment second later next).2.domain := by
        have kept := shaped.step turn
        rcases silent.step turn with still | failing
        · exact inductionHypothesis next turn.precedes still kept same
        · obtain ⟨result, domain⟩ := failing.converse kept first later
          obtain ⟨other, place⟩ := failing.converse kept second later
          exact ⟨result.trans other.symm, domain.trans place.symm⟩
      cases position with
      | waiting state lookup =>
          have unguarded : .guardExplanation ∉ state.tasks := of_decide_eq_false silent.isExplaining
          have answer := alike.answer unguarded
          have rest := goesOn (.hear trivial) alike.waiting
          rw [converse_waiting, converse_waiting]
          rwa [answer] at rest ⊢
      | running state =>
          cases stack : state.tasks with
          | nil =>
              rw [converse_finished stack, converse_finished stack]
              exact ⟨rfl, rfl⟩
          | cons task below =>
              rw [converse_running stack, converse_running stack]
              exact goesOn (.run stack) (alike.running stack)

end

/-- The code and the header of a check do not depend on the answers to questions that it asks for
explanations. -/
theorem outcome_of_answerAlike {environment : Environment} {first second : Resolver}
    {identity : Identity}
    (alike : AnswerAlike environment first second [] (.running (State.start identity))) :
    (run environment first identity).outcome.code = (run environment second identity).outcome.code
      ∧ (run environment first identity).outcome.headerText
        = (run environment second identity).outcome.headerText := by
  cases known : identity.client with
  | none =>
      rw [(run_of_noClient environment first known).1, (run_of_noClient environment second known).1]
      exact ⟨rfl, rfl⟩
  | some client =>
      have silent : (Position.running (State.start identity)).Silent :=
        silent_start (by simp [known])
      obtain ⟨result, domain⟩ := silent.converse_eq (shaped_start identity) alike
      simp only [run, Outcome.ofState, result, domain, identity_converse, and_self]

/-- Wherever an explanation that is wanted begins, nothing else changes until it is over, no
failure passes the guard, and the explanation is what it was or a text expanded in full. A guard
stands on the stack only while this goes on. So resolvers that answer alike, except to questions
asked below a guard, lead to the same code and the same header. -/
theorem explanation_disturbs_nothing (environment : Environment) (resolver : Resolver)
    (identity : Identity) :
    let passed := visited environment resolver [] (.running (State.start identity))
    let last := (converse environment resolver [] (.running (State.start identity))).2
    (∀ base task before after,
        passed ++ [.running last] = before ++ .running (base.push task) :: after →
        task.mayExplain = true → base.wantsExplanation = true →
        ∃ inside ending outside, after = inside ++ ending :: outside
          ∧ RunsItsCourse environment base inside ending)
      ∧ (∀ before position after, passed = before ++ position :: after →
        position.HasBegun before)
      ∧ ∀ other,
        AnswerAlike environment resolver other [] (.running (State.start identity)) →
        (run environment other identity).outcome.code
            = (run environment resolver identity).outcome.code
          ∧ (run environment other identity).outcome.headerText
            = (run environment resolver identity).outcome.headerText := by
  intro passed last
  have whole : Position.Steps environment (fun _ _ => True) _ _ _ ∧ _ :=
    visited_steps environment resolver (fun _ _ => trivial) [] (.running (State.start identity))
  obtain ⟨steps, finished⟩ := whole
  refine ⟨?course, ?begun, ?alike⟩
  case course =>
    intro base task before after row may wanted
    obtain ⟨right, later, same⟩ := steps.from_middle row
    exact later.runsItsCourse may wanted finished same
  case begun =>
    intro before position after row
    have start : (Position.running (State.start identity)).HasBegun [] := by
      intro guarded
      simp [Position.isExplaining, Position.state, State.start] at guarded
    have split : passed ++ [.running last] = before ++ position :: (after ++ [.running last]) := by
      rw [row]
      simp
    exact start.steps (steps.to_middle split)
  case alike =>
    intro other alike
    obtain ⟨code, header⟩ := outcome_of_answerAlike alike
    exact ⟨code.symm, header.symm⟩

/-- A sender's domain that fails all clients with this explanation, and publishes no other
record. -/
def failingWith (explanation : Text) (question : Dns.Question) : Dns.Answer :=
  if question = ⟨"example.com".toList, .txt⟩ then
    .records ["v=spf1 -all exp=why.example.com".toList]
  else if question = ⟨"why.example.com".toList, .txt⟩ then
    .records [explanation]
  else
    .records []

/-- An explanation that cannot be expanded leads to the code and the header of one that can. -/
theorem explanation_disturbs_nothing_garbled :
    let identity :=
      Identity.read "203.0.113.1".toList "user@example.com".toList "mail.example.net".toList
    let plain : Resolver := fun _ => failingWith "Go away.".toList
    let garbled : Resolver := fun _ => failingWith "%\x7bq".toList
    AnswerAlike {} plain garbled [] (.running (State.start identity))
      ∧ (run {} garbled identity).outcome.code = (run {} plain identity).outcome.code
      ∧ (run {} garbled identity).outcome.headerText
        = (run {} plain identity).outcome.headerText := by
  intro identity plain garbled
  have whole : visitedWithin {} (failingWith "Go away.".toList) 40
      (.running (State.start identity)) = visited {} plain [] (.running (State.start identity)) :=
    (visitedWithin_begins _ _ 40 [] _).2 (by decide +kernel)
  have apart : ∀ position ∈ visitedWithin {} (failingWith "Go away.".toList) 40
      (.running (State.start identity)),
      position.isExplaining = true
        ∨ position.question? ≠ some ⟨"why.example.com".toList, .txt⟩ := by
    decide +kernel
  have alike : AnswerAlike {} plain garbled [] (.running (State.start identity)) := by
    intro before state lookup after row unguarded
    have other := (apart (.waiting state lookup) (by rw [whole, row]; simp)).resolve_left
      fun guarded => unguarded (of_decide_eq_true guarded)
    have question : lookup.question ≠ ⟨"why.example.com".toList, .txt⟩ :=
      fun same => other (congrArg some same)
    simp only [plain, garbled, failingWith, if_neg question]
  exact ⟨alike, (explanation_disturbs_nothing {} plain identity).2.2 garbled alike⟩

end SenderPolicy.Check
