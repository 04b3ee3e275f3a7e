import SenderPolicy.Proofs.Check.Budget.Turns

/-!
# The limits of a check

Whatever the answers are, and however often they change, a check ends, evaluates no more terms that
ask the DNS than the limit says, looks up the client's domain once, and asks a bounded number of
questions. Each bound is the budget of a check under the tariff that prices one thing only.
-/

namespace SenderPolicy.Check

/-- Turns do not go on for ever. -/
theorem Position.not_endless (environment : Environment)
    (permitted : Dns.Question → Dns.Answer → Prop) (turns : Nat → Position) :
    ¬ ∀ turn, Step environment permitted (turns turn) (turns (turn + 1)) := by
  intro endless
  have none : ∀ position turn, turns turn = position → False := by
    intro position
    induction position using Position.precedes_wellFounded.induction with
    | h position inductionHypothesis =>
        intro turn here
        have next := endless turn
        rw [here] at next
        exact inductionHypothesis _ next.precedes (turn + 1) rfl
  exact none _ 0 rfl

section
variable (tariff : Tariff) (environment : Environment) (resolver : Resolver)
  (identity : Identity)

/-- The budget of a check that begins. -/
theorem budget_start_le :
    (Position.running (State.start identity)).budget tariff environment.recordLimit
      ≤ lookupLimit * tariff.termBudget environment.recordLimit + tariff.question * 3
        + tariff.clientBudget environment.recordLimit := by
  have client : (State.start identity).clientBudget tariff environment.recordLimit
      ≤ tariff.clientBudget environment.recordLimit := by
    unfold State.clientBudget
    split <;> omega
  have tasks : stackBudget tariff environment.recordLimit (State.start identity).tasks
      = tariff.question * 3 := by
    simp [State.start, stackBudget, Task.budget, Task.questionLimit, Task.isSecondHalf]
  rw [Position.budget, State.budget, State.workBudget, tasks]
  exact Nat.add_le_add_left client _

/-- A run pays all its prices from the budget of its beginning. -/
theorem sum_price_visited_le :
    ((visited environment resolver [] (.running (State.start identity))).map
        (Position.price tariff)).sum
      ≤ lookupLimit * tariff.termBudget environment.recordLimit + tariff.question * 3
        + tariff.clientBudget environment.recordLimit := by
  have steps : Position.Steps environment (fun _ _ => True) _ _ _ :=
    (visited_steps environment resolver (fun _ _ => trivial) []
      (.running (State.start identity))).1
  have compatible : (Position.running (State.start identity)).Compatible := by
    intro policy found
    cases found
  have spent := steps.sum_le (fun turn => turn.affords tariff environment) compatible
  have start := budget_start_le tariff environment identity
  omega

/-- Positions that alone have a price, which is one, are no more than the budget. -/
theorem countP_visited_le (marked : Position → Bool)
    (prices : ∀ position, position.price tariff = if marked position then 1 else 0) :
    (visited environment resolver [] (.running (State.start identity))).countP marked
      ≤ lookupLimit * tariff.termBudget environment.recordLimit + tariff.question * 3
        + tariff.clientBudget environment.recordLimit := by
  have sum := sum_price_visited_le tariff environment resolver identity
  generalize visited environment resolver [] (.running (State.start identity)) = passed at sum ⊢
  have counted : passed.countP marked = (passed.map (Position.price tariff)).sum := by
    clear sum
    induction passed with
    | nil => rfl
    | cons position passed inductionHypothesis =>
        rw [List.countP_cons, List.map_cons, List.sum_cons, prices, inductionHypothesis]
        omega
  rw [counted]
  exact sum

end

/-- Whatever the answers, a check ends within its limits. -/
theorem check_within_limits (environment : Environment) (identity : Identity) :
    (¬ ∃ turns : Nat → Position, turns 0 = .running (State.start identity)
        ∧ ∀ turn, Position.Step environment (fun _ _ => True) (turns turn) (turns (turn + 1)))
      ∧ ∀ resolver : Resolver,
        let report := run environment resolver identity
        let passed := visited environment resolver [] (.running (State.start identity))
        (converse environment resolver [] (.running (State.start identity))).2.tasks = []
          ∧ report.questions = passed.filterMap Position.question?
          ∧ passed.countP Position.takesTerm ≤ 10
          ∧ passed.countP Position.runsSecondHalf ≤ 10
          ∧ passed.countP Position.asksClientNames ≤ 1
          ∧ report.questions.length ≤ 34 + 11 * environment.recordLimit := by
  refine ⟨fun ⟨turns, _, endless⟩ => Position.not_endless environment _ turns endless, ?_⟩
  intro resolver report passed
  have run_steps : Position.Steps environment (fun _ _ => True) _ _ _ ∧ _ :=
    visited_steps environment resolver (fun _ _ => trivial) [] (.running (State.start identity))
  have questions : report.questions = passed.filterMap Position.question? :=
    questions_run environment resolver identity
  have terms : passed.countP Position.takesTerm ≤ _ :=
    countP_visited_le ⟨0, 1, 0, 0⟩ environment resolver identity _ (by simp [Position.price])
  have halves : passed.countP Position.runsSecondHalf ≤ _ :=
    countP_visited_le ⟨0, 0, 1, 0⟩ environment resolver identity _ (by simp [Position.price])
  have clients : passed.countP Position.asksClientNames ≤ _ :=
    countP_visited_le ⟨0, 0, 0, 1⟩ environment resolver identity _ (by simp [Position.price])
  have asked : passed.countP (fun position => position.question?.isSome) ≤ _ :=
    countP_visited_le ⟨1, 0, 0, 0⟩ environment resolver identity _ (by simp [Position.price])
  simp only [Tariff.termBudget, Tariff.clientBudget, lookupLimit] at terms halves clients asked
  rw [← List.length_filterMap_eq_countP, ← questions] at asked
  refine ⟨run_steps.2, questions, ?_, ?_, ?_, ?_⟩ <;> omega

end SenderPolicy.Check
