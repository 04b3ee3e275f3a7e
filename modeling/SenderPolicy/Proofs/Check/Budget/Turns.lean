import SenderPolicy.Proofs.Check.Budget.Answers

/-!
# Turns pay their price

Handling a failure only takes tasks from the stack. So every turn pays its price from the budget
of the position that it leaves, whatever the answers are.
-/

namespace SenderPolicy.Check

/-- A catcher changes nothing that a budget depends on, whatever stack is put below it. -/
def Handling.Keeps (tariff : Tariff) (limit : Nat) (state : State) : Handling → Prop
  | .caught after =>
      after.Compatible ∧ after.budget tariff limit = state.budget tariff limit
  | .rethrown after _ =>
      after.Compatible ∧ ∀ tasks, ({ after with tasks } : State).budget tariff limit
        = ({ state with tasks } : State).budget tariff limit

section
variable (tariff : Tariff) (environment : Environment) {state : State} {price budget : Nat}

theorem handle_keeps (failure : Failure) (task : Task) (compatible : state.Compatible) :
    ∀ handling ∈ handle failure state task,
      handling.Keeps tariff environment.recordLimit state := by
  intro handling handled
  cases task with
  | conclude =>
      cases handled
      exact ⟨compatible, rfl⟩
  | guardExplanation =>
      cases handled
      exact ⟨compatible, rfl⟩
  | leaveInclude frame =>
      simp only [handle] at handled
      split at handled
      · cases handled
        exact ⟨compatible, rfl⟩
      · cases handled
        exact ⟨compatible, rfl⟩
      · cases handled
        exact ⟨compatible, fun _ => rfl⟩
  | leaveRedirect =>
      simp only [handle] at handled
      split at handled
      · cases handled
        exact ⟨compatible, fun _ => rfl⟩
      · cases handled
        exact ⟨compatible, rfl⟩
      · cases handled
        exact ⟨compatible, fun _ => rfl⟩
  | _ => contradiction

/-- Handling a failure takes tasks from the stack, and with them their budgets. -/
theorem unwind_keeps (failure : Failure) (tasks : List Task) (compatible : state.Compatible) :
    (unwind failure state tasks).2.Compatible
      ∧ (unwind failure state tasks).2.budget tariff environment.recordLimit
        ≤ ({ state with tasks } : State).budget tariff environment.recordLimit := by
  induction tasks generalizing failure state with
  | nil => exact ⟨compatible, Nat.le_refl _⟩
  | cons task tasks inductionHypothesis =>
      have pushed := budget_push tariff environment.recordLimit { state with tasks } task
      have same : (({ state with tasks } : State).push task)
          = { state with tasks := task :: tasks } := rfl
      rw [same] at pushed
      have compatible_below : ({ state with tasks } : State).Compatible := compatible
      have keeps := handle_keeps tariff environment failure task compatible_below
      have less := Nat.le_add_right (({ state with tasks } : State).budget tariff
        environment.recordLimit) (task.budget tariff environment.recordLimit)
      unfold unwind
      rw [pushed]
      split
      · obtain ⟨kept, rest⟩ := inductionHypothesis failure compatible
        exact ⟨kept, Nat.le_trans rest less⟩
      · rename_i after handled
        obtain ⟨kept, same⟩ := keeps _ handled
        exact ⟨kept, Nat.le_trans (Nat.le_of_eq same) less⟩
      · rename_i after next handled
        obtain ⟨kept, same⟩ := keeps _ handled
        obtain ⟨kept, rest⟩ := inductionHypothesis next kept
        exact ⟨kept, Nat.le_trans (Nat.le_trans rest (Nat.le_of_eq (same tasks))) less⟩

/-- What a reaction affords, the turn does that ends with it. -/
theorem Reaction.Affords.settle {reaction : Reaction}
    (affords : reaction.Affords tariff environment price budget) :
    reaction.settle.position.Compatible
      ∧ reaction.settle.position.budget tariff environment.recordLimit + price ≤ budget := by
  cases reaction with
  | proceed state => exact affords
  | ask state lookup => exact affords
  | fail state failure =>
      obtain ⟨compatible, paid⟩ := affords
      obtain ⟨kept, less⟩ := unwind_keeps tariff environment failure state.tasks compatible
      exact ⟨kept, Nat.le_trans (Nat.add_le_add_right less price) paid⟩

/-- Every turn pays its price from the budget of the position that it leaves. -/
theorem Position.Step.affords {permitted : Dns.Question → Dns.Answer → Prop}
    {position next : Position} (turn : Step environment permitted position next)
    (compatible : position.Compatible) :
    next.Compatible ∧ next.budget tariff environment.recordLimit + position.price tariff
      ≤ position.budget tariff environment.recordLimit := by
  cases turn with
  | @run state task below stack =>
      have popped : ({ state with tasks := below } : State).Compatible := compatible
      have pushed := budget_push tariff environment.recordLimit { state with tasks := below } task
      have whole : (({ state with tasks := below } : State).push task) = state := by
        simp [State.push, ← stack]
      have price : (Position.running state).price tariff
          = taskPrice tariff { state with tasks := below } task := by
        have takes : (Position.running state).takesTerm
            = task.takesTerm { state with tasks := below } := by
          simp only [Position.takesTerm, stack, List.head?_cons, Option.any_some]
          rfl
        have half : (Position.running state).runsSecondHalf = task.isSecondHalf := by
          simp only [Position.runsSecondHalf, stack, List.head?_cons, Option.any_some]
        simp [Position.price, taskPrice, Position.question?, Position.asksClientNames, takes, half]
      rw [whole] at pushed
      rw [price, Position.budget, pushed]
      exact (runTask_affords task popped).settle
  | @hear state lookup answer allowed =>
      have price : (Position.waiting state lookup).price tariff
          = tariff.question + if lookup.awaiting = .clientNames then tariff.client else 0 := by
        simp [Position.price, Position.question?, Position.takesTerm, Position.runsSecondHalf,
          Position.asksClientNames]
      cases finds : lookup.awaiting.findsClient with
      | true =>
          have paid : (receiveTurn environment state lookup.awaiting answer).position.Compatible
              ∧ (receiveTurn environment state lookup.awaiting answer).position.budget tariff
                  environment.recordLimit + tariff.question
                ≤ state.workBudget tariff environment.recordLimit
                  + tariff.question * lookup.awaiting.questionLimit environment.recordLimit :=
            (receive_client_affords answer lookup.awaiting finds compatible).settle
          refine ⟨paid.1, ?_⟩
          rw [price, budget_waiting_client tariff _ state finds]
          omega
      | false =>
          have names : lookup.awaiting ≠ .clientNames := by
            intro same
            rw [same] at finds
            contradiction
          rw [price, if_neg names, budget_waiting tariff _ state finds]
          exact (receive_affords answer lookup.awaiting finds compatible).settle

end

end SenderPolicy.Check
