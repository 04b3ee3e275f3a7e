import SenderPolicy.Proofs.Check.Steps
import SenderPolicy.Proofs.Macro.Values
import SenderPolicy.Proofs.Record.Modifiers

/-!
# Budgets of a check

Every position of a check has a budget: for the terms that may still be taken up, for the tasks on
the stack, for the client's domain as long as it is unknown, and for the answers that are
outstanding. What a turn does has a price. Under a tariff that prices one thing only, a budget
bounds how often that thing is done.
-/

namespace SenderPolicy.Check

/-- The prices of what a check does. Which of them are zero decides what a budget bounds. -/
structure Tariff where
  /-- One question. -/
  question : Nat
  /-- One more term that asks the DNS. -/
  term : Nat
  /-- The second half of such a term, whose domain specification can be expanded. -/
  secondHalf : Nat
  /-- Beginning to look up the client's domain. -/
  client : Nat

/-! ## Prices -/

/-- The task begins one more term that asks the DNS, and the limit allows it. -/
def Task.takesTerm (state : State) : Task → Bool
  | .mechanism test => test.asksDns && decide (state.depth < lookupLimit)
  | .modifier (.redirect _) => state.isOpen && decide (state.depth < lookupLimit)
  | _ => false

/-- The task is the second half of a term that asks the DNS. -/
def Task.isSecondHalf : Task → Bool
  | .expandedMechanism _ | .followRedirect _ => true
  | _ => false

namespace Position

/-- The next turn begins one more term that asks the DNS. -/
def takesTerm : Position → Bool
  | .running state => state.tasks.head?.any (Task.takesTerm state)
  | .waiting _ _ => false

/-- The next turn runs the second half of a term that asks the DNS. -/
def runsSecondHalf : Position → Bool
  | .running state => state.tasks.head?.any Task.isSecondHalf
  | .waiting _ _ => false

/-- A check waits for the client's host names, from which its domain is found. -/
def asksClientNames : Position → Bool
  | .running _ => false
  | .waiting _ lookup => lookup.awaiting = .clientNames

end Position

section
variable (tariff : Tariff) (limit : Nat)

/-- The price of the turn that a position is about to take. -/
def Position.price (position : Position) : Nat :=
  (if position.question?.isSome then tariff.question else 0)
    + (if position.takesTerm then tariff.term else 0)
    + (if position.runsSecondHalf then tariff.secondHalf else 0)
    + (if position.asksClientNames then tariff.client else 0)

/-! ## Budgets -/

/-- The questions that a mechanism may ask, those of an included record among them. -/
def mechanismQuestions : Mechanism → Nat
  | .all | .network _ => 0
  | .include _ => 3
  | .a _ _ | .exists _ => 1
  | .mx _ _ | .ptr _ => 1 + limit

/-- The questions that a task may lead to, apart from those of further terms and those for
the client's domain. -/
def Task.questionLimit : Task → Nat
  | .evaluateDomain | .followRedirect _ => 3
  | .stage .retrieve | .stage .retrieveStrict => 2
  | .evaluateRecord | .modifier (.exp _) | .askExplanation _ => 1
  | .expandedMechanism test => mechanismQuestions limit test
  | _ => 0

/-- What a task may spend. -/
def Task.budget (task : Task) : Nat :=
  tariff.question * task.questionLimit limit + (if task.isSecondHalf then tariff.secondHalf else 0)

/-- What the tasks of a stack may spend. -/
def stackBudget (tasks : List Task) : Nat :=
  (tasks.map (Task.budget tariff limit)).sum

/-- The questions that are outstanding, with those that an answer may lead to. -/
def Awaiting.questionLimit : Awaiting → Nat
  | .spfRecords | .strictSpfRecords => 2
  | .txtRecords | .strictTxtRecords _ | .addresses _ | .existence | .explanationTexts => 1
  | .exchangers _ | .hostNames _ | .clientNames => 1 + limit
  | .exchangerAddresses _ pending | .hostAddresses _ _ pending | .clientAddresses _ pending =>
      1 + pending.length

/-- The answer is needed to find the client's domain. -/
def Awaiting.findsClient : Awaiting → Bool
  | .clientNames | .clientAddresses _ _ => true
  | _ => false

/-- What one term may spend, from its beginning on. -/
def Tariff.termBudget : Nat :=
  tariff.term + tariff.secondHalf + tariff.question * (3 + limit)

/-- What finding the client's domain may cost. -/
def Tariff.clientBudget : Nat :=
  tariff.client + tariff.question * (1 + limit)

/-- What the terms that may still come and the tasks of a state may spend. -/
def State.workBudget (state : State) : Nat :=
  (lookupLimit - state.depth) * tariff.termBudget limit + stackBudget tariff limit state.tasks

/-- The client's domain is looked up once, if the client's address is known. -/
def State.clientBudget (state : State) : Nat :=
  if state.clientDomain.isNone && state.identity.client.isSome then tariff.clientBudget limit else 0

/-- What a state may spend. -/
def State.budget (state : State) : Nat :=
  state.workBudget tariff limit + state.clientBudget tariff limit

/-- What a check may spend from a position on. -/
def Position.budget : Position → Nat
  | .running state => state.budget tariff limit
  | .waiting state lookup =>
      state.workBudget tariff limit
        + (if lookup.awaiting.findsClient then 0 else state.clientBudget tariff limit)
        + tariff.question * lookup.awaiting.questionLimit limit
        + (if lookup.awaiting = .clientNames then tariff.client else 0)

end

/-- No two modifiers of the record at hand exclude each other. -/
def State.Compatible (state : State) : Prop :=
  ∀ policy, state.slot = some (.policy policy) → Modifier.Compatible policy.record.modifiers

/-- The record at hand at a position is one that can be read. -/
abbrev Position.Compatible (position : Position) : Prop :=
  position.state.Compatible

section
variable (tariff : Tariff) (environment : Environment)

/-- A price can be paid from a budget, and what is left is enough for what follows. -/
def Reaction.Affords (price budget : Nat) : Reaction → Prop
  | .proceed state | .fail state _ =>
      state.Compatible ∧ state.budget tariff environment.recordLimit + price ≤ budget
  | .ask state lookup =>
      state.Compatible
        ∧ (Position.waiting state lookup).budget tariff environment.recordLimit + price ≤ budget

end

/-! ## Budgets of states -/

section
variable (tariff : Tariff) (limit : Nat) (state : State)

@[simp] theorem stackBudget_cons (task : Task) (tasks : List Task) :
    stackBudget tariff limit (task :: tasks)
      = task.budget tariff limit + stackBudget tariff limit tasks := by
  simp [stackBudget]

@[simp] theorem stackBudget_append (first second : List Task) :
    stackBudget tariff limit (first ++ second)
      = stackBudget tariff limit first + stackBudget tariff limit second := by
  simp [stackBudget]

theorem budget_pushAll (tasks : List Task) :
    (state.pushAll tasks).budget tariff limit
      = state.budget tariff limit + stackBudget tariff limit tasks := by
  have work : (state.pushAll tasks).workBudget tariff limit
      = state.workBudget tariff limit + stackBudget tariff limit tasks := by
    simp only [State.workBudget, State.pushAll, stackBudget_append]
    omega
  have same : (state.pushAll tasks).clientBudget tariff limit = state.clientBudget tariff limit :=
    rfl
  rw [State.budget, State.budget, work, same]
  omega

theorem budget_push (task : Task) :
    (state.push task).budget tariff limit
      = state.budget tariff limit + task.budget tariff limit := by
  have pushed := budget_pushAll tariff limit state [task]
  rw [stackBudget_cons] at pushed
  exact pushed

/-- Counting a term takes what it may spend from the budget. -/
theorem budget_countLookup {state : State} (within : state.depth < lookupLimit) :
    state.countLookup.budget tariff limit + tariff.termBudget limit
      = state.budget tariff limit := by
  obtain ⟨remaining, room⟩ : ∃ remaining, lookupLimit - state.depth = remaining + 1 :=
    ⟨lookupLimit - state.depth - 1, by omega⟩
  have next : lookupLimit - (state.depth + 1) = remaining := by omega
  have work : state.countLookup.workBudget tariff limit + tariff.termBudget limit
      = state.workBudget tariff limit := by
    simp only [State.workBudget, State.countLookup, next, room, Nat.add_mul]
    omega
  have same : state.countLookup.clientBudget tariff limit = state.clientBudget tariff limit := rfl
  rw [State.budget, State.budget, ← work, same]
  omega

theorem budget_countLookup_le :
    state.countLookup.budget tariff limit ≤ state.budget tariff limit := by
  have fewer : lookupLimit - (state.depth + 1) ≤ lookupLimit - state.depth := by omega
  have less := Nat.mul_le_mul_right (tariff.termBudget limit) fewer
  exact Nat.add_le_add_right (Nat.add_le_add_right less _) _

theorem mechanismQuestions_le (mechanism : Mechanism) :
    mechanismQuestions limit mechanism ≤ 3 + limit := by
  cases mechanism <;> simp only [mechanismQuestions] <;> omega

/-- The second half of a term spends no more than is left of the term's budget. -/
theorem secondHalf_budget_le {task : Task} (half : task.isSecondHalf) :
    task.budget tariff limit + tariff.term ≤ tariff.termBudget limit := by
  have questions : task.questionLimit limit ≤ 3 + limit := by
    cases task with
    | expandedMechanism mechanism => exact mechanismQuestions_le limit mechanism
    | followRedirect spec => exact Nat.le_add_right 3 limit
    | _ => contradiction
  have cost := Nat.mul_le_mul_left tariff.question questions
  simp only [Task.budget, half, if_true, Tariff.termBudget]
  omega

/-- Finding the client's domain is paid for while it is unknown. -/
theorem budget_clientNames {client : Address} (question : Dns.Question)
    (unknown : state.clientDomain = none) (known : state.identity.client = some client) :
    (Position.waiting state ⟨question, .clientNames⟩).budget tariff limit
      = state.budget tariff limit := by
  simp [Position.budget, State.budget, State.clientBudget, unknown, known, Tariff.clientBudget,
    Awaiting.findsClient, Awaiting.questionLimit]
  omega

/-- While the client's domain is looked up, its budget is the price of what is outstanding. -/
theorem budget_waiting_client {lookup : Lookup} (finds : lookup.awaiting.findsClient = true) :
    (Position.waiting state lookup).budget tariff limit
      = state.workBudget tariff limit + tariff.question * lookup.awaiting.questionLimit limit
        + if lookup.awaiting = .clientNames then tariff.client else 0 := by
  simp only [Position.budget, finds, if_true, Nat.add_zero]

/-- Other answers are paid for apart. -/
theorem budget_waiting {lookup : Lookup} (other : lookup.awaiting.findsClient = false) :
    (Position.waiting state lookup).budget tariff limit
      = state.budget tariff limit + tariff.question * lookup.awaiting.questionLimit limit := by
  have names : lookup.awaiting ≠ .clientNames := by
    intro same
    rw [same] at other
    contradiction
  simp only [Position.budget, State.budget, other, if_neg names]
  simp

end

/-- Names that are still to be asked about after a question. -/
theorem question_pending_le (price : Nat) {type : Dns.RecordType} {names rest : List Text}
    {name : Text} {question : Dns.Question}
    (found : nextQuestion? type names = some (name, question, rest)) :
    price * (1 + rest.length) ≤ price * names.length := by
  have shorter := length_lt_of_nextQuestion? found
  exact Nat.mul_le_mul_left price (by omega)

/-! ## Budgets of stacks -/

section
variable (tariff : Tariff) (limit : Nat)

/-- The stages of a domain retrieve once. -/
theorem stackBudget_stages (options : Options) :
    stackBudget tariff limit ((stages options).map Task.stage ++ [.evaluateRecord])
      = tariff.question * 3 := by
  unfold stages
  (repeat' split) <;>
    simp [stackBudget, Task.budget, Task.questionLimit, Task.isSecondHalf] <;> omega

/-- Tasks that may spend nothing. -/
theorem stackBudget_map {α : Type} (make : α → Task) (items : List α)
    (free : ∀ item ∈ items, (make item).budget tariff limit = 0) :
    stackBudget tariff limit (items.map make) = 0 := by
  induction items with
  | nil => rfl
  | cons item items inductionHypothesis =>
      rw [List.map_cons, stackBudget_cons, free item (List.mem_cons_self ..),
        inductionHypothesis fun other member => free other (List.mem_cons_of_mem _ member)]

/-- Only one of a record's modifiers explains, so they ask for one explanation. -/
theorem stackBudget_modifiers (modifiers : List Modifier)
    (compatible : Modifier.Compatible modifiers) :
    stackBudget tariff limit (modifiers.map Task.modifier) ≤ tariff.question := by
  induction modifiers with
  | nil => exact Nat.zero_le _
  | cons modifier modifiers inductionHypothesis =>
      obtain ⟨apart, rest⟩ := List.pairwise_cons.mp compatible
      have later := inductionHypothesis rest
      rw [List.map_cons, stackBudget_cons]
      cases modifier with
      | redirect spec =>
          simp only [Task.budget, Task.questionLimit, Task.isSecondHalf]
          simpa using later
      | unknown name value =>
          simp only [Task.budget, Task.questionLimit, Task.isSecondHalf]
          simpa using later
      | exp spec =>
          have none : stackBudget tariff limit (modifiers.map Task.modifier) = 0 := by
            apply stackBudget_map
            intro other member
            have different := apart other member
            cases other with
            | exp other => contradiction
            | redirect other => simp [Task.budget, Task.questionLimit, Task.isSecondHalf]
            | unknown name value => simp [Task.budget, Task.questionLimit, Task.isSecondHalf]
          rw [none]
          simp [Task.budget, Task.questionLimit, Task.isSecondHalf]

/-- The tasks of a record that can be read ask for one explanation. -/
theorem stackBudget_policyTasks (policy : Policy)
    (compatible : Modifier.Compatible policy.record.modifiers) :
    stackBudget tariff limit (policyTasks policy) ≤ tariff.question := by
  have directives : stackBudget tariff limit (policy.record.directives.map Task.directive) = 0 :=
    stackBudget_map tariff limit Task.directive _ (by
      simp [Task.budget, Task.questionLimit, Task.isSecondHalf])
  have hooks : stackBudget tariff limit (policy.hooks.map Task.hook) = 0 :=
    stackBudget_map tariff limit Task.hook _ (by
      simp [Task.budget, Task.questionLimit, Task.isSecondHalf])
  have modifiers := stackBudget_modifiers tariff limit policy.record.modifiers compatible
  rw [policyTasks, stackBudget_append, stackBudget_append, directives, hooks]
  omega

end

end SenderPolicy.Check
