import SenderPolicy.Proofs.Check.Direct.Finding
import SenderPolicy.Proofs.Check.Explanation

/-!
# Turns that carry out an evaluation

`Realizes` says that the turns from a position carry out an evaluation: they end with the
tasks below and with what the evaluation gives, and have asked its questions, or they end
in the failure of the evaluation on its way down the stack. There is one rule for each way
in which turns and evaluations are put together; what follows in an evaluation is always
kept as a continuation, so that the rules apply from the front.
-/

namespace SenderPolicy.Direct

open SenderPolicy.Check
open Evaluation

variable (setting : Setting)

/-- Turns under the answers of the setting's zone. -/
abbrev Leads (position : Position) (left : List Position) (last : Position) : Prop :=
  Position.Steps setting.environment (fun question answer => answer = setting.zone question)
    position left last

/-- How a domain is nested in others: how many includes and redirects lead to it, and
whether explanations are not wanted, because one of these is an include. -/
structure Level where
  depth : Nat
  muted : Bool

/-- A state at a level remembers what a ledger says, and nothing is decided for good. What
leads to the level has been counted. -/
structure Carries (level : Level) (ledger : Ledger) (state : State) : Prop where
  counted : level.depth ≤ ledger.lookups
  identity : state.identity = setting.identity
  result : state.result = none
  depth : state.depth = ledger.lookups
  clientDomain : state.clientDomain = ledger.clientDomain
  muted : state.muted = level.muted

/-- How the turns of an evaluation end: above the tasks below with what the evaluation gives,
or with these tasks handling its failure. -/
def Ends {α : Type} (level : Level) (below : List Task) (done : α → Ledger → State → Prop)
    (last : State) : Except Failure α × Ledger → Prop
  | (.ok value, after) => last.tasks = below ∧ done value after last
  | (.error failure, after) =>
      ∃ failed, last = (unwind failure failed below).2 ∧ Carries setting level after failed

/-- The turns from a position carry out an evaluation above some tasks. -/
def Realizes {α : Type} (level : Level) (below : List Task) (done : α → Ledger → State → Prop)
    (position : Position) (evaluation : Evaluation α) (ledger : Ledger) : Prop :=
  ∃ left last, Leads setting position left (.running last)
    ∧ (evaluation.runFrom ledger).2.questions = ledger.questions ++ policyQuestions left
    ∧ Ends setting level below done last (evaluation.runFrom ledger)

/-- A state at which a domain is evaluated, with this verdict so far. -/
structure Stands (level : Level) (ledger : Ledger) (domain : Text) (verdict : Option Qualifier)
    (state : State) : Prop extends Carries setting level ledger state where
  domain : state.domain = domain
  verdict : state.verdict = verdict

/-- Questions that are asked meanwhile change nothing else. -/
theorem Carries.asked {setting : Setting} {level : Level} {ledger : Ledger} {state : State}
    (carries : Carries setting level ledger state) (questions : List Dns.Question) :
    Carries setting level { ledger with questions } state :=
  ⟨carries.counted, carries.identity, carries.result, carries.depth,
    carries.clientDomain, carries.muted⟩

theorem Carries.client {setting : Setting} {level : Level} {ledger : Ledger} {state : State}
    (carries : Carries setting level ledger state) :
    state.identity.client = some setting.client := by
  rw [carries.identity, setting.known]

namespace Stands

variable {setting : Setting} {level : Level} {ledger : Ledger} {domain : Text}
  {verdict : Option Qualifier} {state : State}

theorem asked (stands : Stands setting level ledger domain verdict state)
    (questions : List Dns.Question) :
    Stands setting level { ledger with questions } domain verdict state :=
  ⟨stands.toCarries.asked questions, stands.domain, stands.verdict⟩

/-- The stack and what no evaluation reads may change. -/
theorem update (stands : Stands setting level ledger domain verdict state) (tasks : List Task)
    (matched : Option Bool) (slot : Option Slot) (receiver : Option Text) :
    Stands setting level ledger domain verdict
      { state with tasks, matched, slot, receiver } :=
  ⟨⟨stands.counted, stands.identity, stands.result, stands.depth, stands.clientDomain,
      stands.muted⟩,
    stands.domain, stands.verdict⟩

end Stands

/-- The tasks that may handle a failure. -/
def isCatcher : Task → Bool
  | .conclude | .leaveInclude _ | .leaveRedirect | .guardExplanation => true
  | _ => false

/-- No task above these handles a failure, and no explanation is under way. -/
structure Clear (tasks below : List Task) : Prop where
  above : ∃ above, tasks = above ++ below ∧ ∀ task ∈ above, isCatcher task = false
  unguarded : .guardExplanation ∉ below

namespace Clear

theorem refl {below : List Task} (unguarded : .guardExplanation ∉ below) : Clear below below :=
  ⟨⟨[], rfl, fun _ member => nomatch member⟩, unguarded⟩

theorem cons {task : Task} {tasks below : List Task} (clear : Clear tasks below)
    (passive : isCatcher task = false) : Clear (task :: tasks) below := by
  obtain ⟨⟨above, rfl, passives⟩, unguarded⟩ := clear
  refine ⟨⟨task :: above, rfl, ?_⟩, unguarded⟩
  intro other member
  cases member with
  | head => exact passive
  | tail _ later => exact passives other later

theorem append {above tasks below : List Task} (clear : Clear tasks below)
    (passive : ∀ task ∈ above, isCatcher task = false) : Clear (above ++ tasks) below := by
  induction above with
  | nil => exact clear
  | cons task above inductionHypothesis =>
      exact (inductionHypothesis fun other member =>
        passive other (List.mem_cons_of_mem _ member)).cons (passive task (List.mem_cons_self ..))

theorem guardExplanation_notMem {tasks below : List Task} (clear : Clear tasks below) :
    .guardExplanation ∉ tasks := by
  obtain ⟨⟨above, rfl, passives⟩, unguarded⟩ := clear
  intro member
  rcases List.mem_append.mp member with inAbove | inBelow
  · exact Bool.noConfusion (passives _ inAbove)
  · exact unguarded inBelow

/-- A failure passes all tasks down to those below. -/
theorem unwind_eq {tasks below : List Task} (clear : Clear tasks below) (failure : Failure)
    (state : State) : (unwind failure state tasks).2 = (unwind failure state below).2 := by
  obtain ⟨⟨above, rfl, passives⟩, -⟩ := clear
  induction above with
  | nil => rfl
  | cons task above inductionHypothesis =>
      have passes : handle failure { state with tasks := above ++ below } task = none := by
        have passive := passives task (List.mem_cons_self ..)
        cases task <;> first | rfl | contradiction
      rw [List.cons_append, unwind, passes]
      exact inductionHypothesis fun other member => passives other (List.mem_cons_of_mem _ member)

end Clear

section
variable {setting : Setting} {level : Level} {α β : Type} {below : List Task}
  {done : β → Ledger → State → Prop} {ledger : Ledger}

/-! ## Rules -/

/-- The evaluation is over, and so are its turns. -/
theorem realizes_pure {state : State} {value : β} (tasks : state.tasks = below)
    (holds : done value ledger state) :
    Realizes setting level below done (.running state) (pure value) ledger :=
  ⟨[], state, .refl, by simp, tasks, holds⟩

/-- The evaluation fails, and so does a reaction above tasks that let failures pass. -/
theorem realizes_fail {state : State} {failure : Failure} {evaluation : Evaluation α}
    {after : Ledger} {next : α → Evaluation β}
    (runs : evaluation.runFrom ledger = (.error failure, after))
    (silent : after.questions = ledger.questions)
    (clear : Clear state.tasks below) (carries : Carries setting level after state) :
    Realizes setting level below done (Reaction.fail state failure).settle.position
      (evaluation >>= next) ledger := by
  refine ⟨[], _, .refl, ?_, ?_⟩
  · rw [runFrom_bind, runs, policyQuestions_nil, List.append_nil]
    exact silent
  · rw [runFrom_bind, runs]
    exact ⟨state, clear.unwind_eq failure state, carries⟩

/-- An evaluation that succeeds comes first, and the turns that carry it out. -/
theorem Realizes.seq {position : Position} {state : State} {left : List Position}
    {evaluation : Evaluation α} {value : α} {after : Ledger} {next : α → Evaluation β}
    (runs : evaluation.runFrom ledger = (.ok value, after))
    (steps : Leads setting position left (.running state))
    (questions : after.questions = ledger.questions ++ policyQuestions left)
    (rest : Realizes setting level below done (.running state) (next value) after) :
    Realizes setting level below done position (evaluation >>= next) ledger := by
  obtain ⟨later, last, following, asked, outcome⟩ := rest
  refine ⟨left ++ later, last, steps.trans following, ?_⟩
  rw [runFrom_bind, runs]
  refine ⟨?_, outcome⟩
  rw [asked, questions, policyQuestions_append, List.append_assoc]

/-- An evaluation that succeeds without asking anything takes no turn. -/
theorem Realizes.silently {position : Position} {evaluation : Evaluation α} {value : α}
    {after : Ledger} {next : α → Evaluation β}
    (runs : evaluation.runFrom ledger = (.ok value, after))
    (silent : after.questions = ledger.questions)
    (rest : Realizes setting level below done position (next value) after) :
    Realizes setting level below done position (evaluation >>= next) ledger := by
  obtain ⟨later, last, following, asked, outcome⟩ := rest
  refine ⟨later, last, following, ?_⟩
  rw [runFrom_bind, runs, ← silent]
  exact ⟨asked, outcome⟩

/-- What an evaluation gives may be read in another way. -/
theorem Realizes.map {position : Position} {found : α → Ledger → State → Prop} {read : α → β}
    {evaluation : Evaluation α}
    (holds : Realizes setting level below found position evaluation ledger)
    (each : ∀ value later state, found value later state → done (read value) later state) :
    Realizes setting level below done position (read <$> evaluation) ledger := by
  obtain ⟨left, last, steps, asked, outcome⟩ := holds
  refine ⟨left, last, steps, ?_⟩
  rw [runFrom_map]
  refine ⟨asked, ?_⟩
  generalize evaluation.runFrom ledger = evaluated at outcome ⊢
  obtain ⟨result, after⟩ := evaluated
  cases result with
  | ok value => exact ⟨outcome.1, each _ _ _ outcome.2⟩
  | error failure => exact outcome

/-- Turns that ask nothing but for an explanation change nothing in the evaluation. -/
theorem Realizes.after {position : Position} {state : State} {left : List Position}
    {evaluation : Evaluation β} (steps : Leads setting position left (.running state))
    (silent : policyQuestions left = [])
    (rest : Realizes setting level below done (.running state) evaluation ledger) :
    Realizes setting level below done position evaluation ledger := by
  obtain ⟨later, last, following, asked, outcome⟩ := rest
  refine ⟨left ++ later, last, steps.trans following, ?_, outcome⟩
  rw [asked, policyQuestions_append, silent, List.nil_append]

/-- The task on top of the stack is run. -/
theorem realizes_run {state : State} {task : Task} {rest : List Task}
    {evaluation : Evaluation β} (stack : state.tasks = task :: rest)
    (holds : Realizes setting level below done
      (runTask setting.environment { state with tasks := rest } task).settle.position
      evaluation ledger) :
    Realizes setting level below done (.running state) evaluation ledger := by
  obtain ⟨later, last, following, asked, outcome⟩ := holds
  refine ⟨.running state :: later, last, .step (.run stack) following, ?_, outcome⟩
  rw [asked, policyQuestions_running]

/-- A question is asked, and its answer is received. -/
theorem realizes_ask {state : State} {question : Dns.Question} {awaiting : Awaiting}
    {next : Dns.Answer → Evaluation β} (unguarded : .guardExplanation ∉ state.tasks)
    (holds : Realizes setting level below done
      (receive setting.environment (setting.zone question) state awaiting).settle.position
      (next (setting.zone question))
      { ledger with questions := ledger.questions ++ [question] }) :
    Realizes setting level below done (.waiting state ⟨question, awaiting⟩)
      (ask setting question >>= next) ledger := by
  obtain ⟨later, last, following, asked, outcome⟩ := holds
  refine ⟨.waiting state ⟨question, awaiting⟩ :: later, last, .step (.hear rfl) following, ?_⟩
  rw [runFrom_bind, runFrom_ask, policyQuestions_waiting unguarded]
  refine ⟨?_, outcome⟩
  simp only [asked, List.append_assoc, List.singleton_append]

end

end SenderPolicy.Direct
