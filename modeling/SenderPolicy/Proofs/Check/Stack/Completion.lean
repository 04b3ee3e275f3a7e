import SenderPolicy.Proofs.Check.Consistency.Runs
import SenderPolicy.Proofs.Check.Retrieval.Groups
import SenderPolicy.Proofs.Check.Stack.Shape

/-!
# Records are complete when they are evaluated

The stages that give a record its hooks come last, in order and once each, and no other task comes
between them and the evaluation of the record. So every record is evaluated with the hooks that it
is to have.
-/

namespace SenderPolicy.Check

/-! ## Stages that remain -/

/-- The hooks that a record has while some stages remain. -/
def hooksBefore (environment : Environment) (remaining : List Stage) (record : Record) :
    List Hook :=
  (if .neutralIfUnmatched ∈ remaining ∨ record.directives = [] then [] else [.neutralIfUnmatched])
    ++ (if .defaultExplanation ∈ remaining then []
      else [.defaultExplanation environment.options.explanation])

/-- The stage gives a record a hook. -/
def Stage.givesHook : Stage → Bool
  | .neutralIfUnmatched | .defaultExplanation => true
  | _ => false

/-- The stages that give a record its hooks come last, in order and once each. -/
def endsComplete : List Stage → Bool
  | [] => true
  | .neutralIfUnmatched :: stages => stages = [.defaultExplanation]
  | .defaultExplanation :: stages => stages = []
  | _ :: stages =>
      .neutralIfUnmatched ∈ stages && .defaultExplanation ∈ stages && endsComplete stages

theorem endsComplete_stages (options : Options) : endsComplete (stages options) = true := by
  unfold stages
  (repeat' split) <;> rfl

theorem hooksBefore_nil (environment : Environment) (record : Record) :
    hooksBefore environment [] record = hooksOf environment record := by
  simp [hooksBefore, hooksOf]

/-- A policy at hand has the hooks that it is to have while some stages remain. -/
structure Completing (environment : Environment) (remaining : List Stage) (slot : Option Slot) :
    Prop where
  ends : endsComplete remaining = true
  hooks : ∀ policy, slot = some (.policy policy) →
    policy.hooks = hooksBefore environment remaining policy.record

section
variable {environment : Environment} {remaining : List Stage} {stage : Stage} {slot : Option Slot}

/-- Before a stage that gives no hook, both hooks are still to come. -/
theorem mem_of_endsComplete (ends : endsComplete (stage :: remaining) = true)
    (other : stage.givesHook = false) :
    .neutralIfUnmatched ∈ remaining ∧ .defaultExplanation ∈ remaining
      ∧ endsComplete remaining = true := by
  cases stage with
  | neutralIfUnmatched | defaultExplanation => cases other
  | _ => simpa only [endsComplete, Bool.and_eq_true, decide_eq_true_eq, and_assoc] using ends

namespace Completing

/-- A stage that gives no hook may leave what is at hand. -/
theorem pass (completing : Completing environment (stage :: remaining) slot)
    (other : stage.givesHook = false) : Completing environment remaining slot := by
  obtain ⟨neutral, explanation, ends⟩ := mem_of_endsComplete completing.ends other
  refine ⟨ends, fun policy found => ?_⟩
  rw [completing.hooks policy found]
  simp [hooksBefore, neutral, explanation]

/-- A stage that gives no hook may put a record at hand that has none. -/
theorem begin (completing : Completing environment (stage :: remaining) slot)
    (other : stage.givesHook = false) (record : Record) :
    Completing environment remaining (some (.policy ⟨record, []⟩)) := by
  obtain ⟨neutral, explanation, ends⟩ := mem_of_endsComplete completing.ends other
  refine ⟨ends, ?_⟩
  rintro _ ⟨⟩
  simp [hooksBefore, neutral, explanation]

/-- Text at hand has no hooks. -/
theorem ofText (ends : endsComplete remaining = true) (text : Text) :
    Completing environment remaining (some (.text text)) :=
  ⟨ends, nofun⟩

end Completing

end

/-! ## States -/

/-- No record is being obtained or about to be evaluated. -/
def State.IsIdle (state : State) : Prop :=
  ∀ task ∈ state.tasks, task.isOfRecord = false

/-- No record is being obtained, or one is and has the hooks that it is to have by now. -/
inductive State.Completes (environment : Environment) (state : State) : Prop where
  | idle (idle : state.IsIdle)
  | obtaining {remaining : List Stage} {below : List Task}
      (stack : state.tasks = remaining.map .stage ++ .evaluateRecord :: below)
      (completing : Completing environment remaining state.slot)
      (idle : ∀ task ∈ below, task.isOfRecord = false)

/-- A record is being obtained only while a check waits for one. -/
def Position.Completes (environment : Environment) : Position → Prop
  | .running state => state.Completes environment
  | .waiting state lookup => state.Completes environment
      ∧ (lookup.awaiting.findsRecord = false → state.IsIdle)

/-- Every outcome of a reaction completes its record, or leaves it behind by a failure. -/
def Reaction.Completes (environment : Environment) : Reaction → Prop
  | .proceed state => state.Completes environment
  | .ask state lookup => (Position.waiting state lookup).Completes environment
  | .fail state _ => ∃ top below, state.tasks = top ++ below
      ∧ (∀ task ∈ top, task.isOfRecord = true) ∧ ∀ task ∈ below, task.isOfRecord = false

section
variable {environment : Environment} {state : State} {remaining : List Stage} {stage : Stage}
  {below : List Task}

theorem Reaction.completes_of_idle {reaction : Reaction} (idle : reaction.state.IsIdle) :
    reaction.Completes environment := by
  cases reaction with
  | proceed after => exact .idle idle
  | ask after lookup => exact ⟨.idle idle, fun _ => idle⟩
  | fail after failure => exact ⟨[], after.tasks, rfl, nofun, idle⟩

theorem Reaction.Completes.settle {reaction : Reaction}
    (completes : reaction.Completes environment) :
    reaction.settle.position.Completes environment := by
  cases reaction with
  | proceed after => exact completes
  | ask after lookup => exact completes
  | fail after failure =>
      obtain ⟨top, below, stack, onTop, idle⟩ := completes
      refine .idle fun task member => ?_
      have unwound := unwind_top (fun task member => .inl (onTop task member)) failure after below
      rw [stack, unwound] at member
      exact idle task ((unwind_suffix failure after below).subset member)

/-! ## Stages -/

/-- A record whose remaining stages are run one after the other. -/
structure State.IsCompleting (state : State) (remaining : List Stage) (below : List Task) :
    Prop where
  stack : state.tasks = remaining.map .stage ++ .evaluateRecord :: below
  idle : ∀ task ∈ below, task.isOfRecord = false

namespace State.IsCompleting

variable (obtains : state.IsCompleting remaining below)
include obtains

theorem proceed {slot : Option Slot} (completing : Completing environment remaining slot) :
    State.Completes environment { state with slot } :=
  .obtaining obtains.stack completing obtains.idle

theorem ask {lookup : Lookup} (finds : lookup.awaiting.findsRecord = true)
    (completing : Completing environment remaining state.slot) :
    Reaction.Completes environment (.ask state lookup) :=
  ⟨obtains.proceed completing, fun other => Bool.noConfusion (finds.symm.trans other)⟩

theorem fail (failure : Failure) : Reaction.Completes environment (.fail state failure) := by
  refine ⟨remaining.map .stage ++ [.evaluateRecord], below, ?_, ?_, obtains.idle⟩
  · rw [obtains.stack]
    simp
  · intro task member
    rcases List.mem_append.mp member with stage | last
    · obtain ⟨_, _, rfl⟩ := List.mem_map.mp stage
      rfl
    · obtain rfl := List.mem_singleton.mp last
      rfl

theorem useRecordText (text : Text) (other : stage.givesHook = false)
    {slot : Option Slot} (completing : Completing environment (stage :: remaining) slot) :
    (Check.useRecordText text state).Completes environment := by
  unfold Check.useRecordText
  split
  · exact obtains.fail _
  · exact obtains.proceed (completing.begin other _)

theorem useLocalRecord (source : Option RecordSource) (other : stage.givesHook = false)
    (completing : Completing environment (stage :: remaining) state.slot) :
    (Check.useLocalRecord source state).Completes environment := by
  unfold Check.useLocalRecord
  split
  · exact obtains.proceed (completing.pass other)
  · split
    · exact obtains.proceed (completing.pass other)
    · exact obtains.useRecordText _ other completing

theorem askRecords (type : Dns.RecordType) {awaiting : Awaiting}
    (finds : awaiting.findsRecord = true)
    (completing : Completing environment remaining state.slot) :
    (Check.askRecords type awaiting state).Completes environment := by
  unfold Check.askRecords
  split
  · exact obtains.proceed completing
  · exact obtains.ask finds completing

theorem changePolicy {change : Policy → Policy} (ends : endsComplete remaining = true)
    (hooks : ∀ policy, state.slot = some (.policy policy) →
      (change policy).hooks = hooksBefore environment remaining (change policy).record) :
    (Check.changePolicy change state).Completes environment := by
  unfold Check.changePolicy
  split
  · rename_i policy found
    refine obtains.proceed ⟨ends, ?_⟩
    rintro _ ⟨⟩
    exact hooks policy found
  · rename_i other
    exact obtains.proceed ⟨ends, fun policy found => absurd found (other policy)⟩

end State.IsCompleting

/-- A directive in front of the last one leaves a record with directives. -/
theorem hooks_admitForwarder (policy : Policy) :
    (admitForwarder policy).hooks = policy.hooks
      ∧ ((admitForwarder policy).record.directives = [] ↔ policy.record.directives = []) := by
  unfold admitForwarder
  split
  · rename_i strict
    refine ⟨rfl, ?_⟩
    cases directives : policy.record.directives with
    | nil => simp [endsStrict, directives] at strict
    | cons directive rest => simp [Record.insertBeforeLast, directives]
  · exact ⟨rfl, .rfl⟩

/-- A stage leaves a record with the hooks that it is to have. -/
theorem runStage_completes (obtains : state.IsCompleting remaining below)
    (completing : Completing environment (stage :: remaining) state.slot) :
    (runStage environment state stage).Completes environment := by
  cases stage with
  | override => exact obtains.useLocalRecord _ rfl completing
  | initialChecks =>
      simp only [runStage]
      split
      · exact obtains.fail _
      · split
        · exact obtains.proceed (completing.pass rfl)
        · exact obtains.fail _
  | retrieve => exact obtains.askRecords _ rfl (completing.pass rfl)
  | retrieveStrict => exact obtains.askRecords _ rfl (completing.pass rfl)
  | bestGuess =>
      have passed := completing.pass rfl
      have guessed : Completing environment remaining
          (state.slot <|> some (.text guessedRecord)) := by
        cases slot : state.slot with
        | none => exact .ofText passed.ends _
        | some found => rwa [slot] at passed
      exact obtains.proceed guessed
  | parseRecord =>
      simp only [runStage]
      split
      · exact obtains.useRecordText _ rfl completing
      · exact obtains.proceed (completing.pass rfl)
  | fallback => exact obtains.useLocalRecord _ rfl completing
  | noRecordFound =>
      simp only [runStage]
      split
      · exact obtains.proceed (completing.pass rfl)
      · exact obtains.fail _
  | trustedForwarder =>
      have passed := completing.pass rfl
      simp only [runStage]
      split
      · refine obtains.changePolicy passed.ends fun policy found => ?_
        obtain ⟨hooks, same⟩ := hooks_admitForwarder policy
        rw [hooks, passed.hooks policy found]
        simp only [hooksBefore, same]
      · exact obtains.proceed passed
  | neutralIfUnmatched =>
      obtain rfl : remaining = [.defaultExplanation] := of_decide_eq_true completing.ends
      refine obtains.changePolicy rfl fun policy found => ?_
      have hooks : policy.hooks = [] := by
        rw [completing.hooks policy found]
        simp [hooksBefore]
      split
      · rename_i empty
        simp [hooksBefore, hooks, empty]
      · rename_i nonempty
        simp [hooksBefore, Policy.addHook, hooks, nonempty]
  | defaultExplanation =>
      obtain rfl : remaining = [] := of_decide_eq_true completing.ends
      refine obtains.changePolicy rfl fun policy found => ?_
      have hooks := completing.hooks policy found
      simp only [hooksBefore] at hooks ⊢
      simp [Policy.addHook, hooks]

/-! ## Tasks and answers -/

/-- The tasks of a record are not those that obtain one. -/
theorem isOfRecord_of_mem_policyTasks {policy : Policy} :
    ∀ task ∈ policyTasks policy, task.isOfRecord = false := by
  intro task member
  simp only [policyTasks, List.mem_append, List.mem_map] at member
  rcases member with (⟨_, _, rfl⟩ | ⟨_, _, rfl⟩) | ⟨_, _, rfl⟩ <;> rfl

theorem isOfRecord_of_isOfExplanation {task : Task} (explains : task.isOfExplanation = true) :
    task.isOfRecord = false := by
  cases task <;> first | rfl | cases explains

theorem isOfRecord_of_isCounted {task : Task} (counted : task.isCounted = true) :
    task.isOfRecord = false := by
  cases task <;> first | rfl | cases counted

theorem State.IsIdle.append {base : State} {above : List Task} (idle : base.IsIdle)
    (stack : state.tasks = above ++ base.tasks) (others : ∀ task ∈ above, task.isOfRecord = false) :
    state.IsIdle := by
  rw [State.IsIdle, stack]
  exact List.forall_mem_append.mpr ⟨others, idle⟩

/-- Only the evaluation of a domain begins to obtain a record. -/
theorem Places.isOfRecord {base : State} {task : Task} {above : List Task} {count : Nat}
    (places : Places environment base task above count) (other : task.isOfRecord = false)
    (noDomain : task ≠ .evaluateDomain) : ∀ task ∈ above, task.isOfRecord = false := by
  cases places with
  | explanation all => exact fun task member => isOfRecord_of_isOfExplanation (all task member)
  | stages => exact absurd rfl noDomain
  | policy slot => cases other
  | half begun =>
      exact List.forall_mem_singleton.mpr (isOfRecord_of_isCounted (isCounted_of_half begun).2.1)
  | _ => simp [Task.isOfRecord]

theorem runTask_idle {base : State} {task : Task} (idle : (base.push task).IsIdle)
    (noDomain : task ≠ .evaluateDomain) : (runTask environment base task).state.IsIdle := by
  obtain ⟨other, rest⟩ := List.forall_mem_cons.mp idle
  by_cases concludes : task = .conclude
  · subst concludes
    exact rest
  · obtain ⟨above, count, places, put⟩ := runTask_places environment concludes base
    exact State.IsIdle.append rest put.tasks (places.isOfRecord other noDomain)

/-- Running the task on top leaves a record with the hooks that it is to have by then. -/
theorem runTask_completes {base : State} {task : Task}
    (completes : (base.push task).Completes environment) :
    (runTask environment base task).Completes environment := by
  cases completes with
  | idle idle =>
      by_cases domain : task = .evaluateDomain
      · subst domain
        have rest := (List.forall_mem_cons.mp idle).2
        simp only [runTask]
        split
        · have begun : Completing environment (stages environment.options) none :=
            ⟨endsComplete_stages _, by simp⟩
          refine .obtaining ?_ begun rest
          simp [State.pushAll]
        · exact .idle rest
      · exact Reaction.completes_of_idle (runTask_idle idle domain)
  | @obtaining remaining below stack completing idle =>
      cases remaining with
      | nil =>
          obtain ⟨rfl, rfl⟩ := List.cons.inj stack
          refine Reaction.completes_of_idle ?_
          simp only [runTask]
          split
          · have rest : base.IsIdle := idle
            exact rest.append rfl isOfRecord_of_mem_policyTasks
          · exact idle
      | cons stage remaining =>
          obtain ⟨rfl, rest⟩ := List.cons.inj stack
          exact runStage_completes ⟨rest, idle⟩ completing

namespace State.IsCompleting

variable (obtains : state.IsCompleting remaining below)
include obtains

theorem receiveRecords {answer : Dns.Answer} {next : Option Text → Reaction}
    (each : ∀ found, (next found).Completes environment) :
    (Check.receiveRecords answer state next).Completes environment := by
  unfold Check.receiveRecords
  split
  · exact obtains.fail _
  · split
    · exact obtains.fail _
    · exact each _

theorem keepRecordText (found : Option Text)
    (completing : Completing environment remaining state.slot) :
    (Check.keepRecordText found state).Completes environment := by
  cases found with
  | none => exact obtains.proceed completing
  | some text => exact obtains.proceed (.ofText completing.ends text)

end State.IsCompleting

/-- An answer that is a record or the lack of one leaves no record with other hooks. -/
theorem receive_completes {answer : Dns.Answer} {lookup : Lookup}
    (completes : (Position.waiting state lookup).Completes environment) :
    (receive environment answer state lookup.awaiting).Completes environment := by
  obtain ⟨completes, rests⟩ := completes
  have idly (idle : state.IsIdle) :
      (receive environment answer state lookup.awaiting).Completes environment := by
    obtain ⟨above, all, put⟩ := receive_puts answer lookup.awaiting state
    exact Reaction.completes_of_idle
      (idle.append put.tasks fun task member => isOfRecord_of_isOfExplanation (all task member))
  cases completes with
  | idle idle => exact idly idle
  | @obtaining remaining below stack completing idle =>
      have obtains : state.IsCompleting remaining below := ⟨stack, idle⟩
      cases finds : lookup.awaiting with
      | spfRecords =>
          refine obtains.receiveRecords fun found => ?_
          cases found with
          | none => exact obtains.askRecords _ rfl completing
          | some text => exact obtains.keepRecordText (some text) completing
      | txtRecords =>
          exact obtains.receiveRecords fun found => obtains.keepRecordText found completing
      | strictSpfRecords =>
          exact obtains.receiveRecords fun found => obtains.ask rfl completing
      | strictTxtRecords spf =>
          refine obtains.receiveRecords fun found => ?_
          split
          · exact obtains.fail _
          · exact obtains.keepRecordText _ completing
      | _ =>
          rw [← finds]
          exact idly (rests (by rw [finds]; rfl))

end

/-! ## Rows of turns -/

section
variable {environment : Environment} {permitted : Dns.Question → Dns.Answer → Prop}
  {position next last : Position} {left : List Position}

theorem Position.Step.completes (turn : Step environment permitted position next)
    (completes : position.Completes environment) : next.Completes environment := by
  cases turn with
  | @run state task below stack =>
      have whole := push_of_tasks stack
      have here : (({ state with tasks := below } : State).push task).Completes environment :=
        whole.symm ▸ completes
      exact (runTask_completes here).settle
  | hear allowed => exact (receive_completes completes).settle

theorem completes_start (environment : Environment) (identity : Identity) :
    (Position.running (State.start identity)).Completes environment :=
  .idle (by simp [State.IsIdle, State.start, Task.isOfRecord])

/-- A record that is evaluated has the hooks of a completed record. -/
theorem hooks_of_completes {outer : State} {policy : Policy}
    (completes : (Position.running (outer.push .evaluateRecord)).Completes environment)
    (slot : outer.slot = some (.policy policy)) :
    policy.hooks = hooksOf environment policy.record := by
  cases completes with
  | idle idle => cases idle _ (List.mem_cons_self ..)
  | @obtaining remaining below stack completing idle =>
      cases remaining with
      | nil =>
          rw [completing.hooks policy slot]
          exact hooksBefore_nil environment policy.record
      | cons stage remaining => cases (List.cons.inj stack).1

end

end SenderPolicy.Check
