import SenderPolicy.Proofs.Staged.Agreement

/-!
# Checks are conserved

No check is lost or finished twice, whatever answers come and whenever they come.
`Executor.Conserves` says that every check is held in one place or has its outcome, and every
action keeps it. Unlike `Executor.Agrees` it asks nothing of the answers. An outcome that is
known stays, and a response that nobody waits for changes nothing.
-/

namespace SenderPolicy.Staged

open SenderPolicy.Check (Environment Outcome Position)

namespace Executor

/-! ## What is conserved -/

/-- Every check is held in one place or has its outcome. Checks in hand are on their way from
one place to another. -/
structure Conserves (hand : List Nat) (executor : Executor) : Prop where
  distinct : (executor.entries.map Entry.id).Nodup
  fresh : ∀ entry ∈ executor.entries, entry.id < executor.nextId
  single : (hand ++ executor.unfinished).Nodup
  known : ∀ check ∈ hand ++ executor.unfinished, check < executor.promises.length
  pending : ∀ (check : Nat) (promise : Promise), executor.promise? check = some promise →
    (promise.outcome = none ↔ check ∈ hand ++ executor.unfinished)

/-- The outcome of a check, once it is known. -/
def outcome? (executor : Executor) (check : Nat) : Option Outcome :=
  (executor.promise? check).bind Promise.outcome

/-- The number of places where a check is: in its promise as an outcome, in the table of
entries, with the worker, or with a caller. -/
def places (executor : Executor) (check : Nat) : Nat :=
  (executor.outcome? check).toList.length
    + (executor.entries.map Entry.check).count check
    + (executor.worker.entries.map Entry.check).count check
    + (executor.submissions.map Submission.check).count check

namespace Conserves

variable {hand others : List Nat} {executor after : Executor}

/-- Before anything happens there is no check. -/
theorem empty (environment : Environment) : Conserves [] { environment } where
  distinct := List.nodup_nil
  fresh := by simp
  single := List.nodup_nil
  known := by simp [unfinished, Worker.entries]
  pending := by simp [promise?]

/-- Moving checks from one place to another loses none of them. -/
theorem move (conserves : executor.Conserves hand)
    (moved : (hand ++ executor.unfinished).Perm (others ++ after.unfinished))
    (promises : after.promises = executor.promises)
    (distinct : (after.entries.map Entry.id).Nodup)
    (fresh : ∀ entry ∈ after.entries, entry.id < after.nextId) : after.Conserves others where
  distinct := distinct
  fresh := fresh
  single := moved.nodup_iff.mp conserves.single
  known := by
    intro check held
    rw [promises]
    exact conserves.known check (moved.mem_iff.mpr held)
  pending := by
    intro check promise promised
    rw [promise?, promises] at promised
    rw [conserves.pending check promise promised]
    exact moved.mem_iff

/-- A check is in one place if it has been started, and nowhere otherwise. -/
theorem places_eq (conserves : executor.Conserves []) (check : Nat) :
    executor.places check = if check < executor.promises.length then 1 else 0 := by
  have total : executor.places check
      = (executor.outcome? check).toList.length + executor.unfinished.count check := by
    simp only [places, unfinished, List.map_append, List.count_append]
    omega
  rw [total]
  split
  case isTrue bound =>
    have promised : executor.promise? check = some executor.promises[check] :=
      List.getElem?_eq_getElem bound
    have openIff := conserves.pending check _ promised
    rw [List.nil_append] at openIff
    rw [outcome?, promised, Option.bind_some]
    cases reported : executor.promises[check].outcome with
    | none =>
        have held := openIff.mp reported
        simpa using List.nodup_iff_count_eq_one.mp conserves.single check held
    | some outcome =>
        have unheld : check ∉ executor.unfinished := by
          intro held
          rw [openIff.mpr held] at reported
          cases reported
        simpa using List.count_eq_zero.mpr unheld
  case isFalse beyond =>
    have unpromised : executor.promise? check = none :=
      List.getElem?_eq_none (Nat.le_of_not_lt beyond)
    have unheld : check ∉ executor.unfinished :=
      fun held => beyond (conserves.known check held)
    simpa [outcome?, unpromised] using List.count_eq_zero.mpr unheld

/-- Once nobody holds a check, all of them have their outcomes. -/
theorem isReady_of_unfinished (conserves : executor.Conserves [])
    (nothing : executor.unfinished = []) : ∀ promise ∈ executor.promises, promise.isReady := by
  intro promise member
  obtain ⟨check, promised⟩ := List.mem_iff_getElem?.mp member
  have openIff := conserves.pending check promise promised
  rw [nothing, List.nil_append] at openIff
  rw [Promise.isReady, Option.isSome_iff_ne_none]
  exact fun unfilled => List.not_mem_nil (openIff.mp unfilled)

/-! ### Small steps -/

/-- A caller starts a check, and holds it. -/
theorem start (identity : Identity) (conserves : executor.Conserves []) :
    (executor.start identity).Conserves [] := by
  have held : (executor.start identity).unfinished.Perm
      (executor.promises.length :: executor.unfinished) := by
    simp only [Executor.start, unfinished, List.map_append, List.map_cons, List.map_nil,
      List.append_assoc]
    exact List.perm_middle
  have unheld : executor.promises.length ∉ executor.unfinished :=
    fun earlier => Nat.lt_irrefl _ (conserves.known _ earlier)
  constructor
  case distinct => exact conserves.distinct
  case fresh => exact conserves.fresh
  case single => exact held.nodup_iff.mpr (List.nodup_cons.mpr ⟨unheld, conserves.single⟩)
  case known =>
    intro check member
    have length : (executor.start identity).promises.length = executor.promises.length + 1 := by
      simp [Executor.start]
    rcases List.mem_cons.mp (held.mem_iff.mp member) with rfl | earlier
    · omega
    · have bound := conserves.known check earlier
      omega
  case pending =>
    intro check promise promised
    rw [List.nil_append, held.mem_iff, List.mem_cons]
    simp only [promise?, Executor.start] at promised
    by_cases bound : check < executor.promises.length
    · rw [List.getElem?_append_left bound] at promised
      rw [conserves.pending check promise promised, List.nil_append]
      have other : check ≠ executor.promises.length := by omega
      simp [other]
    · obtain ⟨rfl, rfl⟩ : check = executor.promises.length ∧ promise = {} := by grind
      simp

/-- A check in hand that is finished gets its outcome. -/
theorem fulfil {check : Nat} (outcome : Outcome) (conserves : executor.Conserves [check]) :
    (executor.changePromise check (Promise.fulfil letGo outcome)).1.Conserves [] := by
  obtain ⟨unheld, single⟩ := List.nodup_cons.mp conserves.single
  have bound := conserves.known check List.mem_cons_self
  have promised : executor.promise? check = some executor.promises[check] :=
    List.getElem?_eq_getElem bound
  simp only [Executor.changePromise, promised]
  constructor
  case distinct => exact conserves.distinct
  case fresh => exact conserves.fresh
  case single => exact single
  case known =>
    intro other held
    rw [List.length_set]
    exact conserves.known other (List.mem_cons_of_mem _ held)
  case pending =>
    intro other promise changed
    rw [promise?] at changed
    change promise.outcome = none ↔ other ∈ executor.unfinished
    by_cases same : other = check
    · subst same
      rw [List.getElem?_set_self bound] at changed
      cases changed
      have filled : (executor.promises[other].fulfil letGo outcome).1.outcome ≠ none := by
        unfold Promise.fulfil
        split <;> simp_all
      exact iff_of_false filled unheld
    · rw [List.getElem?_set_ne (Ne.symm same)] at changed
      rw [conserves.pending other promise changed]
      simp [same]

/-- A check in hand waits under a number that no other request has. -/
theorem await {check : Nat} (state : Check.State) (lookup : Check.Lookup)
    (conserves : executor.Conserves [check]) :
    (executor.settle check (.waiting state lookup)).1.Conserves [] := by
  obtain ⟨distinct, fresh⟩ := ids_settle check state lookup conserves.distinct conserves.fresh
  refine conserves.move ?_ rfl distinct fresh
  simp only [settle, unfinished, List.map_append, List.map_cons, List.append_assoc,
    List.singleton_append, List.nil_append]
  rw [← List.append_assoc, ← List.append_assoc]
  exact List.perm_middle.symm

/-- A check in hand is settled, whatever has become of it. -/
theorem settle {check : Nat} (progress : Check.Progress)
    (conserves : executor.Conserves [check]) :
    (executor.settle check progress).1.Conserves [] := by
  cases progress with
  | finished last => exact conserves.fulfil (Outcome.ofState last)
  | waiting state lookup => exact conserves.await state lookup

/-- A caller runs its check until the first question. -/
theorem submit (check : Nat) (conserves : executor.Conserves []) :
    (executor.submit check).1.Conserves [] := by
  unfold Executor.submit
  split
  case h_1 => exact conserves
  rename_i submission found
  have named : submission.check = check := by simpa using List.find?_some found
  have single := conserves.single
  rw [List.nil_append] at single
  have distinct : (executor.submissions.map Submission.check).Nodup :=
    (List.nodup_append.mp single).1
  have moved := (perm_cons_filter_of_find? Submission.check distinct found).map Submission.check
  rw [List.map_cons, named] at moved
  have inHand : { executor with
      submissions := executor.submissions.filter fun other => other.check ≠ check }.Conserves
        [check] :=
    conserves.move (moved.append_right _) rfl conserves.distinct conserves.fresh
  exact inHand.settle _

/-- The worker takes an entry in place of the table. -/
theorem take (conserves : executor.Conserves []) : executor.take.Conserves [] := by
  unfold Executor.take
  split
  case h_2 => exact conserves
  rename_i response queue idle removed
  split
  case h_1 => exact { conserves with }
  rename_i entry found
  have moved := perm_entries_take conserves.distinct idle found
  refine conserves.move ((moved.map Entry.check).append_left _) rfl ?_ ?_
  · exact (List.filter_sublist.map Entry.id).nodup conserves.distinct
  · intro other member
    exact conserves.fresh other (List.mem_filter.mp member).1

/-- The worker goes on with the check that it holds. -/
theorem work (conserves : executor.Conserves []) : executor.work.1.Conserves [] := by
  unfold Executor.work
  split
  case h_2 => exact conserves
  rename_i entry answer held
  have moved : executor.unfinished.Perm
      ([entry.check] ++ { executor with worker := .settled }.unfinished) := by
    simp only [unfinished, held, Worker.entries, List.map_append, List.map_cons, List.map_nil,
      List.append_nil]
    rw [← List.append_assoc]
    exact List.perm_append_singleton _ _
  have inHand : { executor with worker := .settled }.Conserves [entry.check] :=
    conserves.move moved rfl conserves.distinct conserves.fresh
  exact inHand.settle _

/-- The worker looks around. -/
theorem finish (conserves : executor.Conserves []) : executor.finish.Conserves [] := by
  unfold Executor.finish
  split
  case h_2 => exact conserves
  rename_i settled
  have idle : { executor with worker := .idle }.Conserves [] := by
    refine conserves.move ?_ rfl conserves.distinct conserves.fresh
    simp [unfinished, settled, Worker.entries]
  dsimp only
  split
  · exact { idle with }
  · exact idle

/-- Stopping loses no check. -/
theorem drop (conserves : executor.Conserves []) : executor.drop.Conserves [] := by
  unfold Executor.drop
  dsimp only
  split
  · exact { conserves with }
  · exact { conserves with }

/-- A listener that comes sets no outcome. -/
theorem listen (check : Nat) (listener : Listener) (conserves : executor.Conserves []) :
    (executor.listen check listener).1.Conserves [] := by
  unfold Executor.listen Executor.changePromise
  split
  case h_1 => exact conserves
  rename_i promise promised
  have same : (promise.listen letGo listener).1.outcome = promise.outcome := by
    unfold Promise.listen
    split <;> simp_all
  constructor
  case distinct => exact conserves.distinct
  case fresh => exact conserves.fresh
  case single => exact conserves.single
  case known =>
    intro other held
    rw [List.length_set]
    exact conserves.known other held
  case pending =>
    intro other later changed
    rw [promise?] at changed promised
    by_cases changedHere : other = check
    · subst changedHere
      rw [List.getElem?_set_self (List.getElem?_eq_some_iff.mp promised).1] at changed
      cases changed
      rw [same]
      exact conserves.pending other promise promised
    · rw [List.getElem?_set_ne (Ne.symm changedHere)] at changed
      exact conserves.pending other later changed

/-! ### Actions and schedules -/

/-- A response comes, and the worker uses it. -/
theorem deliver (id : Nat) (answer : Dns.Answer) (conserves : executor.Conserves []) :
    (executor.deliver id answer).1.Conserves [] := by
  have responded : (executor.respond id answer).Conserves [] := { conserves with }
  exact responded.take.work.finish

/-- Every action conserves the checks. -/
theorem perform (action : Action) (conserves : executor.Conserves []) :
    (executor.perform action).1.Conserves [] := by
  cases action with
  | start identity => exact conserves.start identity
  | submit check => exact conserves.submit check
  | respond id answer => exact { conserves with }
  | take => exact conserves.take
  | work => exact conserves.work
  | finish => exact conserves.finish
  | begin identity => exact (conserves.start identity).submit _
  | deliver id answer => exact conserves.deliver id answer
  | status check => exact conserves
  | listen check listener => exact conserves.listen check listener
  | drop => exact conserves.drop

/-- Every schedule conserves the checks. -/
theorem performAll (schedule : List Action) (conserves : executor.Conserves []) :
    (executor.performAll schedule).Conserves [] := by
  induction schedule generalizing executor with
  | nil => exact conserves
  | cons action schedule inductionHypothesis =>
      exact inductionHypothesis (conserves.perform action)

end Conserves

/-! ## Outcomes stay -/

/-- The number of promises and the outcomes that are known survive a change of a promise that
keeps its outcome. -/
theorem outcome?_changePromise {check : Nat} {change : Promise → Promise × Execution}
    (keeps : ∀ promise outcome, promise.outcome = some outcome →
      (change promise).1.outcome = some outcome)
    {executor : Executor} {other : Nat} {outcome : Outcome}
    (known : executor.outcome? other = some outcome) :
    (executor.changePromise check change).1.outcome? other = some outcome := by
  unfold changePromise
  split
  case h_1 => exact known
  rename_i promise promised
  obtain ⟨earlier, promisedEarlier, filled⟩ := Option.bind_eq_some_iff.mp known
  rw [promise?] at promised promisedEarlier
  rw [outcome?, promise?]
  by_cases same : other = check
  · subst same
    cases promised.symm.trans promisedEarlier
    rw [List.getElem?_set_self (List.getElem?_eq_some_iff.mp promised).1, Option.bind_some]
    exact keeps promise outcome filled
  · rw [List.getElem?_set_ne (Ne.symm same), promisedEarlier, Option.bind_some]
    exact filled

/-- A second outcome is ignored. -/
theorem outcome?_settle {check other : Nat} {progress : Check.Progress} {executor : Executor}
    {outcome : Outcome} (known : executor.outcome? other = some outcome) :
    (executor.settle check progress).1.outcome? other = some outcome := by
  cases progress with
  | waiting state lookup => exact known
  | finished last =>
      refine outcome?_changePromise ?_ known
      intro promise outcome filled
      simp [filled]

/-- Setting checks aside is not what makes an outcome known. -/
theorem outcome?_congr {executor after : Executor} (same : after.promises = executor.promises)
    (check : Nat) : after.outcome? check = executor.outcome? check := by
  rw [outcome?, outcome?, promise?, promise?, same]

theorem outcome?_submit {check other : Nat} {executor : Executor} {outcome : Outcome}
    (known : executor.outcome? other = some outcome) :
    (executor.submit check).1.outcome? other = some outcome := by
  unfold submit
  split
  · exact known
  · exact outcome?_settle known

theorem outcome?_start {identity : Identity} {check : Nat} {executor : Executor}
    {outcome : Outcome} (known : executor.outcome? check = some outcome) :
    (executor.start identity).outcome? check = some outcome := by
  obtain ⟨promise, promised, filled⟩ := Option.bind_eq_some_iff.mp known
  have bound : check < executor.promises.length := (List.getElem?_eq_some_iff.mp promised).1
  rw [outcome?, promise?, start, List.getElem?_append_left bound, ← promise?, promised,
    Option.bind_some]
  exact filled

theorem promises_take (executor : Executor) : executor.take.promises = executor.promises := by
  unfold take
  grind

theorem outcome?_work {check : Nat} {executor : Executor} {outcome : Outcome}
    (known : executor.outcome? check = some outcome) :
    executor.work.1.outcome? check = some outcome := by
  unfold work
  split
  · exact outcome?_settle known
  · exact known

theorem finish_keeps (executor : Executor) :
    executor.finish.promises = executor.promises
      ∧ executor.finish.entries = executor.entries
      ∧ executor.finish.submissions = executor.submissions
      ∧ executor.finish.environment = executor.environment
      ∧ executor.finish.stopping = executor.stopping := by
  unfold finish
  grind

/-- An outcome that is known stays as it is in every action. -/
theorem outcome?_perform (action : Action) {check : Nat} {executor : Executor}
    {outcome : Outcome} (known : executor.outcome? check = some outcome) :
    (executor.perform action).1.outcome? check = some outcome := by
  cases action with
  | start identity => exact outcome?_start known
  | submit check => exact outcome?_submit known
  | respond id answer => exact known
  | take => exact (outcome?_congr executor.promises_take check).trans known
  | work => exact outcome?_work known
  | finish => exact (outcome?_congr executor.finish_keeps.1 check).trans known
  | begin identity => exact outcome?_submit (outcome?_start known)
  | deliver id answer =>
      have taken : (executor.respond id answer).take.outcome? check = some outcome :=
        (outcome?_congr (executor.respond id answer).promises_take check).trans known
      exact (outcome?_congr (finish_keeps _).1 check).trans (outcome?_work taken)
  | status check => exact known
  | listen check listener =>
      refine outcome?_changePromise ?_ known
      intro promise outcome filled
      simp [filled]
  | drop =>
      have same : executor.drop.promises = executor.promises := by
        unfold drop
        grind
      exact (outcome?_congr same check).trans known

/-- An outcome that is known stays as it is. -/
theorem outcome?_performAll (schedule : List Action) {check : Nat} {executor : Executor}
    {outcome : Outcome} (known : executor.outcome? check = some outcome) :
    (executor.performAll schedule).outcome? check = some outcome := by
  induction schedule generalizing executor with
  | nil => exact known
  | cons action schedule inductionHypothesis =>
      exact inductionHypothesis (outcome?_perform action known)

/-! ## Responses to nobody -/

/-- A response to a request that is not outstanding leaves the queue and changes nothing. -/
theorem take_of_question? {executor : Executor} {response : Response} {queue : ResponseQueue}
    (idle : executor.worker = .idle)
    (removed : executor.queue.remove? = some (response, queue))
    (unknown : executor.question? response.id = none) :
    executor.take = { executor with queue } := by
  rw [question?, Option.map_eq_none_iff] at unknown
  simp only [take, idle, removed, unknown]

end Executor
end SenderPolicy.Staged
