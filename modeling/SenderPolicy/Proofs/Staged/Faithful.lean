import SenderPolicy.Proofs.Check.Pauses
import SenderPolicy.Staged.Promise

/-!
# Checks that are held and promises that are kept

Many checks are under way at the same time. A `Holding` is a check that is not finished,
with what its run has left, wherever it is kept. `Faithful` says that no check is held
twice, that every held check follows the run of its own identity, and that promises are
open exactly for the checks that are held and otherwise filled in with the outcome of the
run.

The invariant knows nothing of tables and queues. Moving a check from one place to another
permutes the holdings, so that only the moves below need an argument: a check starts, asks
its next question, or is finished, and a listener comes.
-/

namespace SenderPolicy.Staged

open SenderPolicy.Check (Environment Follows Outcome Remainder State)

/-- A check that is not finished, and what its run has left. -/
structure Holding where
  check : Nat
  rest : Remainder

/-- The checks under way and the promises agree with one run for each identity. -/
structure Faithful (environment : Environment) (zone : Dns.Question → Dns.Answer)
    (identities : List Identity) (log : Nat → List Dns.Question) (holdings : List Holding)
    (promises : List Promise) : Prop where
  length : promises.length = identities.length
  single : (holdings.map Holding.check).Nodup
  follows : ∀ holding ∈ holdings, ∃ identity, identities[holding.check]? = some identity
    ∧ Follows environment zone identity (log holding.check) holding.rest
  pending : ∀ (check : Nat) (promise : Promise), promises[check]? = some promise →
    (promise.outcome = none ↔ check ∈ holdings.map Holding.check)
  fulfilled : ∀ (check : Nat) (promise : Promise) (identity : Identity) (outcome : Outcome),
    promises[check]? = some promise → identities[check]? = some identity →
    promise.outcome = some outcome →
      outcome = (Check.run environment (fun _ => zone) identity).outcome
        ∧ log check = (Check.run environment (fun _ => zone) identity).questions
  silent : ∀ check : Nat, identities.length ≤ check → log check = []

namespace Faithful

variable {environment : Environment} {zone : Dns.Question → Dns.Answer}
  {identities : List Identity} {log : Nat → List Dns.Question} {holdings : List Holding}
  {promises : List Promise}

/-- Before anything happens nothing is held and nothing is promised. -/
theorem empty : Faithful environment zone [] (fun _ => []) [] [] where
  length := rfl
  single := List.nodup_nil
  follows := by simp
  pending := by simp
  fulfilled := by simp
  silent := fun _ _ => rfl

/-- It does not matter where a check is held. -/
theorem perm {others : List Holding}
    (faithful : Faithful environment zone identities log holdings promises)
    (moved : holdings.Perm others) :
    Faithful environment zone identities log others promises where
  length := faithful.length
  single := (moved.map _).nodup_iff.mp faithful.single
  follows := fun holding held => faithful.follows holding (moved.mem_iff.mpr held)
  pending := by
    intro check promise promised
    rw [faithful.pending check promise promised]
    exact (moved.map _).mem_iff
  fulfilled := faithful.fulfilled
  silent := faithful.silent

/-- What is recorded of lookups matters check by check. -/
theorem log_congr {other : Nat → List Dns.Question}
    (faithful : Faithful environment zone identities log holdings promises)
    (same : ∀ check, other check = log check) :
    Faithful environment zone identities other holdings promises := by
  have equal : other = log := funext same
  exact equal ▸ faithful

/-- A check starts with its whole run left. -/
theorem start (faithful : Faithful environment zone identities log holdings promises)
    (identity : Identity) :
    Faithful environment zone (identities ++ [identity]) log
      (⟨promises.length,
          Check.remainder environment zone (.running (State.start identity))⟩ :: holdings)
      (promises ++ [({} : Promise)]) where
  length := by simp [faithful.length]
  single := by
    have fresh : promises.length ∉ holdings.map Holding.check := by
      intro held
      obtain ⟨holding, isHeld, named⟩ := List.mem_map.mp held
      obtain ⟨known, listed, _⟩ := faithful.follows holding isHeld
      have bound := (List.getElem?_eq_some_iff.mp listed).1
      have length := faithful.length
      omega
    exact List.nodup_cons.mpr ⟨fresh, faithful.single⟩
  follows := by
    intro holding held
    rcases List.mem_cons.mp held with rfl | isOther
    · have unasked := faithful.silent promises.length (Nat.le_of_eq faithful.length.symm)
      refine ⟨identity, by simp [faithful.length], ?_⟩
      rw [unasked]
      exact .start
    · obtain ⟨known, listed, follows⟩ := faithful.follows holding isOther
      have bound := (List.getElem?_eq_some_iff.mp listed).1
      exact ⟨known, by rw [List.getElem?_append_left bound, listed], follows⟩
  pending := by
    intro check promise promised
    by_cases bound : check < promises.length
    · rw [List.getElem?_append_left bound] at promised
      have other : check ≠ promises.length := by omega
      simp [faithful.pending check promise promised, other]
    · obtain ⟨rfl, rfl⟩ : check = promises.length ∧ promise = ({} : Promise) := by grind
      simp
  fulfilled := by
    intro check promise known outcome promised listed filled
    have bound : check < promises.length := by
      refine Nat.lt_of_not_le fun beyond => ?_
      have unfilled : promise = ({} : Promise) := by grind
      rw [unfilled] at filled
      cases filled
    have bounded : check < identities.length := faithful.length ▸ bound
    rw [List.getElem?_append_left bound] at promised
    rw [List.getElem?_append_left bounded] at listed
    exact faithful.fulfilled check promise known outcome promised listed filled
  silent := by
    intro check beyond
    rw [List.length_append] at beyond
    exact faithful.silent check (by omega)

/-- The log with one more lookup of a check. -/
def logged (log : Nat → List Dns.Question) (check : Nat) (question : Dns.Question) :
    Nat → List Dns.Question :=
  fun other => if other = check then log other ++ [question] else log other

/-- A check asks the next question of its run. -/
theorem ask {check : Nat} {question : Dns.Question} {questions : List Dns.Question}
    {last : State}
    (faithful : Faithful environment zone identities log
      (⟨check, ⟨question :: questions, last⟩⟩ :: holdings) promises) :
    Faithful environment zone identities (logged log check question)
      (⟨check, ⟨questions, last⟩⟩ :: holdings) promises := by
  obtain ⟨unheld, single⟩ := List.nodup_cons.mp faithful.single
  constructor
  case length => exact faithful.length
  case single => exact List.nodup_cons.mpr ⟨unheld, single⟩
  case follows =>
    intro holding held
    rcases List.mem_cons.mp held with rfl | isOther
    · obtain ⟨identity, listed, follows⟩ := faithful.follows _ List.mem_cons_self
      refine ⟨identity, listed, ?_⟩
      simp only [logged, if_true]
      exact follows.ask
    · have other : holding.check ≠ check := by
        rintro rfl
        exact unheld (List.mem_map.mpr ⟨holding, isOther, rfl⟩)
      simp only [logged, other, if_false]
      exact faithful.follows holding (List.mem_cons_of_mem _ isOther)
  case pending => exact faithful.pending
  case fulfilled =>
    intro other promise identity outcome promised listed filled
    have different : other ≠ check := by
      rintro rfl
      have unfilled := (faithful.pending other promise promised).mpr List.mem_cons_self
      rw [unfilled] at filled
      cases filled
    simp only [logged, different, if_false]
    exact faithful.fulfilled other promise identity outcome promised listed filled
  case silent =>
    intro other beyond
    obtain ⟨identity, listed, _⟩ := faithful.follows _ List.mem_cons_self
    have bound := (List.getElem?_eq_some_iff.mp listed).1
    have different : other ≠ check := by
      rintro rfl
      exact absurd bound (by simpa using beyond)
    simp only [logged, different, if_false]
    exact faithful.silent other beyond

/-- A check that has no question left is finished. -/
theorem finish {check : Nat} {last : State} {promise : Promise}
    (faithful : Faithful environment zone identities log (⟨check, ⟨[], last⟩⟩ :: holdings)
      promises)
    (promised : promises[check]? = some promise) :
    Faithful environment zone identities log holdings
      (promises.set check (promise.fulfil letGo (Outcome.ofState last)).1) := by
  obtain ⟨unheld, single⟩ := List.nodup_cons.mp faithful.single
  have unfilled := (faithful.pending check promise promised).mpr List.mem_cons_self
  have filledIn : (promise.fulfil letGo (Outcome.ofState last)).1.outcome
      = some (Outcome.ofState last) := by
    simp [Promise.fulfil, unfilled]
  have bound := (List.getElem?_eq_some_iff.mp promised).1
  constructor
  case length => rw [List.length_set, faithful.length]
  case single => exact single
  case follows =>
    intro holding held
    exact faithful.follows holding (List.mem_cons_of_mem _ held)
  case pending =>
    intro other after changed
    by_cases same : other = check
    · subst same
      rw [List.getElem?_set_self bound] at changed
      cases changed
      simp [filledIn, unheld]
    · rw [List.getElem?_set_ne (Ne.symm same)] at changed
      simp [faithful.pending other after changed, same]
  case fulfilled =>
    intro other after identity outcome changed listed filled
    by_cases same : other = check
    · subst same
      rw [List.getElem?_set_self bound] at changed
      cases changed
      obtain ⟨known, knownListed, follows⟩ := faithful.follows _ List.mem_cons_self
      obtain rfl : known = identity := Option.some.inj (knownListed.symm.trans listed)
      obtain rfl : Outcome.ofState last = outcome := Option.some.inj (filledIn.symm.trans filled)
      refine ⟨follows.outcome.symm, ?_⟩
      rw [follows.questions, List.append_nil]
    · rw [List.getElem?_set_ne (Ne.symm same)] at changed
      exact faithful.fulfilled other after identity outcome changed listed filled
  case silent => exact faithful.silent

/-- A listener that comes changes no outcome. -/
theorem listen {check : Nat} {promise : Promise} (listener : Listener)
    (faithful : Faithful environment zone identities log holdings promises)
    (promised : promises[check]? = some promise) :
    Faithful environment zone identities log holdings
      (promises.set check (promise.listen letGo listener).1) := by
  have same : (promise.listen letGo listener).1.outcome = promise.outcome := by
    unfold Promise.listen
    split <;> simp_all
  have bound := (List.getElem?_eq_some_iff.mp promised).1
  -- Every promise after the change has the outcome of a promise before it.
  have before : ∀ (other : Nat) (after : Promise),
      (promises.set check (promise.listen letGo listener).1)[other]? = some after →
        ∃ earlier, promises[other]? = some earlier ∧ after.outcome = earlier.outcome := by
    intro other after changed
    by_cases changedHere : other = check
    · subst changedHere
      rw [List.getElem?_set_self bound] at changed
      cases changed
      exact ⟨promise, promised, same⟩
    · rw [List.getElem?_set_ne (Ne.symm changedHere)] at changed
      exact ⟨after, changed, rfl⟩
  constructor
  case length => rw [List.length_set, faithful.length]
  case single => exact faithful.single
  case follows => exact faithful.follows
  case pending =>
    intro other after changed
    obtain ⟨earlier, promisedEarlier, outcome⟩ := before other after changed
    rw [outcome]
    exact faithful.pending other earlier promisedEarlier
  case fulfilled =>
    intro other after identity outcome changed listed filled
    obtain ⟨earlier, promisedEarlier, sameOutcome⟩ := before other after changed
    rw [sameOutcome] at filled
    exact faithful.fulfilled other earlier identity outcome promisedEarlier listed filled
  case silent => exact faithful.silent

end Faithful

end SenderPolicy.Staged
