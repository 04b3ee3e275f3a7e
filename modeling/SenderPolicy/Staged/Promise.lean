import SenderPolicy.Check.Outcome

/-!
# Promised outcomes

A promise is filled in once. Listeners that are registered before that wait, and run in
order when the outcome is known; later ones run at once. A listener may panic. Then the rest
of the code that runs it is not reached, up to where the panic is caught: around each
listener by itself. What the panic carries is given up behind that point, so a second panic
at this moment would go up from the promise.
-/

namespace SenderPolicy.Staged

/-- What a panic carries: a message, for panics that are raised with one. -/
abbrev Payload := Text

/-- How code ends: it returns, or a panic goes up from it. -/
inductive Ending where
  | returned
  | panicked (payload : Payload := [])
deriving DecidableEq, Repr

/-- What comes of giving up the payload of a panic that has been caught. This is code of
whoever has panicked. -/
abbrev Discard := Payload → Ending

/-- A message is given up without further ado. -/
def letGo : Discard := fun _ => .returned

/-- Someone who wants to know an outcome. A listener runs once at most, so how its run ends
belongs to it. -/
structure Listener where
  label : Text
  ending : Ending := .returned
deriving DecidableEq

/-- A listener has been told an outcome. -/
structure Notice where
  label : Text
  outcome : Check.Outcome
deriving DecidableEq

/-- What code does: which notices it leaves, and how it ends. -/
structure Execution where
  notices : List Notice
  ending : Ending
deriving DecidableEq

namespace Execution

/-- Nothing is done. -/
def idle : Execution := ⟨[], .returned⟩

/-- Code and what follows it, which a panic keeps from being reached. -/
def andThen (first next : Execution) : Execution :=
  match first.ending with
  | .returned => ⟨first.notices ++ next.notices, next.ending⟩
  | .panicked _ => first

/-- Code whose panic is caught, and the payload then given up. -/
def caught (discard : Discard) (execution : Execution) : Execution :=
  match execution.ending with
  | .returned => execution
  | .panicked payload => ⟨execution.notices, discard payload⟩

end Execution

/-- Run a listener. -/
def Listener.run (listener : Listener) (outcome : Check.Outcome) : Execution :=
  ⟨[⟨listener.label, outcome⟩], listener.ending⟩

/-- Run a listener and catch its panic. -/
def Listener.notify (discard : Discard) (outcome : Check.Outcome) (listener : Listener) :
    Execution :=
  (listener.run outcome).caught discard

/-- An outcome that is filled in once, and who waits for it. -/
structure Promise where
  outcome : Option Check.Outcome := none
  listeners : List Listener := []
deriving DecidableEq

namespace Promise

/-- The outcome is known. -/
def isReady (promise : Promise) : Bool :=
  promise.outcome.isSome

/-- Run listeners one after the other. -/
def notifyAll (discard : Discard) (outcome : Check.Outcome) : List Listener → Execution
  | [] => .idle
  | listener :: listeners =>
      (listener.notify discard outcome).andThen (notifyAll discard outcome listeners)

/-- Fill in the outcome and run the listeners; a second outcome is ignored. -/
def fulfil (discard : Discard) (outcome : Check.Outcome) (promise : Promise) :
    Promise × Execution :=
  match promise.outcome with
  | some _ => (promise, .idle)
  | none => (⟨some outcome, []⟩, notifyAll discard outcome promise.listeners)

/-- Register a listener, or run it if the outcome is known. -/
def listen (discard : Discard) (listener : Listener) (promise : Promise) :
    Promise × Execution :=
  match promise.outcome with
  | some outcome => (promise, listener.notify discard outcome)
  | none => ({ promise with listeners := promise.listeners ++ [listener] }, .idle)

end Promise

end SenderPolicy.Staged
