import SenderPolicy.Proofs.Check.Realization.Terms

/-!
# Chains of questions

A mechanism that asks more than once is spread over the reactions to its answers, each of which
carries what is still to be asked. `Reaction.LeadsTo` puts such a chain together again: the
questions that are asked from a reaction on, and the reaction with which the asking ends. A walk
through host names is such a chain, and its questions are told by the answers alone: they are
those up to the first answer that decides.
-/

namespace SenderPolicy.Check

/-- The questions asked from a reaction on, until one comes that asks no more, under a resolver
that has been asked others before. -/
inductive Reaction.LeadsTo (environment : Environment) (resolver : Resolver) :
    List Dns.Question → Reaction → List Dns.Question → Reaction → Prop where
  | ended {asked reaction} (silent : ∀ state lookup, reaction ≠ .ask state lookup) :
      LeadsTo environment resolver asked reaction [] reaction
  | answered {asked state lookup questions last}
      (rest : LeadsTo environment resolver (asked ++ [lookup.question])
        (receive environment (resolver asked lookup.question) state lookup.awaiting)
        questions last) :
      LeadsTo environment resolver asked (.ask state lookup) (lookup.question :: questions) last

section
variable {environment : Environment} {resolver : Resolver} {asked : List Dns.Question}

theorem Reaction.leadsTo_proceed (state : State) :
    LeadsTo environment resolver asked (.proceed state) [] (.proceed state) :=
  .ended fun _ _ same => nomatch same

theorem Reaction.leadsTo_fail (state : State) (failure : Failure) :
    LeadsTo environment resolver asked (.fail state failure) [] (.fail state failure) :=
  .ended fun _ _ same => nomatch same

/-- A reaction leads to one end. -/
theorem Reaction.LeadsTo.unique {reaction last other : Reaction}
    {questions otherQuestions : List Dns.Question}
    (leads : LeadsTo environment resolver asked reaction questions last)
    (leadsOther : LeadsTo environment resolver asked reaction otherQuestions other) :
    questions = otherQuestions ∧ last = other := by
  induction leads generalizing otherQuestions with
  | ended silent =>
      cases leadsOther with
      | ended _ => exact ⟨rfl, rfl⟩
      | answered _ => exact absurd rfl (silent _ _)
  | answered _ inductionHypothesis =>
      cases leadsOther with
      | ended silent => exact absurd rfl (silent _ _)
      | answered rest =>
          obtain ⟨rfl, rfl⟩ := inductionHypothesis rest
          exact ⟨rfl, rfl⟩

/-- A check whose turn ends in a reaction goes on with the questions that this leads to, and then
as from the last reaction. -/
theorem Reaction.LeadsTo.converse {reaction last : Reaction} {questions : List Dns.Question}
    (leads : LeadsTo environment resolver asked reaction questions last) :
    reaction.settle.events ++ (converse environment resolver asked reaction.settle.position).1
        = questions.map Event.ask ++ (last.settle.events
          ++ (converse environment resolver (asked ++ questions) last.settle.position).1)
      ∧ (converse environment resolver asked reaction.settle.position).2
        = (converse environment resolver (asked ++ questions) last.settle.position).2 := by
  induction leads with
  | ended _ => simp
  | @answered asked state lookup questions last _ inductionHypothesis =>
      have waits : (Reaction.ask state lookup).settle = ⟨[], .waiting state lookup⟩ := rfl
      rw [List.append_assoc, List.singleton_append] at inductionHypothesis
      obtain ⟨events, state⟩ := inductionHypothesis
      rw [waits, converse_waiting]
      exact ⟨congrArg (Event.ask lookup.question :: ·) events, state⟩

end

/-! ## Answers one after another -/

/-- A question with its answer. -/
structure Heard where
  question : Dns.Question
  answer : Dns.Answer
deriving DecidableEq

/-- The answers to questions that are asked one after another. -/
def hearing (resolver : Resolver) : List Dns.Question → List Dns.Question → List Heard
  | _, [] => []
  | asked, question :: questions =>
      ⟨question, resolver asked question⟩ :: hearing resolver (asked ++ [question]) questions

/-- A zone gives its answers whatever has been asked before. -/
theorem hearing_zone (zone : Dns.Question → Dns.Answer) (asked questions : List Dns.Question) :
    hearing (fun _ => zone) asked questions = questions.map fun question =>
      ⟨question, zone question⟩ := by
  induction questions generalizing asked with
  | nil => rfl
  | cons question questions inductionHypothesis =>
      rw [hearing, inductionHypothesis, List.map_cons]

/-- The items up to the first one with a property, and that one. -/
def upTo {α : Type} (property : α → Bool) : List α → List α
  | [] => []
  | item :: items => if property item then [item] else item :: upTo property items

/-- The address questions about those of several names that such a question may be about. -/
def addressQuestions (client : Address) (names : List Text) : List Dns.Question :=
  (names.filter Domain.isHostName).map fun name =>
    if client.family = .ip4 then ⟨name, .a⟩ else ⟨name, .aaaa⟩

theorem addressQuestions_cons {client : Address} {name : Text} {names : List Text} :
    addressQuestions client (name :: names)
      = if Domain.isHostName name then
          ⟨name, .ofFamily client.family⟩ :: addressQuestions client names
        else
          addressQuestions client names := by
  have question : (if client.family = .ip4 then ⟨name, .a⟩ else ⟨name, .aaaa⟩ : Dns.Question)
      = ⟨name, .ofFamily client.family⟩ := by
    cases client.family <;> rfl
  unfold addressQuestions
  by_cases isHost : Domain.isHostName name = true
  · rw [List.filter_cons_of_pos isHost, List.map_cons, question, if_pos isHost]
  · rw [List.filter_cons_of_neg isHost, if_neg isHost]

end SenderPolicy.Check

namespace SenderPolicy.Direct

open SenderPolicy.Check

/-! ## Walks -/

section
variable {α : Type} (decides : Text → Dns.Answer → Except Failure (Option α))

/-- An answer that a walk does not go beyond. -/
def isDecisive (heard : Heard) : Bool :=
  match decides heard.question.host heard.answer with
  | .ok none => false
  | _ => true

/-- The end of a walk by the answer that decides it. -/
def walkEnd (finish : α → State → State) (otherwise : α) (state : State) :
    Option Heard → Reaction
  | none => .proceed (finish otherwise state)
  | some heard =>
      match decides heard.question.host heard.answer with
      | .error failure => .fail state failure
      | .ok value => .proceed (finish (value.getD otherwise) state)

end

theorem make_address (name : Text) (family : Family) :
    Dns.Question.make name (.ofFamily family)
      = if Domain.isHostName name then .ok ⟨name, .ofFamily family⟩
        else .error (.notAHostName name) := by
  cases isHost : Domain.isHostName name <;>
    simp [Dns.Question.make, Dns.RecordType.needsHostName_ofFamily, isHost]

section
variable {setting : Setting} {α : Type} {decides : Text → Dns.Answer → Except Failure (Option α)}
  {finish : α → State → State} {otherwise : α} {awaiting : Text → List Text → Awaiting}
  {begin : List Text → State → Reaction} {state : State}
  (walks : Walks setting decides finish otherwise awaiting begin)
  (known : state.identity.client = some setting.client)
include walks known

/-- A walk asks about a host name next. -/
theorem Walks.begin_host {name : Text} (isHost : Domain.isHostName name = true)
    (names : List Text) :
    begin (name :: names) state
      = .ask state ⟨⟨name, .ofFamily setting.client.family⟩, awaiting name names⟩ := by
  rw [walks.begins _ state known, nextQuestion?, make_address, if_pos isHost]

/-- A walk passes over a name that no address question may be about. -/
theorem Walks.begin_other {name : Text} (noHost : ¬ Domain.isHostName name = true)
    (names : List Text) : begin (name :: names) state = begin names state := by
  rw [walks.begins _ state known, walks.begins _ state known, nextQuestion?, make_address,
    if_neg noHost]

/-- A walk asks about the names in order, up to the first answer that decides. -/
theorem Walks.leadsTo (resolver : Resolver) (asked : List Dns.Question) (names : List Text) :
    (begin names state).LeadsTo setting.environment resolver asked
      ((upTo (isDecisive decides)
        (hearing resolver asked (addressQuestions setting.client names))).map Heard.question)
      (walkEnd decides finish otherwise state
        ((hearing resolver asked (addressQuestions setting.client names)).find?
          (isDecisive decides))) := by
  induction names generalizing asked with
  | nil =>
      rw [walks.begins [] state known]
      exact Reaction.leadsTo_proceed _
  | cons name names inductionHypothesis =>
      by_cases isHost : Domain.isHostName name = true
      · rw [walks.begin_host known isHost, addressQuestions_cons, if_pos isHost, hearing, upTo,
          List.find?_cons]
        generalize asks : (⟨name, .ofFamily setting.client.family⟩ : Dns.Question) = question
        have about : question.host = name := by rw [← asks]
        have received := walks.receives name names (resolver asked question) state known
        cases decision : decides name (resolver asked question) with
        | error failure =>
            rw [decision] at received
            simp only [isDecisive, about, decision, walkEnd]
            exact .answered (received ▸ Reaction.leadsTo_fail state failure)
        | ok value =>
            rw [decision] at received
            cases value with
            | none =>
                simp only [isDecisive, about, decision]
                exact .answered (received ▸ inductionHypothesis (asked ++ [question]))
            | some value =>
                simp only [isDecisive, about, decision, walkEnd]
                exact .answered (received ▸ Reaction.leadsTo_proceed (finish value state))
      · rw [walks.begin_other known isHost, addressQuestions_cons, if_neg isHost]
        exact inductionHypothesis asked

end

end SenderPolicy.Direct
