import SenderPolicy.Proofs.Check.Direct.Comparison
import SenderPolicy.Proofs.Macro.Failures

/-!
# What the evaluation of a record fails with

Only obtaining a record can fail for want of one. From there on every failure is a permanent or
a temporary error: an include takes other failures for no match, and a redirect takes a missing
record for an error.
-/

namespace SenderPolicy

/-- The failure leads to a permanent or to a temporary error. -/
def Failure.IsError (failure : Failure) : Prop :=
  failure.code = .permError ∨ failure.code = .tempError

/-- Failures other than errors are for want of a record. -/
theorem Failure.isError_or (failure : Failure) :
    failure.IsError ∨ failure.code = .none ∨ failure.code = .neutral := by
  unfold IsError
  cases failure <;> simp [code]

namespace Direct

open Evaluation

variable {α β : Type}

/-- An evaluation fails only with an error. -/
def Errs (evaluation : Evaluation α) : Prop :=
  ∀ ledger failure after, evaluation.runFrom ledger = (.error failure, after) → failure.IsError

namespace Errs

theorem pure (value : α) : Errs (pure value) := by
  rintro _ _ _ ⟨⟩

theorem throw {failure : Failure} (isError : failure.IsError) :
    Errs (throw failure : Evaluation α) := by
  rintro _ _ _ ⟨⟩
  exact isError

theorem ofExcept {outcome : Except Failure α}
    (each : ∀ failure, outcome = .error failure → failure.IsError) :
    Errs (MonadExcept.ofExcept outcome : Evaluation α) := by
  cases outcome with
  | ok value => exact .pure value
  | error failure => exact .throw (each failure rfl)

theorem bind {evaluation : Evaluation α} {next : α → Evaluation β} (first : Errs evaluation)
    (later : ∀ value, Errs (next value)) : Errs (evaluation >>= next) := by
  intro ledger failure after fails
  rw [runFrom_bind] at fails
  rcases runs : evaluation.runFrom ledger with ⟨thrown | value, middle⟩
  · rw [runs] at fails
    cases fails
    exact first _ _ _ runs
  · rw [runs] at fails
    exact later _ _ _ _ fails

/-- A failure that is handled may be any. -/
theorem handle {evaluation : Evaluation α} {next : Except Failure α → Evaluation β}
    (each : ∀ outcome, Errs (next outcome)) : Errs (evaluation.attempt >>= next) :=
  Errs.bind (by rintro _ _ _ ⟨⟩) each

end Errs

section
variable (setting : Setting)

theorem errs_ask (question : Dns.Question) : Errs (ask setting question) := by
  rintro _ _ _ ⟨⟩

theorem errs_count : Errs count := by
  intro ledger failure after fails
  rw [runFrom_count] at fails
  split at fails
  · cases fails
    exact .inl rfl
  · cases fails

theorem errs_walk {decides : Text → Dns.Answer → Except Failure (Option α)}
    (each : ∀ name answer failure, decides name answer = .error failure → failure.IsError)
    (otherwise : α) (names : List Text) : Errs (walk setting decides otherwise names) := by
  induction names with
  | nil => exact .pure otherwise
  | cons name names inductionHypothesis =>
      unfold walk
      split
      · exact inductionHypothesis
      · refine (errs_ask setting _).bind fun answer => (Errs.ofExcept (each name answer)).bind ?_
        intro decided
        cases decided with
        | none => exact inductionHypothesis
        | some value => exact .pure value

theorem errs_recordsOf (answer : Dns.Answer) : Errs (recordsOf answer) := by
  cases answer with
  | records records => exact .pure records
  | timeout note => exact .throw (.inr rfl)

theorem errs_learnClientDomain : Errs (learnClientDomain setting) := by
  have learns (name : Text) : Errs (modify fun ledger : Ledger =>
      { ledger with clientDomain := some name } : Evaluation PUnit) := by
    rintro _ _ _ ⟨⟩
  refine (errs_ask setting _).bind fun answer => ?_
  cases answer with
  | timeout note => exact (Errs.pure _).bind learns
  | records names =>
      refine (errs_walk setting ?_ _ _).bind learns
      intro name answer failure fails
      cases answer <;> cases fails

theorem errs_hostOf (domain spec : Text) (clientDomain : Option Text) :
    Errs (hostOf spec (expandedUnder setting domain spec clientDomain)) := by
  rcases expanded : expandedUnder setting domain spec clientDomain with (failure | _) | host
  · exact .throw (.inl (Macro.code_of_expand_domain expanded))
  · exact .throw (.inl rfl)
  · exact .pure host

theorem errs_expandSpec (domain spec : Text) : Errs (expandSpec setting domain spec) := by
  intro ledger failure after fails
  by_cases missing : expandedUnder setting domain spec ledger.clientDomain
      = .error .clientDomainUnknown
  · rw [runFrom_expandSpec_learning missing] at fails
    refine ((errs_learnClientDomain setting).bind fun _ => ?_) _ _ _ fails
    exact fun later => errs_hostOf setting domain spec later.clientDomain later
  · rw [runFrom_expandSpec missing] at fails
    exact errs_hostOf setting domain spec _ _ _ _ fails

theorem errs_termHost (domain : Text) (spec : Option Text) :
    Errs (termHost setting domain spec) := by
  refine errs_count.bind fun _ => ?_
  cases spec with
  | none => exact .pure domain
  | some spec => exact errs_expandSpec setting domain spec

theorem errs_matchesHost (lengths : PrefixLengths) (host : Text) :
    Errs (matchesHost setting lengths host) := by
  unfold matchesHost
  split
  · exact .pure _
  · split
    · exact .pure false
    · exact (errs_ask setting _).bind fun answer => (errs_recordsOf answer).bind fun _ => .pure _

theorem errs_matchesExchanger (lengths : PrefixLengths) (host : Text) :
    Errs (matchesExchanger setting lengths host) := by
  unfold matchesExchanger
  split
  · exact .pure false
  · refine (errs_ask setting _).bind fun answer => (errs_recordsOf answer).bind fun hosts => ?_
    split
    · exact .throw (.inl rfl)
    · refine errs_walk setting ?_ _ _
      intro name answer failure fails
      cases answer <;> cases fails
      exact .inr rfl

theorem errs_isWithin (target : Text) : Errs (isWithin setting target) := by
  refine (errs_ask setting _).bind fun answer => ?_
  cases answer with
  | timeout note => exact .pure false
  | records names =>
      refine errs_walk setting ?_ _ _
      intro name answer failure fails
      cases answer <;> cases fails

theorem errs_hasAddress (host : Text) : Errs (hasAddress setting host) := by
  unfold hasAddress
  split
  · exact .pure false
  · exact (errs_ask setting _).bind fun answer => (errs_recordsOf answer).bind fun _ => .pure _

theorem errs_includeMatches (outcome : Except Failure (Option Qualifier)) :
    Errs (includeMatches outcome) := by
  cases outcome with
  | ok verdict => exact .pure _
  | error failure =>
      unfold includeMatches
      rcases failure.isError_or with (code | code) | code | code <;> simp only [code]
      · exact .throw (.inl code)
      · exact .throw (.inr code)
      · exact .pure false
      · exact .pure false

theorem errs_redirectVerdict (outcome : Except Failure (Option Qualifier)) :
    Errs (redirectVerdict outcome) := by
  cases outcome with
  | ok verdict => exact .pure _
  | error failure =>
      unfold redirectVerdict
      rcases failure.isError_or with (code | code) | code | code <;> simp only [code]
      · exact .throw (.inl code)
      · exact .throw (.inr code)
      · exact .throw (.inl rfl)
      · exact .pure _

section
variable (nested : Text → Evaluation (Option Qualifier)) (domain : Text)

theorem errs_mechanismMatches (mechanism : Mechanism) :
    Errs (mechanismMatches setting nested domain mechanism) := by
  cases mechanism with
  | all => exact .pure true
  | network network => exact .pure _
  | «include» spec =>
      exact (errs_termHost setting domain _).bind fun host => Errs.handle errs_includeMatches
  | a spec lengths => exact (errs_termHost setting domain _).bind (errs_matchesHost setting _)
  | mx spec lengths => exact (errs_termHost setting domain _).bind (errs_matchesExchanger setting _)
  | ptr spec => exact (errs_termHost setting domain _).bind (errs_isWithin setting)
  | «exists» spec => exact (errs_termHost setting domain _).bind (errs_hasAddress setting)

theorem errs_tryDirectives (directives : List Directive) :
    Errs (tryDirectives setting nested domain directives) := by
  induction directives with
  | nil => exact .pure none
  | cons directive directives inductionHypothesis =>
      refine (errs_mechanismMatches setting nested domain _).bind fun matched => ?_
      cases matched with
      | true => exact .pure _
      | false => exact inductionHypothesis

end

section
variable (nested : Text → Evaluation Finding) (domain : Text)

theorem errs_findRedirect (spec : Option Text) :
    Errs (findRedirect setting nested domain spec) := by
  cases spec with
  | none => exact .pure _
  | some spec =>
      refine (errs_termHost setting domain _).bind fun host => Errs.handle fun outcome => ?_
      exact (errs_redirectVerdict _).bind fun _ => .pure _

/-- A record that is there fails only with an error. -/
theorem errs_findRecord (record : Record) : Errs (findRecord setting nested domain record) := by
  refine (errs_tryDirectives setting _ domain _).bind fun verdict => ?_
  cases verdict with
  | some qualifier => exact .pure _
  | none => exact (errs_findRedirect setting nested domain _).bind fun _ => .pure _

end

/-- A domain without a record has counted no term. -/
theorem lookups_of_none {complete : Text → Record → Record} {levels : Nat} {domain : Text}
    {ledger after : Ledger} {failure : Failure}
    (fails : (locate setting complete levels domain).runFrom ledger = (.error failure, after))
    (none : failure.code = .none) : after.lookups = ledger.lookups := by
  cases levels with
  | zero => cases fails; rfl
  | succ levels =>
      obtain ⟨outcome, asked, runs⟩ := asks_obtainRecord setting domain
      simp only [locate, findDomain, runFrom_bind, runs] at fails
      cases outcome with
      | error failure => cases fails; rfl
      | ok record =>
          rcases errs_findRecord setting _ domain _ _ _ _ fails with code | code <;>
            simp [code] at none

end

end Direct

end SenderPolicy
