import SenderPolicy.Proofs.Check.Correspondence
import SenderPolicy.Proofs.Check.Forwarder.Divergence
import SenderPolicy.Proofs.Check.Stack.Silence

/-!
# What admitting forwarders does to a check

Two checks of one identity under one zone differ in nothing but whether well-known forwarders
are admitted. If the plain one neither fails the client nor is neutral, the other is the same in
all that is reported and asked. If it does, the other keeps this result, passes, or ends in an
error.
-/

namespace SenderPolicy

/-- The environment in which well-known forwarders are admitted, or are not. -/
def Check.Environment.admitting (environment : Check.Environment) (allowed : Bool) :
    Check.Environment :=
  { environment with options := { environment.options with trustedForwarder := allowed } }

namespace Direct

open Check
open Evaluation

/-! ## Reports of evaluations -/

section
variable (setting : Setting)

/-- What a check reports of an evaluation that needs no explanation. -/
def outcomeOf (outcome : Except Failure Finding) : Outcome where
  code := codeOf (outcome.map Finding.verdict)
  explanation := []
  headerText := headerValue (codeOf (outcome.map Finding.verdict)) setting.identity
    (placeOf setting.identity.domain outcome)

/-- The header of an error names no domain. -/
theorem headerValue_of_isError {failure : Failure} (isError : failure.IsError)
    (identity : Identity) (domain other : Text) :
    headerValue failure.code identity domain = headerValue failure.code identity other := by
  have comments : comment failure.code domain identity.addressText
      = comment failure.code other identity.addressText := by
    rcases isError with code | code <;> rw [code] <;> rfl
  rw [headerValue, comments, headerValue]

/-- The header names the place of a verdict. A check without one is still at the sender's domain
if that has no record, and otherwise its header names no domain. -/
theorem Reflects.headerText {levels : Nat} {state : State}
    (reflects : Reflects setting (evaluated setting levels) state)
    (uncounted : state.depth = 0 → state.domain = setting.identity.domain)
    (other : codeOf ((evaluated setting levels).1.map Finding.verdict) ≠ .neutral) :
    headerValue (codeOf ((evaluated setting levels).1.map Finding.verdict)) setting.identity
        state.domain
      = (outcomeOf setting (evaluated setting levels).1).headerText := by
  have depth := reflects.depth
  have place := reflects.place
  have counted {failure : Failure} {after : Ledger}
      (ended : evaluated setting levels = (.error failure, after)) (none : failure.code = .none) :
      after.lookups = 0 :=
    lookups_of_none setting ended none
  unfold outcomeOf
  generalize evaluated setting levels = ended at other depth place counted ⊢
  obtain ⟨failure | found, after⟩ := ended
  · change failure.code ≠ .neutral at other
    simp only [Except.map, codeOf, placeOf]
    rcases failure.isError_or with isError | code | code
    · exact headerValue_of_isError isError ..
    · rw [uncounted (depth.trans (counted rfl code))]
    · exact absurd code other
  · have decided : found.verdict ≠ some .neutral := by
      intro neutral
      simp [codeOf, Except.map, neutral, Qualifier.result] at other
    simp only [placeOf, place found rfl decided]

/-- A check has the result of its evaluation. Unless this is a fail or neutral, the check reports
and asks nothing else. -/
theorem run_eq_evaluated {levels : Nat} (enough : lookupLimit < levels) :
    let report := run setting.environment (fun _ => setting.zone) setting.identity
    let ended := evaluated setting levels
    report.outcome.code = codeOf (ended.1.map Finding.verdict)
      ∧ (report.outcome.code ∉ [.fail, .neutral] →
        report.outcome = outcomeOf setting ended.1 ∧ report.questions = ended.2.questions) := by
  obtain ⟨left, last, steps, tasks, asked, reflects⟩ := leads_evaluated setting enough
  obtain ⟨passed, ends⟩ := steps.eq_visited tasks []
  have reported : (run setting.environment (fun _ => setting.zone) setting.identity).outcome
      = Outcome.ofState last := by
    rw [ends]
    rfl
  have code : (Outcome.ofState last).code
      = codeOf ((evaluated setting levels).1.map Finding.verdict) := by
    simp only [Outcome.ofState, reflects.result]
    rfl
  dsimp only
  rw [reported, code]
  refine ⟨rfl, fun other => ?_⟩
  simp only [List.mem_cons, List.not_mem_nil, or_false, not_or] at other
  have known : setting.identity.client.isSome := by simp [setting.known]
  have unfailed : last.result ≠ some .fail := by
    rw [reflects.result]
    simpa using other.1
  obtain ⟨unexplained, silent⟩ := unexplained_of_result known steps tasks unfailed
  constructor
  · have header := reflects.headerText setting (domain_of_uncounted steps tasks) other.2
    simp only [Outcome.ofState, reflects.result, unexplained, reflects.identity,
      Option.getD_some, Option.getD_none, header]
    rfl
  · rw [questions_run, ← passed, ← asked, policyQuestions,
      List.filter_eq_self.mpr fun position member => by simp [silent position member]]

end

/-! ## Two environments -/

section
variable (setting : Setting)

/-- The setting in which well-known forwarders are admitted, or are not. -/
def Setting.admitting (allowed : Bool) : Setting :=
  { setting with environment := setting.environment.admitting allowed }

theorem completed_admitting_false :
    completed (setting.admitting false) = fun _ record => record := by
  funext domain record
  simp [completed, Setting.admitting, Environment.admitting]

theorem completed_admitting_true : completed (setting.admitting true) = admitted setting := by
  funext domain record
  simp [completed, Setting.admitting, Environment.admitting, admitted]

section
variable {setting} (allowed : Bool)

theorem walk_admitting {α : Type} (decides : Text → Dns.Answer → Except Failure (Option α))
    (otherwise : α) (names : List Text) :
    walk (setting.admitting allowed) decides otherwise names
      = walk setting decides otherwise names := by
  induction names with
  | nil => rfl
  | cons name names inductionHypothesis =>
      unfold walk
      rw [inductionHypothesis]
      rfl

theorem expandSpec_admitting (domain spec : Text) :
    expandSpec (setting.admitting allowed) domain spec = expandSpec setting domain spec := by
  have learns : learnClientDomain (setting.admitting allowed) = learnClientDomain setting := by
    unfold learnClientDomain
    simp only [walk_admitting]
    rfl
  unfold expandSpec
  rw [learns]
  rfl

theorem termHost_admitting (domain : Text) (spec : Option Text) :
    termHost (setting.admitting allowed) domain spec = termHost setting domain spec := by
  unfold termHost
  simp only [expandSpec_admitting]

theorem mechanismMatches_admitting (nested : Text → Evaluation (Option Qualifier)) (domain : Text)
    (mechanism : Mechanism) :
    mechanismMatches (setting.admitting allowed) nested domain mechanism
      = mechanismMatches setting nested domain mechanism := by
  cases mechanism with
  | mx spec lengths =>
      simp only [mechanismMatches, termHost_admitting, matchesExchanger, walk_admitting]
      rfl
  | ptr spec =>
      simp only [mechanismMatches, termHost_admitting, isWithin, walk_admitting]
      rfl
  | all => rfl
  | network network => rfl
  | «include» spec => simp only [mechanismMatches, termHost_admitting]
  | a spec lengths =>
      simp only [mechanismMatches, termHost_admitting]
      rfl
  | «exists» spec =>
      simp only [mechanismMatches, termHost_admitting]
      rfl

theorem tryDirectives_admitting (nested : Text → Evaluation (Option Qualifier)) (domain : Text)
    (directives : List Directive) :
    tryDirectives (setting.admitting allowed) nested domain directives
      = tryDirectives setting nested domain directives := by
  induction directives with
  | nil => rfl
  | cons directive directives inductionHypothesis =>
      simp only [tryDirectives, mechanismMatches_admitting, inductionHypothesis]

theorem findRecord_admitting (nested : Text → Evaluation Finding) (domain : Text)
    (record : Record) :
    findRecord (setting.admitting allowed) nested domain record
      = findRecord setting nested domain record := by
  have redirect (spec : Option Text) :
      findRedirect (setting.admitting allowed) nested domain spec
        = findRedirect setting nested domain spec := by
    cases spec with
    | none => rfl
    | some spec => simp only [findRedirect, termHost_admitting]
  simp only [findRecord, tryDirectives_admitting, redirect]

/-- Apart from the records that it completes, an evaluation does not depend on whether
forwarders are admitted. -/
theorem locate_admitting (complete : Text → Record → Record) (levels : Nat) :
    locate (setting.admitting allowed) complete levels = locate setting complete levels := by
  induction levels with
  | zero => rfl
  | succ levels inductionHypothesis =>
      have obtains : obtainRecord (setting.admitting allowed) = obtainRecord setting := rfl
      funext domain
      simp only [locate, findDomain, inductionHypothesis, obtains, findRecord_admitting]

end

theorem evaluated_admitting_false (levels : Nat) :
    evaluated (setting.admitting false) levels
      = (locatePlain setting levels setting.identity.domain).runFrom {} := by
  rw [evaluated, completed_admitting_false, locate_admitting]
  rfl

theorem evaluated_admitting_true (levels : Nat) :
    evaluated (setting.admitting true) levels
      = (locateAdmitting setting levels setting.identity.domain).runFrom {} := by
  rw [evaluated, completed_admitting_true, locate_admitting]
  rfl

end

/-- Admitting forwarders changes nothing about a check that neither fails its client nor is
neutral: it reports and asks the same. Any other check keeps its result, passes, or ends in an
error. -/
theorem run_admitting (environment : Environment) (zone : Dns.Question → Dns.Answer)
    (identity : Identity) :
    let plain := run (environment.admitting false) (fun _ => zone) identity
    let admitting := run (environment.admitting true) (fun _ => zone) identity
    (plain.outcome.code ∉ [.fail, .neutral] →
        admitting.outcome = plain.outcome ∧ admitting.questions = plain.questions)
      ∧ (plain.outcome.code ∈ [.fail, .neutral] →
        admitting.outcome.code ∈ [plain.outcome.code, .pass, .permError, .tempError]) := by
  intro plain admitting
  rcases known : identity.client with _ | client
  · obtain ⟨outcome, questions⟩ :=
      run_of_noClient (environment.admitting false) (fun _ => zone) known
    obtain ⟨outcome', questions'⟩ :=
      run_of_noClient (environment.admitting true) (fun _ => zone) known
    have same : admitting.outcome = plain.outcome := outcome'.trans outcome.symm
    refine ⟨fun _ => ⟨same, questions'.trans questions.symm⟩, fun _ => ?_⟩
    simp [same]
  · let setting : Setting := ⟨environment, zone, identity, client, known⟩
    have enough : lookupLimit < lookupLimit + 1 := Nat.lt_succ_self _
    obtain ⟨code, reports⟩ := run_eq_evaluated (setting.admitting false) enough
    obtain ⟨code', reports'⟩ := run_eq_evaluated (setting.admitting true) enough
    rw [evaluated_admitting_false] at code reports
    rw [evaluated_admitting_true] at code' reports'
    change plain.outcome.code = _ at code
    change admitting.outcome.code = _ at code'
    rcases locateAdmitting_start setting (lookupLimit + 1) with
      same | ⟨qualifier, turnsAway, decided, codes⟩
    · rw [same, ← code] at code'
      refine ⟨fun other => ?_, fun _ => by simp [code']⟩
      obtain ⟨outcome, questions⟩ := reports other
      obtain ⟨outcome', questions'⟩ := reports' (code'.symm ▸ other)
      rw [same] at outcome' questions'
      exact ⟨outcome'.trans outcome.symm, questions'.trans questions.symm⟩
    · have ends : plain.outcome.code = qualifier.result := by
        rw [code, decided]
        rfl
      refine ⟨fun other => absurd ?_ other, fun _ => ?_⟩
      · rcases turnsAway with rfl | rfl <;> simp [ends, Qualifier.result]
      · rw [ends, code']
        exact codes

/-- A client of the forwarder that the sender's own record turns away. -/
def relayed : Setting where
  environment := {}
  zone question :=
    if question = ⟨"a.example".toList, .spf⟩ then
      .records ["v=spf1 -all".toList]
    else if question = ⟨forwarderHost, .spf⟩ then
      .records ["v=spf1 ip4:198.51.100.0/24 -all".toList]
    else
      .records []
  identity := Identity.read "198.51.100.7".toList "x@a.example".toList "a.example".toList
  client := ⟨.ip4, [198, 51, 100, 7], rfl, by decide⟩
  known := by decide +kernel

example : (check (relayed.admitting false) 11).1 = .fail
    ∧ (check (relayed.admitting true) 11).1 = .pass := by
  decide +kernel

end Direct

end SenderPolicy
