import SenderPolicy.Proofs.Check.Realization.Terms

/-!
# Directives and redirects carry out their evaluation

An include and a redirect put the evaluation of another domain on the stack, above a catcher.
`Nests` says that this evaluation is carried out, whatever stands below it. From this
follow the mechanisms, the search for the first directive that matches, and the redirect.
-/

namespace SenderPolicy.Direct

open SenderPolicy.Check
open Evaluation

variable (setting : Setting)

/-- The state in which the evaluation of a domain ends. An explanation may have looked up
the client's domain, but then the result is decided and nothing asks for it any more. -/
structure Ended (level : Level) (verdict : Option Qualifier) (ledger : Ledger)
    (state : State) : Prop where
  counted : level.depth ≤ ledger.lookups
  identity : state.identity = setting.identity
  result : state.result = none
  depth : state.depth = ledger.lookups
  clientDomain :
    state.clientDomain = ledger.clientDomain ∨ (verdict = some .fail ∧ level.muted = false)
  muted : state.muted = level.muted
  verdict : state.verdict = verdict

/-- The domains at a depth are evaluated, whatever stands below them on the stack. -/
def Nests (depth : Nat) (nested : Text → Evaluation (Option Qualifier)) : Prop :=
  ∀ {below : List Task} {host : Text} {muted : Bool} {ledger : Ledger} {state : State},
    .guardExplanation ∉ below → ledger.lookups ≤ lookupLimit →
    state.tasks = .evaluateDomain :: below →
    Stands setting ⟨depth, muted⟩ ledger host none state →
    Realizes setting ⟨depth, muted⟩ below (Ended setting ⟨depth, muted⟩) (.running state)
      (nested host) ledger

/-- The state in which an evaluation ends with a finding. A neutral verdict may come of a failure
that is handled elsewhere; any other is given where the evaluation ends. -/
structure Located (level : Level) (found : Finding) (ledger : Ledger) (state : State) : Prop
    extends Ended setting level found.verdict ledger state where
  place : found.verdict ≠ some .neutral → state.domain = found.place

/-- The domains at a depth are evaluated with their places, whatever stands below them. -/
def Finds (depth : Nat) (nested : Text → Evaluation Finding) : Prop :=
  ∀ {below : List Task} {host : Text} {muted : Bool} {ledger : Ledger} {state : State},
    .guardExplanation ∉ below → ledger.lookups ≤ lookupLimit →
    state.tasks = .evaluateDomain :: below →
    Stands setting ⟨depth, muted⟩ ledger host none state →
    Realizes setting ⟨depth, muted⟩ below (Located setting ⟨depth, muted⟩) (.running state)
      (nested host) ledger

/-- Findings are verdicts if the places are left out. -/
theorem Finds.nests {setting : Setting} {depth : Nat} {nested : Text → Evaluation Finding}
    (finds : Finds setting depth nested) :
    Nests setting depth fun host => Finding.verdict <$> nested host := by
  intro below host muted ledger state unguarded within tasks stands
  exact (finds unguarded within tasks stands).map fun _ _ _ located => located.toEnded

section
variable {setting : Setting} {level : Level} {β : Type} {below : List Task}
  {done : β → Ledger → State → Prop} {ledger : Ledger} {state : State} {domain : Text}
  {nested : Text → Evaluation (Option Qualifier)}

/-! ## Includes -/

/-- An include is carried out if the evaluation of its domain is. -/
theorem realizes_include {next : Bool → Evaluation β}
    (nests : Nests setting (level.depth + 1) nested) (host : Text) (clear : Clear state.tasks below)
    (stands : Stands setting level ledger domain none state)
    (deeper : level.depth < ledger.lookups) (within : ledger.lookups ≤ lookupLimit)
    (continues : MatchContinues setting level below done state.tasks domain next) :
    Realizes setting level below done (.running (enterInclude host state))
      (((nested host).attempt >>= includeMatches) >>= next) ledger := by
  have unguarded : Task.guardExplanation
      ∉ Task.leaveInclude ⟨state.domain, state.verdict, state.muted⟩ :: state.tasks := by
    simpa using clear.guardExplanation_notMem
  have entered : Stands setting ⟨level.depth + 1, true⟩ ledger host none
      (enterInclude host state) :=
    ⟨⟨deeper, stands.identity, stands.result, stands.depth, stands.clientDomain, rfl⟩, rfl, rfl⟩
  obtain ⟨left, last, steps, asked, outcome⟩ := nests unguarded within rfl entered
  rw [bind_assoc]
  apply Realizes.seq (runFrom_attempt ledger (nested host)) steps asked
  generalize (nested host).runFrom ledger = evaluated at outcome ⊢
  obtain ⟨result, after⟩ := evaluated
  cases result with
  | ok verdict =>
      obtain ⟨tasks, ended⟩ := outcome
      have known : last.clientDomain = after.clientDomain := by
        rcases ended.clientDomain with same | ⟨-, heard⟩
        · exact same
        · contradiction
      apply realizes_run tasks
      simp only [includeMatches, pure_bind]
      apply continues _ after (leaveInclude ⟨state.domain, state.verdict, state.muted⟩
        { last with tasks := state.tasks }) rfl
      · exact ⟨⟨Nat.le_of_succ_le ended.counted, ended.identity, ended.result, ended.depth, known,
          stands.muted⟩, stands.domain, stands.verdict⟩
      · simp only [leaveInclude, ended.verdict]
  | error failure =>
      obtain ⟨failed, rfl, carries⟩ := outcome
      have restored : Stands setting level after domain none
          (Frame.restore ⟨state.domain, state.verdict, state.muted⟩
            { failed with tasks := state.tasks }) :=
        ⟨⟨Nat.le_of_succ_le carries.counted, carries.identity, carries.result, carries.depth,
          carries.clientDomain, stands.muted⟩, stands.domain, stands.verdict⟩
      simp only [unwind, handle, includeMatches]
      cases failure.code with
      | none => exact continues false after _ rfl (restored.update _ _ _ _) rfl
      | neutral => exact continues false after _ rfl (restored.update _ _ _ _) rfl
      | pass | fail | softFail | permError | tempError =>
          exact realizes_fail (runFrom_throw after failure) rfl clear restored.toCarries

/-! ## Mechanisms -/

/-- A mechanism that asks the DNS is carried out if it is from its host on. -/
theorem realizes_askingMechanism {mechanism : Mechanism} {answered : Text → Evaluation Bool}
    {next : Bool → Evaluation β} (react : Text → State → Reaction)
    (asks : mechanism.asksDns) (clear : Clear state.tasks below)
    (stands : Stands setting level ledger domain none state)
    (continued : ∀ (after : State) host, after.identity.client = some setting.client →
      after.targetHost setting.environment mechanism.domain? = .ok host →
      continueMechanism setting.environment mechanism after = react host after)
    (reacts : ∀ host later after, after.tasks = state.tasks → level.depth < later.lookups →
      later.lookups ≤ lookupLimit → Stands setting level later domain none after →
      Realizes setting level below done (react host after).settle.position
        (answered host >>= next) later) :
    Realizes setting level below done
      (beginMechanism setting.environment state mechanism).settle.position
      ((termHost setting domain mechanism.domain? >>= answered) >>= next) ledger := by
  rw [beginMechanism_of_asksDns asks, bind_assoc]
  apply realizes_termHost rfl clear stands
  intro after later stack deeper within stands
  have popped : Stands setting level later domain none { after with tasks := state.tasks } :=
    stands.update _ _ _ _
  apply realizes_targetHost (fun host => react host { after with tasks := state.tasks })
    stack _ clear popped.toCarries
  · intro host
    exact reacts host later _ rfl deeper within popped
  · cases found : after.targetHost setting.environment mechanism.domain? with
    | error failure =>
        have missing : ({ after with tasks := state.tasks } : State).targetHost
            setting.environment mechanism.domain? = .error failure := found
        simp only [runTask, continueMechanism, missing]
    | ok host => exact continued { after with tasks := state.tasks } host popped.client found

/-- The turns of a mechanism carry it out. -/
theorem realizes_mechanismMatches {next : Bool → Evaluation β}
    (nests : Nests setting (level.depth + 1) nested) (mechanism : Mechanism)
    (clear : Clear state.tasks below) (stands : Stands setting level ledger domain none state)
    (continues : MatchContinues setting level below done state.tasks domain next) :
    Realizes setting level below done
      (beginMechanism setting.environment state mechanism).settle.position
      (mechanismMatches setting nested domain mechanism >>= next) ledger := by
  cases mechanism with
  | all => exact realizes_setMatched true stands continues
  | network network =>
      simp only [beginMechanism, stands.client]
      exact realizes_setMatched _ stands continues
  | «include» spec =>
      apply realizes_askingMechanism (fun host state => .proceed (enterInclude host state)) rfl
        clear stands
      · intro after host known found
        simp only [continueMechanism, found]
      · intro host later after tasks deeper within stands
        exact realizes_include nests host (tasks ▸ clear) stands deeper within (tasks ▸ continues)
  | a spec lengths =>
      apply realizes_askingMechanism (fun host => compareHost setting.client host lengths) rfl
        clear stands
      · intro after host known found
        simp only [continueMechanism, found, known]
      · intro host later after tasks deeper within stands
        exact realizes_matchesHost lengths host (tasks ▸ clear) stands (tasks ▸ continues)
  | mx spec lengths =>
      apply realizes_askingMechanism (fun host => askHost host .mx (.exchangers lengths)) rfl
        clear stands
      · intro after host known found
        simp only [continueMechanism, found]
      · intro host later after tasks deeper within stands
        exact realizes_matchesExchanger lengths host (tasks ▸ clear) stands (tasks ▸ continues)
  | ptr spec =>
      apply realizes_askingMechanism
        (fun host state =>
          .ask state ⟨⟨setting.client.reverseName, .ptr⟩, .hostNames host⟩)
        rfl clear stands
      · intro after host known found
        simp only [continueMechanism, found, known]
      · intro host later after tasks deeper within stands
        exact realizes_isWithin host (tasks ▸ clear) stands (tasks ▸ continues)
  | «exists» spec =>
      apply realizes_askingMechanism (fun host => askHost host .a .existence) rfl clear stands
      · intro after host known found
        simp only [continueMechanism, found]
      · intro host later after tasks deeper within stands
        exact realizes_hasAddress host (tasks ▸ clear) stands (tasks ▸ continues)

/-! ## Directives -/

/-- Once a verdict is there, the remaining directives are skipped. -/
theorem realizes_skipDirectives {evaluation : Evaluation β} {qualifier : Qualifier}
    {rest : List Task} (directives : List Directive)
    (tasks : state.tasks = directives.map Task.directive ++ rest)
    (stands : Stands setting level ledger domain (some qualifier) state)
    (continues : ∀ after : State, after.tasks = rest →
      Stands setting level ledger domain (some qualifier) after →
      Realizes setting level below done (.running after) evaluation ledger) :
    Realizes setting level below done (.running state) evaluation ledger := by
  induction directives generalizing state with
  | nil => exact continues state tasks stands
  | cons directive directives inductionHypothesis =>
      rw [List.map_cons, List.cons_append] at tasks
      apply realizes_run tasks
      have decided : ({ state with tasks := directives.map Task.directive ++ rest }
          : State).isOpen = false := by
        simp [State.isOpen, stands.verdict]
      simp only [runTask, decided]
      exact inductionHypothesis rfl (stands.update _ _ _ _)

/-- The turns of the directives find the first one that matches. -/
theorem realizes_tryDirectives {next : Option Qualifier → Evaluation β} {rest : List Task}
    (nests : Nests setting (level.depth + 1) nested) (directives : List Directive)
    (clear : Clear rest below) (tasks : state.tasks = directives.map Task.directive ++ rest)
    (stands : Stands setting level ledger domain none state)
    (continues : ∀ verdict later after, after.tasks = rest →
      Stands setting level later domain verdict after →
      Realizes setting level below done (.running after) (next verdict) later) :
    Realizes setting level below done (.running state)
      (tryDirectives setting nested domain directives >>= next) ledger := by
  induction directives generalizing state ledger with
  | nil => exact continues none ledger state tasks stands
  | cons directive directives inductionHypothesis =>
      have remaining : Clear (.settle directive.qualifier
          :: (directives.map Task.directive ++ rest)) below := by
        refine Clear.cons (clear.append ?_) rfl
        simp [isCatcher]
      have opened : ({ state with tasks := directives.map Task.directive ++ rest }
          : State).isOpen = true := by
        simp [State.isOpen, stands.verdict, stands.result]
      rw [List.map_cons, List.cons_append] at tasks
      apply realizes_run tasks
      simp only [runTask, opened]
      apply realizes_run rfl
      rw [tryDirectives, bind_assoc]
      apply realizes_mechanismMatches nests directive.mechanism remaining (stands.update _ _ _ _)
      intro matched later after stack stands found
      apply realizes_run stack
      simp only [runTask, found]
      cases matched with
      | true =>
          have decided : Stands setting level later domain (some directive.qualifier)
              { after with
                matched := none
                verdict := some directive.qualifier
                tasks := directives.map Task.directive ++ rest } :=
            ⟨⟨stands.counted, stands.identity, stands.result, stands.depth, stands.clientDomain,
                stands.muted⟩,
              stands.domain, rfl⟩
          exact realizes_skipDirectives directives rfl decided (continues _ later)
      | false => exact inductionHypothesis rfl (stands.update _ _ _ _)

/-! ## Redirects -/

/-- What follows a domain's redirect, for which only the stack and an explanation's finds may
differ from what the evaluation leaves. -/
def FindingContinues (setting : Setting) (level : Level) (below : List Task)
    (done : β → Ledger → State → Prop) (tasks : List Task)
    (next : Finding → Evaluation β) : Prop :=
  ∀ found later after, after.tasks = tasks → Located setting level found later after →
    Realizes setting level below done (.running after) (next found) later

/-- A domain's evaluation may end where it stands. -/
theorem Stands.ended {verdict : Option Qualifier}
    (stands : Stands setting level ledger domain verdict state) :
    Ended setting level verdict ledger state :=
  ⟨stands.counted, stands.identity, stands.result, stands.depth, .inl stands.clientDomain,
    stands.muted, stands.verdict⟩

/-- What has ended at a level below has ended at this one. -/
theorem Located.outer {found : Finding}
    (located : Located setting ⟨level.depth + 1, level.muted⟩ found ledger state)
    (tasks : List Task) :
    Located setting level found ledger { state with tasks } :=
  ⟨⟨Nat.le_of_succ_le located.counted, located.identity, located.result, located.depth,
    located.clientDomain, located.muted, located.verdict⟩, located.place⟩

/-- A redirect is carried out if the evaluation of its target is. -/
theorem realizes_redirect {nested : Text → Evaluation Finding} {next : Finding → Evaluation β}
    (finds : Finds setting (level.depth + 1) nested) (spec : Text) (clear : Clear state.tasks below)
    (stands : Stands setting level ledger domain none state)
    (continues : FindingContinues setting level below done state.tasks next) :
    Realizes setting level below done
      (beginModifier setting.environment state (.redirect spec)).settle.position
      (findRedirect setting nested domain (some spec) >>= next) ledger := by
  have opened : state.isOpen = true := by
    simp [State.isOpen, stands.verdict, stands.result]
  rw [beginModifier_redirect opened, findRedirect, bind_assoc]
  apply realizes_termHost rfl clear stands
  intro after ledger stack deeper within stands
  apply realizes_targetHost
    (fun host => .proceed { { after with tasks := state.tasks }.pushAll
      [.evaluateDomain, .leaveRedirect] with domain := host })
    stack rfl clear (stands.update _ _ _ _).toCarries
  intro host
  have entered : Stands setting ⟨level.depth + 1, level.muted⟩ ledger host none
      { { after with tasks := state.tasks }.pushAll
        [.evaluateDomain, .leaveRedirect] with domain := host } :=
    ⟨⟨deeper, stands.identity, stands.result, stands.depth, stands.clientDomain, stands.muted⟩,
      rfl, stands.verdict⟩
  have unguarded : Task.guardExplanation ∉ Task.leaveRedirect :: state.tasks := by
    simpa using clear.guardExplanation_notMem
  obtain ⟨left, last, steps, asked, outcome⟩ := finds unguarded within rfl entered
  rw [bind_assoc]
  apply Realizes.seq (runFrom_attempt ledger (nested host)) steps asked
  generalize (nested host).runFrom ledger = evaluated at outcome ⊢
  obtain ⟨result, later⟩ := evaluated
  cases result with
  | ok found =>
      obtain ⟨tasks, located⟩ := outcome
      apply realizes_run tasks
      exact continues found later _ rfl (located.outer state.tasks)
  | error failure =>
      obtain ⟨failed, rfl, carries⟩ := outcome
      have outer : Carries setting level later { failed with tasks := state.tasks } :=
        ⟨Nat.le_of_succ_le carries.counted, carries.identity, carries.result, carries.depth,
          carries.clientDomain, carries.muted⟩
      simp only [unwind, handle, redirectVerdict, Except.map]
      cases failure.code with
      | none =>
          rw [bind_assoc]
          exact realizes_fail (runFrom_throw later _) rfl clear outer
      | neutral =>
          apply continues ⟨some .neutral, host⟩ later
            { failed with verdict := some .neutral, tasks := state.tasks } rfl
          exact ⟨⟨outer.counted, outer.identity, outer.result, outer.depth,
            .inl outer.clientDomain, outer.muted, rfl⟩, absurd rfl⟩
      | pass | fail | softFail | permError | tempError =>
          rw [bind_assoc]
          exact realizes_fail (runFrom_throw later failure) rfl clear outer

end

end SenderPolicy.Direct
