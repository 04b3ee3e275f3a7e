import SenderPolicy.Proofs.Check.Direct.Failures
import SenderPolicy.Proofs.Check.Direct.Repetition

/-!
# Where admitting forwarders makes a difference

The evaluation that admits forwarders completes the records of the sender's domain, and is
otherwise the plain one. Below includes and redirects, the two part only where the plain one
evaluates the sender's domain to an end. But no evaluation of the sender's domain contains
another one to its end. So they part at most in front of the last directive of the record that
the check begins with, where the plain evaluation fails the client or is neutral.
-/

namespace SenderPolicy.Direct

open Evaluation

variable {α β : Type} (setting : Setting)

/-- The record as it is evaluated if forwarders are admitted. -/
def admitted (domain : Text) (record : Record) : Record :=
  if domain = setting.identity.domain ∧ domain ≠ Check.forwarderHost
      ∧ Check.endsStrict record then
    record.insertBeforeLast Check.forwarderDirective
  else
    record

/-- The evaluation that completes no record. -/
abbrev locatePlain : Nat → Text → Evaluation Finding :=
  locate setting fun _ record => record

/-- The evaluation that admits forwarders. -/
abbrev locateAdmitting : Nat → Text → Evaluation Finding :=
  locate setting (admitted setting)

/-! ## The sender's domain below itself -/

variable (levels : Nat)

/-- Below an include or a redirect, the sender's domain is evaluated to its end with no more
terms counted than these. -/
def Recurs (lookups : Nat) : Prop :=
  ∃ fewer ≤ levels, ∃ ledger found after, Informed setting ledger ∧ 0 < ledger.lookups
    ∧ (locatePlain setting fewer setting.identity.domain).runFrom ledger = (.ok found, after)
    ∧ after.lookups ≤ lookups

variable {setting levels}

theorem Recurs.mono {lookups more : Nat} (recurs : Recurs setting levels lookups)
    (le : lookups ≤ more) : Recurs setting levels more := by
  obtain ⟨fewer, few, ledger, found, after, informed, below, ends, within⟩ := recurs
  exact ⟨fewer, few, ledger, found, after, informed, below, ends, Nat.le_trans within le⟩

/-- An evaluation of the sender's domain contains no other one to its end. -/
theorem not_recurs {outcome : Except Failure Finding} {after : Ledger}
    (ends : (locatePlain setting levels setting.identity.domain).runFrom {} = (outcome, after)) :
    ¬ Recurs setting levels after.lookups := by
  rintro ⟨fewer, few, ledger, found, final, informed, below, again, within⟩
  rcases repeats_locate setting (fun _ record => record) few setting.identity.domain {} ledger
      Informed.start informed (Nat.zero_le _) with
    ⟨failure, last, fails, -⟩ | ⟨same, first, last, begins, repeated, -, -, sum⟩
  · exact absurd (again.symm.trans fails) (by simp)
  · cases ends.symm.trans begins
    cases again.symm.trans repeated
    simp only at sum
    omega

/-! ## Evaluations that part only where the sender's domain recurs -/

variable (setting levels) in
/-- Once so many terms have been counted, two evaluations are the same unless the sender's
domain recurs in the first. -/
def Agrees (counted : Nat) (plain admitting : Evaluation α) : Prop :=
  ∀ ledger, Informed setting ledger → counted ≤ ledger.lookups →
    ∃ outcome after, plain.runFrom ledger = (outcome, after) ∧ Informed setting after
      ∧ ledger.lookups ≤ after.lookups
      ∧ (admitting.runFrom ledger = (outcome, after) ∨ Recurs setting levels after.lookups)

theorem comparison_agrees : Comparison setting fun counted _ => Agrees setting levels counted where
  steady := by
    rintro _ _ _ ⟨outcome, runs⟩ ledger informed _
    obtain ⟨after, ends, counted, informs⟩ := runs ledger informed
    exact ⟨outcome, after, ends, informs, Nat.le_of_eq counted.symm, .inl ends⟩
  bind := by
    intro _ _ _ plain admitting next next' same continues ledger informed counted
    obtain ⟨outcome, after, ends, informs, more, agrees⟩ := same ledger informed counted
    simp only [runFrom_bind, ends]
    cases outcome with
    | error failure =>
        refine ⟨_, after, rfl, informs, more, agrees.imp_left fun same => ?_⟩
        rw [same]
    | ok value =>
        obtain ⟨outcome, final, ends, knows, most, agree⟩ :=
          continues value after informs (Nat.le_trans counted more)
        refine ⟨outcome, final, ends, knows, Nat.le_trans more most, ?_⟩
        rcases agrees with same | recurs
        · rw [same]
          exact agree
        · exact .inr (recurs.mono most)
  count := by
    intro _ _ next next' continues ledger informed counted
    simp only [runFrom_bind, runFrom_count]
    by_cases exceeded : Check.lookupLimit < ledger.lookups + 1
    · rw [if_pos exceeded]
      exact ⟨_, _, rfl, informed, Nat.le_succ _, .inl rfl⟩
    · rw [if_neg exceeded]
      obtain ⟨outcome, after, ends, informs, more, agrees⟩ :=
        continues { ledger with lookups := ledger.lookups + 1 } informed (Nat.succ_le_succ counted)
      exact ⟨outcome, after, ends, informs, Nat.le_of_succ_le more, agrees⟩
  handle := by
    intro _ _ _ plain admitting next same steady _ ledger informed counted
    obtain ⟨outcome, after, ends, informs, more, agrees⟩ := same ledger informed counted
    obtain ⟨handled, runs⟩ := steady outcome
    obtain ⟨last, goes, kept, knows⟩ := runs after informs
    simp only [runFrom_bind, runFrom_attempt, ends, goes]
    refine ⟨handled, last, rfl, knows, Nat.le_trans more (Nat.le_of_eq kept.symm), ?_⟩
    rcases agrees with same | recurs
    · left
      rw [same]
      exact goes
    · exact .inr (recurs.mono (Nat.le_of_eq kept.symm))

/-! ## Records with a strict ending -/

theorem tryDirectives_append (nested : Text → Evaluation (Option Qualifier)) (domain : Text)
    (directives more : List Directive) :
    tryDirectives setting nested domain (directives ++ more)
      = tryDirectives setting nested domain directives >>= fun verdict =>
          match verdict with
          | some qualifier => pure (some qualifier)
          | none => tryDirectives setting nested domain more := by
  induction directives with
  | nil => simp [tryDirectives]
  | cons directive directives inductionHypothesis =>
      simp only [List.cons_append, tryDirectives, bind_assoc]
      congr 1
      funext matched
      cases matched with
      | true => simp
      | false => simpa using inductionHypothesis

/-- A strict ending is a last directive that decides for every client. -/
theorem directives_of_endsStrict {record : Record} (strict : Check.endsStrict record = true) :
    ∃ front qualifier, (qualifier = .fail ∨ qualifier = .neutral)
      ∧ record.directives = front ++ [⟨qualifier, .all⟩]
      ∧ (record.insertBeforeLast Check.forwarderDirective).directives
        = front ++ [Check.forwarderDirective, ⟨qualifier, .all⟩] := by
  unfold Check.endsStrict at strict
  split at strict
  · rename_i last ends
    obtain ⟨front, stands⟩ := List.getLast?_eq_some_iff.mp ends
    obtain ⟨qualifier, mechanism⟩ := last
    simp only [Bool.and_eq_true, decide_eq_true_eq, Bool.or_eq_true] at strict
    obtain ⟨rfl, turnsAway⟩ := strict
    refine ⟨front, qualifier, turnsAway, stands, ?_⟩
    simp [Record.insertBeforeLast, stands]
  · cases strict

/-- What the directives before a strict ending leave to it. -/
def endStrictly (qualifier : Qualifier) (domain : Text) (verdict : Option Qualifier) : Finding :=
  ⟨some (verdict.getD qualifier), domain⟩

/-- A strict ending decides what the directives before it do not. -/
theorem findRecord_strict {nested : Text → Evaluation Finding} {domain : Text} {record : Record}
    {directives : List Directive} {qualifier : Qualifier}
    (ends : record.directives = directives ++ [⟨qualifier, .all⟩]) :
    findRecord setting nested domain record
      = endStrictly qualifier domain
        <$> tryDirectives setting (fun host => Finding.verdict <$> nested host) domain
          directives := by
  unfold findRecord
  rw [ends, tryDirectives_append, bind_assoc, map_eq_pure_bind]
  congr 1
  funext verdict
  cases verdict <;> simp [tryDirectives, mechanismMatches, endStrictly]

/-- Well-known forwarders pass; for all others, a strict ending decides. -/
def passForwarder (setting : Setting) (nested : Text → Evaluation Finding) (domain : Text)
    (qualifier : Qualifier) : Evaluation Finding := do
  let matched ← mechanismMatches setting (fun host => Finding.verdict <$> nested host) domain
    (.include Check.forwarderHost)
  pure ⟨some (if matched then .pass else qualifier), domain⟩

/-- With the forwarder's directive in front of it, a strict ending decides only for those that
are not forwarders. -/
theorem findRecord_forwarder {nested : Text → Evaluation Finding} {domain : Text}
    {record : Record} {directives : List Directive} {qualifier : Qualifier}
    (ends : record.directives = directives ++ [Check.forwarderDirective, ⟨qualifier, .all⟩]) :
    findRecord setting nested domain record
      = tryDirectives setting (fun host => Finding.verdict <$> nested host) domain directives
        >>= fun verdict =>
          match verdict with
          | some qualifier => pure ⟨some qualifier, domain⟩
          | none => passForwarder setting nested domain qualifier := by
  unfold findRecord
  rw [ends, tryDirectives_append, bind_assoc]
  congr 1
  funext verdict
  cases verdict with
  | some qualifier => simp
  | none =>
      simp only [tryDirectives, Check.forwarderDirective, passForwarder, bind_assoc]
      congr 1
      funext matched
      cases matched <;> simp [mechanismMatches]

/-! ## Where two evaluations part -/

/-- The evaluations of a domain are the same, the sender's domain recurs, or they part in front
of the strict ending of the sender's record. -/
theorem findDomain_parts {counted : Nat} {nested nested' : Text → Evaluation Finding}
    (deeper : ∀ host, Agrees setting levels (counted + 1) (nested host) (nested' host))
    (domain : Text) {ledger : Ledger} (informed : Informed setting ledger)
    (above : counted ≤ ledger.lookups) :
    ∃ outcome after,
      (findDomain setting (fun _ record => record) nested domain).runFrom ledger = (outcome, after)
        ∧ Informed setting after ∧ ledger.lookups ≤ after.lookups
        ∧ ((findDomain setting (admitted setting) nested' domain).runFrom ledger = (outcome, after)
          ∨ Recurs setting levels after.lookups
          ∨ ∃ qualifier, (qualifier = .fail ∨ qualifier = .neutral)
            ∧ domain = setting.identity.domain ∧ outcome = .ok ⟨some qualifier, domain⟩
            ∧ (findDomain setting (admitted setting) nested' domain).runFrom ledger
              = (passForwarder setting nested' domain qualifier).runFrom after) := by
  obtain ⟨obtained, runs⟩ : Steady setting (obtainRecord setting domain) :=
    (asks_obtainRecord setting domain).steady
  obtain ⟨first, reads, kept, known⟩ := runs ledger informed
  simp only [findDomain, runFrom_bind, reads]
  cases obtained with
  | error failure => exact ⟨_, first, rfl, known, Nat.le_of_eq kept.symm, .inl rfl⟩
  | ok record =>
      dsimp only
      unfold admitted
      split
      · rename_i rewritten
        obtain ⟨front, qualifier, turnsAway, stands, inserted⟩ :=
          directives_of_endsStrict rewritten.2.2
        obtain ⟨outcome, after, ends, informs, more, agrees⟩ :=
          comparison_agrees.tryDirectives
            (fun host => comparison_agrees.map Finding.verdict (deeper host)) domain front first
            known (kept ▸ above)
        rw [findRecord_strict stands, findRecord_forwarder inserted, runFrom_map, runFrom_bind,
          ends]
        refine ⟨_, after, rfl, informs, kept ▸ more, ?_⟩
        rcases agrees with same | recurs
        · rw [same]
          rcases outcome with failure | (_ | decided)
          · exact .inl rfl
          · exact .inr (.inr ⟨qualifier, turnsAway, rewritten.1, rfl, rfl⟩)
          · exact .inl rfl
        · exact .inr (.inl recurs)
      · obtain ⟨outcome, after, ends, informs, more, agrees⟩ :=
          comparison_agrees.findRecord counted deeper domain record first known (kept ▸ above)
        exact ⟨outcome, after, ends, informs, kept ▸ more, agrees.imp_right .inl⟩

/-- Below includes and redirects, the evaluations part only if the sender's domain recurs. -/
theorem agrees_locate {fewer : Nat} (few : fewer ≤ levels) {counted : Nat} (below : 0 < counted)
    (domain : Text) :
    Agrees setting levels counted (locatePlain setting fewer domain)
      (locateAdmitting setting fewer domain) := by
  induction fewer generalizing counted domain with
  | zero => exact fun ledger informed _ => ⟨_, ledger, rfl, informed, Nat.le_refl _, .inl rfl⟩
  | succ fewer inductionHypothesis =>
      intro ledger informed above
      obtain ⟨outcome, after, ends, informs, more, parts⟩ := findDomain_parts
        (fun host => inductionHypothesis (Nat.le_of_succ_le few) (Nat.succ_pos counted) host)
        domain informed above
      refine ⟨outcome, after, ends, informs, more, ?_⟩
      rcases parts with same | recurs | ⟨qualifier, -, rfl, rfl, -⟩
      · exact .inl same
      · exact .inr recurs
      · exact .inr ⟨fewer + 1, few, ledger, _, after, informed,
          Nat.lt_of_lt_of_le below above, ends, Nat.le_refl _⟩

/-- Where well-known forwarders pass, a check ends in a pass, in the strict ending, or in an
error. -/
theorem code_of_passForwarder (nested : Text → Evaluation Finding) (domain : Text)
    (qualifier : Qualifier) (ledger : Ledger) :
    codeOf (((passForwarder setting nested domain qualifier).runFrom ledger).1.map Finding.verdict)
      ∈ [qualifier.result, .pass, .permError, .tempError] := by
  unfold passForwarder
  rw [runFrom_bind]
  rcases tried : (mechanismMatches setting _ domain _).runFrom ledger with
    ⟨failure | matched, after⟩
  · rcases errs_mechanismMatches setting _ domain _ _ _ _ tried with code | code <;>
      simp [codeOf, Except.map, code]
  · cases matched <;> simp [codeOf, Except.map, Qualifier.result]

/-! ## Whole evaluations -/

/-- Admitting forwarders changes nothing, or the plain evaluation ends at the strict ending of
the sender's record and admitting forwarders can make of it a pass or an error. -/
theorem locateAdmitting_start (setting : Setting) (levels : Nat) :
    let plain := (locatePlain setting levels setting.identity.domain).runFrom {}
    let admitting := (locateAdmitting setting levels setting.identity.domain).runFrom {}
    admitting = plain
      ∨ ∃ qualifier, (qualifier = .fail ∨ qualifier = .neutral)
        ∧ plain.1 = .ok ⟨some qualifier, setting.identity.domain⟩
        ∧ codeOf (admitting.1.map Finding.verdict)
          ∈ [qualifier.result, .pass, .permError, .tempError] := by
  cases levels with
  | zero => exact .inl rfl
  | succ levels =>
      obtain ⟨outcome, after, ends, -, -, parts⟩ := findDomain_parts
        (fun host => agrees_locate (Nat.le_succ levels) Nat.one_pos host)
        setting.identity.domain Informed.start (Nat.le_refl 0)
      have plain : (locatePlain setting (levels + 1) setting.identity.domain).runFrom {}
          = (outcome, after) := ends
      dsimp only
      rw [plain]
      rcases parts with same | recurs | ⟨qualifier, turnsAway, -, decided, admits⟩
      · exact .inl same
      · exact absurd recurs (not_recurs plain)
      · refine .inr ⟨qualifier, turnsAway, decided, ?_⟩
        have parting : (locateAdmitting setting (levels + 1) setting.identity.domain).runFrom {}
            = _ := admits
        rw [parting]
        exact code_of_passForwarder ..

end SenderPolicy.Direct
