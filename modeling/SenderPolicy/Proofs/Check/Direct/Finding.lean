import SenderPolicy.Proofs.Check.Direct

/-!
# Where a verdict comes from

`locate` is the direct evaluation of a domain with one thing more: it tells the domain whose
record has given the verdict. A record is completed by a function that is left open, so that
evaluations which complete records differently can be compared. Without the place, and with the
setting's own completion, it is `checkHost`.
-/

namespace SenderPolicy.Direct

/-- A verdict, and the domain whose record has given it. -/
structure Finding where
  verdict : Option Qualifier
  place : Text

section
variable (setting : Setting) (complete : Text → Record → Record)
  (nested : Text → Evaluation Finding) (domain : Text)

/-- The place in which an evaluation of a host has ended. -/
def placeOf (host : Text) : Except Failure Finding → Text
  | .ok found => found.place
  | .error _ => host

/-- What the target of a redirect finds, if the record has one. -/
def findRedirect : Option Text → Evaluation Finding
  | none => pure ⟨none, domain⟩
  | some spec => do
      let host ← termHost setting domain (some spec)
      let found ← (nested host).attempt
      let verdict ← redirectVerdict (found.map Finding.verdict)
      pure ⟨verdict, placeOf host found⟩

/-- What a record finds. -/
def findRecord (record : Record) : Evaluation Finding := do
  match ← tryDirectives setting (fun host => Finding.verdict <$> nested host) domain
      record.directives with
  | some qualifier => pure ⟨some qualifier, domain⟩
  | none => do
      let found ← findRedirect setting nested domain (redirectOf? record.modifiers)
      pure ⟨defaultVerdict record found.verdict, found.place⟩

/-- What the record of a domain finds once it is completed. -/
def findDomain : Evaluation Finding := do
  let record ← obtainRecord setting domain
  findRecord setting nested domain (complete domain record)

end

/-- The verdict on the client by a domain's record, and its place. -/
def locate (setting : Setting) (complete : Text → Record → Record) :
    Nat → Text → Evaluation Finding
  | 0, _ => throw (.tooManyLookups Check.lookupLimit)
  | levels + 1, domain => findDomain setting complete (locate setting complete levels) domain

/-- The evaluation of the sender's domain in a check, with the ledger that it leaves. -/
def evaluated (setting : Setting) (levels : Nat) : Except Failure Finding × Ledger :=
  (locate setting (completed setting) levels setting.identity.domain).runFrom {}

/-! ## Findings without their places -/

theorem Evaluation.runFrom_map {α β : Type} (change : α → β) (evaluation : Evaluation α)
    (ledger : Ledger) :
    (change <$> evaluation).runFrom ledger
      = ((evaluation.runFrom ledger).1.map change, (evaluation.runFrom ledger).2) := by
  rw [map_eq_pure_bind, runFrom_bind]
  rcases evaluation.runFrom ledger with ⟨outcome, after⟩
  cases outcome <;> rfl

theorem Evaluation.attempt_map {α β : Type} (change : α → β) (evaluation : Evaluation α) :
    (change <$> evaluation).attempt
      = (fun outcome => outcome.map change) <$> evaluation.attempt := by
  funext ledger
  change runFrom ledger (attempt _) = runFrom ledger _
  rw [runFrom_attempt, runFrom_map, runFrom_map, runFrom_attempt]
  rfl

section
variable (setting : Setting) (nested : Text → Evaluation Finding) (domain : Text)

theorem tryRedirect_eq_map (spec : Option Text) :
    tryRedirect setting (fun host => Finding.verdict <$> nested host) domain spec
      = Finding.verdict <$> findRedirect setting nested domain spec := by
  cases spec with
  | none => rfl
  | some spec =>
      simp only [tryRedirect, findRedirect, Evaluation.attempt_map, map_bind, map_pure,
        bind_map_left, bind_pure]

theorem recordVerdict_eq_map (record : Record) :
    recordVerdict setting (fun host => Finding.verdict <$> nested host) domain record
      = Finding.verdict <$> findRecord setting nested domain record := by
  simp only [recordVerdict, findRecord, map_bind]
  congr 1
  funext verdict
  cases verdict with
  | some qualifier => rfl
  | none => simp only [tryRedirect_eq_map, map_bind, map_pure, bind_map_left]

end

/-- Without its place, a finding is the verdict of the direct evaluation. -/
theorem checkHost_eq_map (setting : Setting) (levels : Nat) (domain : Text) :
    checkHost setting levels domain
      = Finding.verdict <$> locate setting (completed setting) levels domain := by
  induction levels generalizing domain with
  | zero => rfl
  | succ levels inductionHypothesis =>
      have nested : checkHost setting levels
          = fun host => Finding.verdict <$> locate setting (completed setting) levels host :=
        funext inductionHypothesis
      simp only [checkHost, domainVerdict, locate, findDomain, nested, recordVerdict_eq_map,
        map_bind]

/-- The result and the questions of a check are those of its evaluation. -/
theorem check_eq (setting : Setting) (levels : Nat) :
    check setting levels
      = (codeOf ((evaluated setting levels).1.map Finding.verdict),
        (evaluated setting levels).2.questions) := by
  simp only [check, checkHost_eq_map, Evaluation.runFrom_map, evaluated]

end SenderPolicy.Direct
