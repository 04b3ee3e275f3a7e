import SenderPolicy.Proofs.Check.Explanation.Choice

/-!
# What failing clients are told

The results of the theory of explanations for whole checks under a zone: that every fail is
explained where the built-in explanation is used, and by what; and what the redirects on the way to
the deciding record may add.
-/

namespace SenderPolicy.Check

/-- A finished check has its result. -/
theorem result_of_code {environment : Environment} {permitted : Dns.Question → Dns.Answer → Prop}
    {identity : Identity} {left : List Position} {last : State}
    (steps : Position.Steps environment permitted (.running (State.start identity)) left
      (.running last))
    (finished : last.tasks = []) : last.result = some (Outcome.ofState last).code := by
  rcases (shaped_start identity).steps steps with ⟨unfinished, _⟩ | ⟨_, decided⟩
  · exact absurd finished unfinished
  · obtain ⟨code, found⟩ := Option.isSome_iff_exists.mp decided
    have same : last.result = some code := found
    simp only [Outcome.ofState, same, Option.getD_some]

/-- Only a check that ends in a fail explains anything. With the built-in explanation every such
check does: a directive of a record has matched outside all includes, and the explanation is what an
`exp` of this record publishes, or else the built-in explanation, which is never empty. -/
theorem fail_is_explained (environment : Environment) (zone : Dns.Question → Dns.Answer)
    (identity : Identity) :
    let outcome := (run environment (fun _ => zone) identity).outcome
    let passed := visited environment (fun _ => zone) [] (.running (State.start identity))
    let last := (converse environment (fun _ => zone) [] (.running (State.start identity))).2
    (outcome.explanation ≠ [] → outcome.code = .fail)
      ∧ (environment.options.defaultExplanation = none → outcome.code = .fail →
        ∃ (before : List Position) (base outer : State) (record : Record) (specs : List Text)
            (after : List Position),
          passed = before ++ .running (base.push (.settle .fail)) :: after
            ∧ Decision environment before base outer record specs
            ∧ let values := fullValues environment zone identity base.domain
              last.explanation = some outcome.explanation
                ∧ outcome.explanation
                  = ((explanationSpecs record.modifiers).findSome?
                      (publishedExplanation environment.localNames zone values)).getD
                    (Macro.builtInText values)
                ∧ Macro.builtInText values ≠ []) := by
  intro outcome passed last
  obtain ⟨steps, finished⟩ := @visited_steps environment (fun _ => zone)
    (fun question answer => answer = zone question) (fun _ _ => rfl) []
    (.running (State.start identity))
  have result : last.result = some outcome.code := result_of_code steps finished
  constructor
  · intro explained
    cases known : identity.client with
    | none =>
        have silent : outcome.explanation = [] := by
          rw [show outcome = _ from (run_of_noClient environment (fun _ => zone) known).1]
        exact absurd silent explained
    | some client =>
        refine Decidable.byContradiction fun other => explained ?_
        have unlike : last.result ≠ some .fail := fun failed =>
          other (Option.some.inj (result.symm.trans failed))
        have silent : last.explanation = none :=
          (unexplained_of_result (by simp [known]) steps finished unlike).1
        show last.explanation.getD [] = []
        rw [silent]
        rfl
  · intro builtIn failed
    obtain ⟨before, base, outer, record, specs, after, row, decision⟩ :=
      exists_decision_of_result steps (result.trans (congrArg _ failed))
    refine ⟨before, base, outer, record, specs, after, row, decision, ?_⟩
    intro values
    have default : environment.options.explanation = Options.builtInExplanation := by
      rw [Options.explanation, builtIn, Option.getD_none]
    have told : last.explanation = some (((explanationSpecs record.modifiers).findSome?
        (publishedExplanation environment.localNames zone values)).getD
          (Macro.builtInText values)) := by
      rw [decision.explanation_eq steps finished row, recordExplanation, default,
        Macro.expand_builtInExplanation]
      cases (explanationSpecs record.modifiers).findSome?
        (publishedExplanation environment.localNames zone values) <;> rfl
    have same : outcome.explanation = last.explanation.getD [] := rfl
    rw [told, Option.getD_some] at same
    exact ⟨told.trans (congrArg _ same.symm), same, Macro.builtInText_ne_nil values⟩

/-- A sender's domain that leaves its record to another one, which fails all clients, and publishes
an explanation behind the redirect. -/
def redirecting (question : Dns.Question) : Dns.Answer :=
  if question = ⟨"example.com".toList, .txt⟩ then
    .records ["v=spf1 redirect=target.example.com exp=why.example.com".toList]
  else if question = ⟨"target.example.com".toList, .txt⟩ then
    .records ["v=spf1 -all".toList]
  else if question = ⟨"why.example.com".toList, .txt⟩ then
    .records ["Go away.".toList]
  else
    .records []

/-- The outcome of a check that ends within some turns. -/
theorem outcome_of_lastWithin {environment : Environment} {zone : Dns.Question → Dns.Answer}
    {identity : Identity} {turns : Nat} {code : ResultCode} {explanation : Text}
    (ended : (lastWithin environment zone turns (.running (State.start identity))).map
      (fun last => (last.result, last.explanation)) = some (some code, some explanation)) :
    let outcome := (run environment (fun _ => zone) identity).outcome
    outcome.code = code ∧ outcome.explanation = explanation := by
  obtain ⟨last, found, values⟩ := Option.map_eq_some_iff.mp ended
  obtain ⟨result, told⟩ := Prod.mk.inj values
  have same := eq_of_lastWithin found []
  simp only [run, Outcome.ofState, same, result, told, Option.getD_some, and_self]

/-- The built-in explanation comes before the one behind the redirect. -/
theorem fail_is_explained_redirected :
    let identity :=
      Identity.read "203.0.113.1".toList "user@example.com".toList "mail.example.net".toList
    let outcome := (run {} (fun _ => redirecting) identity).outcome
    outcome.code = .fail
      ∧ ∃ (before : List Position) (base outer : State) (record : Record) (specs : List Text),
        Decision {} before base outer record specs
          ∧ outcome.explanation
            = ((explanationSpecs record.modifiers).findSome?
                (publishedExplanation [] redirecting
                  (fullValues {} redirecting identity base.domain))).getD
              (Macro.builtInText (fullValues {} redirecting identity base.domain)) := by
  intro identity outcome
  have told : outcome.code = .fail ∧ outcome.explanation
      = "http://www.openspf.org/why.html?sender=user%40example.com&ip=203.0.113.1".toList :=
    @outcome_of_lastWithin {} redirecting identity 60 _ _ (by decide +kernel)
  obtain ⟨before, base, outer, record, specs, _, _, decision, _, explained, _⟩ :=
    (fail_is_explained {} redirecting identity).2 rfl told.1
  exact ⟨told.1, before, base, outer, record, specs, decision, explained⟩

/-- Before a redirect is followed nothing is explained. An `exp` is looked up only after a decision:
one of the deciding record, or one that stands behind a redirect on the way to it if the deciding
record leads to no explanation. So the explanation of a fail is the one that the deciding record
leads to, or else the first that is published behind the redirects, from the innermost one. -/
theorem explanations_behind_redirects (environment : Environment)
    (zone : Dns.Question → Dns.Answer) (identity : Identity) :
    let outcome := (run environment (fun _ => zone) identity).outcome
    let passed := visited environment (fun _ => zone) [] (.running (State.start identity))
    (∀ (before : List Position) (base : State) (spec : Text) (after : List Position),
        passed = before ++ .running (base.push (.followRedirect spec)) :: after →
        ∀ position ∈ before, position.isExplaining = false)
      ∧ (∀ (before : List Position) (state : State) (spec : Text) (after : List Position),
        passed = before ++ .running (state.push (.modifier (.exp spec))) :: after →
        state.wantsExplanation = true →
        ∃ (earlier : List Position) (base outer : State) (record : Record) (specs : List Text)
            (between : List Position),
          before = earlier ++ .running (base.push (.settle .fail)) :: between
            ∧ Decision environment earlier base outer record specs
            ∧ ((spec ∈ explanationSpecs record.modifiers ∧ outer.tasks <:+ state.tasks)
              ∨ (spec ∈ specs ∧ .modifier (.exp spec) :: state.tasks <:+ outer.tasks
                ∧ recordExplanation environment zone
                  (fullValues environment zone identity base.domain) record = none)))
      ∧ (outcome.code = .fail →
        ∃ (before : List Position) (base outer : State) (record : Record) (specs : List Text)
            (after : List Position),
          passed = before ++ .running (base.push (.settle .fail)) :: after
            ∧ Decision environment before base outer record specs
            ∧ let values := fullValues environment zone identity base.domain
              outcome.explanation
                = ((recordExplanation environment zone values record).or
                    (specs.findSome?
                      (publishedExplanation environment.localNames zone values))).getD []) := by
  intro outcome passed
  obtain ⟨steps, finished⟩ := @visited_steps environment (fun _ => zone)
    (fun question answer => answer = zone question) (fun _ _ => rfl) []
    (.running (State.start identity))
  refine ⟨?before, ?begins, ?ends⟩
  case before =>
    intro before base spec after row
    have here := steps.to_passed row
    rcases (silent_start (isSome_of_run here ⟨nofun, nofun⟩)).steps here with
      ⟨_, silent⟩ | ⟨_, failing⟩
    · exact silent
    · rcases failing.isEnding _ (List.mem_cons_self ..) with ending | explains <;> contradiction
  case begins =>
    intro before state spec after row wanted
    obtain ⟨earlier, base, outer, record, specs, between, ran, split, decision, whole, silent⟩ :=
      exists_decision_of_wanted (steps.to_passed row) rfl wanted
    exact ⟨earlier, base, outer, record, specs, between, split, decision,
      decision.stands whole silent⟩
  case ends =>
    intro failed
    have result : _ = some outcome.code := result_of_code steps finished
    obtain ⟨before, base, outer, record, specs, after, row, decision⟩ :=
      exists_decision_of_result steps (result.trans (congrArg _ failed))
    refine ⟨before, base, outer, record, specs, after, row, decision, ?_⟩
    intro values
    exact congrArg (Option.getD · []) (decision.explanation_eq steps finished row)

/-- Where the default explanation cannot be expanded, the one behind the redirect is told. -/
theorem explanations_behind_redirects_told :
    let environment : Environment :=
      { options := { defaultExplanation := some "%\x7bk\x7d".toList } }
    let identity :=
      Identity.read "203.0.113.1".toList "user@example.com".toList "mail.example.net".toList
    let outcome := (run environment (fun _ => redirecting) identity).outcome
    outcome.explanation = "Go away.".toList
      ∧ ∃ (before : List Position) (base outer : State) (record : Record) (specs : List Text),
        Decision environment before base outer record specs
          ∧ outcome.explanation
            = ((recordExplanation environment redirecting
                (fullValues environment redirecting identity base.domain) record).or
              (specs.findSome? (publishedExplanation environment.localNames redirecting
                (fullValues environment redirecting identity base.domain)))).getD [] := by
  intro environment identity outcome
  have told : outcome.code = .fail ∧ outcome.explanation = "Go away.".toList :=
    @outcome_of_lastWithin environment redirecting identity 60 _ _ (by decide +kernel)
  obtain ⟨before, base, outer, record, specs, _, _, decision, explained⟩ :=
    (explanations_behind_redirects environment redirecting identity).2.2 told.1
  exact ⟨told.2, before, base, outer, record, specs, decision, explained⟩

/-- After a redirect has been followed, the explanation of the redirecting record may be looked up
and told. -/
theorem explanation_of_redirecting_record :
    let environment : Environment :=
      { options := { defaultExplanation := some "%\x7bk\x7d".toList } }
    let identity :=
      Identity.read "203.0.113.1".toList "user@example.com".toList "mail.example.net".toList
    let report := run environment (fun _ => redirecting) identity
    report.questions
        = [⟨"example.com".toList, .spf⟩, ⟨"example.com".toList, .txt⟩,
          ⟨"target.example.com".toList, .spf⟩, ⟨"target.example.com".toList, .txt⟩,
          ⟨"why.example.com".toList, .txt⟩]
      ∧ report.outcome.code = .fail
      ∧ report.outcome.explanation = "Go away.".toList := by
  intro environment identity report
  have told : report.outcome.code = .fail ∧ report.outcome.explanation = "Go away.".toList :=
    @outcome_of_lastWithin environment redirecting identity 60 _ _ (by decide +kernel)
  have whole : visitedWithin environment redirecting 60 (.running (State.start identity))
      = visited environment (fun _ => redirecting) [] (.running (State.start identity)) :=
    (visitedWithin_begins environment redirecting 60 [] _).2 (by decide +kernel)
  refine ⟨?_, told⟩
  rw [questions_run, ← whole]
  decide +kernel

end SenderPolicy.Check
