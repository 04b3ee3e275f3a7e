import SenderPolicy.Proofs.Check.Likeness.Runs

/-!
# The order of records

The records of an answer come in any order, which may be another one for every question. Only mail
exchangers and host names are tried one after the other. Of all other records the order does not
count: two resolvers whose answers differ in nothing else lead a check to the same outcome by the
same questions.
-/

namespace SenderPolicy

/-- The answers to a question for records of a type have the same records, in the same order if
they are mail exchangers or host names. -/
inductive Dns.Answer.IsReordering (type : Dns.RecordType) : Dns.Answer → Dns.Answer → Prop where
  | timeout (note : Text) : IsReordering type (.timeout note) (.timeout note)
  | records {one other} (same : one.Perm other) (ordered : type = .mx ∨ type = .ptr → one = other) :
      IsReordering type (.records one) (.records other)

namespace Check

theorem alikeAnswers_of_isReordering {type : Dns.RecordType} {answer other : Dns.Answer}
    (reordering : answer.IsReordering type other) :
    Likeness.exact.AlikeAnswers type answer other := by
  cases reordering with
  | timeout note => exact .timeout note note
  | records same ordered =>
      refine .records same (fun keeps => ordered ?_) fun _ _ _ => trivial
      cases type <;> first | exact .inl rfl | exact .inr rfl | cases keeps

/-- The order of the records in answers other than those to questions for mail exchangers and host
names changes neither what a check reports nor what it asks. -/
theorem run_reordered {environment : Environment} {resolver other : Resolver}
    (reordered : ∀ asked question,
      (resolver asked question).IsReordering question.type (other asked question))
    (identity : Identity) :
    (run environment resolver identity).outcome = (run environment other identity).outcome
      ∧ (run environment resolver identity).questions
        = (run environment other identity).questions := by
  obtain ⟨⟨code, explanation, domain, first, second⟩, questions⟩ := Likeness.run_exact
    (fun asked question => alikeAnswers_of_isReordering (reordered asked question))
    (⟨rfl, rfl, rfl, rfl, rfl, rfl, rfl, rfl⟩ : Likeness.exact.AlikeIdentities identity identity)
  exact ⟨first.trans second.symm, questions⟩

/-- An answer with its records in the opposite order, where that does not count. -/
def turned (type : Dns.RecordType) : Dns.Answer → Dns.Answer
  | .timeout note => .timeout note
  | .records records =>
      .records (if type = .mx ∨ type = .ptr then records else records.reverse)

theorem isReordering_turned (type : Dns.RecordType) (answer : Dns.Answer) :
    answer.IsReordering type (turned type answer) := by
  cases answer with
  | timeout note => exact .timeout note
  | records records =>
      simp only [turned]
      split
      · exact .records (.refl _) fun _ => rfl
      · rename_i other
        exact .records (List.reverse_perm records).symm fun keeps => absurd keeps other

/-- A zone in which several records stand under one name, of each type that a check asks for. -/
def crowded (question : Dns.Question) : Dns.Answer :=
  if question = ⟨"example.com".toList, .txt⟩ then
    .records ["site=1".toList, "v=spf1 mx a:%\x7bp\x7d.example.org -all".toList]
  else if question = ⟨"example.com".toList, .mx⟩ then
    .records ["mx1.example.com.".toList, "mx2.example.com.".toList]
  else if question = ⟨"mx2.example.com".toList, .a⟩ then
    .records ["192.0.2.1".toList, "203.0.113.1".toList]
  else
    .records []

/-- The addresses of a mail exchanger are turned, and so are the texts of the domain. -/
theorem run_reordered_turned :
    let identity :=
      Identity.read "203.0.113.1".toList "user@example.com".toList "mail.example.net".toList
    let report := run {} (fun _ question => turned question.type (crowded question)) identity
    (∀ question, (crowded question).IsReordering question.type
        (turned question.type (crowded question)))
      ∧ report.outcome.code = .pass
      ∧ report.questions
        = [⟨"example.com".toList, .spf⟩, ⟨"example.com".toList, .txt⟩, ⟨"example.com".toList, .mx⟩,
          ⟨"mx1.example.com".toList, .a⟩, ⟨"mx2.example.com".toList, .a⟩] := by
  intro identity report
  have reordered : ∀ question, (crowded question).IsReordering question.type
      (turned question.type (crowded question)) := fun _ => isReordering_turned _ _
  obtain ⟨outcome, questions⟩ :=
    @run_reordered {} (fun _ => crowded) _ (fun _ => reordered) identity
  have passes : (run {} (fun _ => crowded) identity).outcome.code = .pass :=
    @code_of_lastWithin {} crowded identity 60 _ (by decide +kernel)
  refine ⟨reordered, outcome ▸ passes, ?_⟩
  rw [← questions]
  exact @questions_of_visitedWithin {} crowded identity 60 _ (by decide +kernel)

end Check

end SenderPolicy
