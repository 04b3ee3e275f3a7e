import SenderPolicy.Proofs.Address.Reading
import SenderPolicy.Proofs.Check.Likeness.Runs

/-!
# How the client's address is written

An address can be written in many ways, and an IPv4 address as a mapped one besides. A check keeps
the text for its header and reads the address from it for everything else, so the way in which the
address is written shows in the header and nowhere else. There are no two ways of writing an IPv4
address once a mapped one has been brought into octets.
-/

namespace SenderPolicy.Check

/-- An identity whose client's address is written in another way. -/
theorem read_eq_of_spelling {first second : Text} {client : Address}
    (firstDenotes : (Address.read? first).map Address.unmapped = some client)
    (secondDenotes : (Address.read? second).map Address.unmapped = some client)
    (sender helo : Text) (conversion : Domain.Conversion) (timestamp : Nat) :
    let one := Identity.read first sender helo conversion timestamp
    let other := Identity.read second sender helo conversion timestamp
    other = { one with addressText := other.addressText } ∧ one.client = some client
      ∧ Address.IsLiteral one.addressText client ∧ Address.IsLiteral other.addressText client := by
  obtain ⟨kept, isKept, literal⟩ := Address.exists_clientText firstDenotes
  obtain ⟨otherKept, isOtherKept, otherLiteral⟩ := Address.exists_clientText secondDenotes
  have client := Address.read?_of_isLiteral literal
  have otherClient := Address.read?_of_isLiteral otherLiteral
  simp only [Identity.read, isKept, isOtherKept, Option.getD_some, Option.bind_some, client,
    otherClient]
  exact ⟨trivial, trivial, literal, otherLiteral⟩

/-- How the client's address is written shows in the header of a check and nowhere else, and of
an IPv4 address or one mapped into IPv6 it does not show at all. -/
theorem run_spellings (environment : Environment) (resolver : Resolver) {first second : Text}
    {client : Address} (firstDenotes : (Address.read? first).map Address.unmapped = some client)
    (secondDenotes : (Address.read? second).map Address.unmapped = some client)
    (sender helo : Text) (conversion : Domain.Conversion) (timestamp : Nat) :
    let one := Identity.read first sender helo conversion timestamp
    let other := Identity.read second sender helo conversion timestamp
    let report := run environment resolver one
    let otherReport := run environment resolver other
    report.outcome.code = otherReport.outcome.code
      ∧ report.outcome.explanation = otherReport.outcome.explanation
      ∧ report.questions = otherReport.questions
      ∧ other = { one with addressText := other.addressText }
      ∧ (∃ domain,
        report.outcome.headerText = headerValue report.outcome.code one domain
          ∧ otherReport.outcome.headerText = headerValue report.outcome.code other domain)
      ∧ (client.family = .ip4 → report.outcome.headerText = otherReport.outcome.headerText) := by
  intro one other report otherReport
  obtain ⟨differ, known, literal, otherLiteral⟩ :
      other = { one with addressText := other.addressText } ∧ one.client = some client
        ∧ Address.IsLiteral one.addressText client
        ∧ Address.IsLiteral other.addressText client :=
    read_eq_of_spelling firstDenotes secondDenotes sender helo conversion timestamp
  have readable : ∀ {text}, Address.IsLiteral text client →
      Address.standardText text = client.text := by
    intro text isLiteral
    rw [Address.standardText, Address.read?_of_isLiteral isLiteral]
  have identities : Likeness.exact.AlikeIdentities one other := by
    rw [differ]
    refine ⟨rfl, rfl, rfl, rfl, rfl, ?_, ?_, rfl⟩
    · simp only [Identity.addressLabels, known]
    · exact (readable literal).trans (readable otherLiteral).symm
  obtain ⟨⟨code, explanation, domain, told, otherTold⟩, questions⟩ :
      (∃ code explanation domain,
        report.outcome = ⟨code, explanation, headerValue code one domain⟩
          ∧ otherReport.outcome = ⟨code, explanation, headerValue code other domain⟩)
        ∧ report.questions = otherReport.questions :=
    Likeness.run_exact (fun _ question => Likeness.exact_answers_refl _ _) identities
  rw [told, otherTold]
  refine ⟨rfl, rfl, questions, differ, ⟨domain, rfl, rfl⟩, fun family => ?_⟩
  have same : other = one := by
    rw [differ, otherLiteral.eq_text family, ← literal.eq_text family]
  rw [same]

/-- A domain whose record looks for the client's address in a name. -/
def listing (question : Dns.Question) : Dns.Answer :=
  if question = ⟨"example.com".toList, .txt⟩ then
    .records ["v=spf1 exists:%\x7bir\x7d.%\x7bv\x7d.example.org -all".toList]
  else
    .records []

/-- A mapped address with a blank in front of it, and its dotted form. -/
theorem run_spellings_mapped :
    let client : Address := ⟨.ip4, [203, 0, 113, 1], rfl, by decide⟩
    let mapped := " ::FFFF:203.0.113.1".toList
    let dotted := "203.0.113.1".toList
    let report := fun text =>
      run {} (fun _ => listing)
        (Identity.read text "user@example.com".toList "mail.example.net".toList)
    (Address.read? mapped).map Address.unmapped = some client
      ∧ (Address.read? dotted).map Address.unmapped = some client
      ∧ client.family = .ip4
      ∧ (report mapped).outcome.code = .fail
      ∧ (report mapped).questions
        = [⟨"example.com".toList, .spf⟩, ⟨"example.com".toList, .txt⟩,
          ⟨"1.113.0.203.in-addr.example.org".toList, .a⟩]
      ∧ (report mapped).outcome.headerText = (report dotted).outcome.headerText := by
  intro client mapped dotted report
  have mappedDenotes : (Address.read? mapped).map Address.unmapped = some client := by
    decide +kernel
  have dottedDenotes : (Address.read? dotted).map Address.unmapped = some client := by
    decide +kernel
  obtain ⟨code, _, questions, _, _, headers⟩ := run_spellings {} (fun _ => listing) mappedDenotes
    dottedDenotes "user@example.com".toList "mail.example.net".toList Domain.asciiForm? 0
  refine ⟨mappedDenotes, dottedDenotes, rfl, ?_, ?_, headers rfl⟩
  · exact code.trans (@code_of_lastWithin {} listing _ 60 _ (by decide +kernel))
  · exact questions.trans (@questions_of_visitedWithin {} listing _ 60 _ (by decide +kernel))

end SenderPolicy.Check
