import SenderPolicy.Check.Retrieval

/-!
# Where a domain's record comes from

The rules by which a domain obtains its record, from the overrides, the DNS, a guess or the
fallbacks, with the questions that are asked on the way. They speak of no stage and of no record
at hand, and `Obtains.unique` shows that they leave no choice.
-/

namespace SenderPolicy.Check

/-- What an answer holds: an answer that has come holds at most one text that announces a
record. -/
inductive Holds (domain : Text) : Dns.Answer → Except Failure (Option Text) → Prop where
  | unanswered {note : Text} :
      Holds domain (.timeout note) (.error (.recordUnanswered domain))
  | nothing {texts : List Text} (empty : texts.filter Record.announcesVersion = []) :
      Holds domain (.records texts) (.ok none)
  | one {texts : List Text} {text : Text} (only : texts.filter Record.announcesVersion = [text]) :
      Holds domain (.records texts) (.ok (some text))
  | several {texts : List Text} (many : 2 ≤ (texts.filter Record.announcesVersion).length) :
      Holds domain (.records texts) (.error .severalRecords)

/-- The search for a published record: strictly, both kinds of records are asked for and must
agree, otherwise the second kind only if the first has none. -/
inductive Searches (zone : Dns.Question → Dns.Answer) (domain : Text) :
    Bool → List Dns.Question → Except Failure (Option Text) → Prop where
  | unusable {strict : Bool} {failure : Failure}
      (spf : Holds domain (zone ⟨domain, .spf⟩) (.error failure)) :
      Searches zone domain strict [⟨domain, .spf⟩] (.error failure)
  | first {text : Text} (spf : Holds domain (zone ⟨domain, .spf⟩) (.ok (some text))) :
      Searches zone domain false [⟨domain, .spf⟩] (.ok (some text))
  | second {outcome : Except Failure (Option Text)}
      (spf : Holds domain (zone ⟨domain, .spf⟩) (.ok none))
      (txt : Holds domain (zone ⟨domain, .txt⟩) outcome) :
      Searches zone domain false [⟨domain, .spf⟩, ⟨domain, .txt⟩] outcome
  | strictUnusable {found : Option Text} {failure : Failure}
      (spf : Holds domain (zone ⟨domain, .spf⟩) (.ok found))
      (txt : Holds domain (zone ⟨domain, .txt⟩) (.error failure)) :
      Searches zone domain true [⟨domain, .spf⟩, ⟨domain, .txt⟩] (.error failure)
  | strictDiffering {one other : Text}
      (spf : Holds domain (zone ⟨domain, .spf⟩) (.ok (some one)))
      (txt : Holds domain (zone ⟨domain, .txt⟩) (.ok (some other))) (differ : one ≠ other) :
      Searches zone domain true [⟨domain, .spf⟩, ⟨domain, .txt⟩] (.error .recordsDiffer)
  | strictAgreeing {one other : Option Text}
      (spf : Holds domain (zone ⟨domain, .spf⟩) (.ok one))
      (txt : Holds domain (zone ⟨domain, .txt⟩) (.ok other))
      (agree : one = none ∨ other = none ∨ one = other) :
      Searches zone domain true [⟨domain, .spf⟩, ⟨domain, .txt⟩] (.ok (one <|> other))

/-- The text that a local source has for a domain. -/
def localText (source : Option RecordSource) (domain : Text) : Option Text :=
  source.bind fun records => records domain

/-- How a domain obtains its record, and the questions that are asked for it. -/
inductive Obtains (options : Options) (zone : Dns.Question → Dns.Answer) (domain : Text) :
    List Dns.Question → Except Failure Record → Prop where
  | unreadable {text : Text} {failure : Failure}
      (own : localText options.overrides domain = some text)
      (reads : Record.read text = .error failure) : Obtains options zone domain [] (.error failure)
  | unqualified
      (readable : ∀ text, localText options.overrides domain = some text →
        ∃ record, Record.read text = .ok record)
      (short : Domain.isFullyQualified domain = false) :
      Obtains options zone domain [] (.error (.notFullyQualified domain))
  | override {text : Text} {record : Record}
      (own : localText options.overrides domain = some text)
      (reads : Record.read text = .ok record) (qualified : Domain.isFullyQualified domain = true) :
      Obtains options zone domain [] (.ok record)
  | unusable {questions : List Dns.Question} {failure : Failure}
      (own : localText options.overrides domain = none)
      (qualified : Domain.isFullyQualified domain = true)
      (searches : Searches zone domain options.strict questions (.error failure)) :
      Obtains options zone domain questions (.error failure)
  | published {questions : List Dns.Question} {text : Text}
      (own : localText options.overrides domain = none)
      (qualified : Domain.isFullyQualified domain = true)
      (searches : Searches zone domain options.strict questions (.ok (some text))) :
      Obtains options zone domain questions (Record.read text)
  | guess {questions : List Dns.Question}
      (own : localText options.overrides domain = none)
      (qualified : Domain.isFullyQualified domain = true)
      (searches : Searches zone domain options.strict questions (.ok none))
      (guesses : options.bestGuess = true) :
      Obtains options zone domain questions (Record.read guessedRecord)
  | fallback {questions : List Dns.Question} {text : Text}
      (own : localText options.overrides domain = none)
      (qualified : Domain.isFullyQualified domain = true)
      (searches : Searches zone domain options.strict questions (.ok none))
      (guesses : options.bestGuess = false)
      (spare : localText options.fallbacks domain = some text) :
      Obtains options zone domain questions (Record.read text)
  | nothing {questions : List Dns.Question}
      (own : localText options.overrides domain = none)
      (qualified : Domain.isFullyQualified domain = true)
      (searches : Searches zone domain options.strict questions (.ok none))
      (guesses : options.bestGuess = false)
      (spare : localText options.fallbacks domain = none) :
      Obtains options zone domain questions (.error (.noRecordFound domain))

section
variable {domain : Text} {zone : Dns.Question → Dns.Answer}

/-- What an answer holds is what is published in it. -/
theorem holds_iff {answer : Dns.Answer} {outcome : Except Failure (Option Text)} :
    Holds domain answer outcome ↔ outcome = match answer with
      | .timeout _ => .error (.recordUnanswered domain)
      | .records texts => publishedRecord texts := by
  constructor
  · rintro (_ | empty | only | many)
    · rfl
    · simp only [publishedRecord, empty]
    · simp only [publishedRecord, only]
    · rename_i texts
      match found : texts.filter Record.announcesVersion with
      | [] => simp [found] at many
      | [text] => simp [found] at many
      | _ :: _ :: _ => simp only [publishedRecord, found]
  · rintro rfl
    cases answer with
    | timeout note => exact .unanswered
    | records texts =>
        simp only [publishedRecord]
        split
        · exact .nothing ‹_›
        · exact .one ‹_›
        · rename_i notNone notOne
          refine .several ?_
          match found : texts.filter Record.announcesVersion with
          | [] => exact absurd found notNone
          | [text] => exact absurd found (notOne text)
          | _ :: _ :: _ => simp

theorem Holds.unique {answer : Dns.Answer} {outcome other : Except Failure (Option Text)}
    (one : Holds domain answer outcome) (two : Holds domain answer other) : outcome = other :=
  (holds_iff.mp one).trans (holds_iff.mp two).symm

/-- An answer holds something. -/
theorem exists_holds (domain : Text) (answer : Dns.Answer) :
    ∃ outcome, Holds domain answer outcome :=
  ⟨_, holds_iff.mpr rfl⟩

theorem Searches.unique {strict : Bool} {questions others : List Dns.Question}
    {outcome other : Except Failure (Option Text)}
    (one : Searches zone domain strict questions outcome)
    (two : Searches zone domain strict others other) : questions = others ∧ outcome = other := by
  cases one <;> cases two <;> grind [Holds.unique]

theorem Obtains.unique {options : Options} {questions others : List Dns.Question}
    {outcome other : Except Failure Record} (one : Obtains options zone domain questions outcome)
    (two : Obtains options zone domain others other) : questions = others ∧ outcome = other := by
  cases one <;> cases two <;> grind [Searches.unique]

end

end SenderPolicy.Check
