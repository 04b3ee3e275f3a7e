import Mathlib.Data.List.TakeWhile
import SenderPolicy.Proofs.Record.Decision

/-!
# Which texts announce the version

`announcesVersion` chooses the records among the texts of an answer, and `read` turns down what
is no record. Both look at what follows the version, but the first clears only the start of a
text of blanks and the second both of its ends. So they part on one kind of text: the bare
version with a tail of blanks that does not begin with a space.
-/

namespace SenderPolicy

/-! ## Blanks at the end -/

namespace Text

/-- What is cut off the end of text are blanks. -/
theorem exists_trimEnd_append (text : Text) :
    ∃ tail : Text, text = text.trimEnd ++ tail ∧ ∀ c ∈ tail, isBlank c = true := by
  refine ⟨(text.reverse.takeWhile isBlank).reverse, ?_, ?_⟩
  · rw [trimEnd, dropEnd, ← List.reverse_append, List.takeWhile_append_dropWhile,
      List.reverse_reverse]
  · intro c member
    exact List.all_eq_true.mp List.all_takeWhile c (List.mem_reverse.mp member)

/-- Nothing is cut off in front of a character that is no blank. -/
theorem trimEnd_append_cons {front : Text} {c : Char} (ink : isBlank c = false) (back : Text) :
    (front ++ c :: back).trimEnd = front ++ c :: back.trimEnd := by
  rw [trimEnd, trimEnd, dropEnd, dropEnd, List.reverse_append, List.reverse_cons,
    List.append_assoc, List.dropWhile_append]
  split
  · rename_i nothing
    rw [List.isEmpty_iff.mp nothing]
    simp [ink]
  · simp

theorem trimEnd_eq_nil_iff {text : Text} :
    text.trimEnd = [] ↔ ∀ c ∈ text, isBlank c = true := by
  constructor
  · intro nothing
    obtain ⟨tail, parts, blank⟩ := exists_trimEnd_append text
    rw [nothing, List.nil_append] at parts
    exact parts ▸ blank
  · intro blank
    rw [trimEnd, dropEnd, List.reverse_eq_nil_iff, List.dropWhile_eq_nil_iff]
    exact fun c member => blank c (List.mem_reverse.mp member)

end Text

namespace Record

/-! ## What follows the version -/

/-- After blanks and the version in any letter case, this rest follows. -/
def Announces (text rest : Text) : Prop :=
  ∃ name, Text.lower name = version ∧ text.trimStart = name ++ rest

/-- The version leaves no choice of what follows it. -/
theorem Announces.unique {text rest other : Text} (announces : Announces text rest)
    (announcesOther : Announces text other) : rest = other := by
  obtain ⟨name, named, parts⟩ := announces
  obtain ⟨otherName, otherNamed, otherParts⟩ := announcesOther
  have lengths := congrArg List.length (named.trans otherNamed.symm)
  have count : name.length = otherName.length := by simpa [Text.lower] using lengths
  exact (List.append_inj (parts.symm.trans otherParts) count).2

/-- The version ends in no blank, so it is left whole when the end is cleared of blanks. -/
theorem Announces.trim {text rest : Text} (announces : Announces text rest) :
    ∃ name, Text.lower name = version ∧ text.trim = name ++ rest.trimEnd := by
  obtain ⟨name, named, parts⟩ := announces
  have isVersion : Text.lower name = "v=spf".toList ++ ['1'] := named
  obtain ⟨front, last, rfl, _, isLast⟩ := List.map_eq_append_iff.mp isVersion
  obtain ⟨c, rfl, lowered⟩ := List.map_eq_singleton_iff.mp isLast
  obtain rfl := eq_of_toLower lowered (by decide)
  refine ⟨front ++ ['1'], named, ?_⟩
  rw [Text.trim, parts, List.append_assoc, List.singleton_append,
    Text.trimEnd_append_cons (by decide), List.append_assoc, List.singleton_append]

theorem exists_announces_of_trim {text name more : Text} (named : Text.lower name = version)
    (parts : text.trim = name ++ more) :
    ∃ tail : Text, Announces text (more ++ tail) ∧ ∀ c ∈ tail, isBlank c = true := by
  obtain ⟨tail, whole, blank⟩ := Text.exists_trimEnd_append text.trimStart
  refine ⟨tail, ⟨name, named, ?_⟩, blank⟩
  rw [← List.append_assoc, ← parts]
  exact whole

/-! ## The two readers of the version -/

theorem announcesVersion_iff {text : Text} :
    announcesVersion text = true
      ↔ ∃ rest, Announces text rest ∧ (rest = [] ∨ rest.head? = some ' ') := by
  simp only [announcesVersion, Bool.or_eq_true, decide_eq_true_eq, List.isPrefixOf_iff_prefix,
    opening_prefix_lower_iff]
  constructor
  · rintro (named | ⟨name, rest, named, parts⟩)
    · exact ⟨[], ⟨_, named, (List.append_nil _).symm⟩, .inl rfl⟩
    · exact ⟨' ' :: rest, ⟨name, named, parts⟩, .inr rfl⟩
  · rintro ⟨rest, ⟨name, named, parts⟩, rfl | space⟩
    · rw [parts, List.append_nil]
      exact .inl named
    · obtain ⟨more, rfl⟩ := List.head?_eq_some_iff.mp space
      exact .inr ⟨name, more, named, parts⟩

/-- Reading tells by the beginning of a text that it is no record, or an empty one. -/
theorem failsWith_read_beginning {text : Text} :
    (FailsWith .none (read text) ↔ text.trim.lower ≠ version ∧ ¬ opening <+: text.trim.lower)
      ∧ (text.trim.lower = version → FailsWith .neutral (read text)) := by
  simp only [read]
  split
  · rename_i empty
    exact ⟨⟨fun failed => absurd (failsWith_error_iff.mp failed) (by decide),
      fun other => absurd empty other.1⟩, fun _ => failsWith_error_iff.mpr rfl⟩
  · rename_i some
    refine ⟨?_, fun empty => absurd empty some⟩
    split
    · rename_i opens
      have begun := List.isPrefixOf_iff_prefix.mp opens
      constructor
      · rintro ⟨failure, failed, code⟩
        have permanent := (onlyOfTerm_readTerms _ _ failure failed).code
        rw [permanent] at code
        cases code
      · exact fun other => absurd begun other.2
    · rename_i closed
      rw [List.isPrefixOf_iff_prefix] at closed
      exact ⟨fun _ => ⟨some, closed⟩, fun _ => failsWith_error_iff.mpr rfl⟩

/-- Reading takes a text for a record if only blanks follow the version, or a space does. -/
theorem not_failsWith_none_read_iff {text : Text} :
    ¬ FailsWith .none (read text)
      ↔ ∃ rest, Announces text rest
        ∧ ((∀ c ∈ rest, isBlank c = true) ∨ rest.head? = some ' ') := by
  rw [failsWith_read_beginning.1, not_and_or, not_not, not_not]
  constructor
  · rintro (named | opens)
    · obtain ⟨tail, announces, blank⟩ :=
        exists_announces_of_trim named (List.append_nil _).symm
      exact ⟨tail, announces, .inl blank⟩
    · obtain ⟨name, more, named, parts⟩ := opening_prefix_lower_iff.mp opens
      obtain ⟨tail, announces, _⟩ := exists_announces_of_trim named parts
      exact ⟨_, announces, .inr rfl⟩
  · rintro ⟨rest, announces, follows⟩
    obtain ⟨name, named, parts⟩ := announces.trim
    by_cases blank : rest.trimEnd = []
    · rw [parts, blank, List.append_nil]
      exact .inl named
    · have space : rest.head? = some ' ' :=
        follows.resolve_left fun all => blank (Text.trimEnd_eq_nil_iff.mpr all)
      obtain ⟨tail, whole, _⟩ := Text.exists_trimEnd_append rest
      obtain ⟨c, more, begins⟩ := List.exists_cons_of_ne_nil blank
      rw [whole, begins] at space
      cases space
      exact .inr (opening_prefix_lower_iff.mpr ⟨name, more, named, by rw [parts, begins]⟩)

/-- Only blanks follow the version, and the first of them is no space. -/
def IsTailed (text : Text) : Prop :=
  ∃ c rest, Announces text (c :: rest) ∧ c ≠ ' ' ∧ ∀ d ∈ c :: rest, isBlank d = true

/-- The texts chosen from an answer are those that `read` takes for records, except for those
with such a tail; reading finds these to be records without terms. -/
theorem announcesVersion_iff_read (text : Text) :
    (announcesVersion text = true ↔ ¬ FailsWith .none (read text) ∧ ¬ IsTailed text)
      ∧ (IsTailed text → FailsWith .neutral (read text)) := by
  constructor
  · rw [announcesVersion_iff, not_failsWith_none_read_iff]
    constructor
    · rintro ⟨rest, announces, follows⟩
      constructor
      · refine ⟨rest, announces, follows.imp_left ?_⟩
        rintro rfl
        simp
      · rintro ⟨c, tail, tailed, noSpace, _⟩
        obtain rfl := announces.unique tailed
        rcases follows with nothing | space
        · cases nothing
        · exact noSpace (Option.some.inj space)
    · rintro ⟨⟨rest, announces, follows⟩, notTailed⟩
      refine ⟨rest, announces, ?_⟩
      rcases follows with blank | space
      · cases rest with
        | nil => exact .inl rfl
        | cons c rest =>
            by_cases space : c = ' '
            · exact .inr (congrArg some space)
            · exact absurd ⟨c, rest, announces, space, blank⟩ notTailed
      · exact .inr space
  · rintro ⟨c, rest, announces, _, blank⟩
    obtain ⟨name, named, parts⟩ := announces.trim
    apply failsWith_read_beginning.2
    rw [parts, Text.trimEnd_eq_nil_iff.mpr blank, List.append_nil]
    exact named

/-- The version with a tab behind it is not chosen, yet read as a record without terms. -/
theorem announcesVersion_tab :
    announcesVersion "v=spf1\t".toList = false
      ∧ read "v=spf1\t".toList = .error .emptyRecord
      ∧ ¬ (announcesVersion "v=spf1\t".toList = true
        ↔ ¬ FailsWith .none (read "v=spf1\t".toList)) := by
  have passedOver : announcesVersion "v=spf1\t".toList = false := by decide
  have reads : read "v=spf1\t".toList = .error .emptyRecord := by decide
  refine ⟨passedOver, reads, ?_⟩
  rw [passedOver, reads, failsWith_error_iff]
  decide

end Record

end SenderPolicy
