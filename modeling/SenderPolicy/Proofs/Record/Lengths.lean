import SenderPolicy.Proofs.Record.Grammar

/-!
# Where prefix lengths are cut off

A domain specification may hold slashes and digits, so it has to be shown that cutting prefix
lengths off the end of a text leaves the specification whole: it never ends in a slash, nor
in a slash and a prefix length. `splitLengths` then undoes the putting together of its parts.
-/

namespace SenderPolicy.Record

/-! ## The shape of a prefix length -/

theorem isDecimalDigit_of_mem_length {length : Text} (shape : isLengthShape length = true) :
    length ≠ [] ∧ ∀ c ∈ length, isDecimalDigit c = true := by
  unfold isLengthShape at shape
  split at shape
  · cases shape
  · exact ⟨by simp, List.forall_mem_singleton.mpr (by decide)⟩
  · simp only [Bool.and_eq_true, decide_eq_true_eq, List.all_eq_true] at shape
    obtain ⟨⟨low, high⟩, others⟩ := shape
    refine ⟨by simp, List.forall_mem_cons.mpr ⟨?_, others⟩⟩
    exact isDecimalDigit_of_isDigit (isDigit_and_ne_zero_iff.mpr ⟨low, high⟩).1

/-- No slash is part of a prefix length. -/
theorem slash_not_mem_length {length : Text} (shape : isLengthShape length = true) :
    '/' ∉ length := by
  intro member
  have digit := (isDecimalDigit_of_mem_length shape).2 _ member
  exact absurd digit (by decide)

/-- A number as it is written has the shape of a prefix length. -/
theorem isLengthShape_ofNat (n : Nat) : isLengthShape (Text.ofNat n) = true := by
  cases written : Text.ofNat n with
  | nil => exact absurd written (Text.ofNat_ne_nil n)
  | cons c rest =>
      have digits : ∀ d ∈ c :: rest, d.isDigit = true := by
        intro d member
        rw [← written] at member
        exact Text.isDigit_of_mem_ofNat member
      by_cases zero : c = '0'
      · have alone := Text.ofNat_head? (written ▸ congrArg some zero : (Text.ofNat n).head? = _)
        rw [← written, alone]
        rfl
      · obtain ⟨first, others⟩ := List.forall_mem_cons.mp digits
        obtain ⟨low, high⟩ := isDigit_and_ne_zero_iff.mp ⟨first, zero⟩
        have rest : ∀ d ∈ rest, isDecimalDigit d = true :=
          fun d member => isDecimalDigit_of_isDigit (others d member)
        unfold isLengthShape
        split
        · contradiction
        · rfl
        · rename_i same
          cases same
          simpa [low, high] using rest

/-- Digits of this shape are the written form of their number. -/
theorem eq_ofNat_of_isLengthShape {length : Text} {n : Nat}
    (shape : isLengthShape length = true) (number : Text.toNat? length = some n) :
    length = Text.ofNat n := by
  refine Text.ofNat_of_toNat? number fun zero => ?_
  unfold isLengthShape at shape
  split at shape
  · cases shape
  · rfl
  · cases zero
    cases shape

/-! ## One prefix length -/

/-- A part that may be missing, after its marks. -/
def marked (marks : Text) : Option Text → Text
  | none => []
  | some part => marks ++ part

/-- The text ends neither in a slash nor in a slash and a prefix length. -/
structure EndsApart (text : Text) : Prop where
  slash : text.getLast? ≠ some '/'
  length : ∀ before length, text = before ++ '/' :: length → isLengthShape length = false

theorem endsApart_of_free {text : Text} (free : '/' ∉ text) : EndsApart text where
  slash := fun last => free (List.mem_of_getLast? last)
  length := by
    rintro before length rfl
    exact absurd (by simp) free

theorem splitLength_of_endsApart {text : Text} (apart : EndsApart text) :
    splitLength text = (text, none) := by
  unfold splitLength
  split
  · rename_i before length found
    have parts := (Text.splitAtLast_eq_some_iff.mp found).1
    rw [apart.length before length parts]
    rfl
  · rfl

theorem splitLength_append {before length : Text} (shape : isLengthShape length = true) :
    splitLength (before ++ '/' :: length) = (before, some length) := by
  have found := Text.splitAtLast_append before (slash_not_mem_length shape)
  simp only [splitLength, found, shape, if_true]

/-- A length after a text that ends apart from it is cut off. -/
theorem splitLength_marked {before : Text} {length : Option Text} (apart : EndsApart before)
    (shape : ∀ found, length = some found → isLengthShape found = true) :
    splitLength (before ++ marked ['/'] length) = (before, length) := by
  cases length with
  | none =>
      rw [marked, List.append_nil]
      exact splitLength_of_endsApart apart
  | some digits => exact splitLength_append (shape digits rfl)

theorem splitLength_sound {text before : Text} {length : Option Text}
    (splits : splitLength text = (before, length)) :
    text = before ++ marked ['/'] length
      ∧ ∀ found, length = some found → isLengthShape found = true := by
  unfold splitLength at splits
  split at splits
  · rename_i front digits found
    obtain ⟨rfl, _⟩ := Text.splitAtLast_eq_some_iff.mp found
    split at splits
    · rename_i shape
      cases splits
      exact ⟨rfl, fun _ same => Option.some.inj same ▸ shape⟩
    · cases splits
      exact ⟨(List.append_nil _).symm, fun _ same => nomatch same⟩
  · cases splits
    exact ⟨(List.append_nil _).symm, fun _ same => nomatch same⟩

/-! ## Both prefix lengths -/

theorem splitLengths_sound {text front : Text} {ip4 ip6 : Option Text}
    (splits : splitLengths text = (front, ip4, ip6)) :
    text = front ++ marked ['/'] ip4 ++ marked ['/', '/'] ip6
      ∧ (∀ found, ip4 = some found → isLengthShape found = true)
      ∧ ∀ found, ip6 = some found → isLengthShape found = true := by
  unfold splitLengths at splits
  split at splits
  · rename_i before length last
    obtain ⟨whole, shape⟩ := splitLength_sound last
    split at splits
    · rename_i inner found
      obtain ⟨rfl, _⟩ := Text.splitAtLast_eq_some_iff.mp found
      cases first : splitLength inner with
      | mk rest before =>
          rw [first] at splits
          cases splits
          obtain ⟨rfl, shapeFirst⟩ := splitLength_sound first
          exact ⟨by rw [whole]; simp [marked], shapeFirst, shape⟩
    · cases splits
      exact ⟨by rw [whole]; simp [marked], shape, fun _ same => nomatch same⟩
  · cases splits
    exact ⟨by simp [marked], (fun _ same => nomatch same), fun _ same => nomatch same⟩

/-- Lengths after a text that ends apart from them are cut off. -/
theorem splitLengths_append {front : Text} {ip4 ip6 : Option Text} (apart : EndsApart front)
    (shapeFirst : ∀ found, ip4 = some found → isLengthShape found = true)
    (shapeSecond : ∀ found, ip6 = some found → isLengthShape found = true) :
    splitLengths (front ++ marked ['/'] ip4 ++ marked ['/', '/'] ip6) = (front, ip4, ip6) := by
  have cutFirst := splitLength_marked apart shapeFirst
  cases ip6 with
  | none =>
      rw [marked, List.append_nil]
      cases ip4 with
      | none =>
          rw [marked, List.append_nil] at cutFirst ⊢
          rw [splitLengths, cutFirst]
      | some length =>
          simp only [splitLengths, cutFirst]
          split
          · rename_i inner found
            obtain ⟨rfl, _⟩ := Text.splitAtLast_eq_some_iff.mp found
            exact absurd (by simp) apart.slash
          · rfl
  | some length =>
      have whole : front ++ marked ['/'] ip4 ++ marked ['/', '/'] (some length)
          = (front ++ marked ['/'] ip4 ++ ['/']) ++ '/' :: length := by
        simp [marked]
      have cutSecond := Text.splitAtLast_append (front ++ marked ['/'] ip4)
        (List.not_mem_nil : '/' ∉ [])
      simp only [whole, splitLengths, splitLength_append (shapeSecond length rfl), cutSecond,
        cutFirst]

/-! ## Domain specifications end apart from lengths -/

/-- A last character that is no slash and no digit keeps lengths apart. -/
theorem endsApart_of_getLast? {text : Text} {c : Char} (last : text.getLast? = some c)
    (noSlash : c ≠ '/') (noDigit : isDecimalDigit c = false) : EndsApart text where
  slash := by
    rw [last]
    exact fun same => noSlash (Option.some.inj same)
  length := by
    intro before length parts
    cases shape : isLengthShape length with
    | false => rfl
    | true =>
        obtain ⟨nonempty, digits⟩ := isDecimalDigit_of_mem_length shape
        have lastOfLength : length.getLast? = some c := by
          rw [← last, parts]
          obtain ⟨d, rest, rfl⟩ := List.exists_cons_of_ne_nil nonempty
          simp [List.getLast?_append, List.getLast?_cons]
        rw [digits c (List.mem_of_getLast? lastOfLength)] at noDigit
        cases noDigit

/-- A last label has no slash, and a length has no dot. -/
theorem endsApart_of_isTopLabel {before label : Text} (top : Domain.isTopLabel label = true) :
    EndsApart (before ++ '.' :: label) := by
  have noSlash : '/' ∉ label := Macro.not_mem_of_isTopLabel top (by decide)
  constructor
  case slash =>
    obtain ⟨c, rest, rfl⟩ := List.exists_cons_of_ne_nil (Macro.isLabelCharacter_of_mem top).1
    have last : (before ++ '.' :: c :: rest).getLast? = (c :: rest).getLast? := by
      simp [List.getLast?_append, List.getLast?_cons]
    rw [last]
    exact fun same => noSlash (List.mem_of_getLast? same)
  case length =>
    intro front length parts
    cases shape : isLengthShape length with
    | false => rfl
    | true =>
        rcases List.append_eq_append_iff.mp parts with ⟨inner, _, rest⟩ | ⟨inner, _, rest⟩
        · have inside : '/' ∈ '.' :: label := rest ▸ by simp
          rcases List.mem_cons.mp inside with same | member
          · exact absurd same (by decide)
          · exact absurd member noSlash
        · have inside : '.' ∈ '/' :: length := rest ▸ by simp
          rcases List.mem_cons.mp inside with same | member
          · exact absurd same (by decide)
          · have digit := (isDecimalDigit_of_mem_length shape).2 _ member
            exact absurd digit (by decide)

/-- The last characters of escapes and cells. -/
theorem getLast?_of_isExpansion {token : Macro.Token} (expands : token.isExpansion = true) :
    ∃ c, token.text.getLast? = some c ∧ c ≠ '/' ∧ isDecimalDigit c = false := by
  cases token with
  | literal c => cases expands
  | percent => exact ⟨'%', rfl, by decide⟩
  | space => exact ⟨'_', rfl, by decide⟩
  | encodedSpace => exact ⟨'-', rfl, by decide⟩
  | cell found => exact ⟨'}', by simp [Macro.Token.text, List.getLast?_cons], by decide⟩

theorem endsApart_of_isDomainText {before spec : Text} (domain : Macro.IsDomainText spec) :
    EndsApart (before ++ spec) := by
  obtain ⟨tokens, ending, _, isEnding, rfl⟩ := domain
  rw [← List.append_assoc]
  cases isEnding with
  | label top => exact endsApart_of_isTopLabel top
  | dotted top =>
      refine endsApart_of_getLast? ?_ (by decide : '.' ≠ '/') (by decide)
      simp [List.getLast?_append, List.getLast?_cons]
  | expansion plain expands =>
      obtain ⟨c, last, noSlash, noDigit⟩ := getLast?_of_isExpansion expands
      refine endsApart_of_getLast? ?_ noSlash noDigit
      rw [List.getLast?_append, last]
      rfl

theorem endsApart_of_spellsDomain {text : Text} {domain : Option Text}
    (spelled : SpellsDomain text domain) : EndsApart text := by
  cases spelled with
  | absent =>
      refine ⟨by simp, fun before length parts => ?_⟩
      simp at parts
  | @present spec named =>
      have apart : EndsApart ([':'] ++ spec) := endsApart_of_isDomainText named
      exact apart

/-! ## Reading targets -/

theorem readSpec?_eq_some_iff {text spec : Text} :
    readSpec? text = some spec ↔ text = ':' :: spec ∧ Macro.IsDomainText spec := by
  unfold readSpec?
  constructor
  · intro read
    split at read
    · split at read
      · rename_i domain
        cases read
        exact ⟨rfl, Macro.isDomainSpec_iff.mp domain⟩
      · cases read
    · cases read
  · rintro ⟨rfl, domain⟩
    simp [Macro.isDomainSpec_iff.mpr domain]

theorem readOptionalSpec?_eq_some_iff {text : Text} {domain : Option Text} :
    readOptionalSpec? text = some domain ↔ SpellsDomain text domain := by
  unfold readOptionalSpec?
  constructor
  · intro read
    split at read
    · rename_i empty
      cases read
      exact empty ▸ .absent
    · obtain ⟨spec, found, rfl⟩ := Option.map_eq_some_iff.mp read
      obtain ⟨rfl, named⟩ := readSpec?_eq_some_iff.mp found
      exact .present named
  · intro spelled
    cases spelled with
    | absent => rfl
    | present named =>
        have found := readSpec?_eq_some_iff.mpr ⟨rfl, named⟩
        simp [found]

/-- A length that is read is written after its marks, and is in bounds. -/
theorem spellsLength_of_readLength {family : Family} {part : Option Text} {length : Nat}
    (shape : ∀ found, part = some found → isLengthShape found = true)
    (read : readLength family part = .ok length) (marks : Text) :
    SpellsLength family marks (marked marks part) length := by
  cases part with
  | none =>
      cases read
      exact .absent
  | some text =>
      simp only [readLength] at read
      split at read
      · rename_i number found
        split at read
        · rename_i bounded
          cases read
          rw [marked, eq_ofNat_of_isLengthShape (shape text rfl) found]
          exact .present bounded
        · cases read
      · cases read

theorem exists_of_spellsLength {family : Family} {marks text : Text} {length : Nat}
    (spelled : SpellsLength family marks text length) :
    ∃ part, text = marked marks part
      ∧ (∀ found, part = some found → isLengthShape found = true)
      ∧ readLength family part = .ok length := by
  cases spelled with
  | absent => exact ⟨none, rfl, (fun _ same => nomatch same), rfl⟩
  | present bounded =>
      refine ⟨some (Text.ofNat length), rfl, ?_, ?_⟩
      · intro found same
        exact Option.some.inj same ▸ isLengthShape_ofNat length
      · simp [readLength, Text.toNat?_ofNat, bounded]

/-- What is read after the name of a mechanism that compares address records. -/
theorem readTarget_iff {text front : Text} {first second domain : Option Text}
    {lengths : PrefixLengths} (splits : splitLengths text = (front, first, second)) :
    readOptionalSpec? front = some domain ∧ readLengths first second = .ok lengths
      ↔ SpellsTarget text domain lengths := by
  constructor
  · rintro ⟨named, counts⟩
    obtain ⟨rfl, shapeFirst, shapeSecond⟩ := splitLengths_sound splits
    unfold readLengths at counts
    split at counts
    · cases counts
    · rename_i ip4 readFirst
      cases readSecond : readLength .ip6 second with
      | error failure =>
          rw [readSecond] at counts
          cases counts
      | ok ip6 =>
          rw [readSecond] at counts
          cases counts
          exact .intro (readOptionalSpec?_eq_some_iff.mp named)
            (spellsLength_of_readLength shapeFirst readFirst _)
            (spellsLength_of_readLength shapeSecond readSecond _)
  · rintro ⟨named, counted, countedLast⟩
    obtain ⟨ip4, rfl, shapeFirst, readFirst⟩ := exists_of_spellsLength counted
    obtain ⟨ip6, rfl, shapeSecond, readSecond⟩ := exists_of_spellsLength countedLast
    rw [splitLengths_append (endsApart_of_spellsDomain named) shapeFirst shapeSecond] at splits
    cases splits
    refine ⟨readOptionalSpec?_eq_some_iff.mpr named, ?_⟩
    simp only [readLengths, readFirst, readSecond]
    rfl

end SenderPolicy.Record
