import SenderPolicy.Proofs.Record.Failures
import SenderPolicy.Proofs.Record.Modifiers
import SenderPolicy.Proofs.Record.Terms

/-!
# Reading decides the grammar of records

Texts between spaces are read in order, and reading stops at the first that spells no term or
that repeats a modifier. So a record is read exactly when its texts spell one; what is read is
the record they spell, and each of them spells its term in one way only. Every failure after
the version is a permanent error.
-/

namespace SenderPolicy

/-! ## Results of failures -/

/-- The outcome is a failure by which a check ends in this result. -/
def FailsWith {α : Type} (code : ResultCode) (outcome : Except Failure α) : Prop :=
  ∃ failure, outcome = .error failure ∧ failure.code = code

theorem failsWith_error_iff {α : Type} {code : ResultCode} {failure : Failure} :
    FailsWith code (.error failure : Except Failure α) ↔ failure.code = code := by
  constructor
  · rintro ⟨_, ⟨⟩, same⟩
    exact same
  · intro same
    exact ⟨failure, rfl, same⟩

theorem not_failsWith_ok {α : Type} {code : ResultCode} {value : α} :
    ¬ FailsWith code (.ok value) := by
  rintro ⟨_, failed, _⟩
  cases failed

namespace Record

/-! ## Records of terms -/

theorem excludes_redirect (modifier : Modifier) (domain : Text) :
    modifier.excludes (.redirect domain) = isRedirect modifier := by
  cases modifier <;> rfl

theorem excludes_exp (modifier : Modifier) (domain : Text) :
    modifier.excludes (.exp domain) = isExp modifier := by
  cases modifier <;> rfl

/-- Modifiers that exclude none of each other are those with one of each kind at most. -/
theorem compatible_iff {modifiers : List Modifier} :
    Modifier.Compatible modifiers
      ↔ modifiers.countP isRedirect ≤ 1 ∧ modifiers.countP isExp ≤ 1 := by
  induction modifiers with
  | nil => simp
  | cons modifier modifiers inductionHypothesis =>
      have apart : ∀ {kind : Modifier → Bool},
          (∀ other ∈ modifiers, kind other = false) ↔ modifiers.countP kind = 0 := by
        intro kind
        simp [List.countP_eq_zero]
      unfold Modifier.Compatible at inductionHypothesis ⊢
      rw [List.pairwise_cons, inductionHypothesis]
      cases modifier with
      | redirect domain =>
          have redirects : isRedirect (.redirect domain) = true := rfl
          have explains : isExp (.redirect domain) = false := rfl
          simp only [excludes_redirect, apart, List.countP_cons, redirects, explains, if_true,
            Bool.false_eq_true, if_false]
          omega
      | exp domain =>
          have redirects : isRedirect (.exp domain) = false := rfl
          have explains : isExp (.exp domain) = true := rfl
          simp only [excludes_exp, apart, List.countP_cons, redirects, explains, if_true,
            Bool.false_eq_true, if_false]
          omega
      | unknown name value =>
          have none : ∀ other ∈ modifiers, other.excludes (.unknown name value) = false :=
            fun other _ => by cases other <;> rfl
          simp only [List.countP_cons, isRedirect, isExp, Bool.false_eq_true, if_false,
            Nat.add_zero]
          exact and_iff_right none

theorem addFirst_ofTerms (term : Term) (terms : List Term) :
    addFirst (ofTerms terms) term = ofTerms (term :: terms) := by
  cases term <;> rfl

/-- Reading texts reads each of them, and compares each modifier with those before it. -/
theorem readTerms_eq_ok_iff {earlier : List Modifier} {texts : List Text} {record : Record} :
    readTerms earlier texts = .ok record
      ↔ (∃ terms, List.Forall₂ (fun text term => Term.read text = .ok term) texts terms
          ∧ record = ofTerms terms)
        ∧ Modifier.Compatible record.modifiers
        ∧ ∀ modifier ∈ record.modifiers, earlier.any modifier.excludes = false := by
  constructor
  · intro reads
    refine ⟨?_, compatible_of_readTerms reads⟩
    induction texts generalizing earlier record with
    | nil =>
        cases reads
        exact ⟨[], .nil, rfl⟩
    | cons text texts inductionHypothesis =>
        unfold readTerms at reads
        split at reads
        · cases reads
        · rename_i directive first
          obtain ⟨others, rest, rfl⟩ := exists_of_map_addFirst reads
          obtain ⟨terms, later, rfl⟩ := inductionHypothesis rest
          exact ⟨_, .cons first later, addFirst_ofTerms _ _⟩
        · rename_i modifier first
          split at reads
          · cases reads
          · obtain ⟨others, rest, rfl⟩ := exists_of_map_addFirst reads
            obtain ⟨terms, later, rfl⟩ := inductionHypothesis rest
            exact ⟨_, .cons first later, addFirst_ofTerms _ _⟩
  · rintro ⟨⟨terms, each, rfl⟩, compatible, fresh⟩
    induction each generalizing earlier with
    | nil => rfl
    | @cons text term texts terms first later inductionHypothesis =>
        rw [readTerms, first]
        cases term with
        | directive directive =>
            rw [inductionHypothesis compatible fresh]
            rfl
        | modifier modifier =>
            obtain ⟨apart, compatibleRest⟩ := List.pairwise_cons.mp compatible
            obtain ⟨here, freshRest⟩ := List.forall_mem_cons.mp fresh
            have free : ∀ other ∈ (ofTerms terms).modifiers,
                (modifier :: earlier).any other.excludes = false := by
              intro other member
              rw [List.any_cons, apart other member, freshRest other member]
              rfl
            simp only [here, Bool.false_eq_true, if_false,
              inductionHypothesis compatibleRest free]
            rfl

theorem readTerms_eq_ok_iff_spells {texts : List Text}
    (ascii : ∀ text ∈ texts, Text.isAscii text = true) {record : Record} :
    readTerms [] texts = .ok record ↔ Spells texts record := by
  have each : ∀ {terms},
      List.Forall₂ (fun text term => Term.read text = .ok term) texts terms
        ↔ List.Forall₂ SpellsTerm texts terms := by
    intro terms
    constructor
    · intro read
      have both := (List.forall₂_and_left _ _).mpr ⟨ascii, read⟩
      exact both.imp fun _ _ here => (Term.read_eq_ok_iff here.1).mp here.2
    · intro spelled
      have both := (List.forall₂_and_left _ _).mpr ⟨ascii, spelled⟩
      exact both.imp fun _ _ here => (Term.read_eq_ok_iff here.1).mpr here.2
  rw [readTerms_eq_ok_iff, compatible_iff]
  constructor
  · rintro ⟨⟨terms, read, made⟩, ⟨redirects, explanations⟩, _⟩
    exact ⟨⟨terms, each.mp read, made⟩, redirects, explanations⟩
  · rintro ⟨⟨terms, spelled, made⟩, redirects, explanations⟩
    exact ⟨⟨terms, each.mpr spelled, made⟩, ⟨redirects, explanations⟩, fun _ _ => rfl⟩

/-! ## Records -/

theorem opening_prefix_lower_iff {text : Text} :
    opening <+: text.lower
      ↔ ∃ name rest, Text.lower name = version ∧ text = name ++ ' ' :: rest := by
  constructor
  · rintro ⟨rest, lowered⟩
    obtain ⟨front, back, rfl, isOpening, _⟩ := List.map_eq_append_iff.mp lowered.symm
    obtain ⟨name, blank, rfl, named, isSpace⟩ := List.map_eq_append_iff.mp isOpening
    obtain ⟨c, rfl, lowerSpace⟩ := List.map_eq_singleton_iff.mp isSpace
    obtain rfl := eq_of_toLower lowerSpace (by decide)
    exact ⟨name, back, named, by simp⟩
  · rintro ⟨name, rest, named, rfl⟩
    refine ⟨Text.lower rest, ?_⟩
    rw [Text.lower_append, named, opening, List.append_assoc]
    rfl

/-- The terms are the texts between the spaces that follow the version. -/
theorem termTexts_append {name : Text} (named : Text.lower name = version) (rest : Text) :
    termTexts (name ++ rest) = (Text.split (· = ' ') rest).filter (· ≠ []) := by
  have count : name.length = version.length := by
    rw [← named, Text.lower, List.length_map]
  rw [termTexts, ← count, List.drop_left]

/-- The texts between the spaces after the version are the terms that text holds, and there are
no other rows of terms that it holds. -/
theorem holdsTerms_iff {text : Text} {terms : List Text} :
    HoldsTerms text terms ↔ opening <+: text.lower ∧ terms = termTexts text := by
  have spaced : ∀ rest, (Text.split (· = ' ') (' ' :: rest)).filter (· ≠ [])
      = (Text.split (· = ' ') rest).filter (· ≠ []) := by
    intro rest
    simp [Text.split]
  constructor
  · rintro @⟨name, pieces, named, free⟩
    refine ⟨opening_prefix_lower_iff.mpr ⟨name, _, named, rfl⟩, ?_⟩
    rw [termTexts_append named, spaced]
    cases pieces with
    | nil => rfl
    | cons piece pieces => rw [Text.split_join (List.cons_ne_nil piece pieces) free]
  · rintro ⟨opens, rfl⟩
    obtain ⟨name, rest, named, rfl⟩ := opening_prefix_lower_iff.mp opens
    have free : ∀ piece ∈ Text.split (· = ' ') rest, ' ' ∉ piece := by
      intro piece member inside
      exact absurd (Text.free_of_mem_split member ' ' inside) (by decide)
    have holds := HoldsTerms.intro named free
    rwa [Text.join_split, ← spaced, ← termTexts_append named] at holds

/-- The texts between the spaces of a record stand in it. -/
theorem subset_of_mem_termTexts {text piece : Text} (member : piece ∈ termTexts text.trim) :
    piece ⊆ text := by
  intro c inside
  have isPiece := (List.mem_filter.mp member).1
  have inTrimmed := List.mem_of_mem_drop (Text.mem_of_mem_split isPiece inside)
  exact Text.mem_of_mem_trim inTrimmed

/-- The texts between the spaces of an ASCII record are ASCII. -/
theorem isAscii_of_mem_termTexts {text piece : Text} (ascii : text.isAscii = true)
    (member : piece ∈ termTexts text.trim) : piece.isAscii = true :=
  List.all_eq_true.mpr fun c inside =>
    List.all_eq_true.mp ascii c (subset_of_mem_termTexts member inside)

/-- Texts that spell no record are turned down with a permanent error. -/
theorem failsWith_readTerms_iff {texts : List Text}
    (ascii : ∀ text ∈ texts, Text.isAscii text = true) {code : ResultCode} :
    FailsWith code (readTerms [] texts)
      ↔ code = .permError ∧ ¬ ∃ record, Spells texts record := by
  cases outcome : readTerms [] texts with
  | ok record =>
      have spelled := (readTerms_eq_ok_iff_spells ascii).mp outcome
      constructor
      · exact fun failed => absurd failed not_failsWith_ok
      · rintro ⟨_, nothing⟩
        exact absurd ⟨record, spelled⟩ nothing
  | error failure =>
      have permanent := (onlyOfTerm_readTerms _ _ failure outcome).code
      have nothing : ¬ ∃ record, Spells texts record := by
        rintro ⟨record, spelled⟩
        rw [(readTerms_eq_ok_iff_spells ascii).mpr spelled] at outcome
        cases outcome
      rw [failsWith_error_iff, permanent]
      constructor
      · exact fun same => ⟨same.symm, nothing⟩
      · exact fun both => both.1.symm

/-- Reading ASCII text decides the grammar of records. Text that does not begin with the
version has no result, the bare version is neutral, and else reading gives exactly the record
that the texts between the spaces spell, or a permanent error if they spell none. There is one
row of such texts in it, and each of them spells one term at most. -/
theorem read_decides {text : Text} (ascii : text.isAscii = true) :
    (FailsWith .none (read text)
        ↔ text.trim.lower ≠ version ∧ ¬ opening <+: text.trim.lower)
      ∧ (FailsWith .neutral (read text) ↔ text.trim.lower = version)
      ∧ (FailsWith .permError (read text)
        ↔ opening <+: text.trim.lower
          ∧ ¬ ∃ terms record, HoldsTerms text.trim terms ∧ Spells terms record)
      ∧ (∀ record, read text = .ok record
        ↔ ∃ terms, HoldsTerms text.trim terms ∧ Spells terms record)
      ∧ (opening <+: text.trim.lower ↔ ∃ terms, HoldsTerms text.trim terms)
      ∧ (∀ terms others, HoldsTerms text.trim terms → HoldsTerms text.trim others →
        terms = others)
      ∧ ∀ terms, HoldsTerms text.trim terms → ∀ piece ∈ terms, ∀ term other,
        SpellsTerm piece term → SpellsTerm piece other → term = other := by
  have pieces : ∀ piece ∈ termTexts text.trim, Text.isAscii piece = true :=
    fun piece member => isAscii_of_mem_termTexts ascii member
  have oneRow : ∀ terms others, HoldsTerms text.trim terms → HoldsTerms text.trim others →
      terms = others :=
    fun _ _ holds other => (holdsTerms_iff.mp holds).2.trans (holdsTerms_iff.mp other).2.symm
  have oneTerm : ∀ terms, HoldsTerms text.trim terms → ∀ piece ∈ terms, ∀ term other,
      SpellsTerm piece term → SpellsTerm piece other → term = other := by
    intro terms holds piece member term other spelled otherSpelled
    obtain ⟨_, rfl⟩ := holdsTerms_iff.mp holds
    exact spelled.unique (pieces piece member) otherSpelled
  by_cases empty : text.trim.lower = version
  · have reads : read text = .error .emptyRecord := by simp only [read, empty, if_true]
    have closed : ¬ opening <+: version := by decide
    refine ⟨?_, ?_, ?_, ?_, ?_, oneRow, oneTerm⟩ <;>
      simp [reads, empty, closed, holdsTerms_iff, failsWith_error_iff, Failure.code]
  · by_cases opens : opening <+: text.trim.lower
    · have reads : read text = readTerms [] (termTexts text.trim) := by
        simp only [read, empty, if_false, List.isPrefixOf_iff_prefix.mpr opens, if_true]
      refine ⟨?_, ?_, ?_, ?_, ?_, oneRow, oneTerm⟩ <;>
        simp [reads, empty, opens, holdsTerms_iff, failsWith_readTerms_iff pieces,
          readTerms_eq_ok_iff_spells pieces]
    · have closed : opening.isPrefixOf text.trim.lower = false := by
        rw [← Bool.not_eq_true, List.isPrefixOf_iff_prefix]
        exact opens
      have reads : read text = .error (.notARecord text) := by
        simp only [read, empty, if_false, closed, Bool.false_eq_true]
      refine ⟨?_, ?_, ?_, ?_, ?_, oneRow, oneTerm⟩ <;>
        simp [reads, empty, opens, holdsTerms_iff, failsWith_error_iff, Failure.code]

/-- The slashes of lengths stand apart from those of a domain, and letter case is ignored. -/
theorem read_decides_slashes :
    let text : Text := " v=SPF1 a:x/%{d}/24//64  Redirect=_spf.example.org x-y=a:b/32 ".toList
    let terms : List Text :=
      ["a:x/%{d}/24//64".toList, "Redirect=_spf.example.org".toList, "x-y=a:b/32".toList]
    let record : Record :=
      ⟨[⟨.pass, .a (some "x/%{d}".toList) ⟨24, 64⟩⟩],
        [.redirect "_spf.example.org".toList, .unknown "x-y".toList "a:b/32".toList]⟩
    Text.isAscii text = true ∧ HoldsTerms text.trim terms ∧ Spells terms record
      ∧ read text = .ok record := by
  intro text terms record
  have ascii : Text.isAscii text = true := by decide
  have holds : HoldsTerms text.trim terms :=
    @HoldsTerms.intro "v=SPF1".toList
      ["a:x/%{d}/24//64".toList, [], "Redirect=_spf.example.org".toList, "x-y=a:b/32".toList]
      (by decide) (by decide)
  have reads : read text = .ok record := by decide +kernel
  obtain ⟨_, _, _, decided, _, oneRow, _⟩ := read_decides ascii
  obtain ⟨others, otherHolds, spelled⟩ := (decided record).mp reads
  rw [oneRow others terms otherHolds holds] at spelled
  exact ⟨ascii, holds, spelled, reads⟩

end Record

end SenderPolicy
