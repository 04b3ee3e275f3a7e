import SenderPolicy.Proofs.Record.Decision

/-!
# What is read is proper

A record is proper if its parts can be written: domains are domain specifications, prefix
lengths fit their families, names of modifiers are names, and there is a term at all. Every
record that is read from some text is proper, also from text outside ASCII, where a name may
be spelled with a long `s`.
-/

namespace SenderPolicy

/-! ## Proper records -/

/-- The domain is a domain specification, and the prefix lengths fit their families. -/
structure Mechanism.IsProper (mechanism : Mechanism) : Prop where
  domain : ∀ spec, mechanism.domain? = some spec → Macro.IsDomainText spec
  ip4 : ∀ lengths, mechanism.lengths? = some lengths → lengths.ip4 ≤ Family.ip4.width
  ip6 : ∀ lengths, mechanism.lengths? = some lengths → lengths.ip6 ≤ Family.ip6.width

/-- The modifier has a spelling under the name that `Modifier.name` gives. -/
inductive Modifier.IsProper : Modifier → Prop where
  | redirect {spec} (domain : Macro.IsDomainText spec) : IsProper (.redirect spec)
  | exp {spec} (domain : Macro.IsDomainText spec) : IsProper (.exp spec)
  | unknown {name tokens} (named : Record.isModifierName name = true)
      (free : Text.lower name ∉ Record.reservedNames) (plain : Macro.ArePlain tokens) :
      IsProper (.unknown name (Macro.textOf tokens))

/-- Every term can be written, at least one is there, and no two modifiers exclude each
other. -/
structure Record.IsProper (record : Record) : Prop where
  directives : ∀ directive ∈ record.directives, directive.mechanism.IsProper
  modifiers : ∀ modifier ∈ record.modifiers, modifier.IsProper
  nonempty : record.directives ≠ [] ∨ record.modifiers ≠ []
  compatible : Modifier.Compatible record.modifiers

namespace Record

/-! ## What is read is proper -/

theorem isProper_of_spellsDomain {text : Text} {domain : Option Text}
    (spelled : SpellsDomain text domain) :
    ∀ spec, domain = some spec → Macro.IsDomainText spec := by
  rintro spec rfl
  cases spelled with
  | present domain => exact domain

theorem le_of_readLength {family : Family} {part : Option Text} {length : Nat}
    (read : readLength family part = .ok length) : length ≤ family.width := by
  unfold readLength at read
  split at read
  · cases read
    exact Nat.le_refl _
  · split at read
    · split at read
      · cases read
        assumption
      · cases read
    · cases read

theorem exists_of_readWithSpec? {name text : Text} {make : Text → Mechanism}
    {mechanism : Mechanism} (read : readWithSpec? name make text = some (.ok mechanism)) :
    ∃ spec, Macro.IsDomainText spec ∧ mechanism = make spec := by
  obtain ⟨spec, found, made⟩ := Option.map_eq_some_iff.mp read
  obtain ⟨rest, _, reads⟩ := Option.bind_eq_some_iff.mp found
  cases made
  exact ⟨spec, (readSpec?_eq_some_iff.mp reads).2, rfl⟩

theorem exists_of_readWithLengths? {name text : Text}
    {make : Option Text → PrefixLengths → Mechanism} {mechanism : Mechanism}
    (read : readWithLengths? name make text = some (.ok mechanism)) :
    ∃ domain lengths, (∀ spec, domain = some spec → Macro.IsDomainText spec)
      ∧ lengths.ip4 ≤ Family.ip4.width ∧ lengths.ip6 ≤ Family.ip6.width
      ∧ mechanism = make domain lengths := by
  obtain ⟨rest, _, found⟩ := Option.bind_eq_some_iff.mp read
  rcases splits : splitLengths rest with ⟨front, first, second⟩
  rw [splits] at found
  obtain ⟨domain, optional, made⟩ := Option.map_eq_some_iff.mp found
  have proper := isProper_of_spellsDomain (readOptionalSpec?_eq_some_iff.mp optional)
  unfold readLengths at made
  split at made
  · cases made
  · rename_i ip4 readFirst
    cases readSecond : readLength .ip6 second with
    | error failure =>
        rw [readSecond] at made
        cases made
    | ok ip6 =>
        rw [readSecond] at made
        cases made
        exact ⟨domain, ⟨ip4, ip6⟩, proper, le_of_readLength readFirst,
          le_of_readLength readSecond, rfl⟩

theorem exists_of_readNetwork? {family : Family} {text : Text} {mechanism : Mechanism}
    (read : readNetwork? family text = some (.ok mechanism)) :
    ∃ network, mechanism = .network network := by
  obtain ⟨rest, _, reads⟩ := Option.bind_eq_some_iff.mp read
  dsimp only at reads
  split at reads
  · unfold readNetworkParts at reads
    split at reads
    · cases reads
    · rename_i length _
      cases found : readAddress family (splitLength rest).1 with
      | error failure =>
          rw [found] at reads
          cases reads
      | ok address =>
          rw [found] at reads
          cases reads
          exact ⟨_, rfl⟩
  · cases reads

theorem isProper_of_readMechanism? {text : Text} {mechanism : Mechanism}
    (read : readMechanism? text = some (.ok mechanism)) : mechanism.IsProper := by
  have withSpec : ∀ {make : Text → Mechanism} {spec : Text}, Macro.IsDomainText spec →
      (make spec).domain? = some spec → (make spec).lengths? = none → (make spec).IsProper := by
    intro make spec domain has hasNot
    refine ⟨fun other same => ?_, ?_, ?_⟩
    · rw [has] at same
      exact Option.some.inj same ▸ domain
    · simp [hasNot]
    · simp [hasNot]
  simp only [readMechanism?, Option.orElse_eq_orElse, Option.orElse_eq_or,
    Option.or_eq_some_iff] at read
  rcases read with all | ⟨_, spec | ⟨_, a | ⟨_, mx | ⟨_, ptr | ⟨_, ip4 | ⟨_, ip6 | ⟨_, spec⟩⟩⟩⟩⟩⟩⟩
  · unfold readAll? at all
    split at all
    · cases all
      constructor <;> rintro _ ⟨⟩
    · cases all
  · obtain ⟨spec, domain, rfl⟩ := exists_of_readWithSpec? spec
    exact withSpec domain rfl rfl
  · obtain ⟨domain, lengths, proper, ip4, ip6, rfl⟩ := exists_of_readWithLengths? a
    exact ⟨proper, fun _ same => Option.some.inj same ▸ ip4,
      fun _ same => Option.some.inj same ▸ ip6⟩
  · obtain ⟨domain, lengths, proper, ip4, ip6, rfl⟩ := exists_of_readWithLengths? mx
    exact ⟨proper, fun _ same => Option.some.inj same ▸ ip4,
      fun _ same => Option.some.inj same ▸ ip6⟩
  · obtain ⟨domain, found, made⟩ := Option.map_eq_some_iff.mp ptr
    obtain ⟨rest, _, reads⟩ := Option.bind_eq_some_iff.mp found
    cases made
    refine ⟨isProper_of_spellsDomain (readOptionalSpec?_eq_some_iff.mp reads), ?_, ?_⟩ <;>
      rintro _ ⟨⟩
  · obtain ⟨network, rfl⟩ := exists_of_readNetwork? ip4
    constructor <;> rintro _ ⟨⟩
  · obtain ⟨network, rfl⟩ := exists_of_readNetwork? ip6
    constructor <;> rintro _ ⟨⟩
  · obtain ⟨spec, domain, rfl⟩ := exists_of_readWithSpec? spec
    exact withSpec domain rfl rfl

/-- The term can be written. -/
def Term.IsProper : Term → Prop
  | .directive found => found.mechanism.IsProper
  | .modifier found => found.IsProper

theorem isProper_of_readModifier? {text : Text} {modifier : Modifier}
    (read : readModifier? text = some (.ok modifier)) : modifier.IsProper := by
  cases readModifier?_iff.mp read with
  | redirect _ domain => exact .redirect domain
  | exp _ domain => exact .exp domain
  | unknown named free plain => exact .unknown named free plain

theorem isProper_of_readDirective? {text : Text} {directive : Directive}
    (read : readDirective? text = some (.ok directive)) : directive.mechanism.IsProper := by
  obtain ⟨outcome, reads, made⟩ := Option.map_eq_some_iff.mp read
  cases outcome with
  | error failure => cases made
  | ok mechanism =>
      cases made
      exact isProper_of_readMechanism? reads

theorem Term.isProper_of_read {text : Text} {term : Term} (read : Term.read text = .ok term) :
    term.IsProper := by
  rw [Term.read_eq] at read
  split at read
  · rename_i outcome reads
    cases outcome with
    | error failure => cases read
    | ok modifier =>
        cases read
        exact isProper_of_readModifier? reads
  · split at read
    · rename_i outcome reads
      cases outcome with
      | error failure => cases read
      | ok directive =>
          cases read
          exact isProper_of_readDirective? reads
    · cases read

/-- Text that a record is read from has a term: without one its last character would be the
space after the version. -/
theorem termTexts_ne_nil {text : Text} (opens : opening <+: text.trim.lower) :
    termTexts text.trim ≠ [] := by
  intro nothing
  obtain ⟨name, back, named, parts⟩ := opening_prefix_lower_iff.mp opens
  rw [parts, termTexts_append named] at nothing
  -- All pieces are empty, so only spaces follow the version.
  have spaces : ∀ c ∈ ' ' :: back, c = ' ' := by
    intro c member
    rw [← Text.join_split ' ' (' ' :: back)] at member
    rcases Text.mem_of_mem_join member with same | ⟨piece, isPiece, inside⟩
    · exact same
    · have empty := List.filter_eq_nil_iff.mp nothing piece isPiece
      have empty : piece = [] := by simpa using empty
      rw [empty] at inside
      cases inside
  obtain ⟨c, last⟩ : ∃ c, (' ' :: back).getLast? = some c :=
    ⟨_, List.getLast?_eq_some_getLast (by simp)⟩
  have lastOfText : text.trim.getLast? = some c := by
    rw [parts, List.getLast?_append, last]
    rfl
  have noBlank := Text.isBlank_of_getLast?_trim lastOfText
  rw [spaces c (List.mem_of_getLast? last)] at noBlank
  cases noBlank

theorem isProper_of_read {text : Text} {record : Record} (reads : read text = .ok record) :
    record.IsProper := by
  have compatible := compatible_of_read reads
  simp only [read] at reads
  split at reads
  · cases reads
  · split at reads
    · rename_i opens
      obtain ⟨⟨terms, each, rfl⟩, _⟩ := readTerms_eq_ok_iff.mp reads
      have proper : ∀ term ∈ terms, term.IsProper := by
        have both : List.Forall₂ (fun term text => term.IsProper ∧ Term.read text = .ok term)
            terms (termTexts text.trim) :=
          .flip (each.imp fun _ _ readsTerm => ⟨Term.isProper_of_read readsTerm, readsTerm⟩)
        exact ((List.forall₂_and_left _ _).mp both).1
      refine ⟨?_, ?_, ?_, compatible⟩
      · intro directive member
        obtain ⟨term, isTerm, found⟩ := List.mem_filterMap.mp member
        cases term with
        | directive same =>
            cases found
            exact proper _ isTerm
        | modifier other => cases found
      · intro modifier member
        obtain ⟨term, isTerm, found⟩ := List.mem_filterMap.mp member
        cases term with
        | directive other => cases found
        | modifier same =>
            cases found
            exact proper _ isTerm
      · cases terms with
        | nil =>
            have nothing := List.forall₂_nil_right_iff.mp each
            exact absurd nothing (termTexts_ne_nil (List.isPrefixOf_iff_prefix.mp opens))
        | cons term terms =>
            cases term with
            | directive found => exact .inl (List.cons_ne_nil _ _)
            | modifier found => exact .inr (List.cons_ne_nil _ _)
    · cases reads

end Record

end SenderPolicy
