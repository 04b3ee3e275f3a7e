import SenderPolicy.Proofs.Address.Printing
import SenderPolicy.Proofs.Record.Proper

/-!
# Written records are read back

A proper record is read from its standard spelling. So writing what was read loses nothing,
although letter case, blanks, the order of directives and modifiers, and the way addresses
and lengths are written may all change.

Macro text may hold decimal digits of any row, so written records need not be ASCII. What
reading relies on is that terms are written without blanks and without a long `s`.
-/

namespace SenderPolicy.Record

open Text (IsInk isInk_append isInk_cons)

/-! ## Standard spellings -/

theorem spellsLength_text (family : Family) (marks : Text) {length : Nat}
    (bounded : length ≤ family.width) :
    SpellsLength family marks
      (if length = family.width then [] else marks ++ Text.ofNat length) length := by
  split
  · rename_i full
    exact full ▸ .absent
  · exact .present bounded

theorem spellsDomain_text {domain : Option Text}
    (named : ∀ spec, domain = some spec → Macro.IsDomainText spec) :
    SpellsDomain ((domain.map (':' :: ·)).getD []) domain := by
  cases domain with
  | none => exact .absent
  | some spec => exact .present (named spec rfl)

theorem spellsTarget_text {domain : Option Text} {lengths : PrefixLengths}
    (named : ∀ spec, domain = some spec → Macro.IsDomainText spec)
    (ip4 : lengths.ip4 ≤ Family.ip4.width) (ip6 : lengths.ip6 ≤ Family.ip6.width) :
    SpellsTarget ((domain.map (':' :: ·)).getD [] ++ lengths.text) domain lengths := by
  have target := SpellsTarget.intro (spellsDomain_text named)
    (spellsLength_text .ip4 ['/'] ip4) (spellsLength_text .ip6 ['/', '/'] ip6)
  rw [List.append_assoc] at target
  exact target

/-- The parts of a mechanism that has a domain, lengths, or neither. -/
theorem mechanism_text_eq {mechanism : Mechanism} (noNetwork : mechanism.network? = none) :
    mechanism.text = mechanism.name ++ ((mechanism.domain?.map (':' :: ·)).getD []
      ++ (mechanism.lengths?.map PrefixLengths.text).getD []) := by
  unfold Mechanism.text
  rw [noNetwork]
  cases mechanism.domain? <;> simp

theorem ofAddress_self (range : Network) :
    Network.ofAddress range.address range.length = range := by
  have kept := Nat.min_eq_left range.length_le
  cases range
  simp_all [Network.ofAddress]

theorem spellsMechanism_text {mechanism : Mechanism} (proper : mechanism.IsProper) :
    SpellsMechanism mechanism.text mechanism := by
  have named := proper.domain
  cases mechanism with
  | all =>
      rw [mechanism_text_eq rfl]
      exact .all (by decide)
  | «include» spec =>
      have parts : (Mechanism.include spec).text = "include".toList ++ ':' :: spec := by
        rw [mechanism_text_eq rfl]
        exact congrArg _ (List.append_nil _)
      exact parts ▸ .include (by decide) (named spec rfl)
  | a domain lengths =>
      rw [mechanism_text_eq rfl]
      exact .a rfl (spellsTarget_text named (proper.ip4 _ rfl) (proper.ip6 _ rfl))
  | mx domain lengths =>
      rw [mechanism_text_eq rfl]
      exact .mx rfl (spellsTarget_text named (proper.ip4 _ rfl) (proper.ip6 _ rfl))
  | ptr domain =>
      have parts : (Mechanism.ptr domain).text
          = "ptr".toList ++ (domain.map (':' :: ·)).getD [] := by
        rw [mechanism_text_eq rfl]
        exact congrArg _ (List.append_nil _)
      exact parts ▸ .ptr (by decide) (spellsDomain_text named)
  | network range =>
      have named : Text.lower range.address.family.title.lower
          = range.address.family.title.lower := by
        cases range.address.family <;> decide
      have spelled := SpellsMechanism.network named (Address.isLiteral_text range.address)
        (.present range.length_le)
      rw [ofAddress_self] at spelled
      have parts : (Mechanism.network range).text = range.address.family.title.lower
          ++ ':' :: (range.address.text ++ (['/'] ++ Text.ofNat range.length)) := by
        change range.address.family.title.lower ++ [] ++ [] ++ ':' :: range.text = _
        rw [List.append_nil, List.append_nil]
        rfl
      exact parts ▸ spelled
  | «exists» spec =>
      have parts : (Mechanism.exists spec).text = "exists".toList ++ ':' :: spec := by
        rw [mechanism_text_eq rfl]
        exact congrArg _ (List.append_nil _)
      exact parts ▸ .exists (by decide) (named spec rfl)

theorem spellsDirective_text {directive : Directive} (proper : directive.mechanism.IsProper) :
    SpellsDirective directive.text directive :=
  .signed directive.qualifier (spellsMechanism_text proper)

theorem spellsModifier_text {modifier : Modifier} (proper : modifier.IsProper) :
    SpellsModifier modifier.text modifier := by
  cases proper with
  | redirect domain => exact .redirect rfl domain
  | exp domain => exact .exp rfl domain
  | unknown named free plain => exact .unknown named free plain

/-! ## Characters of standard spellings

The spaces between terms are the only blanks, and no letter needs a counterpart. -/

theorem isInk_of_spellsDomain {text : Text} {domain : Option Text}
    (spelled : SpellsDomain text domain) : IsInk text := by
  cases spelled with
  | absent => decide
  | present domain => exact isInk_cons.mpr ⟨by decide, Macro.isInk_of_isDomainText domain⟩

theorem isInk_of_spellsLength {family : Family} {marks text : Text} {length : Nat}
    (spelled : SpellsLength family marks text length) (ink : IsInk marks) : IsInk text := by
  cases spelled with
  | absent => decide
  | present bounded =>
      refine isInk_append.mpr ⟨ink, fun c member => .inr ?_⟩
      exact isDecimalDigit_of_isDigit (Text.isDigit_of_mem_ofNat member)

theorem isInk_of_spellsTarget {text : Text} {domain : Option Text} {lengths : PrefixLengths}
    (target : SpellsTarget text domain lengths) : IsInk text := by
  obtain ⟨named, first, second⟩ := target
  exact isInk_append.mpr ⟨isInk_append.mpr ⟨isInk_of_spellsDomain named,
    isInk_of_spellsLength first (by decide)⟩, isInk_of_spellsLength second (by decide)⟩

/-- Letters of either case are visible. -/
theorem isInk_of_lower {name letters : Text} (named : Text.lower name = letters)
    (ink : IsInk letters) : IsInk name := by
  intro c member
  by_cases upper : c.isUpper = true
  · have each : ∀ n < 26, Domain.isGraphic (Char.ofNat (65 + n)) = true := by decide
    obtain ⟨n, small, rfl⟩ := exists_of_isUpper upper
    exact .inl (each n small)
  · have inside : c ∈ letters := by
      rw [← named, ← toLower_of_not_isUpper upper]
      exact List.mem_map_of_mem member
    exact ink c inside

theorem isInk_of_spellsMechanism {text : Text} {mechanism : Mechanism}
    (spelled : SpellsMechanism text mechanism) : IsInk text := by
  have name : ∀ {name letters : Text}, Text.lower name = letters → IsInk letters → IsInk name :=
    isInk_of_lower
  have withSpec : ∀ {spec : Text}, Macro.IsDomainText spec → IsInk (':' :: spec) :=
    fun domain => isInk_cons.mpr ⟨by decide, Macro.isInk_of_isDomainText domain⟩
  cases spelled with
  | all named => exact name named (by decide)
  | «include» named domain => exact isInk_append.mpr ⟨name named (by decide), withSpec domain⟩
  | a named target =>
      exact isInk_append.mpr ⟨name named (by decide), isInk_of_spellsTarget target⟩
  | mx named target =>
      exact isInk_append.mpr ⟨name named (by decide), isInk_of_spellsTarget target⟩
  | ptr named target =>
      exact isInk_append.mpr ⟨name named (by decide), isInk_of_spellsDomain target⟩
  | @network _ literal _ address _ named denotes counts =>
      have title : IsInk address.family.title.lower := by
        cases address.family <;> decide
      have digits : IsInk literal := fun c member =>
        .inl (Address.isGraphic_of_addressCharacter
            (Address.characters_of_isLiteral denotes c member)).1
      exact isInk_append.mpr ⟨name named title, isInk_cons.mpr ⟨by decide,
        isInk_append.mpr ⟨digits, isInk_of_spellsLength counts (by decide)⟩⟩⟩
  | «exists» named domain => exact isInk_append.mpr ⟨name named (by decide), withSpec domain⟩

theorem isInk_of_spellsDirective {text : Text} {directive : Directive}
    (spelled : SpellsDirective text directive) : IsInk text := by
  cases spelled with
  | plain spelled => exact isInk_of_spellsMechanism spelled
  | signed qualifier spelled =>
      have sign : Domain.isGraphic qualifier.sign = true := by
        cases qualifier <;> decide
      exact isInk_cons.mpr ⟨.inl sign, isInk_of_spellsMechanism spelled⟩

theorem isInk_of_isModifierName {name : Text} (named : isModifierName name = true) :
    IsInk name := by
  have visible : ∀ {c : Char}, c.isAlphanum = true → Domain.isGraphic c = true := by
    intro c alphanumeric
    have range := Macro.toNat_of_isAlphanum alphanumeric
    simp only [Domain.isGraphic, Bool.and_eq_true, decide_eq_true_eq]
    omega
  cases name with
  | nil => cases named
  | cons first rest =>
      simp only [isModifierName, Bool.and_eq_true, List.all_eq_true, Bool.or_eq_true,
        beq_iff_eq] at named
      refine isInk_cons.mpr ⟨.inl (visible (by simp [Char.isAlphanum, named.1])), ?_⟩
      intro c member
      rcases named.2 c member with ((alphanumeric | rfl) | rfl) | rfl
      · exact .inl (visible alphanumeric)
      · decide
      · decide
      · decide

theorem isInk_of_spellsModifier {text : Text} {modifier : Modifier}
    (spelled : SpellsModifier text modifier) : IsInk text := by
  cases spelled with
  | redirect named domain =>
      exact isInk_append.mpr ⟨isInk_of_lower named (by decide),
        isInk_cons.mpr ⟨by decide, Macro.isInk_of_isDomainText domain⟩⟩
  | exp named domain =>
      exact isInk_append.mpr ⟨isInk_of_lower named (by decide),
        isInk_cons.mpr ⟨by decide, Macro.isInk_of_isDomainText domain⟩⟩
  | unknown named free plain =>
      exact isInk_append.mpr ⟨isInk_of_isModifierName named,
        isInk_cons.mpr ⟨by decide, Macro.isInk_textOf plain⟩⟩

/-! ## Reading standard spellings -/

/-- The terms of a record in the order in which they are written. -/
def standardTerms (record : Record) : List Term :=
  record.directives.map .directive ++ record.modifiers.map .modifier

/-- A term in its standard spelling. -/
def Term.text : Term → Text
  | .directive found => found.text
  | .modifier found => found.text

theorem spellsTerm_text {term : Term} (proper : term.IsProper) : SpellsTerm term.text term := by
  cases term with
  | directive found => exact .directive (spellsDirective_text proper)
  | modifier found => exact .modifier (spellsModifier_text proper)

theorem isInk_of_spellsTerm {text : Text} {term : Term} (spelled : SpellsTerm text term) :
    IsInk text := by
  cases spelled with
  | directive spelled => exact isInk_of_spellsDirective spelled
  | modifier spelled => exact isInk_of_spellsModifier spelled

theorem Term.read_text {term : Term} (proper : term.IsProper) : Term.read term.text = .ok term := by
  have spelled := spellsTerm_text proper
  exact Term.read_complete (isInk_of_spellsTerm spelled).longS_not_mem spelled

theorem Term.text_ne_nil (term : Term) : term.text ≠ [] := by
  cases term with
  | directive found => exact List.cons_ne_nil _ _
  | modifier found => exact List.append_ne_nil_of_right_ne_nil _ (List.cons_ne_nil _ _)

theorem text_eq (record : Record) :
    record.text = version ++ record.standardTerms.flatMap (' ' :: ·.text) := by
  simp [Record.text, standardTerms, List.flatMap_map, List.append_assoc]
  rfl

theorem ofTerms_standardTerms (record : Record) : ofTerms record.standardTerms = record := by
  have directives : ∀ found : List Directive,
      (found.map Term.directive).filterMap Term.directive? = found
        ∧ (found.map Term.directive).filterMap Term.modifier? = [] := by
    intro found
    induction found with
    | nil => exact ⟨rfl, rfl⟩
    | cons first found inductionHypothesis =>
        exact ⟨congrArg (first :: ·) inductionHypothesis.1, inductionHypothesis.2⟩
  have modifiers : ∀ found : List Modifier,
      (found.map Term.modifier).filterMap Term.directive? = []
        ∧ (found.map Term.modifier).filterMap Term.modifier? = found := by
    intro found
    induction found with
    | nil => exact ⟨rfl, rfl⟩
    | cons first found inductionHypothesis =>
        exact ⟨inductionHypothesis.1, congrArg (first :: ·) inductionHypothesis.2⟩
  simp [ofTerms, standardTerms, directives, modifiers]

section
variable {record : Record} (proper : record.IsProper)
include proper

theorem isProper_of_mem_standardTerms : ∀ term ∈ record.standardTerms, term.IsProper := by
  refine List.forall_mem_append.mpr ⟨?_, ?_⟩
  · exact List.forall_mem_map.mpr proper.directives
  · exact List.forall_mem_map.mpr proper.modifiers

theorem isInk_of_mem_standardTerms : ∀ term ∈ record.standardTerms, IsInk term.text :=
  fun term member =>
    isInk_of_spellsTerm (spellsTerm_text (isProper_of_mem_standardTerms proper term member))

theorem standardTerms_ne_nil : record.standardTerms ≠ [] := by
  intro nothing
  obtain ⟨directives, modifiers⟩ := List.append_eq_nil_iff.mp nothing
  rcases proper.nonempty with some | some
  · exact some (List.map_eq_nil_iff.mp directives)
  · exact some (List.map_eq_nil_iff.mp modifiers)

/-- The texts between the spaces are the terms. -/
theorem termTexts_text : termTexts record.text = record.standardTerms.map Term.text := by
  have free : ∀ piece ∈ [] :: record.standardTerms.map Term.text, ' ' ∉ piece := by
    refine List.forall_mem_cons.mpr ⟨by simp, List.forall_mem_map.mpr fun term member inside => ?_⟩
    exact absurd (isInk_of_mem_standardTerms proper term member ' ' inside) (by decide)
  have joined : record.standardTerms.flatMap (' ' :: ·.text)
      = Text.join [' '] ([] :: record.standardTerms.map Term.text) := by
    rw [Text.join_cons, List.flatMap_map]
    rfl
  rw [termTexts, text_eq, List.drop_left, joined, Text.split_join (by simp) free]
  have some : ∀ piece ∈ record.standardTerms.map Term.text, decide (piece ≠ []) = true :=
    List.forall_mem_map.mpr fun term _ => decide_eq_true term.text_ne_nil
  exact List.filter_eq_self.mpr some

/-- Written text begins with the version and ends with a term. -/
theorem trim_text : record.text.trim = record.text := by
  apply Text.trim_of_ends
  · rintro c ⟨⟩
    decide
  · intro c isLast
    obtain ⟨front, final, terms⟩ :=
      (List.eq_nil_or_concat record.standardTerms).resolve_left (standardTerms_ne_nil proper)
    have member : final ∈ record.standardTerms := by simp [terms]
    obtain ⟨first, rest, spelled⟩ := List.exists_cons_of_ne_nil final.text_ne_nil
    have whole : record.text.getLast? = final.text.getLast? := by
      rw [text_eq, terms]
      simp [spelled, List.getLast?_append, List.getLast?_cons]
    have inside := List.mem_of_getLast? (whole ▸ isLast)
    exact (isInk_of_mem_standardTerms proper final member).isBlank_eq_false c inside

/-- A proper record is read from its standard spelling. -/
theorem read_text : read record.text = .ok record := by
  have ⟨first, rest, terms⟩ := List.exists_cons_of_ne_nil (standardTerms_ne_nil proper)
  have parts : record.text = opening ++ (first.text ++ rest.flatMap (' ' :: ·.text)) := by
    rw [text_eq, terms]
    simp [opening]
  have opens : opening <+: record.text.lower := by
    rw [parts, Text.lower_append]
    exact List.prefix_append opening _
  have notBare : record.text.lower ≠ version := by
    intro bare
    have longer := opens.length_le
    rw [bare] at longer
    exact absurd longer (by decide)
  have each : List.Forall₂ (fun text term => Term.read text = .ok term)
      (record.standardTerms.map Term.text) record.standardTerms := by
    rw [List.forall₂_map_left_iff, List.forall₂_same]
    exact fun term member => Term.read_text (isProper_of_mem_standardTerms proper term member)
  have fresh : ∀ modifier ∈ record.modifiers, [].any modifier.excludes = false :=
    fun _ _ => rfl
  have terms := readTerms_eq_ok_iff.mpr
    ⟨⟨record.standardTerms, each, (ofTerms_standardTerms record).symm⟩, proper.compatible, fresh⟩
  simp only [read, trim_text proper, notBare, if_false, List.isPrefixOf_iff_prefix.mpr opens,
    if_true, termTexts_text proper, terms]

end

/-- Whatever record a text is read as, its standard spelling is read as the same record, so
writing what was read again gives the same spelling. -/
theorem read_text_of_read {text : Text} {record : Record} (reads : read text = .ok record) :
    read record.text = .ok record ∧ (read record.text).map Record.text = .ok record.text := by
  have same := read_text (isProper_of_read reads)
  exact ⟨same, congrArg (Except.map Record.text) same⟩

/-- Letter case, order and the way an address is written change; the record does not. -/
theorem read_text_of_read_reordered :
    let text := " v=SPF1 Redirect=_spf.%{D2}  IP6:2001:DB8::0:1/32 ?a:%{i}._spf.org/32//64 ".toList
    let range : Network :=
      ⟨⟨.ip6, [0x2001, 0xDB8, 0, 0, 0, 0, 0, 1], rfl, by decide⟩, 32, by decide⟩
    let record : Record :=
      ⟨[⟨.pass, .network range⟩, ⟨.neutral, .a (some "%{i}._spf.org".toList) ⟨32, 64⟩⟩],
        [.redirect "_spf.%{D2}".toList]⟩
    read text = .ok record
      ∧ record.text = "v=spf1 +ip6:2001:db8::1/32 ?a:%{i}._spf.org//64 redirect=_spf.%{D2}".toList
      ∧ read record.text = .ok record := by
  intro text range record
  have reads : read text = .ok record := by decide +kernel
  exact ⟨reads, by decide +kernel, (read_text_of_read reads).1⟩

end SenderPolicy.Record
