import SenderPolicy.Proofs.Check.Consistency.Basic
import SenderPolicy.Proofs.Record.Proper

/-!
# Where specifications come from

The domain specifications of a record stand in the text that it is read from. So what holds of all
characters of the text holds of those of the specifications as well.
-/

namespace SenderPolicy.Record

/-- The domain specification of a term, if there is one. -/
def Term.spec? : Term → Option Text
  | .directive found => found.mechanism.domain?
  | .modifier found => found.spec?

theorem mem_specs_ofTerms {terms : List Term} {spec : Text} :
    spec ∈ (ofTerms terms).specs ↔ ∃ term ∈ terms, term.spec? = some spec := by
  simp only [specs, ofTerms, List.mem_append, List.mem_filterMap]
  constructor
  · rintro (⟨directive, ⟨term, member, isDirective⟩, same⟩
      | ⟨modifier, ⟨term, member, isModifier⟩, same⟩)
    · cases term with
      | directive found =>
          cases isDirective
          exact ⟨_, member, same⟩
      | modifier found => cases isDirective
    · cases term with
      | directive found => cases isModifier
      | modifier found =>
          cases isModifier
          exact ⟨_, member, same⟩
  · rintro ⟨term, member, same⟩
    cases term with
    | directive found => exact .inl ⟨found, ⟨_, member, rfl⟩, same⟩
    | modifier found => exact .inr ⟨found, ⟨_, member, rfl⟩, same⟩

/-! ## Mechanisms -/

theorem suffix_of_dropName? {name text rest : Text} (drops : dropName? name text = some rest) :
    rest <:+ text := by
  induction name generalizing text with
  | nil => exact Option.some.inj drops ▸ List.suffix_refl _
  | cons letter name inductionHypothesis =>
      cases text with
      | nil => cases drops
      | cons c text =>
          simp only [dropName?] at drops
          split at drops
          · exact (inductionHypothesis drops).trans (List.suffix_cons c text)
          · cases drops

theorem subset_of_readSpec? {text spec : Text} (reads : readSpec? text = some spec) :
    spec ⊆ text := by
  obtain ⟨rfl, _⟩ := readSpec?_eq_some_iff.mp reads
  exact List.subset_cons_self ':' spec

theorem subset_of_readOptionalSpec? {text : Text} {domain : Option Text}
    (reads : readOptionalSpec? text = some domain) : ∀ spec ∈ domain, spec ⊆ text := by
  rintro spec ⟨⟩
  unfold readOptionalSpec? at reads
  split at reads
  · cases reads
  · obtain ⟨found, isSpec, same⟩ := Option.map_eq_some_iff.mp reads
    cases same
    exact subset_of_readSpec? isSpec

theorem subset_of_readWithSpec? {name text : Text} {make : Text → Mechanism}
    (makes : ∀ spec, (make spec).domain? = some spec) {mechanism : Mechanism}
    (reads : readWithSpec? name make text = some (.ok mechanism)) :
    ∀ spec ∈ mechanism.domain?, spec ⊆ text := by
  obtain ⟨found, isSpec, same⟩ := Option.map_eq_some_iff.mp reads
  obtain ⟨rest, drops, isSpec⟩ := Option.bind_eq_some_iff.mp isSpec
  cases same
  intro spec member
  obtain rfl : found = spec := Option.some.inj ((makes found).symm.trans member)
  exact List.Subset.trans (subset_of_readSpec? isSpec) (suffix_of_dropName? drops).subset

theorem subset_of_readWithLengths? {name text : Text}
    {make : Option Text → PrefixLengths → Mechanism}
    (makes : ∀ domain lengths, (make domain lengths).domain? = domain) {mechanism : Mechanism}
    (reads : readWithLengths? name make text = some (.ok mechanism)) :
    ∀ spec ∈ mechanism.domain?, spec ⊆ text := by
  obtain ⟨rest, drops, reads⟩ := Option.bind_eq_some_iff.mp reads
  rcases splits : splitLengths rest with ⟨front, ip4, ip6⟩
  rw [splits] at reads
  obtain ⟨domain, optional, same⟩ := Option.map_eq_some_iff.mp reads
  cases lengths : readLengths ip4 ip6 with
  | error failure =>
      rw [lengths] at same
      cases same
  | ok lengths =>
      rw [lengths] at same
      cases same
      rw [makes]
      obtain ⟨rfl, _⟩ := splitLengths_sound splits
      intro spec member c inside
      have infront := subset_of_readOptionalSpec? optional spec member inside
      exact (suffix_of_dropName? drops).subset (by simp [infront])

theorem subset_of_readMechanism? {text : Text} {mechanism : Mechanism}
    (reads : readMechanism? text = some (.ok mechanism)) :
    ∀ spec ∈ mechanism.domain?, spec ⊆ text := by
  simp only [readMechanism?, Option.orElse_eq_orElse, Option.orElse_eq_or,
    Option.or_eq_some_iff] at reads
  rcases reads with all | ⟨_, spec | ⟨_, a | ⟨_, mx | ⟨_, ptr | ⟨_, ip4 | ⟨_, ip6 | ⟨_, spec⟩⟩⟩⟩⟩⟩⟩
  · unfold readAll? at all
    split at all
    · cases all
      simp [Mechanism.domain?]
    · cases all
  · exact subset_of_readWithSpec? (fun _ => rfl) spec
  · exact subset_of_readWithLengths? (fun _ _ => rfl) a
  · exact subset_of_readWithLengths? (fun _ _ => rfl) mx
  · obtain ⟨domain, found, same⟩ := Option.map_eq_some_iff.mp ptr
    obtain ⟨rest, drops, optional⟩ := Option.bind_eq_some_iff.mp found
    cases same
    intro spec member
    exact List.Subset.trans (subset_of_readOptionalSpec? optional spec member)
      (suffix_of_dropName? drops).subset
  · obtain ⟨network, rfl⟩ := exists_of_readNetwork? ip4
    simp [Mechanism.domain?]
  · obtain ⟨network, rfl⟩ := exists_of_readNetwork? ip6
    simp [Mechanism.domain?]
  · exact subset_of_readWithSpec? (fun _ => rfl) spec

/-! ## Terms -/

theorem suffix_readQualifier (text : Text) : (readQualifier text).2 <:+ text := by
  cases text with
  | nil => exact List.suffix_refl _
  | cons c rest =>
      simp only [readQualifier]
      split
      · exact List.suffix_cons c rest
      · exact List.suffix_refl _

theorem Term.subset_of_read {text : Text} {term : Term} (reads : Term.read text = .ok term) :
    ∀ spec ∈ term.spec?, spec ⊆ text := by
  rw [Term.read_eq] at reads
  split at reads
  · rename_i outcome found
    cases outcome with
    | error failure => cases reads
    | ok modifier =>
        cases reads
        rintro spec member
        cases readModifier?_iff.mp found with
        | redirect _ _ =>
            cases member
            exact fun c inside => by simp [inside]
        | exp _ _ =>
            cases member
            exact fun c inside => by simp [inside]
        | unknown _ _ _ => cases member
  · split at reads
    · rename_i outcome found
      obtain ⟨inner, isMechanism, same⟩ := Option.map_eq_some_iff.mp found
      cases inner with
      | error failure =>
          cases same
          cases reads
      | ok mechanism =>
          cases same
          cases reads
          intro spec member
          exact List.Subset.trans (subset_of_readMechanism? isMechanism spec member)
            (suffix_readQualifier text).subset
    · cases reads

/-! ## Records -/

/-- The specifications of a record consist of characters of its text. -/
theorem subset_of_read {text : Text} {record : Record} (reads : read text = .ok record) :
    ∀ spec ∈ record.specs, spec ⊆ text := by
  simp only [read] at reads
  split at reads
  · cases reads
  · split at reads
    · obtain ⟨⟨terms, each, rfl⟩, _⟩ := readTerms_eq_ok_iff.mp reads
      have inText := (List.forall₂_and_left _ _).mpr
        ⟨fun piece => @subset_of_mem_termTexts text piece, each⟩
      have stands : List.Forall₂
          (fun term piece => (∀ spec ∈ term.spec?, spec ⊆ text) ∧ Term.read piece = .ok term)
          terms (termTexts text.trim) :=
        .flip (inText.imp fun piece term here => ⟨fun spec isSpec =>
          List.Subset.trans (Term.subset_of_read here.2 spec isSpec) here.1, here.2⟩)
      intro spec isSpec
      obtain ⟨term, isTerm, same⟩ := mem_specs_ofTerms.mp isSpec
      exact ((List.forall₂_and_left _ _).mp stands).1 term isTerm spec same
    · cases reads

end SenderPolicy.Record
