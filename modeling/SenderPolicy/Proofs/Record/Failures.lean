import SenderPolicy.Proofs.Record.Spelling

/-!
# What reading a record can fail with

A term fails by its own text: it is no term, its numbers or addresses are out of range, or a
reserved name or a second modifier of one kind stands where none may. It does not fail by what
has been recognised: some kind has always captured it, with all parts that the kind needs and
one of the signs of a qualifier. Text of the shape of an IPv4 literal denotes no address of the
other family.
-/

namespace SenderPolicy

/-- The failures that a term of a record can have. -/
inductive Failure.IsOfTerm : Failure → Prop where
  | notAnAddress (text : Text) : IsOfTerm (.notAnAddress text)
  | notIp6 (text : Text) : IsOfTerm (.wrongFamily .ip6 text)
  | notATerm (text : Text) : IsOfTerm (.notATerm text)
  | reservedModifier {name : Text} (reserved : Text.lower name ∈ Record.reservedNames) :
      IsOfTerm (.reservedModifier name)
  | repeatedModifier (name : Text) : IsOfTerm (.repeatedModifier name)
  | prefixLength (family : Family) (text : Text) : IsOfTerm (.prefixLength family text)

theorem Failure.IsOfTerm.code {failure : Failure} (ofTerm : failure.IsOfTerm) :
    failure.code = .permError := by
  cases ofTerm <;> rfl

/-- Whatever failure the outcome is, a term can have it. -/
def OnlyOfTerm {α : Type} (outcome : Except Failure α) : Prop :=
  ∀ failure, outcome = .error failure → failure.IsOfTerm

theorem onlyOfTerm_ok {α : Type} (value : α) : OnlyOfTerm (.ok value) :=
  fun _ failed => nomatch failed

theorem onlyOfTerm_error {α : Type} {failure : Failure} (ofTerm : failure.IsOfTerm) :
    OnlyOfTerm (.error failure : Except Failure α) := by
  rintro _ ⟨⟩
  exact ofTerm

theorem OnlyOfTerm.map {α β : Type} {outcome : Except Failure α} (f : α → β)
    (only : OnlyOfTerm outcome) : OnlyOfTerm (outcome.map f) := by
  cases outcome with
  | ok value => exact onlyOfTerm_ok _
  | error failure => exact onlyOfTerm_error (only failure rfl)

namespace Record

/-! ## Numbers and addresses -/

theorem onlyOfTerm_readLength (family : Family) (part : Option Text) :
    OnlyOfTerm (readLength family part) := by
  unfold readLength
  split
  · exact onlyOfTerm_ok _
  · split
    · split
      · exact onlyOfTerm_ok _
      · exact onlyOfTerm_error (.prefixLength _ _)
    · exact onlyOfTerm_error (.prefixLength _ _)

theorem onlyOfTerm_readLengths (first second : Option Text) :
    OnlyOfTerm (readLengths first second) := by
  unfold readLengths
  split
  · rename_i failure failed
    exact onlyOfTerm_error (onlyOfTerm_readLength _ _ failure failed)
  · exact (onlyOfTerm_readLength _ _).map _

/-- An address of the second family is not read without a colon. -/
theorem family_of_read? {text : Text} {address : Address} (read : Address.read? text = some address)
    (free : ':' ∉ text) : address.family = .ip4 := by
  simp only [Address.read?] at read
  split at read
  · exact (Address.of_ofCells? read).1
  · obtain ⟨cells, colons, _⟩ := Option.bind_eq_some_iff.mp read
    have colon := (Address.readColons?_eq_some_iff.mp colons).colon_mem
    exact absurd (Text.mem_of_mem_trim colon) free

theorem colon_not_mem_of_isAddressShape {text : Text} (shape : isAddressShape .ip4 text = true) :
    ':' ∉ text := by
  intro member
  simp only [isAddressShape, Bool.and_eq_true, List.all_eq_true] at shape
  rw [← Text.join_split '.' text] at member
  rcases Text.mem_of_mem_join member with same | ⟨octet, isOctet, inside⟩
  · cases same
  · have decimal := isDecimalDigit_of_isOctetShape (shape.2 octet isOctet) ':' inside
    exact absurd decimal (by decide)

theorem onlyOfTerm_readAddress {family : Family} {text : Text}
    (shape : isAddressShape family text = true) : OnlyOfTerm (readAddress family text) := by
  unfold readAddress Address.read
  cases read : Address.read? text with
  | none => exact onlyOfTerm_error (.notAnAddress _)
  | some address =>
      dsimp only
      split
      · exact onlyOfTerm_ok _
      · rename_i other
        cases family with
        | ip4 => exact absurd (family_of_read? read (colon_not_mem_of_isAddressShape shape)) other
        | ip6 => exact onlyOfTerm_error (.notIp6 _)

theorem onlyOfTerm_readNetworkParts {family : Family} {address : Text}
    (shape : isAddressShape family address = true) (part : Option Text) :
    OnlyOfTerm (readNetworkParts family address part) := by
  unfold readNetworkParts
  split
  · rename_i failure failed
    exact onlyOfTerm_error (onlyOfTerm_readLength _ _ failure failed)
  · exact (onlyOfTerm_readAddress shape).map _

/-! ## Mechanisms and modifiers -/

theorem onlyOfTerm_readWithSpec? {name text : Text} {make : Text → Mechanism}
    {outcome : Except Failure Mechanism} (reads : readWithSpec? name make text = some outcome) :
    OnlyOfTerm outcome := by
  obtain ⟨spec, _, rfl⟩ := Option.map_eq_some_iff.mp reads
  exact onlyOfTerm_ok _

theorem onlyOfTerm_readWithLengths? {name text : Text}
    {make : Option Text → PrefixLengths → Mechanism} {outcome : Except Failure Mechanism}
    (reads : readWithLengths? name make text = some outcome) : OnlyOfTerm outcome := by
  obtain ⟨rest, _, found⟩ := Option.bind_eq_some_iff.mp reads
  obtain ⟨spec, _, rfl⟩ := Option.map_eq_some_iff.mp found
  exact (onlyOfTerm_readLengths _ _).map _

theorem onlyOfTerm_readNetwork? {family : Family} {text : Text}
    {outcome : Except Failure Mechanism} (reads : readNetwork? family text = some outcome) :
    OnlyOfTerm outcome := by
  obtain ⟨rest, _, found⟩ := Option.bind_eq_some_iff.mp reads
  dsimp only at found
  split at found
  · rename_i shape
    cases found
    exact onlyOfTerm_readNetworkParts shape _
  · cases found

theorem onlyOfTerm_readMechanism? {text : Text} {outcome : Except Failure Mechanism}
    (reads : readMechanism? text = some outcome) : OnlyOfTerm outcome := by
  simp only [readMechanism?, Option.orElse_eq_orElse, Option.orElse_eq_or,
    Option.or_eq_some_iff] at reads
  rcases reads with all | ⟨_, spec | ⟨_, a | ⟨_, mx | ⟨_, ptr | ⟨_, ip4 | ⟨_, ip6 | ⟨_, spec⟩⟩⟩⟩⟩⟩⟩
  · unfold readAll? at all
    split at all
    · cases all
      exact onlyOfTerm_ok _
    · cases all
  · exact onlyOfTerm_readWithSpec? spec
  · exact onlyOfTerm_readWithLengths? a
  · exact onlyOfTerm_readWithLengths? mx
  · obtain ⟨domain, _, rfl⟩ := Option.map_eq_some_iff.mp ptr
    exact onlyOfTerm_ok _
  · exact onlyOfTerm_readNetwork? ip4
  · exact onlyOfTerm_readNetwork? ip6
  · exact onlyOfTerm_readWithSpec? spec

theorem onlyOfTerm_readModifier? {text : Text} {outcome : Except Failure Modifier}
    (reads : readModifier? text = some outcome) : OnlyOfTerm outcome := by
  obtain ⟨⟨name, value⟩, _, found⟩ := Option.bind_eq_some_iff.mp reads
  dsimp only at found
  split at found
  · cases found
    exact onlyOfTerm_ok _
  · split at found
    · cases found
      exact onlyOfTerm_ok _
    · split at found
      · split at found
        · rename_i reserved
          cases found
          exact onlyOfTerm_error (.reservedModifier (List.contains_iff_mem.mp reserved))
        · cases found
          exact onlyOfTerm_ok _
      · cases found

/-! ## Terms and records -/

theorem Term.onlyOfTerm_read (text : Text) : OnlyOfTerm (Term.read text) := by
  rw [Term.read_eq]
  split
  · rename_i outcome reads
    exact (onlyOfTerm_readModifier? reads).map _
  · split
    · rename_i outcome reads
      obtain ⟨mechanism, found, rfl⟩ := Option.map_eq_some_iff.mp reads
      exact ((onlyOfTerm_readMechanism? found).map _).map _
    · exact onlyOfTerm_error (.notATerm _)

theorem onlyOfTerm_readTerms (earlier : List Modifier) (texts : List Text) :
    OnlyOfTerm (readTerms earlier texts) := by
  induction texts generalizing earlier with
  | nil => exact onlyOfTerm_ok _
  | cons text texts inductionHypothesis =>
      unfold readTerms
      split
      · rename_i failure failed
        exact onlyOfTerm_error (Term.onlyOfTerm_read text failure failed)
      · exact (inductionHypothesis earlier).map _
      · rename_i modifier _
        split
        · exact onlyOfTerm_error (.repeatedModifier _)
        · exact (inductionHypothesis (modifier :: earlier)).map _

/-- The failures of whole records are those of their terms, and of their beginnings. -/
theorem failure_of_read {text : Text} {failure : Failure} (failed : read text = .error failure) :
    failure.IsOfTerm ∨ failure = .emptyRecord ∨ failure = .notARecord text := by
  simp only [read] at failed
  split at failed
  · cases failed
    exact .inr (.inl rfl)
  · split at failed
    · exact .inl (onlyOfTerm_readTerms _ _ failure failed)
    · cases failed
      exact .inr (.inr rfl)

end Record

end SenderPolicy
