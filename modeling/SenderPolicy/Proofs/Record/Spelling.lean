import SenderPolicy.Proofs.Address.Reading
import SenderPolicy.Proofs.Record.Lengths
import SenderPolicy.Proofs.Text.Ascii

/-!
# Readers and the grammar of terms

For ASCII text each reader of the parser gives exactly the terms that the grammar derives.
The readers are tried in order, so it has to be shown that those before the right one turn
the text down: the names of mechanisms differ, and what stands before the first equals sign
of a directive is not the name of a modifier.

Other text may hold a long `s`, which is read as an `s`, and digits of other rows, which fit
the shape of an octet. All that the grammar derives is read from text without a long `s`.
-/

namespace SenderPolicy.Record

/-! ## Names -/

/-- The long `s` is no ASCII character. -/
theorem longS_not_mem {text : Text} (ascii : text.isAscii = true) : 'ſ' ∉ text :=
  fun member => absurd (Text.ascii_of_mem ascii member) (by decide)

/-- Only the long `s` stands for another letter. -/
theorem isLetter_iff {letter c : Char} (plain : c ≠ 'ſ') :
    isLetter letter c = true ↔ c.toLower = letter := by
  simp [isLetter, plain]

theorem dropName?_eq_some_iff {name text rest : Text} (plain : 'ſ' ∉ text) :
    dropName? name text = some rest ↔ ∃ head, Text.lower head = name ∧ text = head ++ rest := by
  induction name generalizing text with
  | nil =>
      rw [dropName?]
      constructor
      · rintro ⟨⟩
        exact ⟨[], rfl, rfl⟩
      · rintro ⟨head, nothing, rfl⟩
        rw [List.map_eq_nil_iff.mp nothing]
        rfl
  | cons letter name inductionHypothesis =>
      cases text with
      | nil =>
          constructor
          · rintro ⟨⟩
          · rintro ⟨head, named, parts⟩
            obtain ⟨rfl, _⟩ := List.append_eq_nil_iff.mp parts.symm
            cases named
      | cons c text =>
          have here : c ≠ 'ſ' := fun same => plain (same ▸ List.mem_cons_self)
          have later : 'ſ' ∉ text := fun member => plain (List.mem_cons_of_mem _ member)
          rw [dropName?]
          constructor
          · intro dropped
            split at dropped
            · rename_i fits
              obtain ⟨head, named, rfl⟩ := (inductionHypothesis later).mp dropped
              refine ⟨c :: head, ?_, rfl⟩
              exact List.cons_eq_cons.mpr ⟨(isLetter_iff here).mp fits, named⟩
            · cases dropped
          · rintro ⟨head, named, parts⟩
            cases head with
            | nil => cases named
            | cons d head =>
                obtain ⟨rfl, rest⟩ := List.cons.inj parts
                obtain ⟨first, others⟩ := List.cons.inj named
                rw [if_pos ((isLetter_iff here).mpr first)]
                exact (inductionHypothesis later).mpr ⟨head, others, rest⟩

/-- A name that the lower-case text does not start with is not dropped. -/
theorem dropName?_eq_none {name text : Text} (plain : 'ſ' ∉ text)
    (apart : ¬ name <+: text.lower) : dropName? name text = none := by
  cases dropped : dropName? name text with
  | none => rfl
  | some rest =>
      obtain ⟨head, rfl, rfl⟩ := (dropName?_eq_some_iff plain).mp dropped
      exact absurd ⟨Text.lower rest, (Text.lower_append head rest).symm⟩ apart

/-! ## Addresses -/

theorem isOctetShape_ofNat : ∀ n < 256, isOctetShape (Text.ofNat n) = true := by
  decide +kernel

/-- The characters of text with the shape of an octet. -/
theorem isDecimalDigit_of_isOctetShape {text : Text} (shape : isOctetShape text = true) :
    ∀ c ∈ text, isDecimalDigit c = true := by
  have between : ∀ {c high : Char}, high ≤ '9' → '0' ≤ c → c ≤ high → isDecimalDigit c = true := by
    intro c high nine atLeast atMost
    apply isDecimalDigit_of_isDigit
    simp only [Char.isDigit, Bool.and_eq_true, decide_eq_true_eq]
    exact ⟨atLeast, Char.le_trans atMost nine⟩
  have positive : ∀ {c : Char}, '1' ≤ c → '0' ≤ c :=
    fun atLeast => Char.le_trans (by decide) atLeast
  unfold isOctetShape at shape
  split at shape
  · simpa using shape
  · simp only [Bool.and_eq_true, decide_eq_true_eq] at shape
    obtain ⟨⟨low, high⟩, units⟩ := shape
    simpa using ⟨between (by decide) (positive low) high, units⟩
  · simp only [Bool.and_eq_true] at shape
    simpa using ⟨by decide, shape⟩
  · simp only [Bool.and_eq_true, decide_eq_true_eq] at shape
    obtain ⟨low, high⟩ := shape
    simpa using ⟨by decide, by decide, between (by decide) low high⟩
  · simp only [Bool.and_eq_true, decide_eq_true_eq] at shape
    obtain ⟨⟨low, high⟩, units⟩ := shape
    simpa using ⟨by decide, between (by decide) low high, units⟩
  · cases shape

/-- Text of the shape of an address has no blanks and no slashes. -/
theorem apart_of_isAddressShape {family : Family} {text : Text}
    (shape : isAddressShape family text = true) :
    ∀ c ∈ text, isBlank c = false ∧ c ≠ '/' := by
  intro c member
  cases family with
  | ip4 =>
      simp only [isAddressShape, Bool.and_eq_true, List.all_eq_true] at shape
      rw [← Text.join_split '.' text] at member
      rcases Text.mem_of_mem_join member with same | ⟨octet, isOctet, inside⟩
      · exact Address.addressCharacter_apart (.inr (.inr same))
      · have decimal := isDecimalDigit_of_isOctetShape (shape.2 octet isOctet) c inside
        refine ⟨isBlank_of_isDecimalDigit decimal, ?_⟩
        rintro rfl
        exact absurd decimal (by decide)
  | ip6 =>
      simp only [isAddressShape, Bool.and_eq_true, List.all_eq_true, Bool.or_eq_true,
        beq_iff_eq] at shape
      exact Address.addressCharacter_apart (or_assoc.mp (shape.2 c member))

/-- A literal has the shape of an address of its family. -/
theorem isAddressShape_of_isLiteral {text : Text} {address : Address}
    (denotes : Address.IsLiteral text address) :
    isAddressShape address.family text = true := by
  unfold Address.IsLiteral at denotes
  cases family : address.family with
  | ip4 =>
      rw [family] at denotes
      have octets : ∀ octet ∈ address.cells.map Text.ofNat, isOctetShape octet = true := by
        intro octet member
        obtain ⟨n, isCell, rfl⟩ := List.mem_map.mp member
        exact isOctetShape_ofNat n (denotes.small n isCell)
      simp only [isAddressShape, denotes.split, List.length_map, denotes.count]
      simpa using octets
  | ip6 =>
      rw [family] at denotes
      have some : text ≠ [] := List.ne_nil_of_mem denotes.colon_mem
      simp only [isAddressShape, Bool.and_eq_true, List.all_eq_true, Bool.or_eq_true,
        beq_iff_eq, decide_eq_true_eq]
      exact ⟨some, fun c member => or_assoc.mpr (denotes.characters member)⟩

theorem readAddress_eq_ok_iff {family : Family} {text : Text} {address : Address}
    (clear : ∀ c ∈ text, isBlank c = false) :
    readAddress family text = .ok address
      ↔ address.family = family ∧ Address.IsLiteral text address := by
  rw [← Address.read?_eq_some_iff (Text.trim_of_free clear)]
  simp only [readAddress, Address.read]
  constructor
  · intro read
    split at read
    · cases read
    · rename_i found reads
      split at reads
      · rename_i known denotes
        cases reads
        split at read
        · rename_i same
          cases read
          exact ⟨same, denotes⟩
        · cases read
      · cases reads
  · rintro ⟨rfl, denotes⟩
    simp [denotes]

/-! ## Mechanisms -/

section
variable {text : Text} (plain : 'ſ' ∉ text)
include plain

theorem readAll?_iff {mechanism : Mechanism} :
    readAll? text = some (.ok mechanism)
      ↔ Text.lower text = "all".toList ∧ mechanism = .all := by
  unfold readAll?
  constructor
  · intro read
    split at read
    · rename_i dropped
      obtain ⟨head, named, rfl⟩ := (dropName?_eq_some_iff plain).mp dropped
      cases read
      exact ⟨by rw [List.append_nil, named], rfl⟩
    · cases read
  · rintro ⟨named, rfl⟩
    have dropped := (dropName?_eq_some_iff plain).mpr ⟨text, named, (List.append_nil _).symm⟩
    rw [if_pos dropped]

theorem readWithSpec?_iff {name : Text} {make : Text → Mechanism} {mechanism : Mechanism} :
    readWithSpec? name make text = some (.ok mechanism)
      ↔ ∃ head spec, Text.lower head = name ∧ Macro.IsDomainText spec
        ∧ text = head ++ ':' :: spec ∧ mechanism = make spec := by
  unfold readWithSpec?
  constructor
  · intro read
    obtain ⟨spec, found, made⟩ := Option.map_eq_some_iff.mp read
    obtain ⟨rest, dropped, reads⟩ := Option.bind_eq_some_iff.mp found
    obtain ⟨head, named, rfl⟩ := (dropName?_eq_some_iff plain).mp dropped
    obtain ⟨rfl, domain⟩ := readSpec?_eq_some_iff.mp reads
    cases made
    exact ⟨head, spec, named, domain, rfl, rfl⟩
  · rintro ⟨head, spec, named, domain, parts, rfl⟩
    rw [(dropName?_eq_some_iff plain).mpr ⟨head, named, parts⟩, Option.bind_some,
      readSpec?_eq_some_iff.mpr ⟨rfl, domain⟩]
    rfl

theorem readWithLengths?_iff {name : Text} {make : Option Text → PrefixLengths → Mechanism}
    {mechanism : Mechanism} :
    readWithLengths? name make text = some (.ok mechanism)
      ↔ ∃ head rest domain lengths, Text.lower head = name ∧ SpellsTarget rest domain lengths
        ∧ text = head ++ rest ∧ mechanism = make domain lengths := by
  unfold readWithLengths?
  constructor
  · intro read
    obtain ⟨rest, dropped, reads⟩ := Option.bind_eq_some_iff.mp read
    obtain ⟨head, named, rfl⟩ := (dropName?_eq_some_iff plain).mp dropped
    rcases splits : splitLengths rest with ⟨front, first, second⟩
    rw [splits] at reads
    obtain ⟨domain, optional, made⟩ := Option.map_eq_some_iff.mp reads
    cases counts : readLengths first second with
    | error failure =>
        rw [counts] at made
        cases made
    | ok lengths =>
        rw [counts] at made
        cases made
        have target := (readTarget_iff splits).mp ⟨optional, counts⟩
        exact ⟨head, rest, domain, lengths, named, target, rfl, rfl⟩
  · rintro ⟨head, rest, domain, lengths, named, target, parts, rfl⟩
    rcases splits : splitLengths rest with ⟨front, first, second⟩
    obtain ⟨optional, counts⟩ := (readTarget_iff splits).mpr target
    rw [(dropName?_eq_some_iff plain).mpr ⟨head, named, parts⟩, Option.bind_some]
    simp only [splits, optional, counts, Option.map_some]
    rfl

theorem readPtr?_iff {mechanism : Mechanism} :
    readPtr? text = some (.ok mechanism)
      ↔ ∃ head rest domain, Text.lower head = "ptr".toList ∧ SpellsDomain rest domain
        ∧ text = head ++ rest ∧ mechanism = .ptr domain := by
  unfold readPtr?
  constructor
  · intro read
    obtain ⟨domain, found, made⟩ := Option.map_eq_some_iff.mp read
    obtain ⟨rest, dropped, reads⟩ := Option.bind_eq_some_iff.mp found
    obtain ⟨head, named, rfl⟩ := (dropName?_eq_some_iff plain).mp dropped
    cases made
    exact ⟨head, rest, domain, named, readOptionalSpec?_eq_some_iff.mp reads, rfl, rfl⟩
  · rintro ⟨head, rest, domain, named, target, parts, rfl⟩
    rw [(dropName?_eq_some_iff plain).mpr ⟨head, named, parts⟩, Option.bind_some,
      readOptionalSpec?_eq_some_iff.mpr target]
    rfl

theorem readNetwork?_complete {head literal rest : Text} {address : Address} {length : Nat}
    (named : Text.lower head = address.family.title.lower)
    (denotes : Address.IsLiteral literal address)
    (counts : SpellsLength address.family ['/'] rest length)
    (parts : text = head ++ ':' :: (literal ++ rest)) :
    readNetwork? address.family text
      = some (.ok (.network (Network.ofAddress address length))) := by
  obtain ⟨part, rfl, shapes, counted⟩ := exists_of_spellsLength counts
  have dropped : dropName? (address.family.title.lower ++ [':']) text
      = some (literal ++ marked ['/'] part) := by
    refine (dropName?_eq_some_iff plain).mpr ⟨head ++ [':'], ?_, by simp [parts]⟩
    rw [Text.lower_append, named]
    rfl
  have shape := isAddressShape_of_isLiteral denotes
  have apart := Address.apart_of_isLiteral denotes
  have endsApart := endsApart_of_free fun member => (apart '/' member).2 rfl
  have splits := splitLength_marked endsApart shapes
  have found := (readAddress_eq_ok_iff fun c member => (apart c member).1).mpr ⟨rfl, denotes⟩
  simp only [readNetwork?, dropped, Option.bind_some, splits, shape, if_true, readNetworkParts,
    counted, found]
  rfl

end

theorem readNetwork?_sound {text : Text} (ascii : text.isAscii = true) {family : Family}
    {mechanism : Mechanism} (read : readNetwork? family text = some (.ok mechanism)) :
    SpellsMechanism text mechanism := by
  obtain ⟨rest, dropped, reads⟩ := Option.bind_eq_some_iff.mp read
  obtain ⟨opening, named, rfl⟩ := (dropName?_eq_some_iff (longS_not_mem ascii)).mp dropped
  obtain ⟨head, colon, rfl, namedHead, isColon⟩ := List.map_eq_append_iff.mp named
  obtain ⟨mark, rfl, lowered⟩ := List.map_eq_singleton_iff.mp isColon
  obtain rfl := eq_of_toLower lowered (by decide)
  rcases splits : splitLength rest with ⟨literal, part⟩
  rw [splits] at reads
  obtain ⟨rfl, shapes⟩ := splitLength_sound splits
  dsimp only at reads
  split at reads
  · rename_i shape
    have apart := apart_of_isAddressShape shape
    unfold readNetworkParts at reads
    cases counted : readLength family part with
    | error failure =>
        rw [counted] at reads
        cases reads
    | ok length =>
        cases found : readAddress family literal with
        | error failure =>
            rw [counted, found] at reads
            cases reads
        | ok address =>
            rw [counted, found] at reads
            cases reads
            obtain ⟨rfl, denotes⟩ :=
              (readAddress_eq_ok_iff fun c member => (apart c member).1).mp found
            have spelled := SpellsMechanism.network namedHead denotes
              (spellsLength_of_readLength shapes counted _)
            simpa using spelled
  · cases reads

theorem title_ip4 : Family.ip4.title.lower = "ip4".toList := by decide

theorem title_ip6 : Family.ip6.title.lower = "ip6".toList := by decide

/-- What follows a name begins with a colon or a slash. -/
theorem head?_of_spellsTarget {rest : Text} {domain : Option Text} {lengths : PrefixLengths}
    (target : SpellsTarget rest domain lengths) :
    rest = [] ∨ ∃ c after, rest = c :: after ∧ (c = ':' ∨ c = '/') := by
  obtain ⟨named, first, second⟩ := target
  cases named with
  | present domain => exact .inr ⟨':', _, rfl, .inl rfl⟩
  | absent =>
      cases first with
      | present bounded => exact .inr ⟨'/', _, rfl, .inr rfl⟩
      | absent =>
          cases second with
          | present bounded => exact .inr ⟨'/', _, rfl, .inr rfl⟩
          | absent => exact .inl rfl

section
variable {text : Text} (plain : 'ſ' ∉ text)
include plain

theorem readAll?_eq_none (apart : ¬ "all".toList <+: text.lower) : readAll? text = none := by
  rw [readAll?, dropName?_eq_none plain apart]
  rfl

theorem readWithSpec?_eq_none {name : Text} (make : Text → Mechanism)
    (apart : ¬ name <+: text.lower) : readWithSpec? name make text = none := by
  rw [readWithSpec?, dropName?_eq_none plain apart]
  rfl

theorem readWithLengths?_eq_none {name : Text}
    (make : Option Text → PrefixLengths → Mechanism) (apart : ¬ name <+: text.lower) :
    readWithLengths? name make text = none := by
  rw [readWithLengths?, dropName?_eq_none plain apart]
  rfl

theorem readPtr?_eq_none (apart : ¬ "ptr".toList <+: text.lower) : readPtr? text = none := by
  rw [readPtr?, dropName?_eq_none plain apart]
  rfl

theorem readNetwork?_eq_none {family : Family}
    (apart : ¬ family.title.lower ++ [':'] <+: text.lower) : readNetwork? family text = none := by
  rw [readNetwork?, dropName?_eq_none plain apart]
  rfl

/-- Text that begins with no name of these is left to the readers of the others. -/
theorem readMechanism?_of_apart
    (apart : ∀ name ∈ ["all".toList, "include".toList, "a".toList, "mx".toList, "ptr".toList],
      ¬ name <+: text.lower) :
    readMechanism? text
      = ((readNetwork? .ip4 text).or
        ((readNetwork? .ip6 text).or (readWithSpec? "exists".toList .exists text))) := by
  simp only [List.forall_mem_cons] at apart
  obtain ⟨noAll, noInclude, noA, noMx, noPtr, _⟩ := apart
  simp only [readMechanism?, Option.orElse_eq_orElse, Option.orElse_eq_or]
  rw [readAll?_eq_none plain noAll, readWithSpec?_eq_none plain _ noInclude,
    readWithLengths?_eq_none plain _ noA, readWithLengths?_eq_none plain _ noMx,
    readPtr?_eq_none plain noPtr]
  simp only [Option.none_or]

/-- The readers before the one of a mechanism turn its text down. -/
theorem readMechanism?_complete {mechanism : Mechanism}
    (spelled : SpellsMechanism text mechanism) :
    readMechanism? text = some (.ok mechanism) := by
  cases spelled with
  | all named =>
      simp only [readMechanism?, Option.orElse_eq_orElse, Option.orElse_eq_or]
      rw [(readAll?_iff plain).mpr ⟨named, rfl⟩, Option.some_or]
  | @«include» name spec named domain =>
      have lower : Text.lower (name ++ ':' :: spec)
          = "include".toList ++ Text.lower (':' :: spec) := by
        rw [Text.lower_append, named]
      simp only [readMechanism?, Option.orElse_eq_orElse, Option.orElse_eq_or]
      rw [readAll?_eq_none plain (by simp [lower]), Option.none_or,
        (readWithSpec?_iff plain).mpr ⟨name, spec, named, domain, rfl, rfl⟩, Option.some_or]
  | @a name rest domain lengths named target =>
      have lower : Text.lower (name ++ rest) = "a".toList ++ Text.lower rest := by
        rw [Text.lower_append, named]
      have apart : ¬ "all".toList <+: Text.lower (name ++ rest) := by
        rw [lower]
        rcases head?_of_spellsTarget target with rfl | ⟨c, after, rfl, rfl | rfl⟩
        · simp [Text.lower]
        · simp [Text.lower]
        · simp [Text.lower]
      simp only [readMechanism?, Option.orElse_eq_orElse, Option.orElse_eq_or]
      rw [readAll?_eq_none plain apart, Option.none_or,
        readWithSpec?_eq_none plain _ (by simp [lower]), Option.none_or,
        (readWithLengths?_iff plain).mpr
          ⟨name, rest, domain, lengths, named, target, rfl, rfl⟩, Option.some_or]
  | @mx name rest domain lengths named target =>
      have lower : Text.lower (name ++ rest) = "mx".toList ++ Text.lower rest := by
        rw [Text.lower_append, named]
      simp only [readMechanism?, Option.orElse_eq_orElse, Option.orElse_eq_or]
      rw [readAll?_eq_none plain (by simp [lower]), Option.none_or,
        readWithSpec?_eq_none plain _ (by simp [lower]), Option.none_or,
        readWithLengths?_eq_none plain _ (by simp [lower]), Option.none_or,
        (readWithLengths?_iff plain).mpr
          ⟨name, rest, domain, lengths, named, target, rfl, rfl⟩, Option.some_or]
  | @ptr name rest domain named target =>
      have lower : Text.lower (name ++ rest) = "ptr".toList ++ Text.lower rest := by
        rw [Text.lower_append, named]
      simp only [readMechanism?, Option.orElse_eq_orElse, Option.orElse_eq_or]
      rw [readAll?_eq_none plain (by simp [lower]), Option.none_or,
        readWithSpec?_eq_none plain _ (by simp [lower]), Option.none_or,
        readWithLengths?_eq_none plain _ (by simp [lower]), Option.none_or,
        readWithLengths?_eq_none plain _ (by simp [lower]), Option.none_or,
        (readPtr?_iff plain).mpr ⟨name, rest, domain, named, target, rfl, rfl⟩, Option.some_or]
  | @network name literal rest address length named denotes counts =>
      have read : ∀ family, address.family = family →
          readNetwork? family (name ++ ':' :: (literal ++ rest))
            = some (.ok (.network (Network.ofAddress address length))) := by
        rintro family rfl
        exact readNetwork?_complete plain named denotes counts rfl
      have lower : Text.lower (name ++ ':' :: (literal ++ rest))
          = address.family.title.lower ++ ':' :: Text.lower (literal ++ rest) := by
        rw [Text.lower_append, named]
        rfl
      cases family : address.family with
      | ip4 =>
          rw [family, title_ip4] at lower
          rw [readMechanism?_of_apart plain (by simp [lower]), read .ip4 family, Option.some_or]
      | ip6 =>
          rw [family, title_ip6] at lower
          rw [readMechanism?_of_apart plain (by simp [lower]),
            readNetwork?_eq_none plain (by rw [title_ip4, lower]; simp), Option.none_or,
            read .ip6 family, Option.some_or]
  | @«exists» name spec named domain =>
      have lower : Text.lower (name ++ ':' :: spec)
          = "exists".toList ++ Text.lower (':' :: spec) := by
        rw [Text.lower_append, named]
      rw [readMechanism?_of_apart plain (by simp [lower]),
        readNetwork?_eq_none plain (by rw [title_ip4, lower]; simp), Option.none_or,
        readNetwork?_eq_none plain (by rw [title_ip6, lower]; simp), Option.none_or,
        (readWithSpec?_iff plain).mpr ⟨name, spec, named, domain, rfl, rfl⟩]

end

/-- The readers give the mechanisms of the grammar and no others. -/
theorem readMechanism?_sound {text : Text} (ascii : text.isAscii = true) {mechanism : Mechanism}
    (read : readMechanism? text = some (.ok mechanism)) : SpellsMechanism text mechanism := by
  have plain := longS_not_mem ascii
  simp only [readMechanism?, Option.orElse_eq_orElse, Option.orElse_eq_or,
    Option.or_eq_some_iff] at read
  rcases read with all | ⟨_, spec | ⟨_, a | ⟨_, mx | ⟨_, ptr | ⟨_, ip4 | ⟨_, ip6 | ⟨_, spec⟩⟩⟩⟩⟩⟩⟩
  · obtain ⟨named, rfl⟩ := (readAll?_iff plain).mp all
    exact .all named
  · obtain ⟨head, spec, named, domain, rfl, rfl⟩ := (readWithSpec?_iff plain).mp spec
    exact .include named domain
  · obtain ⟨head, rest, domain, lengths, named, target, rfl, rfl⟩ :=
      (readWithLengths?_iff plain).mp a
    exact .a named target
  · obtain ⟨head, rest, domain, lengths, named, target, rfl, rfl⟩ :=
      (readWithLengths?_iff plain).mp mx
    exact .mx named target
  · obtain ⟨head, rest, domain, named, target, rfl, rfl⟩ := (readPtr?_iff plain).mp ptr
    exact .ptr named target
  · exact readNetwork?_sound ascii ip4
  · exact readNetwork?_sound ascii ip6
  · obtain ⟨head, spec, named, domain, rfl, rfl⟩ := (readWithSpec?_iff plain).mp spec
    exact .exists named domain

end SenderPolicy.Record
