import SenderPolicy.Proofs.Macro.Matching
import SenderPolicy.Proofs.Record.Proper

/-!
# Characters outside ASCII in records

A record that is read can hold two kinds of characters outside ASCII: the long `s`, which is
read as an `s` of the name `exists`, and the digits of other rows within cells. No other name
has an `s`, prefix lengths and addresses are numbers in ASCII digits, and all other characters
of macro text are visible ASCII characters.
-/

namespace SenderPolicy.Record

/-! ## Names -/

/-- Characters that are read as the letters of a name. -/
def SpellsName (name head : Text) : Prop :=
  List.Forall₂ (fun letter c => isLetter letter c = true) name head

theorem exists_of_dropName? {name text rest : Text} (dropped : dropName? name text = some rest) :
    ∃ head, SpellsName name head ∧ text = head ++ rest := by
  induction name generalizing text with
  | nil =>
      cases dropped
      exact ⟨[], .nil, rfl⟩
  | cons letter name inductionHypothesis =>
      cases text with
      | nil => cases dropped
      | cons c text =>
          unfold dropName? at dropped
          split at dropped
          · rename_i fits
            obtain ⟨head, named, rfl⟩ := inductionHypothesis dropped
            exact ⟨c :: head, .cons fits named, rfl⟩
          · cases dropped

theorem SpellsName.exists_letter {name head : Text} (named : SpellsName name head) {c : Char}
    (member : c ∈ head) : ∃ letter ∈ name, isLetter letter c = true := by
  induction named with
  | nil => cases member
  | @cons letter first name head fits _ inductionHypothesis =>
      rcases List.mem_cons.mp member with rfl | later
      · exact ⟨letter, List.mem_cons_self, fits⟩
      · obtain ⟨other, isLetter, fits⟩ := inductionHypothesis later
        exact ⟨other, List.mem_cons_of_mem _ isLetter, fits⟩

/-- Lower case keeps characters outside ASCII as they are. -/
theorem toNat_lt_of_toLower {c : Char} (ascii : c.toLower.toNat < 128) : c.toNat < 128 := by
  by_cases upper : c.isUpper = true
  · have letter : c.isAlpha = true := (Bool.or_eq_true ..).mpr (.inl upper)
    exact toNat_lt_of_isAlphanum ((Bool.or_eq_true ..).mpr (.inl letter))
  · rwa [toLower_of_not_isUpper upper] at ascii

theorem isAscii_of_lower {text : Text} (ascii : text.lower.isAscii = true) :
    text.isAscii = true := by
  refine List.all_eq_true.mpr fun c member => decide_eq_true (toNat_lt_of_toLower ?_)
  exact Text.ascii_of_mem ascii (List.mem_map_of_mem member)

/-- The only character outside ASCII that is read as an ASCII letter is the long `s`. -/
theorem isLetter_cases {letter c : Char} (ascii : letter.toNat < 128)
    (fits : isLetter letter c = true) : c.toNat < 128 ∨ letter = 's' ∧ c = 'ſ' := by
  simp only [isLetter, Bool.or_eq_true, beq_iff_eq, Bool.and_eq_true] at fits
  rcases fits with same | long
  · exact .inl (toNat_lt_of_toLower (same ▸ ascii))
  · exact .inr long

theorem isAscii_of_spellsName {name head : Text} (named : SpellsName name head)
    (ascii : name.isAscii = true) (noS : 's' ∉ name) : head.isAscii = true := by
  refine List.all_eq_true.mpr fun c member => decide_eq_true ?_
  obtain ⟨letter, isLetter, fits⟩ := named.exists_letter member
  rcases isLetter_cases (Text.ascii_of_mem ascii isLetter) fits with here | ⟨rfl, _⟩
  · exact here
  · exact absurd isLetter noS

/-! ## Strays -/

/-- What may stand in front of a mechanism: nothing, or the sign of a qualifier. -/
def IsSign (text : Text) : Prop :=
  text = [] ∨ ∃ qualifier : Qualifier, text = [qualifier.sign]

/-- The ways in which a character outside ASCII can stand between others. -/
inductive IsStray : Text → Char → Text → Prop where
  /-- After a space and possibly a sign, it is read as an `s` of the name `exists`. -/
  | longS {front sign opened closed rest : Text}
      (signed : IsSign sign)
      (named : SpellsName "exists".toList (opened ++ 'ſ' :: closed)) :
      IsStray (front ++ ' ' :: (sign ++ opened)) 'ſ' (closed ++ ':' :: rest)
  /-- It is one of the digits of a cell. -/
  | digit {front digits more reversal delimiters rest : Text} {mark c : Char}
      (marked : (Macro.Letter.ofSymbol? mark.toLower).isSome = true)
      (areDigits : ∀ d ∈ digits ++ c :: more, isDecimalDigit d = true)
      (shape : reversal = [] ∨ reversal = ['r'])
      (areDelimiters : ∀ d ∈ delimiters, Macro.isDelimiter d = true) :
      IsStray (front ++ '%' :: '{' :: mark :: digits) c
        (more ++ reversal ++ delimiters ++ '}' :: rest)

/-- What a character is does not depend on what stands further away. -/
theorem IsStray.extend {before after : Text} {c : Char} (stray : IsStray before c after)
    (front back : Text) : IsStray (front ++ before) c (after ++ back) := by
  cases stray with
  | @longS inner sign opened closed rest signed named =>
      have extended : IsStray ((front ++ inner) ++ ' ' :: (sign ++ opened)) 'ſ'
          (closed ++ ':' :: (rest ++ back)) := .longS signed named
      simpa using extended
  | @digit inner digits more reversal delimiters rest mark c marked areDigits shape
      areDelimiters =>
      have extended : IsStray ((front ++ inner) ++ '%' :: '{' :: mark :: digits) c
          (more ++ reversal ++ delimiters ++ '}' :: (rest ++ back)) :=
        .digit marked areDigits shape areDelimiters
      simpa using extended

/-- Every character outside ASCII is one of these. -/
def HasOnlyStrays (text : Text) : Prop :=
  ∀ before c after, text = before ++ c :: after → ¬ c.toNat < 128 → IsStray before c after

theorem hasOnlyStrays_of_isAscii {text : Text} (ascii : text.isAscii = true) :
    HasOnlyStrays text := by
  rintro before c after rfl beyond
  exact absurd (Text.ascii_of_mem ascii (by simp)) beyond

theorem HasOnlyStrays.append {left right : Text} (first : HasOnlyStrays left)
    (second : HasOnlyStrays right) : HasOnlyStrays (left ++ right) := by
  intro before c after parts beyond
  rcases List.append_eq_append_iff.mp parts with ⟨inner, rfl, later⟩ | ⟨inner, rfl, later⟩
  · simpa using (second inner c after later beyond).extend left []
  · cases inner with
    | nil => simpa using (second [] c after later.symm beyond).extend before []
    | cons d inner =>
        obtain ⟨rfl, rfl⟩ := List.cons.inj later
        exact (first before c inner rfl beyond).extend [] right

theorem hasOnlyStrays_flatMap {α : Type} {text : α → Text} {items : List α}
    (each : ∀ item ∈ items, HasOnlyStrays (text item)) : HasOnlyStrays (items.flatMap text) := by
  induction items with
  | nil => exact hasOnlyStrays_of_isAscii rfl
  | cons item items inductionHypothesis =>
      obtain ⟨first, others⟩ := List.forall_mem_cons.mp each
      exact first.append (inductionHypothesis others)

/-- A character that is on neither side stands in the middle. -/
theorem exists_of_middle {lead row tail before after : Text} {c : Char}
    (parts : lead ++ row ++ tail = before ++ c :: after) (notLead : c ∉ lead)
    (notTail : c ∉ tail) :
    ∃ opened closed, row = opened ++ c :: closed ∧ before = lead ++ opened
      ∧ after = closed ++ tail := by
  induction lead generalizing before with
  | nil =>
      rcases List.append_eq_append_iff.mp parts with ⟨inner, rfl, later⟩ | ⟨inner, same, later⟩
      · exact absurd (by simp [later]) notTail
      · cases inner with
        | nil =>
            have isTail : c :: after = tail := later
            exact absurd (isTail ▸ List.mem_cons_self) notTail
        | cons d inner =>
            obtain ⟨rfl, rfl⟩ := List.cons.inj later
            exact ⟨before, inner, same, rfl, rfl⟩
  | cons first lead inductionHypothesis =>
      obtain ⟨notFirst, notLater⟩ := not_or.mp (List.mem_cons.not.mp notLead)
      cases before with
      | nil => exact absurd (List.cons.inj parts).1.symm notFirst
      | cons d before =>
          obtain ⟨rfl, later⟩ := List.cons.inj parts
          obtain ⟨opened, closed, rfl, rfl, rfl⟩ := inductionHypothesis later notLater
          exact ⟨opened, closed, rfl, rfl, rfl⟩

/-! ## Macro text -/

theorem isAscii_of_isLiteral {text : Text} (literal : ∀ c ∈ text, Macro.isLiteral c = true) :
    text.isAscii = true :=
  List.all_eq_true.mpr fun c member =>
    decide_eq_true (toNat_lt_of_isGraphic (Macro.isGraphic_of_isLiteral (literal c member)))

/-- A cell's letter and its delimiters are ASCII characters. -/
theorem hasOnlyStrays_cell {found : Macro.Cell}
    (plain : Macro.IsTransformers found.transformers) :
    HasOnlyStrays (Macro.Token.text (.cell found)) := by
  obtain ⟨letter, encoded, transformers⟩ := found
  obtain ⟨digits, reversal, delimiters, rfl, areDigits, shape, areDelimiters⟩ := plain
  generalize isMark : (if encoded then letter.symbol.toUpper else letter.symbol) = mark
  obtain ⟨asciiMark, marked⟩ :
      mark.toNat < 128 ∧ (Macro.Letter.ofSymbol? mark.toLower).isSome = true := by
    rw [← isMark]
    cases letter <;> cases encoded <;> decide
  have asciiLead : Text.isAscii ['%', '{', mark] = true := by simp [Text.isAscii, asciiMark]
  have asciiTail : Text.isAscii (reversal ++ delimiters ++ ['}']) = true := by
    refine Text.isAscii_append.mpr ⟨Text.isAscii_append.mpr ⟨?_, ?_⟩, rfl⟩
    · rcases shape with rfl | rfl <;> rfl
    · refine List.all_eq_true.mpr fun c member => decide_eq_true ?_
      have delimiter := areDelimiters c member
      simp only [Macro.isDelimiter, Bool.or_eq_true, beq_iff_eq] at delimiter
      rcases delimiter with (((((rfl | rfl) | rfl) | rfl) | rfl) | rfl) | rfl <;> decide
  intro before c after parts beyond
  have whole : ['%', '{', mark] ++ digits ++ (reversal ++ delimiters ++ ['}'])
      = before ++ c :: after := by
    rw [← parts, ← isMark]
    simp [Macro.Token.text, Macro.Cell.text]
  have notLead : c ∉ ['%', '{', mark] :=
    fun member => beyond (Text.ascii_of_mem asciiLead member)
  have notTail : c ∉ reversal ++ delimiters ++ ['}'] :=
    fun member => beyond (Text.ascii_of_mem asciiTail member)
  obtain ⟨opened, closed, rfl, rfl, rfl⟩ := exists_of_middle whole notLead notTail
  have stray : IsStray ([] ++ '%' :: '{' :: mark :: opened) c
      (closed ++ reversal ++ delimiters ++ '}' :: []) :=
    .digit marked areDigits shape areDelimiters
  simpa using stray

theorem hasOnlyStrays_token {token : Macro.Token} (plain : token.IsPlain) :
    HasOnlyStrays token.text := by
  cases token with
  | literal c =>
      exact hasOnlyStrays_of_isAscii (isAscii_of_isLiteral (List.forall_mem_singleton.mpr plain))
  | percent => exact hasOnlyStrays_of_isAscii rfl
  | space => exact hasOnlyStrays_of_isAscii rfl
  | encodedSpace => exact hasOnlyStrays_of_isAscii rfl
  | cell found => exact hasOnlyStrays_cell plain

theorem hasOnlyStrays_textOf {tokens : List Macro.Token} (plain : Macro.ArePlain tokens) :
    HasOnlyStrays (Macro.textOf tokens) :=
  hasOnlyStrays_flatMap fun token member => hasOnlyStrays_token (plain token member)

theorem hasOnlyStrays_of_isDomainText {spec : Text} (domain : Macro.IsDomainText spec) :
    HasOnlyStrays spec := by
  obtain ⟨tokens, ending, plain, isEnding, rfl⟩ := domain
  refine (hasOnlyStrays_textOf plain).append ?_
  cases isEnding with
  | label top =>
      have ascii := isAscii_of_isLiteral (Macro.isLiteral_of_mem_label top)
      exact hasOnlyStrays_of_isAscii ascii
  | dotted top =>
      have ascii := isAscii_of_isLiteral (Macro.isLiteral_of_mem_label top)
      exact hasOnlyStrays_of_isAscii (Text.isAscii_append.mpr ⟨ascii, rfl⟩)
  | expansion plain _ => exact hasOnlyStrays_token plain

/-! ## Mechanisms -/

theorem hasOnlyStrays_of_spellsDomain {text : Text} {domain : Option Text}
    (spelled : SpellsDomain text domain) : HasOnlyStrays text := by
  cases spelled with
  | absent => exact hasOnlyStrays_of_isAscii rfl
  | @present spec named =>
      have colon : HasOnlyStrays [':'] := hasOnlyStrays_of_isAscii rfl
      exact colon.append (hasOnlyStrays_of_isDomainText named)

theorem isAscii_of_spellsLength {family : Family} {marks text : Text} {length : Nat}
    (spelled : SpellsLength family marks text length) (ascii : marks.isAscii = true) :
    text.isAscii = true := by
  cases spelled with
  | absent => rfl
  | present bounded =>
      refine Text.isAscii_append.mpr ⟨ascii, List.all_eq_true.mpr fun c member => ?_⟩
      exact decide_eq_true (toNat_lt_of_isDigit (Text.isDigit_of_mem_ofNat member))

theorem hasOnlyStrays_of_spellsTarget {text : Text} {domain : Option Text}
    {lengths : PrefixLengths} (target : SpellsTarget text domain lengths) :
    HasOnlyStrays text := by
  obtain ⟨named, first, second⟩ := target
  have asciiFirst := isAscii_of_spellsLength first rfl
  have asciiSecond := isAscii_of_spellsLength second rfl
  exact ((hasOnlyStrays_of_spellsDomain named).append (hasOnlyStrays_of_isAscii asciiFirst)).append
    (hasOnlyStrays_of_isAscii asciiSecond)

/-- An address is read from ASCII text, although the shape of an octet allows other digits. -/
theorem isAscii_of_readAddress {family : Family} {text : Text} {address : Address}
    (shape : isAddressShape family text = true) (read : readAddress family text = .ok address) :
    text.isAscii = true := by
  have apart := apart_of_isAddressShape shape
  obtain ⟨_, denotes⟩ := (readAddress_eq_ok_iff fun c member => (apart c member).1).mp read
  refine List.all_eq_true.mpr fun c member => decide_eq_true ?_
  exact toNat_lt_of_isGraphic
    (Address.isGraphic_of_addressCharacter (Address.characters_of_isLiteral denotes c member)).1

theorem hasOnlyStrays_of_readNetwork? {family : Family} {text : Text} {mechanism : Mechanism}
    (read : readNetwork? family text = some (.ok mechanism)) : HasOnlyStrays text := by
  obtain ⟨rest, dropped, reads⟩ := Option.bind_eq_some_iff.mp read
  obtain ⟨head, named, rfl⟩ := exists_of_dropName? dropped
  have asciiHead : head.isAscii = true := by
    cases family <;> exact isAscii_of_spellsName named (by decide) (by decide)
  rcases splits : splitLength rest with ⟨literal, part⟩
  rw [splits] at reads
  obtain ⟨rfl, shapes⟩ := splitLength_sound splits
  dsimp only at reads
  split at reads
  · rename_i shape
    unfold readNetworkParts at reads
    cases counted : readLength family part with
    | error failure =>
        rw [counted] at reads
        cases reads
    | ok length =>
        cases found : readAddress family literal with
        | error failure =>
            rw [counted, found] at reads
            cases reads
        | ok address =>
            have asciiPart :=
              isAscii_of_spellsLength (spellsLength_of_readLength shapes counted ['/']) rfl
            have asciiLiteral := isAscii_of_readAddress shape found
            exact hasOnlyStrays_of_isAscii (Text.isAscii_append.mpr
              ⟨asciiHead, Text.isAscii_append.mpr ⟨asciiLiteral, asciiPart⟩⟩)
  · cases reads

theorem hasOnlyStrays_of_readWithSpec? {name text : Text} {make : Text → Mechanism}
    {mechanism : Mechanism} (read : readWithSpec? name make text = some (.ok mechanism))
    (ascii : name.isAscii = true) (noS : 's' ∉ name) : HasOnlyStrays text := by
  obtain ⟨spec, found, _⟩ := Option.map_eq_some_iff.mp read
  obtain ⟨rest, dropped, reads⟩ := Option.bind_eq_some_iff.mp found
  obtain ⟨head, named, rfl⟩ := exists_of_dropName? dropped
  obtain ⟨rfl, domain⟩ := readSpec?_eq_some_iff.mp reads
  have asciiHead := isAscii_of_spellsName named ascii noS
  exact (hasOnlyStrays_of_isAscii asciiHead).append
    (hasOnlyStrays_of_spellsDomain (.present domain))

theorem hasOnlyStrays_of_readWithLengths? {name text : Text}
    {make : Option Text → PrefixLengths → Mechanism} {mechanism : Mechanism}
    (read : readWithLengths? name make text = some (.ok mechanism))
    (ascii : name.isAscii = true) (noS : 's' ∉ name) : HasOnlyStrays text := by
  obtain ⟨rest, dropped, reads⟩ := Option.bind_eq_some_iff.mp read
  obtain ⟨head, named, rfl⟩ := exists_of_dropName? dropped
  rcases splits : splitLengths rest with ⟨front, first, second⟩
  rw [splits] at reads
  obtain ⟨domain, optional, made⟩ := Option.map_eq_some_iff.mp reads
  cases counts : readLengths first second with
  | error failure =>
      rw [counts] at made
      cases made
  | ok lengths =>
      have target := (readTarget_iff splits).mp ⟨optional, counts⟩
      have asciiHead := isAscii_of_spellsName named ascii noS
      exact (hasOnlyStrays_of_isAscii asciiHead).append (hasOnlyStrays_of_spellsTarget target)

theorem isAscii_space_sign {sign : Text} (signed : IsSign sign) :
    Text.isAscii (' ' :: sign) = true := by
  rcases signed with rfl | ⟨qualifier, rfl⟩
  · rfl
  · cases qualifier <;> rfl

/-- In the name `exists` each long `s` is read as an `s`. -/
theorem hasOnlyStrays_of_readExists? {text sign : Text} {mechanism : Mechanism}
    (read : readWithSpec? "exists".toList .exists text = some (.ok mechanism))
    (signed : IsSign sign) :
    HasOnlyStrays (' ' :: (sign ++ text)) := by
  obtain ⟨spec, found, _⟩ := Option.map_eq_some_iff.mp read
  obtain ⟨rest, dropped, reads⟩ := Option.bind_eq_some_iff.mp found
  obtain ⟨head, named, rfl⟩ := exists_of_dropName? dropped
  obtain ⟨rfl, domain⟩ := readSpec?_eq_some_iff.mp reads
  have asciiSign := isAscii_space_sign signed
  have name : HasOnlyStrays (' ' :: sign ++ head ++ [':']) := by
    intro before c after parts beyond
    have notSign : c ∉ ' ' :: sign := fun member => beyond (Text.ascii_of_mem asciiSign member)
    have notColon : c ∉ [':'] := by
      rintro member
      obtain rfl := List.mem_singleton.mp member
      exact beyond (by decide)
    obtain ⟨opened, closed, rfl, rfl, rfl⟩ := exists_of_middle parts notSign notColon
    obtain ⟨letter, isLetter, fits⟩ := named.exists_letter (c := c) (by simp)
    have ascii : Text.isAscii "exists".toList = true := by decide
    rcases isLetter_cases (Text.ascii_of_mem ascii isLetter) fits with here | ⟨_, rfl⟩
    · exact absurd here beyond
    · have stray : IsStray ([] ++ ' ' :: (sign ++ opened)) 'ſ' (closed ++ ':' :: []) :=
        .longS signed named
      exact stray
  have whole := name.append (hasOnlyStrays_of_isDomainText domain)
  simpa using whole

/-- The mechanism's text follows a space and possibly a sign. -/
theorem hasOnlyStrays_of_readMechanism? {text sign : Text} {mechanism : Mechanism}
    (read : readMechanism? text = some (.ok mechanism))
    (signed : IsSign sign) :
    HasOnlyStrays (' ' :: (sign ++ text)) := by
  have asciiSign := isAscii_space_sign signed
  have follows : HasOnlyStrays text → HasOnlyStrays (' ' :: (sign ++ text)) :=
    fun strays => (hasOnlyStrays_of_isAscii asciiSign).append strays
  simp only [readMechanism?, Option.orElse_eq_orElse, Option.orElse_eq_or,
    Option.or_eq_some_iff] at read
  rcases read with all | ⟨_, spec | ⟨_, a | ⟨_, mx | ⟨_, ptr | ⟨_, ip4 | ⟨_, ip6 | ⟨_, spec⟩⟩⟩⟩⟩⟩⟩
  · unfold readAll? at all
    split at all
    · rename_i dropped
      obtain ⟨head, named, rfl⟩ := exists_of_dropName? dropped
      have ascii := isAscii_of_spellsName named (by decide) (by decide)
      exact follows (hasOnlyStrays_of_isAscii (by simpa using ascii))
    · cases all
  · exact follows (hasOnlyStrays_of_readWithSpec? spec (by decide) (by decide))
  · exact follows (hasOnlyStrays_of_readWithLengths? a (by decide) (by decide))
  · exact follows (hasOnlyStrays_of_readWithLengths? mx (by decide) (by decide))
  · obtain ⟨domain, found, _⟩ := Option.map_eq_some_iff.mp ptr
    obtain ⟨rest, dropped, reads⟩ := Option.bind_eq_some_iff.mp found
    obtain ⟨head, named, rfl⟩ := exists_of_dropName? dropped
    have ascii := isAscii_of_spellsName named (by decide) (by decide)
    exact follows ((hasOnlyStrays_of_isAscii ascii).append
      (hasOnlyStrays_of_spellsDomain (readOptionalSpec?_eq_some_iff.mp reads)))
  · exact follows (hasOnlyStrays_of_readNetwork? ip4)
  · exact follows (hasOnlyStrays_of_readNetwork? ip6)
  · exact hasOnlyStrays_of_readExists? spec signed

/-! ## Terms and records -/

/-- A mechanism follows the sign of a qualifier or stands alone. -/
theorem exists_sign_append (text : Text) :
    ∃ sign : Text, text = sign ++ (readQualifier text).2 ∧ IsSign sign := by
  cases text with
  | nil => exact ⟨[], rfl, .inl rfl⟩
  | cons c rest =>
      cases found : Qualifier.ofSign? c with
      | none => exact ⟨[], by simp [readQualifier, found], .inl rfl⟩
      | some qualifier =>
          have sign : qualifier.sign = c := by simpa using List.find?_some found
          exact ⟨[c], by simp [readQualifier, found], .inr ⟨qualifier, by rw [sign]⟩⟩

theorem hasOnlyStrays_of_readDirective? {text : Text} {directive : Directive}
    (read : readDirective? text = some (.ok directive)) : HasOnlyStrays (' ' :: text) := by
  obtain ⟨outcome, reads, made⟩ := Option.map_eq_some_iff.mp read
  obtain ⟨sign, parts, signed⟩ := exists_sign_append text
  cases outcome with
  | error failure => cases made
  | ok mechanism =>
      rw [parts]
      exact hasOnlyStrays_of_readMechanism? reads signed

theorem isAscii_of_isModifierName {name : Text} (named : isModifierName name = true) :
    name.isAscii = true := by
  refine List.all_eq_true.mpr fun c member => decide_eq_true ?_
  cases fits : c.isAlphanum || c == '-' || c == '_' || c == '.' with
  | false => exact absurd member (not_mem_of_isModifierName named fits)
  | true =>
      simp only [Bool.or_eq_true, beq_iff_eq] at fits
      rcases fits with ((alphanumeric | rfl) | rfl) | rfl
      · exact toNat_lt_of_isAlphanum alphanumeric
      all_goals decide

theorem hasOnlyStrays_of_spellsModifier {text : Text} {modifier : Modifier}
    (spelled : SpellsModifier text modifier) : HasOnlyStrays text := by
  have follows : ∀ {name value : Text}, name.isAscii = true → HasOnlyStrays value →
      HasOnlyStrays (name ++ '=' :: value) := by
    intro name value ascii strays
    have equals : HasOnlyStrays ['='] := hasOnlyStrays_of_isAscii rfl
    exact (hasOnlyStrays_of_isAscii ascii).append (equals.append strays)
  cases spelled with
  | redirect named domain =>
      exact follows (isAscii_of_lower (named ▸ by decide)) (hasOnlyStrays_of_isDomainText domain)
  | exp named domain =>
      exact follows (isAscii_of_lower (named ▸ by decide)) (hasOnlyStrays_of_isDomainText domain)
  | @unknown name tokens named free plain =>
      exact follows (isAscii_of_isModifierName named) (hasOnlyStrays_textOf plain)

theorem Term.hasOnlyStrays_of_read {text : Text} {term : Term}
    (read : Term.read text = .ok term) : HasOnlyStrays (' ' :: text) := by
  rw [Term.read_eq] at read
  split at read
  · rename_i outcome reads
    cases outcome with
    | error failure => cases read
    | ok modifier =>
        have space : HasOnlyStrays [' '] := hasOnlyStrays_of_isAscii rfl
        exact space.append (hasOnlyStrays_of_spellsModifier (readModifier?_iff.mp reads))
  · split at read
    · rename_i outcome reads
      cases outcome with
      | error failure => cases read
      | ok directive => exact hasOnlyStrays_of_readDirective? reads
    · cases read

/-- Text after a space is the pieces between its spaces, each after a space. -/
theorem space_cons_eq_flatMap (text : Text) :
    ' ' :: text = (Text.split (· = ' ') text).flatMap (' ' :: ·) := by
  have joined := Text.join_split ' ' (' ' :: text)
  have split : Text.split (· = ' ') (' ' :: text) = [] :: Text.split (· = ' ') text := by
    simp [Text.split]
  rw [split, Text.join_cons, List.nil_append] at joined
  exact joined.symm

theorem hasOnlyStrays_of_read {text : Text} {record : Record} (reads : read text = .ok record) :
    HasOnlyStrays text.trim := by
  simp only [read] at reads
  split at reads
  · cases reads
  · split at reads
    · rename_i opens
      obtain ⟨name, rest, named, parts⟩ :=
        opening_prefix_lower_iff.mp (List.isPrefixOf_iff_prefix.mp opens)
      rw [parts] at reads ⊢
      rw [termTexts_append named] at reads
      have asciiName : name.isAscii = true := isAscii_of_lower (named ▸ by decide)
      refine (hasOnlyStrays_of_isAscii asciiName).append ?_
      rw [space_cons_eq_flatMap]
      obtain ⟨⟨terms, each, _⟩, _⟩ := readTerms_eq_ok_iff.mp reads
      have terms : ∀ piece ∈ (Text.split (· = ' ') (' ' :: rest)).filter (· ≠ []),
          HasOnlyStrays (' ' :: piece) := by
        have both := each.imp fun _ _ readsTerm => And.intro
          (Term.hasOnlyStrays_of_read readsTerm) readsTerm
        exact ((List.forall₂_and_left _ _).mp both).1
      refine hasOnlyStrays_flatMap fun piece isPiece => ?_
      by_cases empty : piece = []
      · rw [empty]
        exact hasOnlyStrays_of_isAscii rfl
      · refine terms piece (List.mem_filter.mpr ⟨?_, by simpa using empty⟩)
        simp [Text.split, isPiece]
    · cases reads

/-! ## Macro text of records -/

/-- The texts of a record that may hold cells. -/
def macroTexts (record : Record) : List Text :=
  record.directives.filterMap (·.mechanism.domain?) ++ record.modifiers.map Modifier.value

theorem exists_tokens_of_mem_macroTexts {text : Text} {record : Record}
    (proper : record.IsProper) (member : text ∈ record.macroTexts) :
    ∃ tokens, Macro.tokens? text = some tokens := by
  have ofDomain : ∀ {spec : Text}, Macro.IsDomainText spec →
      ∃ tokens, Macro.tokens? spec = some tokens := by
    intro spec domain
    have isSpec := Macro.isDomainSpec_iff.mpr domain
    unfold Macro.isDomainSpec at isSpec
    split at isSpec
    · cases isSpec
    · exact ⟨_, ‹_›⟩
  rcases List.mem_append.mp member with ofDirective | ofModifier
  · obtain ⟨directive, isDirective, isDomain⟩ := List.mem_filterMap.mp ofDirective
    exact ofDomain ((proper.directives directive isDirective).domain text isDomain)
  · obtain ⟨modifier, isModifier, rfl⟩ := List.mem_map.mp ofModifier
    cases proper.modifiers modifier isModifier with
    | redirect domain => exact ofDomain domain
    | exp domain => exact ofDomain domain
    | unknown _ _ plain => exact ⟨_, Macro.tokens?_eq_some_iff.mpr ⟨plain, rfl⟩⟩

/-- Every character outside ASCII in a record that is read is a long `s` in the name `exists` or
a digit of a cell, and these digits are the only obstacle between the syntax and the expander:
a cell is taken apart by the syntax in one way, and by the expander in the same way exactly if
its digits are ASCII digits. -/
theorem read_strays {text : Text} {record : Record} (reads : read text = .ok record) :
    (∀ before c after, text.trim = before ++ c :: after → ¬ c.toNat < 128 →
        IsStray before c after)
      ∧ ∀ macroText ∈ record.macroTexts, ∃ tokens, Macro.tokens? macroText = some tokens
        ∧ ∀ found, Macro.Token.cell found ∈ tokens → ∃ cell : Macro.WrittenCell,
          cell.Matches found
            ∧ (∀ other : Macro.WrittenCell, other.Matches found → other = cell)
            ∧ (Macro.Transformer.read found.transformers
                = (Macro.Transformer.readKeep cell.digits).map
                  (⟨·, cell.reversed, cell.delimiters⟩)
              ↔ cell.digits.isAscii = true) := by
  refine ⟨hasOnlyStrays_of_read reads, fun macroText member => ?_⟩
  obtain ⟨tokens, scanned⟩ := exists_tokens_of_mem_macroTexts (isProper_of_read reads) member
  refine ⟨tokens, scanned, fun found isToken => ?_⟩
  have plain := (Macro.tokens?_eq_some_iff.mp scanned).1 _ isToken
  obtain ⟨cell, isMatch⟩ := Macro.WrittenCell.exists_matches plain
  exact ⟨cell, isMatch, fun _ => isMatch.unique, isMatch.read_eq_iff⟩

/-- A record with a character of either kind. -/
theorem read_strays_exists :
    let spec : Text := "%\x7bd٣r.\x7d.x.example.com".toList
    let text : Text := "v=spf1 exiſts:".toList ++ spec ++ " -all".toList
    read text = .ok ⟨[⟨.pass, .exists spec⟩, ⟨.fail, .all⟩], []⟩
      ∧ IsStray "v=spf1 exi".toList 'ſ' ("ts:".toList ++ spec ++ " -all".toList)
      ∧ IsStray "v=spf1 exiſts:%\x7bd".toList '٣' "r.\x7d.x.example.com -all".toList := by
  intro spec text
  have reads : read text = .ok ⟨[⟨.pass, .exists spec⟩, ⟨.fail, .all⟩], []⟩ := by
    decide +kernel
  have strays := (read_strays reads).1
  exact ⟨reads, strays _ _ _ (by decide +kernel) (by decide),
    strays _ _ _ (by decide +kernel) (by decide)⟩

/-- A record that is read is not ASCII text; the syntax finds the digit `٣`, an `r` and a dot in
its cell, where the expander finds three delimiters. -/
theorem read_beyondAscii :
    let spec : Text := "%\x7bd٣r.\x7d.x.example.com".toList
    let text : Text := "v=spf1 exiſts:".toList ++ spec ++ " -all".toList
    let found : Macro.Cell := ⟨.domain, false, "٣r.".toList⟩
    (∃ record, read text = .ok record ∧ spec ∈ record.macroTexts)
      ∧ text.trim.isAscii = false
      ∧ Macro.tokens? spec
        = some (.cell found :: ".x.example.com".toList.map Macro.Token.literal)
      ∧ Macro.WrittenCell.Matches ⟨'d', "٣".toList, true, ".".toList⟩ found
      ∧ Macro.Transformer.read found.transformers = .ok ⟨none, false, "٣r.".toList⟩ := by
  intro spec text found
  have reads : read text = .ok ⟨[⟨.pass, .exists spec⟩, ⟨.fail, .all⟩], []⟩ := by
    decide +kernel
  refine ⟨⟨_, reads, by decide⟩, by decide +kernel, by decide +kernel, ?_, by decide⟩
  exact ⟨⟨rfl, rfl, rfl⟩, List.all_eq_true.mp (by decide), List.all_eq_true.mp (by decide)⟩

end SenderPolicy.Record
