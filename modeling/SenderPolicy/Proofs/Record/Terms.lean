import SenderPolicy.Proofs.Record.Spelling

/-!
# Terms are read one way

A term is a modifier or a directive. Text of a directive is never taken for a modifier: if
it holds an equals sign, a colon stands before it, and no name of a modifier has a colon. So
`Term.read` gives exactly the terms of the grammar, and every text spells at most one.
-/

namespace SenderPolicy.Record

/-! ## Directives -/

/-- A mechanism begins with a letter, so with no sign of a qualifier. -/
theorem exists_cons_of_spellsMechanism {text : Text} {mechanism : Mechanism}
    (spelled : SpellsMechanism text mechanism) :
    ∃ c rest, text = c :: rest ∧ Qualifier.ofSign? c = none := by
  have begins : ∀ {name after : Text} {letter : Char} {letters : Text},
      Text.lower name = letter :: letters → letter.isLower = true →
        ∃ c rest, name ++ after = c :: rest ∧ Qualifier.ofSign? c = none := by
    intro name after letter letters named isLetter
    cases name with
    | nil => cases named
    | cons c name =>
        obtain ⟨rfl, _⟩ := List.cons.inj named
        refine ⟨c, _, rfl, List.find?_eq_none.mpr fun qualifier _ sign => ?_⟩
        have same : qualifier.sign = c := by simpa using sign
        rw [← same] at isLetter
        cases qualifier <;> cases isLetter
  cases spelled with
  | all named =>
      have begun := @begins text [] _ _ named (by decide)
      rwa [List.append_nil] at begun
  | «include» named domain => exact begins named (by decide)
  | a named target => exact begins named (by decide)
  | mx named target => exact begins named (by decide)
  | ptr named target => exact begins named (by decide)
  | @network name literal rest address length named denotes counts =>
      cases family : address.family with
      | ip4 =>
          rw [family, title_ip4] at named
          exact begins named (by decide)
      | ip6 =>
          rw [family, title_ip6] at named
          exact begins named (by decide)
  | «exists» named domain => exact begins named (by decide)

theorem readQualifier_signed (qualifier : Qualifier) (text : Text) :
    readQualifier (qualifier.sign :: text) = (qualifier, text) := by
  cases qualifier <;> rfl

theorem readDirective?_complete {text : Text} (plain : 'ſ' ∉ text) {directive : Directive}
    (spelled : SpellsDirective text directive) : readDirective? text = some (.ok directive) := by
  unfold readDirective?
  cases spelled with
  | @plain _ mechanism spelled =>
      obtain ⟨c, rest, rfl, unsigned⟩ := exists_cons_of_spellsMechanism spelled
      have split : readQualifier (c :: rest) = (.pass, c :: rest) := by
        simp [readQualifier, unsigned]
      rw [split]
      simp only [readMechanism?_complete plain spelled]
      rfl
  | @signed rest mechanism qualifier spelled =>
      have plainRest : 'ſ' ∉ rest := fun member => plain (List.mem_cons_of_mem _ member)
      rw [readQualifier_signed]
      simp only [readMechanism?_complete plainRest spelled]
      rfl

theorem readDirective?_iff {text : Text} (ascii : text.isAscii = true) {directive : Directive} :
    readDirective? text = some (.ok directive) ↔ SpellsDirective text directive := by
  constructor
  · intro read
    unfold readDirective? at read
    rcases split : readQualifier text with ⟨qualifier, rest⟩
    rw [split] at read
    obtain ⟨outcome, reads, made⟩ := Option.map_eq_some_iff.mp read
    cases outcome with
    | error failure => cases made
    | ok mechanism =>
        cases made
        unfold readQualifier at split
        split at split
        · cases split
          exact .plain (readMechanism?_sound ascii reads)
        · rename_i c after
          split at split
          · rename_i found sign
            cases split
            have same : qualifier.sign = c := by simpa using List.find?_some sign
            exact same ▸ .signed qualifier (readMechanism?_sound (Text.isAscii_of_cons ascii) reads)
          · cases split
            exact .plain (readMechanism?_sound ascii reads)
  · exact readDirective?_complete (longS_not_mem ascii)

/-! ## Modifiers -/

/-- A name of a modifier holds no equals sign and no colon. -/
theorem not_mem_of_isModifierName {name : Text} (named : isModifierName name = true) {c : Char}
    (other : (c.isAlphanum || c == '-' || c == '_' || c == '.') = false) : c ∉ name := by
  intro member
  cases name with
  | nil => cases named
  | cons first rest =>
      simp only [isModifierName, Bool.and_eq_true, List.all_eq_true] at named
      rcases List.mem_cons.mp member with rfl | later
      · simp [Char.isAlphanum, named.1] at other
      · rw [named.2 c later] at other
        cases other

theorem not_mem_of_lower {name letters : Text} (named : Text.lower name = letters) {c : Char}
    (noLetter : c.toLower = c) (notLower : c.isLower = false) (absent : c ∉ letters) :
    c ∉ name := by
  intro member
  exact absent (named ▸ (Text.mem_lower_iff noLetter notLower).mpr member)

theorem readModifier?_iff {text : Text} {modifier : Modifier} :
    readModifier? text = some (.ok modifier) ↔ SpellsModifier text modifier := by
  unfold readModifier?
  constructor
  · intro read
    obtain ⟨⟨name, value⟩, found, reads⟩ := Option.bind_eq_some_iff.mp read
    obtain ⟨rfl, _⟩ := Text.splitAtFirst_eq_some_iff.mp found
    dsimp only at reads
    split at reads
    · rename_i redirect
      simp only [Bool.and_eq_true, decide_eq_true_eq] at redirect
      cases reads
      exact .redirect redirect.1 (Macro.isDomainSpec_iff.mp redirect.2)
    · split at reads
      · rename_i exp
        simp only [Bool.and_eq_true, decide_eq_true_eq] at exp
        cases reads
        exact .exp exp.1 (Macro.isDomainSpec_iff.mp exp.2)
      · split at reads
        · rename_i unknown
          simp only [Bool.and_eq_true] at unknown
          obtain ⟨tokens, plain, rfl⟩ := Macro.isMacroString_iff.mp unknown.2
          split at reads
          · cases reads
          · rename_i free
            cases reads
            exact .unknown unknown.1 (by simpa using free) plain
        · cases reads
  · intro spelled
    cases spelled with
    | @redirect name spec named domain =>
        have free : '=' ∉ name := not_mem_of_lower named (by decide) (by decide) (by decide)
        simp only [Text.splitAtFirst_append free, Option.bind_some, named,
          Macro.isDomainSpec_iff.mpr domain, decide_true, Bool.and_self, if_true]
    | @exp name spec named domain =>
        have free : '=' ∉ name := not_mem_of_lower named (by decide) (by decide) (by decide)
        have notRedirect : "exp".toList ≠ "redirect".toList := by decide
        simp only [Text.splitAtFirst_append free, Option.bind_some, named, notRedirect,
          Macro.isDomainSpec_iff.mpr domain, decide_true, decide_false, Bool.and_self,
          Bool.false_and, if_true]
        rfl
    | @unknown name tokens named free plain =>
        have noEquals : '=' ∉ name := not_mem_of_isModifierName named (by decide)
        obtain ⟨notRedirect, notExp⟩ :
            Text.lower name ≠ "redirect".toList ∧ Text.lower name ≠ "exp".toList := by
          simpa [reservedNames] using free
        have isMacro := Macro.isMacroString_iff.mpr ⟨tokens, plain, rfl⟩
        have notReserved : reservedNames.contains (Text.lower name) = false := by simpa using free
        simp only [Text.splitAtFirst_append noEquals, Option.bind_some, notRedirect, notExp, named,
          isMacro, notReserved, decide_false, Bool.and_self, Bool.false_and, if_true]
        rfl

/-! ## Either kind of term -/

/-- Text in which no equals sign stands before the first colon. -/
def IsGuarded (text : Text) : Prop :=
  '=' ∉ text ∨ ∃ front rest, text = front ++ ':' :: rest ∧ '=' ∉ front

theorem isGuarded_append {front rest : Text} (free : '=' ∉ front) (guarded : IsGuarded rest) :
    IsGuarded (front ++ rest) := by
  rcases guarded with free' | ⟨middle, after, rfl, free'⟩
  · exact .inl (List.not_mem_append free free')
  · exact .inr ⟨front ++ middle, after, by simp, List.not_mem_append free free'⟩

theorem not_mem_of_spellsLength {family : Family} {marks text : Text} {length : Nat}
    (spelled : SpellsLength family marks text length) {c : Char} (noMark : c ∉ marks)
    (noDigit : c.isDigit = false) : c ∉ text := by
  cases spelled with
  | absent => simp
  | present bounded => exact List.not_mem_append noMark (Address.not_mem_ofNat noDigit)

theorem isGuarded_of_spellsTarget {text : Text} {domain : Option Text} {lengths : PrefixLengths}
    (target : SpellsTarget text domain lengths) : IsGuarded text := by
  obtain ⟨named, first, second⟩ := target
  cases named with
  | present domain => exact .inr ⟨[], _, rfl, by simp⟩
  | absent =>
      refine .inl (List.not_mem_append (List.not_mem_append (by simp) ?_) ?_)
      · exact not_mem_of_spellsLength first (by decide) (by decide)
      · exact not_mem_of_spellsLength second (by decide) (by decide)

theorem isGuarded_of_spellsMechanism {text : Text} {mechanism : Mechanism}
    (spelled : SpellsMechanism text mechanism) : IsGuarded text := by
  have free : ∀ {name letters : Text}, Text.lower name = letters → '=' ∉ letters → '=' ∉ name :=
    fun named absent => not_mem_of_lower named (by decide) (by decide) absent
  cases spelled with
  | all named => exact .inl (free named (by decide))
  | «include» named domain => exact .inr ⟨_, _, rfl, free named (by decide)⟩
  | a named target =>
      exact isGuarded_append (free named (by decide)) (isGuarded_of_spellsTarget target)
  | mx named target =>
      exact isGuarded_append (free named (by decide)) (isGuarded_of_spellsTarget target)
  | ptr named target =>
      refine isGuarded_append (free named (by decide)) ?_
      cases target with
      | absent => exact .inl (by simp)
      | present domain => exact .inr ⟨[], _, rfl, by simp⟩
  | @network name literal rest address length named denotes counts =>
      have absent : '=' ∉ address.family.title.lower := by
        cases address.family <;> decide
      exact .inr ⟨_, _, rfl, free named absent⟩
  | «exists» named domain => exact .inr ⟨_, _, rfl, free named (by decide)⟩

theorem isGuarded_of_spellsDirective {text : Text} {directive : Directive}
    (spelled : SpellsDirective text directive) : IsGuarded text := by
  cases spelled with
  | plain spelled => exact isGuarded_of_spellsMechanism spelled
  | @signed rest mechanism qualifier spelled =>
      have free : '=' ∉ [qualifier.sign] := by
        cases qualifier <;> decide
      exact isGuarded_append free (isGuarded_of_spellsMechanism spelled)

/-- What stands before the first equals sign of such text has a colon, so it is no name. -/
theorem readModifier?_eq_none {text : Text} (guarded : IsGuarded text) :
    readModifier? text = none := by
  unfold readModifier?
  cases found : Text.splitAtFirst '=' text with
  | none => rfl
  | some sides =>
      obtain ⟨name, value⟩ := sides
      obtain ⟨parts, free⟩ := Text.splitAtFirst_eq_some_iff.mp found
      have colon : ':' ∈ name := by
        rcases guarded with absent | ⟨front, rest, rfl, absent⟩
        · exact absurd (parts ▸ by simp) absent
        · rcases List.append_eq_append_iff.mp parts with ⟨inner, rfl, later⟩ | ⟨inner, rfl, later⟩
          · cases inner with
            | nil => cases later
            | cons c inner =>
                obtain ⟨rfl, _⟩ := List.cons.inj later
                simp
          · cases inner with
            | nil => cases later
            | cons c inner =>
                obtain ⟨rfl, _⟩ := List.cons.inj later
                exact absurd (by simp) absent
      have lowered : ':' ∈ Text.lower name := (Text.mem_lower_iff (by decide) (by decide)).mpr colon
      have notRedirect : Text.lower name ≠ "redirect".toList := by
        intro same
        exact absurd (same ▸ lowered) (by decide)
      have notExp : Text.lower name ≠ "exp".toList := by
        intro same
        exact absurd (same ▸ lowered) (by decide)
      have noName : isModifierName name = false := by
        cases named : isModifierName name with
        | false => rfl
        | true => exact absurd colon (not_mem_of_isModifierName named (by decide))
      simp only [Option.bind_some, notRedirect, notExp, noName, decide_false, Bool.false_and,
        Bool.false_eq_true, if_false]

theorem Term.read_complete {text : Text} (plain : 'ſ' ∉ text) {term : Term}
    (spelled : SpellsTerm text term) : Term.read text = .ok term := by
  rw [Term.read_eq]
  cases spelled with
  | directive spelled =>
      rw [readModifier?_eq_none (isGuarded_of_spellsDirective spelled),
        readDirective?_complete plain spelled]
      rfl
  | modifier spelled =>
      rw [readModifier?_iff.mpr spelled]
      rfl

theorem Term.read_eq_ok_iff {text : Text} (ascii : text.isAscii = true) {term : Term} :
    Term.read text = .ok term ↔ SpellsTerm text term := by
  constructor
  · intro read
    rw [Term.read_eq] at read
    split at read
    · rename_i outcome reads
      cases outcome with
      | error failure => cases read
      | ok modifier =>
          cases read
          exact .modifier (readModifier?_iff.mp reads)
    · split at read
      · rename_i outcome reads
        cases outcome with
        | error failure => cases read
        | ok directive =>
            cases read
            exact .directive ((readDirective?_iff ascii).mp reads)
      · cases read
  · exact Term.read_complete (longS_not_mem ascii)

/-- Text spells at most one term. -/
theorem SpellsTerm.unique {text : Text} (ascii : text.isAscii = true) {term other : Term}
    (spelled : SpellsTerm text term) (spelledOther : SpellsTerm text other) : term = other := by
  have read := (Term.read_eq_ok_iff ascii).mpr spelled
  rw [(Term.read_eq_ok_iff ascii).mpr spelledOther] at read
  exact (Except.ok.inj read).symm

end SenderPolicy.Record
