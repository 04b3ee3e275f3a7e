import SenderPolicy.Macro.DomainSpec
import SenderPolicy.Proofs.Text.LetterCase
import SenderPolicy.Proofs.Text.Splitting

/-!
# The grammar of macro text

`Token.text` is how a token is written and `Token.IsPlain` says which tokens can be written.
Macro text is such tokens one after the other, and a domain specification is macro text
followed by an ending. `Token.read?_eq_some_iff` shows that text starts with a token in at
most one way; the readers then accept exactly the text of the grammar.
-/

namespace SenderPolicy.Macro

/-! ## Tokens -/

/-- The token as written. -/
def Token.text : Token → Text
  | .literal c => [c]
  | .percent => "%%".toList
  | .space => "%_".toList
  | .encodedSpace => "%-".toList
  | .cell found => '%' :: '{' :: (found.text ++ ['}'])

/-- Digits, then possibly an `r`, then delimiters. -/
def IsTransformers (text : Text) : Prop :=
  ∃ digits reversal delimiters, text = digits ++ reversal ++ delimiters
    ∧ (∀ c ∈ digits, isDecimalDigit c = true) ∧ (reversal = [] ∨ reversal = ['r'])
    ∧ ∀ c ∈ delimiters, isDelimiter c = true

/-- A token that can be written. -/
def Token.IsPlain : Token → Prop
  | .literal c => isLiteral c = true
  | .cell found => IsTransformers found.transformers
  | _ => True

/-- Where a row of characters ends, `spanWhile` ends. -/
theorem spanWhile_append {property : Char → Bool} {row rest : Text}
    (inside : ∀ c ∈ row, property c = true)
    (outside : ∀ c, rest.head? = some c → property c = false) :
    spanWhile property (row ++ rest) = (row, rest) := by
  induction row with
  | nil =>
      cases rest with
      | nil => rfl
      | cons c rest => simp [spanWhile, outside c rfl]
  | cons c row inductionHypothesis =>
      have here := inside c List.mem_cons_self
      have later := inductionHypothesis fun other member =>
        inside other (List.mem_cons_of_mem _ member)
      simp only [spanWhile, Prod.mk.injEq] at later
      simp [spanWhile, here, later]

/-- A delimiter is no digit, no `r` and no closing brace. -/
theorem isDelimiter_apart {c : Char} (delimiter : isDelimiter c = true) :
    isDecimalDigit c = false ∧ c ≠ 'r' ∧ c ≠ '}' := by
  simp only [isDelimiter, Bool.or_eq_true, beq_iff_eq] at delimiter
  rcases delimiter with (((((rfl | rfl) | rfl) | rfl) | rfl) | rfl) | rfl <;> decide

theorem spanReversal_append {reversal rest : Text} (shape : reversal = [] ∨ reversal = ['r'])
    (outside : rest.head? ≠ some 'r') : spanReversal (reversal ++ rest) = (reversal, rest) := by
  rcases shape with rfl | rfl
  · rw [List.nil_append]
    unfold spanReversal
    split
    · exact absurd rfl outside
    · rfl
  · rfl

theorem spanReversal_eq (text : Text) :
    text = (spanReversal text).1 ++ (spanReversal text).2
      ∧ ((spanReversal text).1 = [] ∨ (spanReversal text).1 = ['r']) := by
  unfold spanReversal
  split
  · exact ⟨rfl, .inr rfl⟩
  · exact ⟨rfl, .inl rfl⟩

/-- The transformers of a cell end at its closing brace. -/
theorem readTransformers?_eq_some_iff {text transformers rest : Text} :
    readTransformers? text = some (transformers, rest)
      ↔ IsTransformers transformers ∧ text = transformers ++ '}' :: rest := by
  constructor
  · intro read
    simp only [readTransformers?, spanWhile] at read
    split at read
    · rename_i after closed
      cases read
      obtain ⟨parts, reversal⟩ := spanReversal_eq (text.dropWhile isDecimalDigit)
      refine ⟨⟨_, _, _, rfl, fun c member => ?_, reversal, fun c member => ?_⟩, ?_⟩
      · exact List.all_eq_true.mp List.all_takeWhile c member
      · exact List.all_eq_true.mp List.all_takeWhile c member
      · rw [List.append_assoc, List.append_assoc, ← closed, List.takeWhile_append_dropWhile,
          ← parts, List.takeWhile_append_dropWhile]
    · cases read
  · rintro ⟨⟨digits, reversal, delimiters, rfl, areDigits, shape, areDelimiters⟩, rfl⟩
    have afterDelimiters : spanWhile isDelimiter (delimiters ++ '}' :: rest)
        = (delimiters, '}' :: rest) := by
      apply spanWhile_append areDelimiters
      rintro c ⟨⟩
      decide
    -- What follows the digits and the `r` starts with a delimiter or with the brace.
    have next : ∀ c, (delimiters ++ '}' :: rest).head? = some c →
        isDecimalDigit c = false ∧ c ≠ 'r' := by
      intro c first
      cases delimiters with
      | nil =>
          cases first
          decide
      | cons d delimiters =>
          cases first
          have apart := isDelimiter_apart (areDelimiters c List.mem_cons_self)
          exact ⟨apart.1, apart.2.1⟩
    have afterReversal : spanReversal (reversal ++ (delimiters ++ '}' :: rest))
        = (reversal, delimiters ++ '}' :: rest) :=
      spanReversal_append shape fun first => (next 'r' first).2 rfl
    have afterDigits : spanWhile isDecimalDigit
        (digits ++ (reversal ++ (delimiters ++ '}' :: rest)))
        = (digits, reversal ++ (delimiters ++ '}' :: rest)) := by
      apply spanWhile_append areDigits
      intro c first
      rcases shape with rfl | rfl
      · exact (next c first).1
      · cases first
        decide
    simp only [readTransformers?, List.append_assoc, afterDigits, afterReversal, afterDelimiters]

/-- The character of a cell's letter tells the letter and its case. -/
theorem ofSymbol?_mark (letter : Letter) (encoded : Bool) :
    let mark := if encoded then letter.symbol.toUpper else letter.symbol
    Letter.ofSymbol? mark.toLower = some letter ∧ mark.isUpper = encoded := by
  obtain ⟨lower, upper⟩ := letter.mark_eq encoded
  exact ⟨by rw [lower, Letter.ofSymbol?_symbol], upper⟩

theorem mark_of_ofSymbol? {mark : Char} {letter : Letter}
    (found : Letter.ofSymbol? mark.toLower = some letter) :
    (if mark.isUpper then letter.symbol.toUpper else letter.symbol) = mark := by
  have same : letter.symbol = mark.toLower := by simpa using List.find?_some found
  rw [same]
  by_cases upper : mark.isUpper = true
  · rw [if_pos upper, toUpper_toLower_of_isUpper upper]
  · rw [if_neg upper, toLower_of_not_isUpper upper]

theorem readCell?_eq_some_iff {text rest : Text} {cell : Cell} :
    readCell? text = some (cell, rest)
      ↔ IsTransformers cell.transformers ∧ text = cell.text ++ '}' :: rest := by
  constructor
  · intro read
    unfold readCell? at read
    split at read
    · cases read
    · split at read
      · cases read
      · rename_i mark tail _ letter found
        simp only [Option.map_eq_some_iff, Prod.mk.injEq, Prod.exists] at read
        obtain ⟨transformers, after, readTail, rfl, rfl⟩ := read
        obtain ⟨shape, rfl⟩ := readTransformers?_eq_some_iff.mp readTail
        refine ⟨shape, ?_⟩
        rw [Cell.text, mark_of_ofSymbol? found]
        rfl
  · rintro ⟨shape, rfl⟩
    obtain ⟨letter, encoded, transformers⟩ := cell
    obtain ⟨found, upper⟩ := ofSymbol?_mark letter encoded
    have readTail := readTransformers?_eq_some_iff.mpr
      (⟨shape, rfl⟩ : _ ∧ _ = transformers ++ '}' :: rest)
    simp only [Cell.text, List.cons_append, readCell?, found, readTail, Option.map_some, upper]

/-- Text starts with a token exactly if it starts with how the token is written. -/
theorem Token.read?_eq_some_iff {text rest : Text} {token : Token} :
    Token.read? text = some (token, rest) ↔ token.IsPlain ∧ text = token.text ++ rest := by
  constructor
  · intro read
    unfold Token.read? at read
    split at read
    · simp only [Option.map_eq_some_iff, Prod.mk.injEq, Prod.exists] at read
      obtain ⟨cell, after, readRest, rfl, rfl⟩ := read
      obtain ⟨shape, rfl⟩ := readCell?_eq_some_iff.mp readRest
      refine ⟨shape, ?_⟩
      simp [Token.text]
    · cases read
      exact ⟨trivial, rfl⟩
    · cases read
      exact ⟨trivial, rfl⟩
    · cases read
      exact ⟨trivial, rfl⟩
    · split at read
      · rename_i literal
        cases read
        exact ⟨literal, rfl⟩
      · cases read
    · cases read
  · rintro ⟨plain, rfl⟩
    cases token with
    | literal c =>
        have literal : isLiteral c = true := plain
        have noPercent : c ≠ '%' := by
          rintro rfl
          cases literal
        unfold Token.read?
        simp [Token.text, literal, noPercent]
    | percent => rfl
    | space => rfl
    | encodedSpace => rfl
    | cell found =>
        have readRest := readCell?_eq_some_iff.mpr
          (⟨plain, rfl⟩ : _ ∧ _ = found.text ++ '}' :: rest)
        simp [Token.text, Token.read?, readRest]

/-! ## Macro text -/

/-- Tokens one after the other, as written. -/
def textOf (tokens : List Token) : Text :=
  tokens.flatMap Token.text

/-- Tokens that can be written. -/
def ArePlain (tokens : List Token) : Prop :=
  ∀ token ∈ tokens, token.IsPlain

theorem scan_of_none {text : Text} (none : Token.read? text = none) : scan text = ([], text) := by
  rw [scan]
  grind

theorem scan_of_some {text rest : Text} {token : Token}
    (read : Token.read? text = some (token, rest)) :
    scan text = (token :: (scan rest).1, (scan rest).2) := by
  rw [scan]
  grind

/-- A scan gives tokens that can be written, and leaves what follows them. -/
theorem scan_sound (text : Text) :
    ArePlain (scan text).1 ∧ text = textOf (scan text).1 ++ (scan text).2 := by
  induction text using scan.induct with
  | case1 text none =>
      rw [scan_of_none none]
      exact ⟨by simp [ArePlain], rfl⟩
  | case2 text token rest read _ _ _ inductionHypothesis =>
      obtain ⟨plain, written⟩ := inductionHypothesis
      obtain ⟨first, parts⟩ := Token.read?_eq_some_iff.mp read
      rw [scan_of_some read]
      refine ⟨List.forall_mem_cons.mpr ⟨first, plain⟩, ?_⟩
      rw [parts, textOf, List.flatMap_cons, List.append_assoc]
      exact congrArg _ written

/-- Tokens that can be written are scanned. -/
theorem scan_textOf {tokens : List Token} (plain : ArePlain tokens) :
    scan (textOf tokens) = (tokens, []) := by
  induction tokens with
  | nil => exact scan_of_none rfl
  | cons token tokens inductionHypothesis =>
      obtain ⟨first, others⟩ := List.forall_mem_cons.mp plain
      have read : Token.read? (textOf (token :: tokens)) = some (token, textOf tokens) :=
        Token.read?_eq_some_iff.mpr ⟨first, rfl⟩
      rw [scan_of_some read, inductionHypothesis others]

/-- Text has at most one reading as macro text. -/
theorem tokens?_eq_some_iff {text : Text} {tokens : List Token} :
    tokens? text = some tokens ↔ ArePlain tokens ∧ text = textOf tokens := by
  unfold tokens?
  constructor
  · intro read
    obtain ⟨plain, written⟩ := scan_sound text
    split at read
    · rename_i found scanned
      cases read
      rw [scanned] at plain written
      exact ⟨plain, written.trans (List.append_nil _)⟩
    · cases read
  · rintro ⟨plain, rfl⟩
    rw [scan_textOf plain]

theorem isMacroString_iff {text : Text} :
    isMacroString text = true ↔ ∃ tokens, ArePlain tokens ∧ text = textOf tokens := by
  rw [isMacroString, Option.isSome_iff_exists]
  exact exists_congr fun _ => tokens?_eq_some_iff

/-! ## Domain specifications -/

/-- How a domain specification ends: with a last label after a dot, possibly followed by one
more dot, or with an escape or a cell. -/
inductive IsEnding : Text → Prop where
  | label {label} (top : Domain.isTopLabel label = true) : IsEnding ('.' :: label)
  | dotted {label} (top : Domain.isTopLabel label = true) : IsEnding ('.' :: (label ++ ['.']))
  | expansion {token : Token} (plain : token.IsPlain) (expands : token.isExpansion = true) :
      IsEnding token.text

/-- Macro text with such an ending. -/
def IsDomainText (text : Text) : Prop :=
  ∃ tokens ending, ArePlain tokens ∧ IsEnding ending ∧ text = textOf tokens ++ ending

/-- The code points of letters and digits. -/
theorem toNat_of_isAlphanum {c : Char} (alphanumeric : c.isAlphanum = true) :
    48 ≤ c.toNat ∧ c.toNat ≤ 57 ∨ 65 ≤ c.toNat ∧ c.toNat ≤ 90
      ∨ 97 ≤ c.toNat ∧ c.toNat ≤ 122 := by
  rcases Bool.or_eq_true_iff.mp alphanumeric with letter | digit
  · rcases Bool.or_eq_true_iff.mp letter with upper | lower
    · exact .inr (.inl (of_decide_eq_true upper))
    · obtain ⟨low, high⟩ := Bool.and_eq_true_iff.mp lower
      exact .inr (.inr ⟨of_decide_eq_true low, of_decide_eq_true high⟩)
  · obtain ⟨low, high⟩ := Bool.and_eq_true_iff.mp digit
    exact .inl ⟨of_decide_eq_true low, of_decide_eq_true high⟩

/-- The characters of a last label stand for themselves. -/
theorem isLiteral_of_isLabelCharacter {c : Char} (inLabel : Domain.isLabelCharacter c = true) :
    isLiteral c = true := by
  simp only [Domain.isLabelCharacter, Bool.or_eq_true, beq_iff_eq] at inLabel
  rcases inLabel with alphanumeric | rfl
  · have range := toNat_of_isAlphanum alphanumeric
    have different : c ≠ '%' := by
      rintro rfl
      simp at range
    simp only [isLiteral, Bool.and_eq_true, decide_eq_true_eq, bne_iff_ne]
    exact ⟨by omega, different⟩
  · decide

/-- A last label is not empty and holds no dot, no slash and no brace. -/
theorem isLabelCharacter_of_mem {label : Text} (top : Domain.isTopLabel label = true) :
    label ≠ [] ∧ ∀ c ∈ label, Domain.isLabelCharacter c = true := by
  simp only [Domain.isTopLabel, Bool.or_eq_true, Bool.and_eq_true, List.all_eq_true,
    List.any_eq_true] at top
  rcases top with ⟨all, c, member, _⟩ | ⟨⟨⟨all, c, member, _⟩, _⟩, _⟩
  · refine ⟨List.ne_nil_of_mem member, fun other inside => ?_⟩
    simp [Domain.isLabelCharacter, all other inside]
  · exact ⟨List.ne_nil_of_mem member, all⟩

theorem not_mem_of_isTopLabel {label : Text} (top : Domain.isTopLabel label = true) {c : Char}
    (outside : Domain.isLabelCharacter c = false) : c ∉ label := by
  intro member
  rw [(isLabelCharacter_of_mem top).2 c member] at outside
  cases outside

/-- A dot after which no brace closes is a token by itself: what stands before it is macro
text. -/
theorem exists_textOf_of_dot {tokens : List Token} (plain : ArePlain tokens)
    {before after : Text} (written : textOf tokens = before ++ '.' :: after)
    (unclosed : '}' ∉ after) : ∃ front, ArePlain front ∧ before = textOf front := by
  induction tokens generalizing before with
  | nil => simp [textOf] at written
  | cons token tokens inductionHypothesis =>
      obtain ⟨first, others⟩ := List.forall_mem_cons.mp plain
      rw [textOf, List.flatMap_cons, List.append_eq_append_iff] at written
      rcases written with ⟨later, rfl, rest⟩ | ⟨inner, whole, rest⟩
      · obtain ⟨front, areFront, rfl⟩ := inductionHypothesis others rest
        exact ⟨token :: front, List.forall_mem_cons.mpr ⟨first, areFront⟩, rfl⟩
      · -- The dot stands in this token or right after it.
        cases inner with
        | nil =>
            refine ⟨[token], by simpa [ArePlain] using first, ?_⟩
            simpa [textOf] using whole.symm
        | cons c inner =>
            obtain ⟨rfl, rfl⟩ := List.cons.inj rest
            cases token with
            | literal d =>
                refine ⟨[], by simp [ArePlain], ?_⟩
                have alone := congrArg List.length whole
                simp only [Token.text, List.length_append, List.length_cons,
                  List.length_nil] at alone
                exact List.eq_nil_of_length_eq_zero (by omega)
            | percent =>
                have inside : '.' ∈ Token.text .percent := whole ▸ by simp
                exact absurd inside (by decide)
            | space =>
                have inside : '.' ∈ Token.text .space := whole ▸ by simp
                exact absurd inside (by decide)
            | encodedSpace =>
                have inside : '.' ∈ Token.text .encodedSpace := whole ▸ by simp
                exact absurd inside (by decide)
            | cell found =>
                have closing : (before ++ '.' :: inner).getLast? = some '}' := by
                  rw [← whole]
                  simp [Token.text, List.getLast?_cons]
                have inside : '}' ∈ '.' :: inner := by
                  apply List.mem_of_getLast?
                  rw [← closing, List.getLast?_append]
                  simp [List.getLast?_cons]
                rcases List.mem_cons.mp inside with dot | within
                · exact absurd dot (by decide)
                · exact absurd (List.mem_append_left _ within) unclosed

/-- Characters that stand for themselves are macro text. -/
theorem textOf_literals (text : Text) : textOf (text.map Token.literal) = text := by
  induction text with
  | nil => rfl
  | cons c rest inductionHypothesis =>
      exact congrArg (c :: ·) inductionHypothesis

/-- An ending in a last label consists of characters that stand for themselves. -/
theorem arePlain_literals {text : Text} (literal : ∀ c ∈ text, isLiteral c = true) :
    ArePlain (text.map Token.literal) := by
  intro token member
  obtain ⟨c, inside, rfl⟩ := List.mem_map.mp member
  exact literal c inside

theorem textOf_append (front back : List Token) :
    textOf (front ++ back) = textOf front ++ textOf back :=
  List.flatMap_append

theorem arePlain_append {front back : List Token} :
    ArePlain (front ++ back) ↔ ArePlain front ∧ ArePlain back :=
  List.forall_mem_append

/-- A last label after the last dot, one more dot at the end apart. -/
theorem endsInTopLabel_iff {text : Text} :
    endsInTopLabel text = true ↔ ∃ before label, Domain.isTopLabel label = true
      ∧ (text = before ++ '.' :: label ∨ text = before ++ '.' :: (label ++ ['.'])) := by
  have noDot : ∀ {label}, Domain.isTopLabel label = true → '.' ∉ label :=
    fun top => not_mem_of_isTopLabel top (by decide)
  constructor
  · intro ends
    unfold endsInTopLabel at ends
    split at ends
    · cases ends
    · rename_i before label found
      obtain ⟨parts, _⟩ := Text.splitAtLast_eq_some_iff.mp found
      refine ⟨before, label, ends, ?_⟩
      unfold Text.dropEndDot at parts
      split at parts
      · rename_i dotted
        obtain ⟨front, rfl⟩ := List.getLast?_eq_some_iff.mp dotted
        rw [List.dropLast_concat] at parts
        exact .inr (by rw [parts, List.append_assoc]; rfl)
      · exact .inl parts
  · rintro ⟨before, label, top, shape⟩
    have found := Text.splitAtLast_append before (noDot top)
    have dropped : Text.dropEndDot text = before ++ '.' :: label := by
      rcases shape with rfl | rfl
      · have last : (before ++ '.' :: label).getLast? = label.getLast? := by
          obtain ⟨c, rest, rfl⟩ := List.exists_cons_of_ne_nil (isLabelCharacter_of_mem top).1
          simp [List.getLast?_append, List.getLast?_cons]
        have undotted : (before ++ '.' :: label).getLast? ≠ some '.' := by
          rw [last]
          exact fun dotted => noDot top (List.mem_of_getLast? dotted)
        rw [Text.dropEndDot, if_neg undotted]
      · have dotted : (before ++ '.' :: (label ++ ['.'])).getLast? = some '.' := by
          simp [List.getLast?_append, List.getLast?_cons]
        have whole : before ++ '.' :: (label ++ ['.']) = (before ++ '.' :: label) ++ ['.'] := by
          simp
        rw [Text.dropEndDot, if_pos dotted, whole, List.dropLast_concat]
    rw [endsInTopLabel, dropped, found]
    exact top

theorem isLiteral_of_mem_label {label : Text} (top : Domain.isTopLabel label = true) :
    ∀ c ∈ label, isLiteral c = true :=
  fun c member => isLiteral_of_isLabelCharacter ((isLabelCharacter_of_mem top).2 c member)

/-- Macro text in front of a last label is macro text altogether. -/
theorem isDomainSpec_of_literals {tokens : List Token} {after : Text} (plain : ArePlain tokens)
    (literal : ∀ c ∈ after, isLiteral c = true)
    (ends : endsInTopLabel (textOf tokens ++ '.' :: after) = true) :
    isDomainSpec (textOf tokens ++ '.' :: after) = true := by
  have allLiteral : ∀ c ∈ '.' :: after, isLiteral c = true :=
    List.forall_mem_cons.mpr ⟨by decide, literal⟩
  have read : tokens? (textOf tokens ++ '.' :: after)
      = some (tokens ++ ('.' :: after).map Token.literal) := by
    refine tokens?_eq_some_iff.mpr ⟨?_, ?_⟩
    · exact arePlain_append.mpr ⟨plain, arePlain_literals allLiteral⟩
    · rw [textOf_append, textOf_literals]
  rw [isDomainSpec, read]
  simp [ends]

theorem isDomainSpec_iff {text : Text} : isDomainSpec text = true ↔ IsDomainText text := by
  constructor
  · intro spec
    unfold isDomainSpec at spec
    split at spec
    · cases spec
    · rename_i tokens read
      obtain ⟨plain, written⟩ := tokens?_eq_some_iff.mp read
      rcases Bool.or_eq_true_iff.mp spec with expands | ends
      · -- The last token is the ending.
        rcases List.eq_nil_or_concat tokens with rfl | ⟨front, last, rfl⟩
        · cases expands
        · rw [List.concat_eq_append] at plain written expands
          obtain ⟨areFront, areLast⟩ := arePlain_append.mp plain
          refine ⟨front, last.text, areFront, .expansion (areLast last (by simp)) ?_, ?_⟩
          · simpa using expands
          · rw [written, textOf_append]
            simp [textOf]
      · obtain ⟨before, label, top, shape⟩ := endsInTopLabel_iff.mp ends
        have unclosed : '}' ∉ label := not_mem_of_isTopLabel top (by decide)
        rcases shape with parts | parts
        · obtain ⟨front, areFront, rfl⟩ :=
            exists_textOf_of_dot plain (written.symm.trans parts) unclosed
          exact ⟨front, _, areFront, .label top, parts⟩
        · have stillUnclosed : '}' ∉ label ++ ['.'] := by simpa using unclosed
          obtain ⟨front, areFront, rfl⟩ :=
            exists_textOf_of_dot plain (written.symm.trans parts) stillUnclosed
          exact ⟨front, _, areFront, .dotted top, parts⟩
  · rintro ⟨tokens, ending, plain, isEnding, rfl⟩
    cases isEnding with
    | @expansion token areLast expands =>
        have read : tokens? (textOf tokens ++ token.text) = some (tokens ++ [token]) := by
          refine tokens?_eq_some_iff.mpr ⟨?_, ?_⟩
          · exact arePlain_append.mpr ⟨plain, by simpa [ArePlain] using areLast⟩
          · rw [textOf_append]
            simp [textOf]
        rw [isDomainSpec, read]
        simp [expands]
    | @label label top =>
        exact isDomainSpec_of_literals plain (isLiteral_of_mem_label top)
          (endsInTopLabel_iff.mpr ⟨_, label, top, .inl rfl⟩)
    | @dotted label top =>
        have literal : ∀ c ∈ label ++ ['.'], isLiteral c = true :=
          List.forall_mem_append.mpr
            ⟨isLiteral_of_mem_label top, List.forall_mem_singleton.mpr (by decide)⟩
        exact isDomainSpec_of_literals plain literal
          (endsInTopLabel_iff.mpr ⟨_, label, top, .inr rfl⟩)

end SenderPolicy.Macro
