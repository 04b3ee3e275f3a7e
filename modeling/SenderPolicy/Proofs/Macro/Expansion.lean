import SenderPolicy.Proofs.Macro.Characters
import SenderPolicy.Proofs.Macro.Reading
import SenderPolicy.Proofs.Macro.Values
import SenderPolicy.Proofs.Text.Ascii
import SenderPolicy.Proofs.Text.Decimal

/-!
# Expanding is reading

Expanding ASCII text gives what `Reads` says, and `Reads` says one thing of every such text.
In an explanation, text is expanded word by word; a lexeme never reaches over a space, so this
is the same as going from left to right.
-/

namespace SenderPolicy.Macro

/-! ## Parts of a value -/

theorem join_eq_intercalate (separator : Text) (pieces : List Text) :
    Text.join separator pieces = List.intercalate separator pieces := by
  induction pieces with
  | nil => rfl
  | cons piece pieces inductionHypothesis =>
      cases pieces with
      | nil => simp [Text.join, List.intercalate]
      | cons next pieces =>
          rw [Text.join, inductionHypothesis]
          simp [List.intercalate]

theorem parts_split (delimiters text : Text) :
    Parts delimiters text (Text.split delimiters.contains text) := by
  generalize splits : Text.split delimiters.contains text = parts
  induction parts generalizing text with
  | nil => exact absurd splits (Text.split_ne_nil _ _)
  | cons part parts inductionHypothesis =>
      obtain ⟨free, ending⟩ := Text.split_eq_cons splits
      have apart : ∀ c ∈ part, c ∉ delimiters := fun c member => by simpa using free c member
      rcases ending with ⟨rfl, rfl⟩ | ⟨mark, rest, separates, rfl, later⟩
      · exact .last apart
      · exact .cons apart (by simpa using separates) (inductionHypothesis rest later)

theorem Parts.split_eq {delimiters text : Text} {parts : List Text}
    (separated : Parts delimiters text parts) :
    Text.split delimiters.contains text = parts := by
  induction separated with
  | last free => exact Text.split_of_free fun c member => by simpa using free c member
  | cons free separates later inductionHypothesis =>
      rw [Text.split_append_cons (fun c member => by simpa using free c member)
        (by simpa using separates), inductionHypothesis]

/-! ## Cells -/

namespace WrittenCell

/-- The number of parts that the digits of a cell ask for, if they may ask for it. -/
inductive Counts (cell : WrittenCell) : Option Nat → Prop where
  | all (nothing : cell.digits = []) : Counts cell none
  | some (given : cell.digits ≠ []) (positive : 0 < cell.count) (bounded : cell.count < 2 ^ 64) :
      Counts cell (some cell.count)

section
variable {cell : WrittenCell} (wellFormed : cell.IsWellFormed)
include wellFormed

theorem toNat?_digits (given : cell.digits ≠ []) : Text.toNat? cell.digits = some cell.count :=
  Text.toNat?_eq_some_iff.mpr ⟨given, List.all_eq_true.mpr wellFormed.digits, rfl⟩

theorem readKeep_of_counts {keep : Option Nat} (counts : cell.Counts keep) :
    Transformer.readKeep cell.digits = .ok keep := by
  cases counts with
  | all nothing => rw [nothing]; rfl
  | some given positive bounded =>
      unfold Transformer.readKeep
      rw [toNat?_digits wellFormed given]
      generalize cell.count = count at positive bounded
      cases count with
      | zero => contradiction
      | succ count => exact if_pos bounded

theorem readKeep_of_outside (given : cell.digits ≠ [])
    (outside : cell.count = 0 ∨ 2 ^ 64 ≤ cell.count) :
    ∃ failure, Transformer.readKeep cell.digits = .error failure
      ∧ failure.code = .permError := by
  unfold Transformer.readKeep
  rw [toNat?_digits wellFormed given]
  generalize cell.count = count at outside
  cases count with
  | zero => exact ⟨_, rfl, rfl⟩
  | succ count =>
      have beyond : ¬ count + 1 < Transformer.partsBound := by
        simp only [Transformer.partsBound]
        omega
      exact ⟨_, if_neg beyond, rfl⟩

/-- The digits, the `r` and the delimiters are told apart by their characters. -/
theorem read_transformers :
    Transformer.read cell.transformers
      = (Transformer.readKeep cell.digits).map fun keep =>
          ⟨keep, cell.reversed, cell.delimiters⟩ := by
  have digits : ∀ c ∈ cell.digits, c.isDigit = true := wellFormed.digits
  have delimiters : ∀ c ∈ cell.delimiters, c.isDigit = false ∧ c ≠ 'r' := by
    intro c member
    have each : ".-+,/_=".toList.all (fun c => decide (c.isDigit = false ∧ c ≠ 'r')) = true := by
      decide
    exact of_decide_eq_true (List.all_eq_true.mp each c (wellFormed.delimiters c member))
  have split : spanWhile Char.isDigit cell.transformers
      = (cell.digits, (if cell.reversed then ['r'] else []) ++ cell.delimiters) := by
    rw [transformers, List.append_assoc]
    refine spanWhile_append digits fun c first => ?_
    cases reversed : cell.reversed with
    | true =>
        obtain rfl : 'r' = c := by simpa [reversed] using first
        decide
    | false =>
        have isDelimiter : cell.delimiters.head? = some c := by simpa [reversed] using first
        exact (delimiters c (List.mem_of_head? isDelimiter)).1
  obtain ⟨taken, dropped⟩ := Prod.mk.inj split
  unfold Transformer.read
  dsimp only
  rw [taken, dropped]
  congr 1
  funext keep
  cases reversed : cell.reversed with
  | true => rfl
  | false =>
      simp only [Bool.false_eq_true, if_false, List.nil_append]
      split
      · rename_i rest parts
        exact absurd rfl (delimiters 'r' (by simp [parts])).2
      · rfl

/-- The transformer of a well-formed cell splits at delimiters only. -/
theorem isDelimiter_of_read {transformer : Transformer}
    (read : Transformer.read cell.transformers = .ok transformer) :
    ∀ c ∈ transformer.delimiters, isDelimiter c = true := by
  have each : ".-+,/_=".toList.all isDelimiter = true := by decide
  rw [read_transformers wellFormed] at read
  cases keep : Transformer.readKeep cell.digits with
  | error failure =>
      rw [keep] at read
      cases read
  | ok keep =>
      rw [keep] at read
      cases read
      exact fun c member => List.all_eq_true.mp each c (wellFormed.delimiters c member)

end

/-- A transformer gives what the cell's parts say. -/
theorem apply_of_rearranges {cell : WrittenCell} {keep : Option Nat} (counts : cell.Counts keep)
    {value text : Text} (rearranges : cell.Rearranges value text) :
    Transformer.apply ⟨keep, cell.reversed, cell.delimiters⟩ value = text := by
  have trivial_iff : Transformer.isTrivial ⟨keep, cell.reversed, cell.delimiters⟩ = true
      ↔ cell.transformers = [] := by
    cases counts with
    | all nothing =>
        cases reversed : cell.reversed <;>
          simp [Transformer.isTrivial, transformers, nothing, reversed]
    | some given =>
        simp [Transformer.isTrivial, transformers, given]
  unfold Transformer.apply
  cases rearranges with
  | untouched nothing => rw [if_pos (trivial_iff.mpr nothing)]
  | @rearranged parts kept some separated last count =>
      have notTrivial : ¬ Transformer.isTrivial ⟨keep, cell.reversed, cell.delimiters⟩ = true :=
        fun isTrivial => some (trivial_iff.mp isTrivial)
      rw [if_neg notTrivial]
      dsimp only
      rw [separated.split_eq, join_eq_intercalate]
      have ordered : (if cell.reversed = true then parts.reverse else parts).length
          = parts.length := by
        split <;> simp
      congr 1
      rw [List.suffix_iff_eq_drop.mp last, ordered, count]
      cases counts with
      | all nothing => simp [Transformer.keepLast, nothing]
      | some given =>
          rw [if_neg given, Transformer.keepLast, ordered]
          congr 1
          omega

/-- The cell of the syntax that is written so. -/
structure Writes (cell : WrittenCell) (found : Cell) : Prop where
  symbol : found.letter.symbol = cell.symbol.toLower
  encoded : found.encoded = cell.symbol.isUpper
  transformers : found.transformers = cell.transformers

theorem exists_writes {cell : WrittenCell} (wellFormed : cell.IsWellFormed) :
    ∃ found, cell.Writes found := by
  have each : "slodipvhcrt".toList.all
      (fun c => Letter.all.any fun letter => letter.symbol = c) = true := by
    decide
  have some := List.all_eq_true.mp each _ wellFormed.symbol
  obtain ⟨letter, _, same⟩ := List.any_eq_true.mp some
  exact ⟨⟨letter, cell.symbol.isUpper, cell.transformers⟩, of_decide_eq_true same, rfl, rfl⟩

section
variable {cell : WrittenCell} {found : Cell} (writes : cell.Writes found)
include writes

theorem Writes.text_eq : Token.text (.cell found) = cell.text := by
  have known : Letter.ofSymbol? cell.symbol.toLower = some found.letter := by
    rw [← writes.symbol, Letter.ofSymbol?_symbol]
  rw [Token.text, Cell.text, writes.encoded, mark_of_ofSymbol? known, writes.transformers]
  rfl

theorem Writes.isPlain (wellFormed : cell.IsWellFormed) : Token.IsPlain (.cell found) := by
  refine ⟨cell.digits, if cell.reversed then ['r'] else [], cell.delimiters,
    writes.transformers, ?_, ?_, ?_⟩
  · exact fun c member => isDecimalDigit_of_isDigit (wellFormed.digits c member)
  · cases cell.reversed <;> simp
  · intro c member
    have each : ".-+,/_=".toList.all isDelimiter = true := by decide
    exact List.all_eq_true.mp each c (wellFormed.delimiters c member)

/-- The values of symbols are those of letters. -/
theorem Writes.symbolValue?_eq (localNames : List Text) (values : Values) :
    symbolValue? localNames values cell.symbol.toLower = values.value? localNames found.letter := by
  rw [← writes.symbol]
  cases found.letter <;> rfl

theorem Writes.allows_iff {mode : Mode} :
    mode.allows found.letter = true
      ↔ (mode = .domain → cell.symbol.toLower ∉ explanatorySymbols) := by
  rw [← writes.symbol]
  cases mode <;> cases found.letter <;> decide

end

section
variable {localNames : List Text} {mode : Mode} {values : Values} {cell : WrittenCell}
  (wellFormed : cell.IsWellFormed)
include wellFormed

/-- A cell expands to what it stands for. -/
theorem Means.readingOf_eq {found : Cell} (writes : cell.Writes found) {reading : Reading}
    (means : cell.Means localNames mode values reading) :
    readingOf (expandCell localNames mode values found) = reading := by
  have transformer := read_transformers wellFormed
  rw [← writes.transformers] at transformer
  rw [expandCell_eq]
  cases means with
  | forbidden domain explanatory =>
      have forbids : ¬ mode.allows found.letter = true :=
        fun allows => writes.allows_iff.mp allows domain explanatory
      rw [if_neg forbids]
      rfl
  | clientUnknown client unknown =>
      have allowed : mode.allows found.letter = true := by
        rw [writes.allows_iff, client]
        exact fun _ => by decide
      have nothing : values.value? localNames found.letter = none := by
        rw [← writes.symbolValue?_eq, client]
        exact unknown
      rw [if_pos allowed, nothing]
      rfl
  | miscounted allowed known given outside =>
      obtain ⟨failure, failed, code⟩ := readKeep_of_outside wellFormed given outside
      rw [failed] at transformer
      rw [if_pos (writes.allows_iff.mpr allowed), ← writes.symbolValue?_eq, known, transformer]
      exact congrArg Reading.failed code
  | value allowed known counted rearranges =>
      obtain ⟨keep, counts⟩ : ∃ keep, cell.Counts keep := by
        by_cases nothing : cell.digits = []
        · exact ⟨none, .all nothing⟩
        · exact ⟨_, .some nothing (counted nothing).1 (counted nothing).2⟩
      rw [readKeep_of_counts wellFormed counts] at transformer
      rw [if_pos (writes.allows_iff.mpr allowed), ← writes.symbolValue?_eq, known, transformer]
      rw [← writes.encoded] at rearranges
      exact congrArg Reading.text (apply_of_rearranges counts rearranges)

omit wellFormed in
theorem exists_rearranges (cell : WrittenCell) (value : Text) :
    ∃ text, cell.Rearranges value text := by
  by_cases nothing : cell.transformers = []
  · exact ⟨value, .untouched nothing⟩
  · have separated := parts_split (if cell.delimiters = [] then ['.'] else cell.delimiters) value
    generalize Text.split _ value = parts at separated
    have ordered : (if cell.reversed = true then parts.reverse else parts).length
        = parts.length := by
      split <;> simp
    refine ⟨_, .rearranged nothing separated (List.drop_suffix
      (if cell.digits = [] then 0 else parts.length - cell.count) _) ?_⟩
    rw [List.length_drop, ordered]
    split <;> omega

theorem exists_means : ∃ reading, cell.Means localNames mode values reading := by
  by_cases allowed : mode = .domain → cell.symbol.toLower ∉ explanatorySymbols
  · cases known : symbolValue? localNames values cell.symbol.toLower with
    | none =>
        obtain ⟨found, writes⟩ := exists_writes wellFormed
        rw [writes.symbolValue?_eq] at known
        obtain ⟨letter, unknown⟩ := value?_eq_none_iff.mp known
        have client : cell.symbol.toLower = 'p' := by
          rw [← writes.symbol, letter]
          rfl
        exact ⟨_, .clientUnknown client unknown⟩
    | some value =>
        by_cases counted : cell.digits ≠ [] → 0 < cell.count ∧ cell.count < 2 ^ 64
        · obtain ⟨text, rearranges⟩ := exists_rearranges cell
            (if cell.symbol.isUpper then value.percentEncode else value)
          exact ⟨_, .value allowed known counted rearranges⟩
        · obtain ⟨given, outside⟩ := Classical.not_imp.mp counted
          exact ⟨_, .miscounted allowed known given (by omega)⟩
  · obtain ⟨domain, explanatory⟩ := Classical.not_imp.mp allowed
    exact ⟨_, .forbidden domain (Classical.not_not.mp explanatory)⟩

end

end WrittenCell

/-! ## Lexemes -/

/-- A lexeme is the space between words or a token. -/
inductive IsRead (localNames : List Text) (mode : Mode) (values : Values) :
    Text → Reading → Prop where
  | space (spoken : mode = .explanation) : IsRead localNames mode values [' '] (.text [' '])
  | token (token : Token) (plain : token.IsPlain) :
      IsRead localNames mode values token.text
        (readingOf (expandToken localNames mode values token))

section
variable {localNames : List Text} {mode : Mode} {values : Values}

theorem Lexeme.isRead {front : Text} {reading : Reading}
    (lexeme : Lexeme localNames mode values front reading) :
    IsRead localNames mode values front reading := by
  cases lexeme with
  | space spoken => exact .space spoken
  | @literal c low high other =>
      have plain : Token.IsPlain (.literal c) := by
        simp [Token.IsPlain, isLiteral, low, high, other]
      exact .token (.literal c) plain
  | percent => exact .token .percent trivial
  | escapedSpace => exact .token .space trivial
  | encodedSpace => exact .token .encodedSpace trivial
  | @cell cell reading wellFormed means =>
      obtain ⟨found, writes⟩ := WrittenCell.exists_writes wellFormed
      rw [← writes.text_eq, ← WrittenCell.Means.readingOf_eq wellFormed writes means]
      exact .token (.cell found) (writes.isPlain wellFormed)

/-- How the syntax takes a cell apart: decimal digits of any row, an `r` or none, and
delimiters. -/
structure WrittenCell.Matches (cell : WrittenCell) (found : Cell) : Prop where
  writes : cell.Writes found
  digits : ∀ c ∈ cell.digits, isDecimalDigit c = true
  delimiters : ∀ c ∈ cell.delimiters, isDelimiter c = true

theorem WrittenCell.exists_matches {found : Cell} (plain : IsTransformers found.transformers) :
    ∃ cell : WrittenCell, cell.Matches found := by
  obtain ⟨digits, reversal, delimiters, parts, areDigits, shape, areDelimiters⟩ := plain
  obtain ⟨known, upper⟩ := ofSymbol?_mark found.letter found.encoded
  refine ⟨⟨if found.encoded then found.letter.symbol.toUpper else found.letter.symbol, digits,
    reversal = ['r'], delimiters⟩, ⟨?_, upper.symm, ?_⟩, areDigits, areDelimiters⟩
  · simpa using List.find?_some known
  · rw [parts, WrittenCell.transformers]
    rcases shape with rfl | rfl <;> rfl

/-- A cell of the syntax is well-formed if its digits are those that count. -/
theorem WrittenCell.Matches.isWellFormed {cell : WrittenCell} {found : Cell}
    (isMatch : cell.Matches found) (digits : ∀ c ∈ cell.digits, c.isDigit = true) :
    cell.IsWellFormed := by
  refine ⟨?_, digits, ?_⟩
  · rw [← isMatch.writes.symbol]
    cases found.letter <;> decide
  · intro c member
    have delimiter := isMatch.delimiters c member
    simp only [isDelimiter, Bool.or_eq_true, beq_iff_eq] at delimiter
    rcases delimiter with (((((rfl | rfl) | rfl) | rfl) | rfl) | rfl) | rfl <;> decide

/-- How a cell of the syntax is written. In ASCII text the digits of a cell are those that
count. -/
theorem exists_writtenCell {found : Cell} (plain : IsTransformers found.transformers)
    (digitsAreAscii : Text.DigitsAreAscii found.transformers) :
    ∃ cell : WrittenCell, cell.IsWellFormed ∧ cell.Writes found := by
  obtain ⟨cell, isMatch⟩ := WrittenCell.exists_matches plain
  refine ⟨cell, isMatch.isWellFormed fun c member => ?_, isMatch.writes⟩
  have inside : c ∈ found.transformers := by
    rw [isMatch.writes.transformers, WrittenCell.transformers]
    simp [member]
  exact digitsAreAscii c inside (isMatch.digits c member)

theorem lexeme_of_isPlain {token : Token} (plain : token.IsPlain)
    (ascii : Text.isAscii token.text = true) :
    Lexeme localNames mode values token.text
      (readingOf (expandToken localNames mode values token)) := by
  cases token with
  | literal c =>
      have literal : isLiteral c = true := plain
      simp only [isLiteral, Bool.and_eq_true, decide_eq_true_eq, bne_iff_ne] at literal
      exact .literal literal.1.1 literal.1.2 literal.2
  | percent => exact .percent
  | space => exact .escapedSpace
  | encodedSpace => exact .encodedSpace
  | cell found =>
      have inner : Text.isAscii found.transformers = true := by
        refine List.all_eq_true.mpr fun c member => List.all_eq_true.mp ascii c ?_
        simp [Token.text, Cell.text, member]
      obtain ⟨cell, wellFormed, writes⟩ :=
        exists_writtenCell plain (Text.digitsAreAscii_of_isAscii inner)
      obtain ⟨reading, means⟩ : ∃ reading, cell.Means localNames mode values reading :=
        WrittenCell.exists_means wellFormed
      have same := means.readingOf_eq wellFormed writes
      rw [writes.text_eq]
      exact .cell wellFormed (same ▸ means)

end

/-! ## Readings one after the other -/

namespace Reading

@[simp]
theorem after_nil (reading : Reading) : reading.after [] = reading := by
  cases reading <;> rfl

theorem followedBy_assoc (first second third : Reading) :
    (first.followedBy second).followedBy third = first.followedBy (second.followedBy third) := by
  cases first with
  | text front =>
      cases second with
      | text middle => cases third <;> simp [followedBy, after]
      | failed code => rfl
      | clientUnknown => rfl
  | failed code => rfl
  | clientUnknown => rfl

end Reading

section
variable {localNames : List Text} {mode : Mode} {values : Values}

theorem code_unreadable (text rest : Text) : (unreadable text rest).code = .permError := by
  unfold unreadable
  split <;> rfl

/-! ## Words -/

theorem readingOf_expandString_nil :
    readingOf (expandString localNames mode values []) = .text [] := by
  simp [expandString, scan_of_none (rfl : Token.read? [] = none), expandTokens, readingOf]

/-- Text that starts with a token stands for what the token stands for and what follows. -/
theorem readingOf_expandString_append {token : Token} (plain : token.IsPlain) (rest : Text) :
    readingOf (expandString localNames mode values (token.text ++ rest))
      = (readingOf (expandToken localNames mode values token)).followedBy
          (readingOf (expandString localNames mode values rest)) := by
  have scanned := scan_of_some (Token.read?_eq_some_iff.mpr ⟨plain, rfl⟩ :
    Token.read? (token.text ++ rest) = some (token, rest))
  unfold expandString
  rw [scanned]
  simp only [expandTokens]
  cases expandToken localNames mode values token with
  | error obstacle => cases obstacle <;> rfl
  | ok piece =>
      cases expandTokens localNames mode values (scan rest).1 with
      | error obstacle => cases obstacle <;> rfl
      | ok expanded =>
          by_cases done : (scan rest).2 = []
          · simp [done, Except.map, readingOf, Reading.followedBy, Reading.after]
          · simp [done, Except.map, readingOf, Reading.followedBy, Reading.after, code_unreadable]

/-- Text that starts with no token is an error. -/
theorem readingOf_expandString_stuck {text : Text} (some : text ≠ [])
    (none : Token.read? text = none) :
    readingOf (expandString localNames mode values text) = .failed .permError := by
  simp [expandString, scan_of_none none, expandTokens, some, readingOf, code_unreadable]

/-- What words stand for, with spaces between them. -/
def spoken (localNames : List Text) (mode : Mode) (values : Values) (words : List Text) :
    Reading :=
  readingOf ((expandStrings localNames mode values words).map (Text.join [' ']))

theorem spoken_singleton (word : Text) :
    spoken localNames mode values [word]
      = readingOf (expandString localNames mode values word) := by
  unfold spoken
  simp only [expandStrings]
  cases expandString localNames mode values word with
  | error obstacle => rfl
  | ok text => rfl

theorem spoken_cons (word next : Text) (words : List Text) :
    spoken localNames mode values (word :: next :: words)
      = (readingOf (expandString localNames mode values word)).followedBy
          ((spoken localNames mode values (next :: words)).after [' ']) := by
  unfold spoken
  rw [expandStrings]
  cases expandString localNames mode values word with
  | error obstacle => cases obstacle <;> rfl
  | ok text =>
      simp only [expandStrings]
      cases expandString localNames mode values next with
      | error obstacle => cases obstacle <;> rfl
      | ok following =>
          cases expandStrings localNames mode values words with
          | error obstacle => cases obstacle <;> rfl
          | ok others => simp [Except.map, readingOf, Reading.followedBy, Reading.after, Text.join]

/-! ## Whole texts -/

/-- What text stands for before a domain is shortened, and whatever its shape. -/
def wholeReading (localNames : List Text) (mode : Mode) (values : Values) (text : Text) :
    Reading :=
  spoken localNames mode values (pieces mode text)

theorem space_not_mem_text {token : Token} (plain : token.IsPlain) : ' ' ∉ token.text :=
  fun member => absurd (isInk_of_isPlain plain _ member) (by decide)

theorem wholeReading_nil : wholeReading localNames mode values [] = .text [] := by
  cases mode <;> exact (spoken_singleton []).trans readingOf_expandString_nil

/-- A space before other words is itself. -/
theorem wholeReading_space (rest : Text) :
    wholeReading localNames .explanation values (' ' :: rest)
      = (wholeReading localNames .explanation values rest).after [' '] := by
  unfold wholeReading pieces
  have split : Text.split (· = ' ') (' ' :: rest) = [] :: Text.split (· = ' ') rest := rfl
  dsimp only
  rw [split]
  cases words : Text.split (· = ' ') rest with
  | nil => exact absurd words (Text.split_ne_nil _ _)
  | cons word words =>
      rw [spoken_cons, readingOf_expandString_nil]
      exact Reading.after_nil _

theorem split_token_append {token : Token} (plain : token.IsPlain) {rest word : Text}
    {words : List Text} (split : Text.split (· = ' ') rest = word :: words) :
    Text.split (· = ' ') (token.text ++ rest) = (token.text ++ word) :: words := by
  have free : ∀ c ∈ token.text, decide (c = ' ') = false :=
    fun c member => decide_eq_false fun same => space_not_mem_text plain (same ▸ member)
  obtain ⟨freeWord, ⟨rfl, rfl⟩ | ⟨mark, after, separates, rfl, rfl⟩⟩ := Text.split_eq_cons split
  · exact Text.split_of_free (List.forall_mem_append.mpr ⟨free, freeWord⟩)
  · rw [← List.append_assoc]
    exact Text.split_append_cons (List.forall_mem_append.mpr ⟨free, freeWord⟩) separates

/-- A token at the start is read first, since it lies within the first word. -/
theorem wholeReading_append {token : Token} (plain : token.IsPlain) (rest : Text) :
    wholeReading localNames mode values (token.text ++ rest)
      = (readingOf (expandToken localNames mode values token)).followedBy
          (wholeReading localNames mode values rest) := by
  unfold wholeReading pieces
  cases mode with
  | domain =>
      dsimp only
      rw [spoken_singleton, spoken_singleton, readingOf_expandString_append plain]
  | explanation =>
      dsimp only
      cases split : Text.split (· = ' ') rest with
      | nil => exact absurd split (Text.split_ne_nil _ _)
      | cons word words =>
          rw [split_token_append plain split]
          cases words with
          | nil => rw [spoken_singleton, spoken_singleton, readingOf_expandString_append plain]
          | cons next words =>
              rw [spoken_cons, spoken_cons, readingOf_expandString_append plain,
                Reading.followedBy_assoc]

/-- Text that starts with no token and no space is an error. -/
theorem wholeReading_stuck {text : Text} (nonempty : text ≠ []) (none : Token.read? text = none)
    (noSpace : mode = .explanation → text.head? ≠ some ' ') :
    wholeReading localNames mode values text = .failed .permError := by
  unfold wholeReading pieces
  cases mode with
  | domain => exact (spoken_singleton text).trans (readingOf_expandString_stuck nonempty none)
  | explanation =>
      dsimp only
      cases split : Text.split (· = ' ') text with
      | nil => exact absurd split (Text.split_ne_nil _ _)
      | cons word words =>
          -- The first word has the first character of the text, and starts with no token either.
          obtain ⟨front, parts⟩ : ∃ rest, text = word ++ rest := by
            obtain ⟨_, ⟨_, rfl⟩ | ⟨mark, after, _, rfl, _⟩⟩ := Text.split_eq_cons split
            · exact ⟨[], (List.append_nil _).symm⟩
            · exact ⟨_, rfl⟩
          have wordNonempty : word ≠ [] := by
            rintro rfl
            obtain ⟨_, ⟨_, same⟩ | ⟨mark, after, separates, rfl, _⟩⟩ := Text.split_eq_cons split
            · exact nonempty same
            · obtain rfl : mark = ' ' := by simpa using separates
              exact noSpace rfl rfl
          have noToken : Token.read? word = Option.none := by
            cases read : Token.read? word with
            | none => rfl
            | some found =>
                obtain ⟨token, rest⟩ := found
                obtain ⟨plain, rfl⟩ := Token.read?_eq_some_iff.mp read
                have readText : Token.read? text = some (token, rest ++ front) :=
                  Token.read?_eq_some_iff.mpr ⟨plain, by rw [parts, List.append_assoc]⟩
                rw [readText] at none
                cases none
          have failed : readingOf (expandString localNames .explanation values word)
              = .failed .permError :=
            readingOf_expandString_stuck wordNonempty noToken
          cases words with
          | nil => rw [spoken_singleton, failed]
          | cons next words => rw [spoken_cons, failed]; rfl

/-- What is read of ASCII text is what it expands to. -/
theorem wholeReading_of_reads {text : Text} (ascii : text.isAscii = true) {reading : Reading}
    (reads : Reads localNames mode values text reading) :
    wholeReading localNames mode values text = reading := by
  induction reads with
  | done => exact wholeReading_nil
  | @next front piece rest reading lexeme later inductionHypothesis =>
      have asciiRest := (Text.isAscii_append.mp ascii).2
      generalize found : Reading.text piece = first at lexeme
      cases lexeme.isRead with
      | space spoken =>
          cases found
          subst spoken
          exact (wholeReading_space rest).trans (congrArg _ (inductionHypothesis asciiRest))
      | token token plain =>
          rw [wholeReading_append plain, ← found, inductionHypothesis asciiRest]
          rfl
  | @obstacle front reading rest lexeme noText =>
      cases lexeme.isRead with
      | space spoken => exact absurd rfl (noText _)
      | token token plain =>
          rw [wholeReading_append plain]
          cases outcome : readingOf (expandToken localNames mode values token) with
          | text piece => exact absurd outcome (noText piece)
          | failed code => rfl
          | clientUnknown => rfl
  | @stuck text some noLexeme =>
      refine wholeReading_stuck some ?_ ?_
      · cases read : Token.read? text with
        | none => rfl
        | some found =>
            obtain ⟨token, rest⟩ := found
            obtain ⟨plain, rfl⟩ := Token.read?_eq_some_iff.mp read
            have lexeme : Lexeme localNames mode values token.text _ :=
              lexeme_of_isPlain plain (Text.isAscii_append.mp ascii).1
            exact absurd rfl (noLexeme _ _ rest lexeme)
      · intro spoken first
        obtain ⟨rest, rfl⟩ := List.head?_eq_some_iff.mp first
        exact noLexeme _ _ rest (.space spoken) rfl

/-- Exactly one thing comes of ASCII text, and it is what the text expands to. -/
theorem wholeReading_eq_iff {text : Text} (ascii : text.isAscii = true) {reading : Reading} :
    wholeReading localNames mode values text = reading
      ↔ Reads localNames mode values text reading := by
  constructor
  · rintro rfl
    obtain ⟨reading, reads⟩ := exists_reads localNames mode values text
    exact wholeReading_of_reads ascii reads ▸ reads
  · exact wholeReading_of_reads ascii

end

/-! ## Both modes -/

section
variable (localNames : List Text) (values : Values)

/-- Tokens mean the same in both modes, unless one of them is only for explanations. -/
theorem expandTokens_modes (tokens : List Token) :
    expandTokens localNames .domain values tokens
        = expandTokens localNames .explanation values tokens
      ∨ (∃ found, .cell found ∈ tokens ∧ found.letter.isExplanatory = true)
        ∧ ∃ failure, expandTokens localNames .domain values tokens = .error (.failure failure)
          ∧ failure.code = .permError := by
  induction tokens with
  | nil => exact .inl rfl
  | cons token tokens inductionHypothesis =>
      have first : expandToken localNames .domain values token
            = expandToken localNames .explanation values token
          ∨ ∃ found, token = .cell found ∧ found.letter.isExplanatory = true := by
        cases token with
        | cell found =>
            cases explanatory : found.letter.isExplanatory with
            | false => exact .inl (by simp [expandToken, expandCell_eq, Mode.allows, explanatory])
            | true => exact .inr ⟨found, rfl, explanatory⟩
        | _ => exact .inl rfl
      rcases first with same | ⟨found, rfl, explanatory⟩
      · simp only [expandTokens, same]
        cases expandToken localNames .explanation values token with
        | error obstacle => exact .inl rfl
        | ok piece =>
            rcases inductionHypothesis with others | ⟨⟨found, member, explanatory⟩, failure, failed,
                code⟩
            · exact .inl (congrArg (Except.map _) others)
            · exact .inr ⟨⟨found, List.mem_cons_of_mem _ member, explanatory⟩, failure,
                congrArg (Except.map _) failed, code⟩
      · refine .inr ⟨⟨found, List.mem_cons_self, explanatory⟩, .letterNotAllowed found.text, ?_,
          rfl⟩
        simp [expandTokens, expandToken, expandCell_eq, Mode.allows, explanatory]

/-- Text without spaces means the same in both modes, unless it holds a symbol that is only
for explanations. -/
theorem wholeReading_modes {text : Text} (noSpace : ' ' ∉ text) :
    wholeReading localNames .domain values text = wholeReading localNames .explanation values text
      ∨ wholeReading localNames .domain values text = .failed .permError
        ∧ ∃ found, .cell found ∈ (scan text).1 ∧ found.letter.isExplanatory = true := by
  have free : ∀ c ∈ text, decide (c = ' ') = false :=
    fun c member => decide_eq_false fun same => noSpace (same ▸ member)
  unfold wholeReading pieces
  dsimp only
  rw [Text.split_of_free free, spoken_singleton, spoken_singleton]
  unfold expandString
  rcases expandTokens_modes localNames values (scan text).1 with
    same | ⟨some, failure, failed, code⟩
  · simp only [same, true_or]
  · refine .inr ⟨?_, some⟩
    simp only [failed, readingOf, code]

end

theorem readingOf_map (change : Text → Text) (outcome : Except Obstacle Text) :
    readingOf (outcome.map change) = (readingOf outcome).map change := by
  cases outcome with
  | ok text => rfl
  | error obstacle => cases obstacle <;> rfl

/-- A token of ASCII text that is only for explanations stands in it as a cell with such a
symbol. -/
theorem exists_explanatory {text : Text} (ascii : text.isAscii = true) {found : Cell}
    (member : .cell found ∈ (scan text).1) (explanatory : found.letter.isExplanatory = true) :
    ∃ front cell rest, text = front ++ WrittenCell.text cell ++ rest ∧ cell.IsWellFormed
      ∧ cell.symbol.toLower ∈ explanatorySymbols := by
  obtain ⟨plain, written⟩ := scan_sound text
  obtain ⟨before, after, tokens⟩ := List.append_of_mem member
  have isPlain : IsTransformers found.transformers := plain _ member
  have parts : text = textOf before ++ Token.text (.cell found)
      ++ (textOf after ++ (scan text).2) := by
    rw [tokens, textOf_append] at written
    simpa [textOf] using written
  have inner : Text.isAscii found.transformers = true := by
    refine List.all_eq_true.mpr fun c inside => List.all_eq_true.mp ascii c ?_
    rw [parts]
    simp [Token.text, Cell.text, inside]
  obtain ⟨cell, wellFormed, writes⟩ :=
    exists_writtenCell isPlain (Text.digitsAreAscii_of_isAscii inner)
  refine ⟨_, cell, _, writes.text_eq ▸ parts, wellFormed, ?_⟩
  rw [← writes.symbol]
  cases letter : found.letter <;> rw [letter] at explanatory <;> first | decide | cases explanatory

/-- Expanding ASCII text is reading it from left to right. An explanation comes to what its
text reads as. A domain is an error unless its text is a domain specification; it then comes
to what the text reads as, without as many labels as make it too long. That is what the text
reads as in an explanation, unless it holds a symbol that only explanations may use. -/
theorem expand_reads {text : Text} (ascii : text.isAscii = true) (localNames : List Text)
    (values : Values) :
    (∀ reading, readingOf (expand localNames .explanation values text) = reading
        ↔ Reads localNames .explanation values text reading)
      ∧ (∀ reading, readingOf (expand localNames .domain values text) = reading
        ↔ IsDomainText text
            ∧ (∃ full, Reads localNames .domain values text full
              ∧ reading = full.map shortenDomain)
          ∨ ¬ IsDomainText text ∧ reading = .failed .permError)
      ∧ (IsDomainText text → ∀ full spoken, Reads localNames .domain values text full →
        Reads localNames .explanation values text spoken →
          full = spoken ∨ full = .failed .permError ∧ ∃ front cell rest,
            text = front ++ WrittenCell.text cell ++ rest ∧ cell.IsWellFormed
              ∧ cell.symbol.toLower ∈ explanatorySymbols) := by
  refine ⟨fun reading => wholeReading_eq_iff ascii, fun reading => ?_, ?_⟩
  · by_cases domain : IsDomainText text
    · have whole : readingOf (expand localNames .domain values text)
          = (wholeReading localNames .domain values text).map shortenDomain := by
        rw [expand, readingOf_map, expandDomainFully, if_pos (isDomainSpec_iff.mpr domain)]
        exact congrArg _ (spoken_singleton text).symm
      rw [whole]
      simp only [domain, true_and, not_true_eq_false, false_and, or_false]
      constructor
      · rintro rfl
        exact ⟨_, (wholeReading_eq_iff ascii).mp rfl, rfl⟩
      · rintro ⟨full, reads, rfl⟩
        rw [(wholeReading_eq_iff ascii).mpr reads]
    · have refused : ¬ isDomainSpec text = true := fun spec => domain (isDomainSpec_iff.mp spec)
      simp only [expand, expandDomainFully, if_neg refused, domain, false_and, false_or,
        not_false_eq_true, true_and]
      exact eq_comm
  · intro domain full spoken readsFull readsSpoken
    have noSpace : ' ' ∉ text :=
      fun member => absurd (isInk_of_isDomainText domain _ member) (by decide)
    rw [← (wholeReading_eq_iff ascii).mpr readsFull, ← (wholeReading_eq_iff ascii).mpr readsSpoken]
    rcases wholeReading_modes localNames values noSpace with same | ⟨failed, found, member, only⟩
    · exact .inl same
    · exact .inr ⟨failed, exists_explanatory ascii member only⟩

/-- A reversed address between other parts of a domain, and a cell whose unknown value is met
before its wrong number of parts. -/
theorem expand_reads_reversed :
    let values : Values :=
      ⟨"strong-bad@email.example.com".toList, "strong-bad".toList, "email.example.com".toList,
        "email.example.com".toList, "192.0.2.3".toList, none, "in-addr".toList,
        "mx.example.org".toList, "192.0.2.3".toList, none, 0⟩
    Text.isAscii "%{ir}.%{v}._spf.%{d2}".toList = true
      ∧ Reads [] .explanation values "%{ir}.%{v}._spf.%{d2}".toList
        (.text "3.2.0.192.in-addr._spf.example.com".toList)
      ∧ Text.isAscii "at %{p0}".toList = true
      ∧ Reads [] .explanation values "at %{p0}".toList .clientUnknown := by
  intro values
  have ascii : Text.isAscii "%{ir}.%{v}._spf.%{d2}".toList = true := by decide
  have asciiUnknown : Text.isAscii "at %{p0}".toList = true := by decide
  exact ⟨ascii, ((expand_reads ascii [] values).1 _).mp (by decide +kernel), asciiUnknown,
    ((expand_reads asciiUnknown [] values).1 _).mp (by decide +kernel)⟩

end SenderPolicy.Macro
