import Mathlib.Algebra.Group.Nat.Defs
import SenderPolicy.Failure
import SenderPolicy.Macro.Expansion

/-!
# What macro text stands for

`Reads` describes from left to right what comes of ASCII text: a text, a permanent error, or
the need to learn the client's domain first. It knows no scanner and no tokens. Text begins
with a lexeme or it does not, each lexeme has its own reading, and the first one that gives no
text decides. Symbols are characters here, and what a cell does with its value is said by the
parts of the value and not by the steps that find them.
-/

namespace SenderPolicy.Macro

/-- What comes of macro text. -/
inductive Reading where
  | text (text : Text)
  | failed (code : ResultCode)
  | clientUnknown
deriving DecidableEq

/-- The reading of what stands behind some text that has been read. -/
def Reading.after (front : Text) : Reading → Reading
  | .text rest => .text (front ++ rest)
  | .failed code => .failed code
  | .clientUnknown => .clientUnknown

/-- One reading after another: the first that gives no text decides. -/
def Reading.followedBy (first later : Reading) : Reading :=
  match first with
  | .text front => later.after front
  | .failed code => .failed code
  | .clientUnknown => .clientUnknown

/-- The reading with its text changed. -/
def Reading.map (change : Text → Text) : Reading → Reading
  | .text whole => .text (change whole)
  | .failed code => .failed code
  | .clientUnknown => .clientUnknown

/-! ## Values -/

/-- The values of the symbols. Only that of `p` can be unknown. -/
def symbolValue? (localNames : List Text) (values : Values) (symbol : Char) : Option Text :=
  match symbol with
  | 's' => some values.sender
  | 'l' => some values.localPart
  | 'o' => some values.senderDomain
  | 'd' => some values.domain
  | 'i' => some values.address
  | 'p' => values.clientDomain
  | 'v' => some values.family
  | 'h' => some values.helo
  | 'c' => some values.readableAddress
  | 'r' => some ((findReceiver localNames values.receiver).getD unknownName)
  | 't' => some (Text.ofNat values.timestamp)
  | _ => none

/-- The parts of text, which every occurrence of a delimiter separates. -/
inductive Parts (delimiters : Text) : Text → List Text → Prop where
  | last {part} (free : ∀ c ∈ part, c ∉ delimiters) : Parts delimiters part [part]
  | cons {part mark rest parts} (free : ∀ c ∈ part, c ∉ delimiters)
      (separates : mark ∈ delimiters) (later : Parts delimiters rest parts) :
      Parts delimiters (part ++ mark :: rest) (part :: parts)

/-! ## Cells -/

/-- A cell as it is written. -/
structure WrittenCell where
  symbol : Char
  digits : Text
  reversed : Bool
  delimiters : Text

/-- The symbols that only explanations may use. -/
def explanatorySymbols : Text := "crt".toList

namespace WrittenCell

/-- What stands between the symbol and the closing brace. -/
def transformers (cell : WrittenCell) : Text :=
  cell.digits ++ (if cell.reversed then ['r'] else []) ++ cell.delimiters

def text (cell : WrittenCell) : Text :=
  '%' :: '{' :: cell.symbol :: (cell.transformers ++ ['}'])

structure IsWellFormed (cell : WrittenCell) : Prop where
  symbol : cell.symbol.toLower ∈ "slodipvhcrt".toList
  digits : ∀ c ∈ cell.digits, c.isDigit = true
  delimiters : ∀ c ∈ cell.delimiters, c ∈ ".-+,/_=".toList

/-- The number of parts to keep. -/
def count (cell : WrittenCell) : Nat :=
  Nat.ofDigitChars 10 cell.digits 0

/-- A value without transformers stays as it is. Otherwise its parts are put in order, the
last of them are kept, and dots stand between these. -/
inductive Rearranges (cell : WrittenCell) (value : Text) : Text → Prop where
  | untouched (nothing : cell.transformers = []) : Rearranges cell value value
  | rearranged {parts kept} (some : cell.transformers ≠ [])
      (separated : Parts (if cell.delimiters = [] then ['.'] else cell.delimiters) value parts)
      (last : kept <:+ if cell.reversed then parts.reverse else parts)
      (count : kept.length
        = if cell.digits = [] then parts.length else min cell.count parts.length) :
      Rearranges cell value (List.intercalate ['.'] kept)

end WrittenCell

section
variable (localNames : List Text) (mode : Mode) (values : Values)

/-- What a cell stands for. A symbol in upper case asks for percent encoding. -/
inductive WrittenCell.Means (cell : WrittenCell) : Reading → Prop where
  | forbidden (domain : mode = .domain)
      (explanatory : cell.symbol.toLower ∈ explanatorySymbols) : Means cell (.failed .permError)
  | clientUnknown (client : cell.symbol.toLower = 'p') (unknown : values.clientDomain = none) :
      Means cell .clientUnknown
  | miscounted {value}
      (allowed : mode = .domain → cell.symbol.toLower ∉ explanatorySymbols)
      (known : symbolValue? localNames values cell.symbol.toLower = some value)
      (given : cell.digits ≠ []) (outside : cell.count = 0 ∨ 2 ^ 64 ≤ cell.count) :
      Means cell (.failed .permError)
  | value {value text}
      (allowed : mode = .domain → cell.symbol.toLower ∉ explanatorySymbols)
      (known : symbolValue? localNames values cell.symbol.toLower = some value)
      (counted : cell.digits ≠ [] → 0 < cell.count ∧ cell.count < 2 ^ 64)
      (rearranges : cell.Rearranges
        (if cell.symbol.isUpper then value.percentEncode else value) text) :
      Means cell (.text text)

/-! ## Text -/

/-- The shortest texts that have a reading. -/
inductive Lexeme : Text → Reading → Prop where
  | space (spoken : mode = .explanation) : Lexeme [' '] (.text [' '])
  | literal {c : Char} (low : 0x21 ≤ c.toNat) (high : c.toNat ≤ 0x7E) (other : c ≠ '%') :
      Lexeme [c] (.text [c])
  | percent : Lexeme "%%".toList (.text "%".toList)
  | escapedSpace : Lexeme "%_".toList (.text " ".toList)
  | encodedSpace : Lexeme "%-".toList (.text "%20".toList)
  | cell {cell : WrittenCell} {reading} (wellFormed : cell.IsWellFormed)
      (means : cell.Means localNames mode values reading) : Lexeme cell.text reading

/-- What comes of text: its lexemes one after the other, up to the first that gives no text
or to a place where none stands. -/
inductive Reads : Text → Reading → Prop where
  | done : Reads [] (.text [])
  | next {front piece rest reading} (lexeme : Lexeme localNames mode values front (.text piece))
      (later : Reads rest reading) : Reads (front ++ rest) (reading.after piece)
  | obstacle {front reading} (rest : Text) (lexeme : Lexeme localNames mode values front reading)
      (noText : ∀ piece, reading ≠ .text piece) : Reads (front ++ rest) reading
  | stuck {text} (some : text ≠ [])
      (noLexeme : ∀ front reading rest, Lexeme localNames mode values front reading →
        text ≠ front ++ rest) :
      Reads text (.failed .permError)

end

theorem Lexeme.ne_nil {localNames : List Text} {mode : Mode} {values : Values} {front : Text}
    {reading : Reading} (lexeme : Lexeme localNames mode values front reading) : front ≠ [] := by
  cases lexeme <;> exact List.cons_ne_nil _ _

/-- Something comes of every text. -/
theorem exists_reads (localNames : List Text) (mode : Mode) (values : Values) (text : Text) :
    ∃ reading, Reads localNames mode values text reading := by
  induction length : text.length using Nat.strongRecOn generalizing text with
  | ind _ inductionHypothesis =>
      by_cases empty : text = []
      · subst empty
        exact ⟨_, .done⟩
      · by_cases begins : ∃ front reading rest,
            Lexeme localNames mode values front reading ∧ text = front ++ rest
        · obtain ⟨front, reading, rest, lexeme, rfl⟩ := begins
          have positive := List.length_pos_iff.mpr lexeme.ne_nil
          rw [List.length_append] at length
          obtain ⟨later, reads⟩ := inductionHypothesis rest.length (by omega) rest rfl
          cases reading with
          | text piece => exact ⟨_, .next lexeme reads⟩
          | failed code => exact ⟨_, .obstacle rest lexeme nofun⟩
          | clientUnknown => exact ⟨_, .obstacle rest lexeme nofun⟩
        · refine ⟨_, .stuck empty fun front reading rest lexeme parts => ?_⟩
          exact begins ⟨front, reading, rest, lexeme, parts⟩

/-- The reading that an expansion amounts to. -/
def readingOf : Except Obstacle Text → Reading
  | .ok text => .text text
  | .error (.failure failure) => .failed failure.code
  | .error .clientDomainUnknown => .clientUnknown

end SenderPolicy.Macro
