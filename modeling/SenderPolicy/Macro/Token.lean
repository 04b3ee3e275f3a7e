import SenderPolicy.Text.Digit

/-!
# Tokens of macro text

Macro text is a row of tokens: literal characters, three escapes, and cells such as
`%{d2r.}` that stand for a value. `Token.read?` reads the one token that text can start
with, `scan` reads as many as it can, and `tokens?` demands that they make up all of the
text.
-/

namespace SenderPolicy.Macro

/-- What a cell can stand for. -/
inductive Letter where
  | sender
  | localPart
  | senderDomain
  | domain
  | address
  | clientDomain
  | family
  | helo
  | readableAddress
  | receiver
  | timestamp
deriving DecidableEq, Repr

namespace Letter

/-- All letters. -/
def all : List Letter :=
  [.sender, .localPart, .senderDomain, .domain, .address, .clientDomain, .family, .helo,
    .readableAddress, .receiver, .timestamp]

/-- The letter in lower case. -/
def symbol : Letter → Char
  | .sender => 's'
  | .localPart => 'l'
  | .senderDomain => 'o'
  | .domain => 'd'
  | .address => 'i'
  | .clientDomain => 'p'
  | .family => 'v'
  | .helo => 'h'
  | .readableAddress => 'c'
  | .receiver => 'r'
  | .timestamp => 't'

/-- What a lower-case letter stands for. -/
def ofSymbol? (symbol : Char) : Option Letter :=
  all.find? fun letter => letter.symbol = symbol

/-- A symbol stands for its letter. -/
theorem ofSymbol?_symbol (letter : Letter) : ofSymbol? letter.symbol = some letter := by
  cases letter <;> rfl

/-- What a letter is written as, in either letter case, tells the letter and the case. -/
theorem mark_eq (letter : Letter) (encoded : Bool) :
    let mark := if encoded then letter.symbol.toUpper else letter.symbol
    mark.toLower = letter.symbol ∧ mark.isUpper = encoded := by
  cases letter <;> cases encoded <;> decide

/-- The letters that only explanations may use. -/
def isExplanatory : Letter → Bool
  | .readableAddress | .receiver | .timestamp => true
  | _ => false

end Letter

/-- A cell between `%{` and `}`: its letter, whether it is an upper-case one, and the
characters after it. -/
structure Cell where
  letter : Letter
  encoded : Bool
  transformers : Text
deriving DecidableEq

/-- The cell as written between its braces. -/
def Cell.text (cell : Cell) : Text :=
  (if cell.encoded then cell.letter.symbol.toUpper else cell.letter.symbol) :: cell.transformers

/-- A token of macro text. -/
inductive Token where
  | literal (c : Char)
  | percent
  | space
  | encodedSpace
  | cell (cell : Cell)
deriving DecidableEq

/-- Visible ASCII characters other than the percent sign stand for themselves. -/
def isLiteral (c : Char) : Bool :=
  0x21 ≤ c.toNat && c.toNat ≤ 0x7E && c != '%'

/-- The characters at which a cell may split its value. -/
def isDelimiter (c : Char) : Bool :=
  c == '.' || c == '-' || c == '+' || c == ',' || c == '/' || c == '_' || c == '='

/-- The longest start of text whose characters have a property, and what follows it. -/
def spanWhile (property : Char → Bool) (text : Text) : Text × Text :=
  (text.takeWhile property, text.dropWhile property)

/-- An `r`, if text starts with it, and what follows. -/
def spanReversal : Text → Text × Text
  | 'r' :: rest => (['r'], rest)
  | text => ([], text)

/-- The transformers of a cell up to its closing brace, and what follows the brace:
digits, then possibly `r`, then delimiters. -/
def readTransformers? (text : Text) : Option (Text × Text) :=
  let (digits, afterDigits) := spanWhile isDecimalDigit text
  let (reversal, afterReversal) := spanReversal afterDigits
  let (delimiters, afterDelimiters) := spanWhile isDelimiter afterReversal
  match afterDelimiters with
  | '}' :: rest => some (digits ++ reversal ++ delimiters, rest)
  | _ => none

/-- A cell from its letter on, and what follows its closing brace. -/
def readCell? : Text → Option (Cell × Text)
  | [] => none
  | mark :: rest =>
      match Letter.ofSymbol? mark.toLower with
      | none => none
      | some letter =>
          (readTransformers? rest).map fun (transformers, after) =>
            (⟨letter, mark.isUpper, transformers⟩, after)

/-- The token at the start of text, and what follows it. -/
def Token.read? : Text → Option (Token × Text)
  | '%' :: '{' :: rest => (readCell? rest).map fun (found, after) => (.cell found, after)
  | '%' :: '%' :: rest => some (.percent, rest)
  | '%' :: '_' :: rest => some (.space, rest)
  | '%' :: '-' :: rest => some (.encodedSpace, rest)
  | c :: rest => if isLiteral c then some (.literal c, rest) else none
  | [] => none

theorem length_dropWhile_le (property : Char → Bool) (text : Text) :
    (text.dropWhile property).length ≤ text.length :=
  (List.dropWhile_suffix property).length_le

theorem length_spanReversal_le (text : Text) : (spanReversal text).2.length ≤ text.length := by
  unfold spanReversal
  split <;> simp

theorem length_lt_of_readTransformers? {text transformers rest : Text}
    (read : readTransformers? text = some (transformers, rest)) :
    rest.length < text.length := by
  simp only [readTransformers?, spanWhile] at read
  split at read
  · rename_i after closed
    simp only [Option.some.injEq, Prod.mk.injEq] at read
    obtain ⟨-, rfl⟩ := read
    have delimiters := length_dropWhile_le isDelimiter
      (spanReversal (text.dropWhile isDecimalDigit)).2
    have reversal := length_spanReversal_le (text.dropWhile isDecimalDigit)
    have digits := length_dropWhile_le isDecimalDigit text
    simp only [closed, List.length_cons] at delimiters
    omega
  · contradiction

theorem length_lt_of_readCell? {text rest : Text} {cell : Cell}
    (read : readCell? text = some (cell, rest)) : rest.length < text.length := by
  unfold readCell? at read
  split at read
  · contradiction
  · split at read
    · contradiction
    · simp only [Option.map_eq_some_iff, Prod.mk.injEq, Prod.exists] at read
      obtain ⟨transformers, after, found, -, rfl⟩ := read
      have := length_lt_of_readTransformers? found
      simp only [List.length_cons]
      omega

/-- A token takes at least one character. -/
theorem Token.length_lt_of_read? {text rest : Text} {token : Token}
    (read : Token.read? text = some (token, rest)) : rest.length < text.length := by
  unfold Token.read? at read
  split at read
  · simp only [Option.map_eq_some_iff, Prod.mk.injEq, Prod.exists] at read
    obtain ⟨cell, after, found, -, rfl⟩ := read
    have := length_lt_of_readCell? found
    simp only [List.length_cons]
    omega
  · simp only [Option.some.injEq, Prod.mk.injEq] at read
    simp only [← read.2, List.length_cons]
    omega
  · simp only [Option.some.injEq, Prod.mk.injEq] at read
    simp only [← read.2, List.length_cons]
    omega
  · simp only [Option.some.injEq, Prod.mk.injEq] at read
    simp only [← read.2, List.length_cons]
    omega
  · split at read
    · simp only [Option.some.injEq, Prod.mk.injEq] at read
      simp [← read.2]
    · contradiction
  · contradiction

/-- The tokens at the start of text, and the rest, which starts with none. -/
def scan (text : Text) : List Token × Text :=
  match _read : Token.read? text with
  | none => ([], text)
  | some (token, rest) =>
      let (tokens, after) := scan rest
      (token :: tokens, after)
termination_by text.length
decreasing_by exact Token.length_lt_of_read? _read

/-- The tokens of text that consists of nothing else. -/
def tokens? (text : Text) : Option (List Token) :=
  match scan text with
  | (tokens, []) => some tokens
  | _ => none

/-- The characters before the next place where a token starts, and the text from there. -/
def skipToToken : Text → Text × Text
  | [] => ([], [])
  | c :: rest =>
      if (Token.read? (c :: rest)).isSome then
        ([], c :: rest)
      else
        let (gap, after) := skipToToken rest
        (c :: gap, after)

end SenderPolicy.Macro
