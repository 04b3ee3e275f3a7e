import SenderPolicy.Macro.DomainSpec
import SenderPolicy.Macro.Transformer
import SenderPolicy.Text.Percent

/-!
# Expanding macro text

`expand` replaces the cells of macro text by their values. In a domain the text must be a
domain specification and only eight letters have a value; in an explanation the text is
read word by word and all letters have one. The first obstacle from the left decides what
is reported: a failure, or the need to learn the client's domain first.

The receiver's name is looked up among the local host names only when a cell asks for it;
`receiverAfter` says what is known about it after an expansion.
-/

namespace SenderPolicy.Macro

/-- What macro text is expanded for. -/
inductive Mode where
  | domain
  | explanation
deriving DecidableEq, Repr

/-- The letters that have a value in a mode. -/
def Mode.allows : Mode → Letter → Bool
  | .domain, letter => !letter.isExplanatory
  | .explanation, _ => true

/-- The letters that may stand in a mode, as they are written in lower case. -/
def Mode.symbols : Mode → Text
  | .domain => "lsodipvh".toList
  | .explanation => "rctlsodipvh".toList

theorem Mode.contains_symbols (mode : Mode) (letter : Letter) :
    mode.symbols.contains letter.symbol = mode.allows letter := by
  cases mode <;> cases letter <;> rfl

/-- The values that cells stand for. -/
structure Values where
  sender : Text
  localPart : Text
  senderDomain : Text
  domain : Text
  address : Text
  /-- Unknown until the client's host names have been looked up. -/
  clientDomain : Option Text
  family : Text
  helo : Text
  readableAddress : Text
  /-- Unknown until a cell has asked for it. -/
  receiver : Option Text
  timestamp : Nat

/-- What keeps macro text from being expanded. -/
inductive Obstacle where
  | failure (failure : Failure)
  | clientDomainUnknown
deriving DecidableEq

/-- The name used when the client or the receiver has none that can be relied on. -/
def unknownName : Text := "unknown".toList

/-- The receiver's name: the one known, or else the first fully qualified local name. -/
def findReceiver (localNames : List Text) (known : Option Text) : Option Text :=
  known <|> localNames.find? Domain.isFullyQualified

/-- The value of a letter, or nothing if the client's domain is still unknown. -/
def Values.value? (values : Values) (localNames : List Text) : Letter → Option Text
  | .sender => some values.sender
  | .localPart => some values.localPart
  | .senderDomain => some values.senderDomain
  | .domain => some values.domain
  | .address => some values.address
  | .clientDomain => values.clientDomain
  | .family => some values.family
  | .helo => some values.helo
  | .readableAddress => some values.readableAddress
  | .receiver => some ((findReceiver localNames values.receiver).getD unknownName)
  | .timestamp => some (Text.ofNat values.timestamp)

/-- The value for a letter as it is written in lower case. -/
def Values.ofSymbol (values : Values) (localNames : List Text) (symbol : Char) :
    Except Obstacle Text :=
  match Letter.ofSymbol? symbol with
  | none => .error (.failure (.unknownCommand symbol))
  | some letter =>
      match values.value? localNames letter with
      | none => .error .clientDomainUnknown
      | some value => .ok value

section
variable (localNames : List Text) (mode : Mode) (values : Values)

/-- The text for what stands between the braces of a cell: the value of its letter,
percent-encoded for an upper-case letter, rearranged. -/
def expandBraced : Text → Except Obstacle Text
  | [] => .error (.failure .emptyCell)
  | mark :: transformers =>
      if mode.symbols.contains mark.toLower then
        match values.ofSymbol localNames mark.toLower with
        | .error obstacle => .error obstacle
        | .ok value =>
            match Transformer.read transformers with
            | .error failure => .error (.failure failure)
            | .ok transformer =>
                .ok (transformer.apply (if mark.isUpper then value.percentEncode else value))
      else
        .error (.failure (.letterNotAllowed (mark :: transformers)))

/-- The text of a cell. -/
def expandCell (cell : Cell) : Except Obstacle Text :=
  expandBraced localNames mode values cell.text

/-- A cell has one of the letters that have a value, so its mode, the values and its
transformers decide. -/
theorem expandCell_eq (cell : Cell) :
    expandCell localNames mode values cell =
      if mode.allows cell.letter then
        match values.value? localNames cell.letter with
        | none => .error .clientDomainUnknown
        | some value =>
            match Transformer.read cell.transformers with
            | .error failure => .error (.failure failure)
            | .ok transformer =>
                .ok (transformer.apply (if cell.encoded then value.percentEncode else value))
      else
        .error (.failure (.letterNotAllowed cell.text)) := by
  obtain ⟨letter, encoded, transformers⟩ := cell
  obtain ⟨lower, upper⟩ := letter.mark_eq encoded
  simp only [expandCell, expandBraced, Cell.text, lower, upper, Mode.contains_symbols,
    Values.ofSymbol, Letter.ofSymbol?_symbol]
  cases values.value? localNames letter <;> rfl

/-- The text of a token. -/
def expandToken : Token → Except Obstacle Text
  | .literal c => .ok [c]
  | .percent => .ok ['%']
  | .space => .ok [' ']
  | .encodedSpace => .ok "%20".toList
  | .cell cell => expandCell localNames mode values cell

/-- The text of a row of tokens, up to the first obstacle. -/
def expandTokens : List Token → Except Obstacle Text
  | [] => .ok []
  | token :: tokens =>
      match expandToken localNames mode values token with
      | .error obstacle => .error obstacle
      | .ok text => (expandTokens tokens).map (text ++ ·)

/-- The failure of text that starts with no token, within the text it belongs to. -/
def unreadable (text rest : Text) : Failure :=
  match skipToToken rest with
  | (_, []) => .unreadableEnd rest
  | (gap, after) =>
      .unreadableMiddle (text.take (text.length - rest.length)) gap after text

/-- The text that macro text stands for. -/
def expandString (text : Text) : Except Obstacle Text :=
  let (tokens, rest) := scan text
  match expandTokens localNames mode values tokens with
  | .error obstacle => .error obstacle
  | .ok expanded =>
      if rest = [] then .ok expanded else .error (.failure (unreadable text rest))

/-- The expansions of several texts, up to the first obstacle. -/
def expandStrings : List Text → Except Obstacle (List Text)
  | [] => .ok []
  | text :: texts =>
      match expandString localNames mode values text with
      | .error obstacle => .error obstacle
      | .ok expanded => (expandStrings texts).map (expanded :: ·)

/-- A row of tokens asks for the receiver's name before the first obstacle. -/
def tokensAskReceiver : List Token → Bool
  | [] => false
  | token :: tokens =>
      match token with
      | .cell ⟨.receiver, _, _⟩ => mode.allows .receiver
      | _ =>
          match expandToken localNames mode values token with
          | .error _ => false
          | .ok _ => tokensAskReceiver tokens

/-- Some of several texts asks for the receiver's name before the first obstacle. -/
def stringsAskReceiver : List Text → Bool
  | [] => false
  | text :: texts =>
      tokensAskReceiver localNames mode values (scan text).1
        || match expandString localNames mode values text with
          | .error _ => false
          | .ok _ => stringsAskReceiver texts

end

/-- The greatest length of a domain name, in bytes. -/
def maximumDomainLength : Nat := 255

/-- A domain name without as many labels at its start as make it too long; one label
alone stays as it is. -/
def shortenDomain (domain : Text) : Text :=
  if domain.byteLength ≤ maximumDomainLength then
    domain
  else
    match _found : domain.splitAtFirst '.' with
    | none => domain
    | some (_, after) => shortenDomain after
termination_by domain.length
decreasing_by exact Text.length_lt_of_splitAtFirst _found

/-- The texts that are expanded one by one: words in an explanation. -/
def pieces (mode : Mode) (text : Text) : List Text :=
  match mode with
  | .domain => [text]
  | .explanation => text.split (· = ' ')

/-- The expansion of a domain specification before it is shortened. -/
def expandDomainFully (localNames : List Text) (values : Values) (text : Text) :
    Except Obstacle Text :=
  if isDomainSpec text then
    expandString localNames .domain values text
  else
    .error (.failure (.notADomainSpec text))

/-- The text that macro text stands for. -/
def expand (localNames : List Text) (mode : Mode) (values : Values) (text : Text) :
    Except Obstacle Text :=
  match mode with
  | .domain => (expandDomainFully localNames values text).map shortenDomain
  | .explanation =>
      (expandStrings localNames .explanation values (pieces .explanation text)).map
        (Text.join [' '])

/-- What is known of the receiver's name after an expansion. -/
def receiverAfter (localNames : List Text) (mode : Mode) (values : Values) (text : Text) :
    Option Text :=
  if stringsAskReceiver localNames mode values (pieces mode text) then
    findReceiver localNames values.receiver
  else
    values.receiver

end SenderPolicy.Macro
