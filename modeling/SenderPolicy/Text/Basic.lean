/-!
# Text

Text is a list of characters, so that reading it is recursion on a list. Lengths
that a protocol limits are counted in bytes of the UTF-8 encoding. Letter case
always means ASCII letter case: no other letter has a counterpart here.
-/

namespace SenderPolicy

/-- Text as the sequence of its characters. -/
abbrev Text := List Char

namespace Text

/-- The pieces between separators; `n` separators make `n + 1` pieces. -/
def split (isSeparator : Char → Bool) : Text → List Text
  | [] => [[]]
  | c :: rest =>
      if isSeparator c then
        [] :: split isSeparator rest
      else
        match split isSeparator rest with
        | [] => [[c]]
        | piece :: pieces => (c :: piece) :: pieces

/-- The pieces in order, with the separator between neighbours. -/
def join (separator : Text) : List Text → Text
  | [] => []
  | [piece] => piece
  | piece :: next :: pieces => piece ++ separator ++ join separator (next :: pieces)

/-- Both sides of the first occurrence of a character. -/
def splitAtFirst (mark : Char) : Text → Option (Text × Text)
  | [] => none
  | c :: rest =>
      if c = mark then
        some ([], rest)
      else
        (splitAtFirst mark rest).map fun (before, after) => (c :: before, after)

/-- What follows the first occurrence of a character is shorter than the whole. -/
theorem length_lt_of_splitAtFirst {mark : Char} {text before after : Text}
    (found : splitAtFirst mark text = some (before, after)) : after.length < text.length := by
  induction text generalizing before with
  | nil => simp [splitAtFirst] at found
  | cons c rest inductionHypothesis =>
      unfold splitAtFirst at found
      split at found
      · simp only [Option.some.injEq, Prod.mk.injEq] at found
        simp [← found.2]
      · simp only [Option.map_eq_some_iff, Prod.mk.injEq, Prod.exists] at found
        obtain ⟨left, right, foundInRest, -, rfl⟩ := found
        have := inductionHypothesis foundInRest
        simp only [List.length_cons]
        omega

/-- Both sides of the last occurrence of a character. -/
def splitAtLast (mark : Char) : Text → Option (Text × Text)
  | [] => none
  | c :: rest =>
      match splitAtLast mark rest with
      | some (before, after) => some (c :: before, after)
      | none => if c = mark then some ([], rest) else none

/-- Text without its longest ending of characters with a property. -/
def dropEnd (property : Char → Bool) (text : Text) : Text :=
  (text.reverse.dropWhile property).reverse

/-- Text without all the dots it ends in. -/
def dropEndDots (text : Text) : Text :=
  text.dropEnd (· = '.')

/-- Text without one dot at its end, if it has one. -/
def dropEndDot (text : Text) : Text :=
  if text.getLast? = some '.' then text.dropLast else text

/-- ASCII letters in lower case. -/
def lower (text : Text) : Text :=
  text.map Char.toLower

/-- ASCII letters in upper case. -/
def upper (text : Text) : Text :=
  text.map Char.toUpper

/-- Every character is an ASCII character. -/
def isAscii (text : Text) : Bool :=
  text.all fun c => c.toNat < 128

/-- Number of bytes in the UTF-8 encoding. -/
def byteLength : Text → Nat
  | [] => 0
  | c :: rest => c.utf8Size + byteLength rest

/-- The text without an opening, if it starts with it. -/
def dropOpening? : Text → Text → Option Text
  | [], text => some text
  | _ :: _, [] => none
  | o :: opening, c :: text => if o = c then dropOpening? opening text else none

/-- A number in decimal digits, without leading zeros. -/
def ofNat (n : Nat) : Text :=
  Nat.toDigits 10 n

/-- The number that a nonempty row of ASCII digits denotes. -/
def toNat? (text : Text) : Option Nat :=
  if text ≠ [] ∧ text.all Char.isDigit then
    some (text.foldl (fun n c => 10 * n + (c.toNat - '0'.toNat)) 0)
  else
    none

end Text

end SenderPolicy
