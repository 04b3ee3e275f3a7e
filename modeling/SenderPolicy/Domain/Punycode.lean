import SenderPolicy.Text.CodeTable

/-!
# Punycode

Punycode writes a text in ASCII letters and digits. The ASCII characters come first, as
they are; then each other character is written as the number of steps that a walk through
the pairs of a code point and a position makes until it meets the next character to insert.
Numbers are written in digits of base 36, least digit first, and end with the first digit
below a threshold that adapts to the size of the numbers met before.
-/

namespace SenderPolicy.Domain.Punycode

/-- The digit with a value below 36: letters, then ASCII digits. -/
def digit (value : Nat) : Char :=
  if value < 26 then Char.ofNat ('a'.toNat + value) else Char.ofNat ('0'.toNat + (value - 26))

/-- The value of a digit of either letter case. -/
def digitValue? (c : Char) : Option Nat :=
  if c.isDigit then some (c.toNat - '0'.toNat + 26)
  else if c.isAlpha then some (c.toLower.toNat - 'a'.toNat)
  else none

/-- The threshold of the digit at a place; places count in steps of 36, from 36 on. -/
def threshold (place bias : Nat) : Nat :=
  if place ≤ bias then 1 else if bias + 26 ≤ place then 26 else place - bias

/-- No threshold is zero, so a number loses at least one with each digit. -/
theorem threshold_pos (place bias : Nat) : 1 ≤ threshold place bias := by
  unfold threshold
  split
  · omega
  · split <;> omega

/-- A number brought below 456 by steps of 35, with the places that the steps take. -/
def scaleDown (places number : Nat) : Nat × Nat :=
  if 455 < number then scaleDown (places + 36) (number / 35) else (places, number)
termination_by number

/-- The bias after a number, when `count` characters are in place. -/
def adapt (number count : Nat) (isFirst : Bool) : Nat :=
  let damped := if isFirst then number / 700 else number / 2
  let (places, rest) := scaleDown 0 (damped + damped / count)
  places + 36 * rest / (rest + 38)

/-!
## Writing
-/

/-- The digits of a number. -/
def writeNumber (bias place number : Nat) : Text :=
  let bound := threshold place bias
  if number < bound then
    [digit number]
  else
    digit (bound + (number - bound) % (36 - bound))
      :: writeNumber bias (place + 36) ((number - bound) / (36 - bound))
termination_by number
decreasing_by
  have := threshold_pos place bias
  have := Nat.div_le_self (number - threshold place bias) (36 - threshold place bias)
  omega

/-- A walk through the characters of a text in the order of their code points. -/
structure Walk where
  /-- The next code point to pass. -/
  code : Nat
  /-- Steps since the last character that was written. -/
  steps : Nat
  bias : Nat
  /-- Characters in place. -/
  count : Nat
  written : Text

namespace Walk

/-- The walk passes one character of the text: a character of the code point in turn is
written, and each one below it is a position to step over. -/
def passCharacter (asciiCount code : Nat) (walk : Walk) (c : Char) : Walk :=
  if c.toNat < code then
    { walk with steps := walk.steps + 1 }
  else if c.toNat = code then
    { walk with
      steps := 0
      bias := adapt walk.steps (walk.count + 1) (walk.count = asciiCount)
      count := walk.count + 1
      written := walk.written ++ writeNumber walk.bias 36 walk.steps }
  else
    walk

/-- The walk passes all positions for the code points up to the given one. -/
def passCode (text : Text) (asciiCount : Nat) (walk : Walk) (code : Nat) : Walk :=
  let raised := { walk with steps := walk.steps + (code - walk.code) * (walk.count + 1) }
  let passed := text.foldl (passCharacter asciiCount code) raised
  { passed with code := code + 1, steps := passed.steps + 1 }

end Walk

/-- The bias before the first number. -/
def firstBias : Nat := 72

/-- The first code point outside ASCII. -/
def firstCode : Nat := 128

/-- A text in Punycode. -/
def encode (text : Text) : Text :=
  let ascii := text.filter fun c => c.toNat < firstCode
  let codes := ((text.filter fun c => firstCode ≤ c.toNat).map Char.toNat).mergeSort.eraseDups
  let start : Walk :=
    { code := firstCode, steps := 0, bias := firstBias, count := ascii.length, written := [] }
  ascii ++ (if ascii = [] then [] else ['-'])
    ++ (codes.foldl (Walk.passCode text ascii.length) start).written

/-!
## Reading
-/

/-- Every number is below this bound. -/
def numberBound : Nat := 0x100000000

/-- A number at the start of a text, added to a given one, and the rest of the text. -/
def readNumber? (bias place weight number : Nat) : Text → Option (Nat × Text)
  | [] => none
  | c :: rest =>
      match digitValue? c with
      | none => none
      | some value =>
          let bound := threshold place bias
          if numberBound ≤ number + value * weight ∨ numberBound ≤ weight then none
          else if value < bound then some (number + value * weight, rest)
          else readNumber? bias (place + 36) (weight * (36 - bound)) (number + value * weight) rest

/-- Reading a number takes at least one character. -/
theorem length_lt_of_readNumber? {bias place weight number total : Nat} {text rest : Text}
    (found : readNumber? bias place weight number text = some (total, rest)) :
    rest.length < text.length := by
  induction text generalizing place weight number with
  | nil => simp [readNumber?] at found
  | cons c tail inductionHypothesis =>
      simp only [readNumber?] at found
      split at found
      · simp at found
      · split at found
        · simp at found
        · split at found
          · simp only [Option.some.injEq, Prod.mk.injEq] at found
            simp [← found.2]
          · have := inductionHypothesis found
            simp only [List.length_cons]
            omega

/-- The characters that a text of numbers inserts into a text, from a code point and a
position on. -/
def insertAll (bias code position : Nat) (inserted : Text) (text : Text) : Option Text :=
  match text with
  | [] => some inserted
  | c :: rest =>
      match _found : readNumber? bias 36 1 position (c :: rest) with
      | none => none
      | some (total, rest') =>
          let count := inserted.length + 1
          let next := code + total / count
          if next.isValidChar then
            insertAll (adapt (total - position) count (position = 0)) next (total % count + 1)
              (inserted.insertIdx (total % count) (Char.ofNat next)) rest'
          else
            none
termination_by text.length
decreasing_by
  exact length_lt_of_readNumber? _found

/-- The ASCII characters at the start of a text in Punycode, and its numbers. The last hyphen
stands between them; without ASCII characters there is no such hyphen, and the numbers are
the whole text. -/
def partsOf (code : Text) : Text × Text :=
  match Text.splitAtLast '-' code with
  | some (first :: rest, numbers) => (first :: rest, numbers)
  | _ => ([], code)

/-- The text that Punycode stands for. -/
def decode? (code : Text) : Option Text :=
  let (ascii, numbers) := partsOf code
  insertAll firstBias firstCode 0 ascii numbers

end SenderPolicy.Domain.Punycode
