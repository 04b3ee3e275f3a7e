import SenderPolicy.Domain.Mapping
import SenderPolicy.Domain.Punycode
import SenderPolicy.Text.Composition
import SenderPolicy.Text.Direction
import SenderPolicy.Text.Joining

/-!
# Names in ASCII form

A question for records is asked in ASCII. A name that is ASCII from the start is left alone,
and so is one that has no ASCII form (`toAscii`). Which form another name has is a matter of
the conversion in use, and nothing else depends on it.

The conversion at hand is `asciiForm?`. A name with other characters is brought into a form
in which equal names are equal texts, and each of its labels that is not ASCII then is
written in Punycode behind the opening `xn--`. A name that breaks a rule on the way has no
ASCII form.
-/

namespace SenderPolicy.Domain

/-- What gives names that are not ASCII their ASCII form, if they have one. -/
abbrev Conversion := Text → Option Text

/-- A name in ASCII form; a name that has none, or is ASCII already, as it is. -/
def toAscii (conversion : Conversion) (name : Text) : Text :=
  if name.isAscii then name else (conversion name).getD name

/-- A name that is ASCII is left alone. -/
theorem toAscii_of_isAscii {conversion : Conversion} {name : Text} (ascii : name.isAscii = true) :
    toAscii conversion name = name := by
  simp [toAscii, ascii]

/-! ## The conversion at hand -/

/-- The opening of a label in Punycode. -/
def punycodeOpening : Text := "xn--".toList

/-- Labels in Punycode are not read beyond this length, the opening apart. -/
def longestPunycode : Nat := 2000

/-- Labels beyond this length are not written in Punycode. -/
def longestUnicodeLabel : Nat := 1000

/-- A label does not begin with a character that combines with the one before, and its
joiners have their place. -/
def standsAlone (label : Text) : Bool :=
  !(label.head?.map isMark).getD false && joinersFit label

/-- A text that a label in Punycode may stand for: not in ASCII, and already in the form
that every name is brought into. -/
def isEncodable (label : Text) : Bool :=
  !label.isAscii && label.all isSteady && label.composed = label && standsAlone label

/-- The label that a label of a mapped name stands for. -/
def readLabel? (label : Text) : Option Text :=
  match Text.dropOpening? punycodeOpening label with
  | some code =>
      if code.all (fun c => c.toNat < 128) ∧ code.getLast? ≠ some '-'
          ∧ code.length ≤ longestPunycode then
        (Punycode.decode? code).filter isEncodable
      else
        none
  | none => if label.isAscii || standsAlone label then some label else none

/-- A label as it is written in ASCII. -/
def writeLabel? (label : Text) : Option Text :=
  if label.isAscii then some label
  else if label.length ≤ longestUnicodeLabel then some (punycodeOpening ++ Punycode.encode label)
  else none

/-- What may stand in a label written from left to right. -/
def fitsLeftToRight (c : Char) : Bool :=
  direction c ∈ [.leftToRight, .europeanNumber, .neutral, .mark]

/-- What may stand in a label written from right to left. -/
def fitsRightToLeft (c : Char) : Bool :=
  direction c ∈ [.rightToLeft, .arabicNumber, .europeanNumber, .neutral, .mark]

/-- Every character after a label's first fits, and the last one that is not a mark is of
one of the given directions. -/
def runsOn (fits : Char → Bool) (ends : List Direction) (rest : Text) : Bool :=
  rest.all fits
    && (((Text.dropEnd (fun c => direction c = .mark) rest).getLast?.map fun c =>
      ends.contains (direction c)).getD true)

/-- A label is written in one direction, which its first letter decides. -/
def runsOneWay : Text → Bool
  | [] => true
  | first :: rest =>
      match direction first with
      | .leftToRight => runsOn fitsLeftToRight [.leftToRight, .europeanNumber] rest
      | .rightToLeft =>
          runsOn fitsRightToLeft [.rightToLeft, .arabicNumber, .europeanNumber] rest
            && !(rest.any (direction · = .arabicNumber)
              && rest.any (direction · = .europeanNumber))
      | _ => false

/-- A character that makes a name one that is partly written from right to left. -/
def turnsRight (c : Char) : Bool :=
  direction c ∈ [.rightToLeft, .arabicNumber]

/-- The directions of a name's labels do not interfere: if any part of the name is written
from right to left then each label is written in one direction. -/
def directionsFit (labels : List Text) : Bool :=
  !labels.any (·.any turnsRight) || labels.all runsOneWay

/-- The ASCII form of a name. -/
def asciiForm? : Conversion := fun name => do
  let mappedName ← mapped name
  let labels ← (Text.split (· = '.') mappedName.composed).mapM readLabel?
  if directionsFit labels then
    (labels.mapM writeLabel?).map (Text.join ['.'])
  else
    none

end SenderPolicy.Domain
