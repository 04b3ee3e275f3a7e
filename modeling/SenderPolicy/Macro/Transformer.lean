import SenderPolicy.Failure

/-!
# Transformers

The characters after a cell's letter say how its value is rearranged: it is split at
delimiters, possibly reversed, cut to its last parts, and joined with dots. Here numbers
are read in ASCII digits alone; whatever follows them and the `r` delimits.
-/

namespace SenderPolicy.Macro

/-- How a value is rearranged. -/
structure Transformer where
  /-- Number of parts kept at the end, if not all are. -/
  keep : Option Nat
  reversed : Bool
  delimiters : Text
deriving DecidableEq

namespace Transformer

/-- The first number that a count of parts cannot be: it takes more than 64 bits. -/
def partsBound : Nat := 0x10000000000000000

/-- The number of parts that digits ask for; no digits ask for all. -/
def readKeep (digits : Text) : Except Failure (Option Nat) :=
  match Text.toNat? digits with
  | none => .ok none
  | some 0 => .error .zeroParts
  | some (count + 1) =>
      if count + 1 < partsBound then .ok (some (count + 1)) else .error (.tooManyParts digits)

/-- The transformer that the characters after a letter describe. -/
def read (text : Text) : Except Failure Transformer :=
  let digits := text.takeWhile Char.isDigit
  let rest := text.dropWhile Char.isDigit
  (readKeep digits).map fun keep =>
    match rest with
    | 'r' :: delimiters => ⟨keep, true, delimiters⟩
    | delimiters => ⟨keep, false, delimiters⟩

/-- A transformer that leaves every value as it is. -/
def isTrivial (transformer : Transformer) : Bool :=
  transformer.keep = none && !transformer.reversed && transformer.delimiters = []

/-- The last parts of a list, all of them if there are fewer. -/
def keepLast (count : Option Nat) (parts : List Text) : List Text :=
  match count with
  | none => parts
  | some count => parts.drop (parts.length - count)

/-- A value rearranged. Without delimiters it is split at dots. -/
def apply (transformer : Transformer) (value : Text) : Text :=
  if transformer.isTrivial then
    value
  else
    let delimiters := if transformer.delimiters = [] then ['.'] else transformer.delimiters
    let parts := value.split delimiters.contains
    let ordered := if transformer.reversed then parts.reverse else parts
    Text.join ['.'] (keepLast transformer.keep ordered)

end Transformer

end SenderPolicy.Macro
