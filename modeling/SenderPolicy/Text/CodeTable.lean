import SenderPolicy.Text.Digit

/-!
# Tables of code points

Properties of characters come as tables of code points. A table is written as text:
hexadecimal numbers with blanks between them, and commas between the rows of a table that
has rows. A set is written by its bounds: the first code point inside, the first one
outside again, and so on in increasing order.
-/

namespace SenderPolicy

/-- One more character of a text of numbers. The numbers that are complete come last first;
the number in progress stands apart. -/
def readHexDigit (state : List Nat × Option Nat) (c : Char) : List Nat × Option Nat :=
  match hexValue? c, state with
  | some digit, (numbers, current) => (numbers, some (16 * current.getD 0 + digit))
  | none, (numbers, current) => (current.toList ++ numbers, none)

/-- The hexadecimal numbers of a text; whatever is no digit separates them. -/
def hexNumbers (source : Text) : List Nat :=
  let (numbers, current) := source.foldl readHexDigit ([], none)
  (current.toList ++ numbers).reverse

/-- The rows of a table, each the list of its numbers. -/
def hexRows (source : String) : List (List Nat) :=
  (Text.split (· = ',') source.toList).map hexNumbers

/-- A set of code points, given by the code points at which membership changes. -/
structure CodeSet where
  /-- The bounds in increasing order. -/
  bounds : List Nat

namespace CodeSet

/-- The set with the given bounds. -/
def read (source : String) : CodeSet :=
  ⟨hexNumbers source.toList⟩

/-- A character is inside when an odd number of bounds lie at or before it. -/
def contains (set : CodeSet) (c : Char) : Bool :=
  set.bounds.countP (· ≤ c.toNat) % 2 = 1

end CodeSet

/-- The character with a code point; the replacement character if there is none. -/
def charOfCode (code : Nat) : Char :=
  if code.isValidChar then Char.ofNat code else Char.ofNat 0xFFFD

end SenderPolicy
