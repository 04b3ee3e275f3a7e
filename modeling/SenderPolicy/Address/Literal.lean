import SenderPolicy.Failure
import SenderPolicy.Text.Blank
import SenderPolicy.Text.Digit

/-!
# Reading address literals

An IPv4 literal is four decimal octets without leading zeros, separated by dots. An
IPv6 literal is eight groups of one to four hexadecimal digits, separated by colons;
one `::` may stand for a row of groups, and the last two groups may be written as an
IPv4 literal. No other form is read.
-/

namespace SenderPolicy.Address

/-- A decimal octet: at most three digits, no leading zero, at most 255. -/
def readOctet? (text : Text) : Option Nat :=
  if text.length ≤ 3 ∧ (text.head? = some '0' → text.length = 1) then
    (Text.toNat? text).filter (· < 256)
  else
    none

/-- The cells of an IPv4 literal. -/
def readDotted? (text : Text) : Option (List Nat) :=
  let octets := Text.split (· = '.') text
  if octets.length = 4 then octets.mapM readOctet? else none

/-- A group of one to four hexadecimal digits. -/
def readGroup? (text : Text) : Option Nat :=
  if 1 ≤ text.length ∧ text.length ≤ 4 then
    (text.mapM hexValue?).map fun digits => digits.foldl (fun value digit => 16 * value + digit) 0
  else
    none

/-- Two groups from the octets of an IPv4 literal. -/
def groupsOfOctets : List Nat → List Nat
  | [a, b, c, d] => [256 * a + b, 256 * c + d]
  | _ => []

/-- The groups of pieces between colons; the last piece may be an IPv4 literal. -/
def readPieces? : List Text → Option (List Nat)
  | [] => some []
  | [piece] =>
      match readDotted? piece with
      | some octets => some (groupsOfOctets octets)
      | none => (readGroup? piece).map fun group => [group]
  | piece :: pieces =>
      (readGroup? piece).bind fun group => (readPieces? pieces).map (group :: ·)

/-- The groups of text without `::`; none for empty text. -/
def readGroups? (text : Text) : Option (List Nat) :=
  if text = [] then some [] else readPieces? (Text.split (· = ':') text)

/-- Both sides of the first `::`. -/
def splitAtGap : Text → Option (Text × Text)
  | [] => none
  | ':' :: ':' :: rest => some ([], rest)
  | c :: rest => (splitAtGap rest).map fun (before, after) => (c :: before, after)

/-- The cells of an IPv6 literal. A dotted ending is not allowed before `::`, and `::`
stands for at least one group. -/
def readColons? (text : Text) : Option (List Nat) :=
  match splitAtGap text with
  | none => (readGroups? text).filter (·.length = 8)
  | some (before, after) =>
      if before.contains '.' then
        none
      else
        match readGroups? before, readGroups? after with
        | some head, some tail =>
            if head.length + tail.length ≤ 7 then
              some (head ++ List.replicate (8 - head.length - tail.length) 0 ++ tail)
            else
              none
        | _, _ => none

/-- The address that text denotes, blanks at its ends apart. -/
def read? (text : Text) : Option Address :=
  let literal := text.trim
  match readDotted? literal with
  | some cells => ofCells? .ip4 cells
  | none => (readColons? literal).bind (ofCells? .ip6)

/-- The address that text denotes, or the failure that it denotes none. -/
def read (text : Text) : Except Failure Address :=
  match read? text with
  | some address => .ok address
  | none => .error (.notAnAddress text.trim)

end SenderPolicy.Address
