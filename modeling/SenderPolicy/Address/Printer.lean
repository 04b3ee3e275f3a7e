import SenderPolicy.Address.Literal

/-!
# Writing addresses

An IPv4 address is written as four octets. An IPv6 address is written in lower-case
groups without leading zeros, the first of its longest rows of two or more zero groups
shortened to `::`; a mapped address keeps its IPv4 part in octets. `nibbles` and
`reverseName` write the forms that domain names use.
-/

namespace SenderPolicy.Address

/-- Octets separated by dots. -/
def dottedText (cells : List Nat) : Text :=
  Text.join ['.'] (cells.map Text.ofNat)

/-- Groups separated by colons. -/
def groupsText (groups : List Nat) : Text :=
  Text.join [':'] (groups.map (Nat.toDigits 16))

/-- Length of the row of zeros at the start. -/
def leadingZeros (groups : List Nat) : Nat :=
  (groups.takeWhile (· = 0)).length

/-- Start and length of the first of the longest rows of zero groups. -/
def longestZeros : List Nat → Nat × Nat
  | [] => (0, 0)
  | group :: groups =>
      let here := leadingZeros (group :: groups)
      let (start, length) := longestZeros groups
      if length ≤ here then (0, here) else (start + 1, length)

/-- Eight groups with their longest row of zeros shortened. -/
def shortenedText (groups : List Nat) : Text :=
  let (start, length) := longestZeros groups
  if 2 ≤ length then
    groupsText (groups.take start) ++ "::".toList ++ groupsText (groups.drop (start + length))
  else
    groupsText groups

/-- The text of a row of cells. -/
def cellsText (family : Family) (cells : List Nat) : Text :=
  match family with
  | .ip4 => dottedText cells
  | .ip6 =>
      match mappedCells? cells with
      | some octets => "::ffff:".toList ++ dottedText octets
      | none => shortenedText cells

/-- The text of an address. -/
def text (address : Address) : Text :=
  cellsText address.family address.cells

/-- The four hexadecimal digits of a group. -/
def groupDigits (group : Nat) : List Text :=
  [group / 4096 % 16, group / 256 % 16, group / 16 % 16, group % 16].map
    fun digit => [Nat.digitChar digit]

/-- The labels of an address in domain names: octets, or hexadecimal digits one by one. -/
def labels (address : Address) : List Text :=
  match address.family with
  | .ip4 => address.cells.map Text.ofNat
  | .ip6 => address.cells.flatMap groupDigits

/-- The labels in order, separated by dots. -/
def dottedLabels (address : Address) : Text :=
  Text.join ['.'] address.labels

/-- The name under `arpa` that holds the host names of an address. -/
def reverseName (address : Address) : Text :=
  Text.join ['.'] (address.labels.reverse ++ [address.family.label, "arpa".toList])

/-- Text that denotes an address in its standard form, and all other text as it is. -/
def standardText (text : Text) : Text :=
  match read? text with
  | some address => address.text
  | none => text

/-- Client address text without blanks at its ends and a mapped address in octets; nothing
if it denotes no address. -/
def clientText? (text : Text) : Option Text :=
  (read? text).map fun address =>
    match address.mapped? with
    | some inner => inner.text
    | none => text.trim

end SenderPolicy.Address
