import SenderPolicy.Address.Printer

/-!
# Networks

A network is an address and a number of leading bits. Whether it contains an address is
decided cell by cell under a mask of full, partial and empty cells.
-/

namespace SenderPolicy

/-- An address and the number of its leading bits that matter. -/
structure Network where
  address : Address
  length : Nat
  length_le : length ≤ address.family.width
deriving DecidableEq

namespace Network

/-- The network of a given length; a length past the family's width counts as the width. -/
def ofAddress (address : Address) (length : Nat) : Network :=
  ⟨address, min length address.family.width, Nat.min_le_right ..⟩

/-- The network of one address. -/
def single (address : Address) : Network :=
  ⟨address, address.family.width, Nat.le_refl _⟩

/-- The network of the address that text denotes; without a length, of that address alone. -/
def read (text : Text) (length : Option Nat) : Except Failure Network :=
  (Address.read text).map fun address =>
    match length with
    | some length => ofAddress address length
    | none => single address

/-- A cell with all its bits set. -/
def fullCell (bits : Nat) : Nat :=
  Nat.pow 2 bits - 1

/-- How far a full cell is shifted if only its first bits are among the first `length`; the
cell starts after `start` bits. -/
def maskShift (bits length start : Nat) : Nat :=
  start + bits - length

/-- The mask of the cell that starts after `start` bits: full, partial or empty. -/
def maskCell (bits length start : Nat) : Nat :=
  if start + bits ≤ length then
    fullCell bits
  else if start < length then
    (fullCell bits <<< maskShift bits length start) &&& fullCell bits
  else
    0

/-- Only a partial cell is shifted, and by less than its width. -/
theorem maskShift_lt {bits length start : Nat} (partly : start < length)
    (beyond : length < start + bits) :
    0 < maskShift bits length start ∧ maskShift bits length start < bits := by
  unfold maskShift
  omega

/-- A row of cells with the bits after the first `length` cleared. -/
def clearCells (bits length : Nat) (start : Nat) : List Nat → List Nat
  | [] => []
  | cell :: cells =>
      (cell &&& maskCell bits length start) :: clearCells bits length (start + bits) cells

/-- The cells of an address with the bits outside the network's length cleared. -/
def clear (network : Network) (address : Address) : List Nat :=
  clearCells address.family.cellBits network.length 0 address.cells

/-- The address is of the network's family and agrees with it in the bits that matter. -/
def contains (network : Network) (address : Address) : Bool :=
  network.address.family = address.family
    && network.clear network.address = network.clear address

/-- The text of the network's first address. -/
def baseText (network : Network) : Text :=
  Address.cellsText network.address.family (network.clear network.address)

/-- The network in record terms: its address as written and its length. -/
def text (network : Network) : Text :=
  network.address.text ++ '/' :: Text.ofNat network.length

end Network

end SenderPolicy
