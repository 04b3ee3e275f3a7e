import SenderPolicy.Text.Basic

/-!
# Internet addresses

An address is a family and its cells: four cells of eight bits or eight cells of
sixteen. `Address.value` is the number the cells spell, most significant cell first.
-/

namespace SenderPolicy

/-- The two address families. -/
inductive Family where
  | ip4
  | ip6
deriving DecidableEq, Repr

namespace Family

/-- Number of cells of an address. -/
def cellCount : Family → Nat
  | .ip4 => 4
  | .ip6 => 8

/-- Bits of one cell. -/
def cellBits : Family → Nat
  | .ip4 => 8
  | .ip6 => 16

/-- Number of values of one cell. -/
def cellSize : Family → Nat
  | .ip4 => 256
  | .ip6 => 65536

/-- Bits of a whole address. -/
def width (family : Family) : Nat :=
  family.cellCount * family.cellBits

/-- The name of the family in record terms, in upper case. -/
def title : Family → Text
  | .ip4 => "IP4".toList
  | .ip6 => "IP6".toList

/-- The label of the family's zone under `arpa`. -/
def label : Family → Text
  | .ip4 => "in-addr".toList
  | .ip6 => "ip6".toList

end Family

/-- An address of either family. -/
structure Address where
  family : Family
  cells : List Nat
  length_cells : cells.length = family.cellCount
  cells_lt : ∀ cell ∈ cells, cell < family.cellSize
deriving DecidableEq

namespace Address

/-- The address with these cells, if they are as many and as small as the family asks. -/
def ofCells? (family : Family) (cells : List Nat) : Option Address :=
  if fits : cells.length = family.cellCount ∧ ∀ cell ∈ cells, cell < family.cellSize then
    some ⟨family, cells, fits.1, fits.2⟩
  else
    none

/-- The number that a row of cells spells, most significant cell first. -/
def valueOfCells (size : Nat) (cells : List Nat) : Nat :=
  cells.foldl (fun value cell => value * size + cell) 0

/-- The address as one number. -/
def value (address : Address) : Nat :=
  valueOfCells address.family.cellSize address.cells

/-- The four cells behind the prefix `::ffff` of a mapped address. -/
def mappedCells? : List Nat → Option (List Nat)
  | [0, 0, 0, 0, 0, 0xFFFF, high, low] =>
      some [high / 256, high % 256, low / 256, low % 256]
  | _ => none

/-- The IPv4 address that an IPv6 address of the form `::ffff:a.b.c.d` stands for. -/
def mapped? (address : Address) : Option Address :=
  match address.family with
  | .ip4 => none
  | .ip6 => (mappedCells? address.cells).bind (ofCells? .ip4)

end Address

end SenderPolicy
