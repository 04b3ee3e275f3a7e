import SenderPolicy.Proofs.Address.Prefix
import SenderPolicy.Proofs.Address.Reading

/-!
# Networks bit by bit

The mask of a cell keeps a bit if its place in the whole address is among the first that count.
So the network contains the addresses of its family that agree with its own in these places, and
its first address has no other bits. The masks fit into words of sixteen bits, and no shift that
makes one reaches the width of its cell.
-/

namespace SenderPolicy

/-- The bit of an address at a place. The first place counts most. -/
def Address.bit (address : Address) (place : Nat) : Bool :=
  address.value.testBit (address.family.width - 1 - place)

namespace Network

section
variable {bits length start : Nat}

/-! ## Masks of cells -/

/-- A mask keeps the bits whose places in the address are among the first that count. -/
theorem testBit_maskCell {position : Nat} (inside : position < bits) :
    (maskCell bits length start).testBit position
      = decide (start + (bits - 1 - position) < length) := by
  unfold maskCell fullCell maskShift
  split
  · rename_i full
    rw [show Nat.pow 2 bits = 2 ^ bits from rfl, Nat.testBit_two_pow_sub_one]
    simp only [decide_eq_decide]
    omega
  · split
    · rename_i beyond partly
      rw [show Nat.pow 2 bits = 2 ^ bits from rfl, Nat.testBit_and, Nat.testBit_shiftLeft,
        Nat.testBit_two_pow_sub_one, Nat.testBit_two_pow_sub_one, ← Bool.decide_and,
        ← Bool.decide_and]
      simp only [decide_eq_decide]
      omega
    · rename_i empty
      rw [Nat.zero_testBit]
      symm
      simp only [decide_eq_false_iff_not]
      omega

theorem maskCell_lt : maskCell bits length start < 2 ^ bits := by
  have small : 2 ^ bits - 1 < 2 ^ bits := Nat.sub_lt (Nat.two_pow_pos bits) Nat.one_pos
  unfold maskCell
  split
  · exact small
  · split
    · exact Nat.and_lt_two_pow _ small
    · exact Nat.two_pow_pos bits

/-- The mask of a cell as it is computed in words of sixteen bits. -/
def maskWord (bits length start : Nat) : UInt16 :=
  let full := UInt16.ofNat (fullCell bits)
  if start + bits ≤ length then
    full
  else if start < length then
    (full <<< UInt16.ofNat (maskShift bits length start)) &&& full
  else
    0

/-- No bit that counts is lost in a word of sixteen bits, and no shift is taken for a shorter
one. -/
theorem toNat_maskWord (fits : bits ≤ 16) :
    (maskWord bits length start).toNat = maskCell bits length start := by
  have small : fullCell bits < 2 ^ 16 := by
    have bound : 2 ^ bits ≤ 2 ^ 16 := Nat.pow_le_pow_right (by decide) fits
    have positive := Nat.two_pow_pos bits
    show 2 ^ bits - 1 < 2 ^ 16
    omega
  have full : (UInt16.ofNat (fullCell bits)).toNat = fullCell bits := by
    rw [UInt16.toNat_ofNat', Nat.mod_eq_of_lt small]
  unfold maskWord maskCell
  dsimp only
  split
  · exact full
  · rename_i beyond
    split
    · rename_i partly
      have shift := (maskShift_lt partly (Nat.lt_of_not_le beyond)).2
      have amount : (UInt16.ofNat (maskShift bits length start)).toNat % 16
          = maskShift bits length start := by
        rw [UInt16.toNat_ofNat']
        omega
      rw [UInt16.toNat_and, UInt16.toNat_shiftLeft, full, amount]
      apply Nat.eq_of_testBit_eq
      intro position
      rw [Nat.testBit_and, Nat.testBit_and, Nat.testBit_mod_two_pow]
      by_cases inside : position < 16
      · simp [inside]
      · have outside : (fullCell bits).testBit position = false :=
          Nat.testBit_lt_two_pow (Nat.lt_of_lt_of_le small
            (Nat.pow_le_pow_right (by decide) (Nat.le_of_not_lt inside)))
        simp [outside]
    · rfl

/-! ## Rows of cells -/

theorem length_clearCells (cells : List Nat) :
    (clearCells bits length start cells).length = cells.length := by
  induction cells generalizing start with
  | nil => rfl
  | cons cell cells inductionHypothesis => simp [clearCells, inductionHypothesis]

/-- Each cell is cut by its own mask. -/
theorem getElem?_clearCells (cells : List Nat) (index : Nat) :
    (clearCells bits length start cells)[index]?
      = cells[index]?.map (· &&& maskCell bits length (start + index * bits)) := by
  induction cells generalizing start index with
  | nil => simp [clearCells]
  | cons cell cells inductionHypothesis =>
      cases index with
      | zero => simp [clearCells]
      | succ index =>
          rw [clearCells, List.getElem?_cons_succ, List.getElem?_cons_succ, inductionHypothesis,
            Nat.add_assoc, Nat.succ_mul, Nat.add_comm bits]

theorem clearCells_lt {cells : List Nat} :
    ∀ cell ∈ clearCells bits length start cells, cell < 2 ^ bits := by
  induction cells generalizing start with
  | nil => simp [clearCells]
  | cons cell cells inductionHypothesis =>
      exact List.forall_mem_cons.mpr
        ⟨Nat.and_lt_two_pow _ maskCell_lt, inductionHypothesis⟩

/-- The bits of a row of cells: those of the first cell stand in front of all others. -/
theorem testBit_valueOfCells_cons {cell : Nat} {cells : List Nat}
    (small : ∀ other ∈ cells, other < 2 ^ bits) (position : Nat) :
    (Address.valueOfCells (2 ^ bits) (cell :: cells)).testBit position
      = if position < bits * cells.length then
          (Address.valueOfCells (2 ^ bits) cells).testBit position
        else cell.testBit (position - bits * cells.length) := by
  have bound := Address.valueOfCells_lt small
  rw [← Nat.pow_mul] at bound
  rw [Address.valueOfCells_cons, ← Nat.pow_mul, Nat.mul_comm cell,
    Nat.testBit_two_pow_mul_add cell bound]

/-- Clearing keeps the bits whose places are among the first that count. -/
theorem testBit_clearCells {cells : List Nat} (small : ∀ cell ∈ cells, cell < 2 ^ bits)
    {position : Nat} (inside : position < bits * cells.length) :
    (Address.valueOfCells (2 ^ bits) (clearCells bits length start cells)).testBit position
      = (decide (start + (bits * cells.length - 1 - position) < length)
          && (Address.valueOfCells (2 ^ bits) cells).testBit position) := by
  induction cells generalizing start with
  | nil => simp at inside
  | cons cell cells inductionHypothesis =>
      obtain ⟨_, others⟩ := List.forall_mem_cons.mp small
      rw [List.length_cons, Nat.mul_succ] at inside ⊢
      rw [clearCells, testBit_valueOfCells_cons clearCells_lt, testBit_valueOfCells_cons others,
        length_clearCells]
      generalize bits * cells.length = rest at inside inductionHypothesis ⊢
      by_cases later : position < rest
      · have place : start + bits + (rest - 1 - position) = start + (rest + bits - 1 - position) := by
          omega
        rw [if_pos later, if_pos later, inductionHypothesis others later, place]
      · have within : position - rest < bits := by omega
        have place : start + (bits - 1 - (position - rest))
            = start + (rest + bits - 1 - position) := by
          omega
        rw [if_neg later, if_neg later, Nat.testBit_and, testBit_maskCell within, place,
          Bool.and_comm]

end

/-! ## Networks -/

theorem value_lt (address : Address) : address.value < 2 ^ address.family.width := by
  have bound := Address.valueOfCells_lt address.cells_lt
  rwa [address.length_cells, cellSize_eq, ← Nat.pow_mul, Nat.mul_comm,
    ← cellSize_eq] at bound

/-- Addresses of one family agree in their first bits, as numbers cut short or place by place. -/
theorem agreesIn_iff {address other : Address} {length : Nat} :
    address.AgreesIn length other
      ↔ address.family = other.family
        ∧ ∀ place < min length address.family.width, address.bit place = other.bit place := by
  refine and_congr_right fun same => ?_
  have bound := value_lt address
  have otherBound := value_lt other
  simp only [Address.bit, ← same] at otherBound ⊢
  generalize address.family.width = width at bound otherBound ⊢
  constructor
  · intro agree place counts
    have shifted : width - 1 - place = (width - 1 - place - (width - length)) + (width - length) := by
      omega
    rw [shifted, ← Nat.testBit_div_two_pow, ← Nat.testBit_div_two_pow, agree]
  · intro agree
    apply Nat.eq_of_testBit_eq
    intro position
    rw [Nat.testBit_div_two_pow, Nat.testBit_div_two_pow]
    by_cases inside : position + (width - length) < width
    · have place := agree (width - 1 - (position + (width - length))) (by omega)
      rwa [show width - 1 - (width - 1 - (position + (width - length)))
        = position + (width - length) by omega] at place
    · have beyond : 2 ^ width ≤ 2 ^ (position + (width - length)) :=
        Nat.pow_le_pow_right (by decide) (Nat.le_of_not_lt inside)
      rw [Nat.testBit_lt_two_pow (Nat.lt_of_lt_of_le bound beyond),
        Nat.testBit_lt_two_pow (Nat.lt_of_lt_of_le otherBound beyond)]

/-- The first address of a network. -/
def base (network : Network) : Address where
  family := network.address.family
  cells := network.clear network.address
  length_cells := (length_clearCells _).trans network.address.length_cells
  cells_lt := by
    rw [cellSize_eq]
    exact clearCells_lt

/-- The first address has the bits of the network's address that count, and no others. -/
theorem bit_base (network : Network) {place : Nat}
    (inside : place < network.address.family.width) :
    network.base.bit place
      = (decide (place < network.length) && network.address.bit place) := by
  have small : ∀ cell ∈ network.address.cells, cell < 2 ^ network.address.family.cellBits :=
    cellSize_eq network.address.family ▸ network.address.cells_lt
  have width : network.address.family.cellBits * network.address.cells.length
      = network.address.family.width := by
    rw [network.address.length_cells, Family.width, Nat.mul_comm]
  have position : network.address.family.width - 1 - place
      < network.address.family.cellBits * network.address.cells.length := by
    omega
  have cleared := @testBit_clearCells _ network.length 0 _ small _ position
  rw [width, show 0 + (network.address.family.width - 1
    - (network.address.family.width - 1 - place)) = place by omega, ← cellSize_eq] at cleared
  exact cleared

theorem contains_ofAddress_iff_bit {address other : Address} {length : Nat} :
    (ofAddress address length).contains other = true
      ↔ address.family = other.family
        ∧ ∀ place < min length address.family.width, address.bit place = other.bit place :=
  contains_ofAddress_iff.trans agreesIn_iff

/-- The text of the first address is read as that address. -/
theorem read_baseText (network : Network) :
    Address.read network.baseText = .ok network.base := by
  have written : network.baseText = network.base.text := rfl
  rw [written]
  exact Address.read_eq_ok_iff.mpr (Address.read?_text network.base)

/-- The first address of a network is in it. -/
theorem contains_base {address : Address} {length : Nat} :
    (ofAddress address length).contains (ofAddress address length).base = true := by
  refine contains_ofAddress_iff_bit.mpr ⟨rfl, fun place counts => ?_⟩
  have inside : place < address.family.width := Nat.lt_of_lt_of_le counts (Nat.min_le_right ..)
  have counted : decide (place < (ofAddress address length).length) = true := decide_eq_true counts
  rw [bit_base (ofAddress address length) inside, counted, Bool.true_and]
  rfl

/-- How the mask of a cell is computed: it fits into the cell, words of sixteen bits give the same
mask as numbers, and where it is shifted, it is shifted by less than the cell's width. -/
structure MaskFits (bits length start : Nat) : Prop where
  small : maskCell bits length start < 2 ^ bits
  word : (maskWord bits length start).toNat = maskCell bits length start
  shift : start < length → length < start + bits →
    0 < maskShift bits length start ∧ maskShift bits length start < bits

theorem maskFits {bits length start : Nat} (fits : bits ≤ 16) : MaskFits bits length start where
  small := maskCell_lt
  word := toNat_maskWord fits
  shift := maskShift_lt

/-- For every address and every length a network holds the addresses of its family that have the
bits of the address in the first places, as many as the length says or all of them. Its first
address has these bits and no others, and is the address that its text denotes. Fewer bits leave
no address out. Each cell is cut by the mask for its place. -/
theorem ofAddress_masks (address : Address) (length : Nat) :
    (∀ other, (ofAddress address length).contains other = true
        ↔ address.family = other.family
          ∧ ∀ place < min length address.family.width, address.bit place = other.bit place)
      ∧ (∃ base : Address, base.family = address.family
          ∧ (∀ place < address.family.width, base.bit place
              = (decide (place < min length address.family.width) && address.bit place))
          ∧ (ofAddress address length).baseText = base.text
          ∧ Address.read (ofAddress address length).baseText = .ok base
          ∧ (ofAddress address length).contains base = true)
      ∧ (∀ fewer ≤ length, ∀ other, (ofAddress address length).contains other = true →
          (ofAddress address fewer).contains other = true)
      ∧ ∀ index < address.family.cellCount, ∀ start, start = index * address.family.cellBits →
          ((ofAddress address length).clear address)[index]?
              = address.cells[index]?.map
                  (· &&& maskCell address.family.cellBits (min length address.family.width) start)
            ∧ MaskFits address.family.cellBits (min length address.family.width) start := by
  refine ⟨fun other => contains_ofAddress_iff_bit,
    ⟨(ofAddress address length).base, rfl, fun place inside => bit_base _ inside, rfl,
      read_baseText _, contains_base⟩, ?_, ?_⟩
  · intro fewer less other inside
    obtain ⟨same, agree⟩ := contains_ofAddress_iff_bit.mp inside
    refine contains_ofAddress_iff_bit.mpr ⟨same, fun place counts => agree place ?_⟩
    exact Nat.lt_of_lt_of_le counts (by omega)
  · rintro index _ start rfl
    have fits : address.family.cellBits ≤ 16 := by
      cases address.family <;> decide
    refine ⟨?_, maskFits fits⟩
    have cut := @getElem?_clearCells address.family.cellBits (min length address.family.width) 0
      address.cells index
    rwa [Nat.zero_add] at cut

/-- The boundary of a network within a cell. -/
example :
    let network := ofAddress ⟨.ip4, [192, 0, 2, 129], rfl, by decide⟩ 25
    network.baseText = "192.0.2.128".toList
      ∧ network.contains ⟨.ip4, [192, 0, 2, 200], rfl, by decide⟩ = true
      ∧ network.contains ⟨.ip4, [192, 0, 2, 100], rfl, by decide⟩ = false := by
  decide

end Network

end SenderPolicy
