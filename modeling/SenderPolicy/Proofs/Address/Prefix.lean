import Mathlib.Tactic.Ring
import SenderPolicy.Address.Network

/-!
# Networks by the numbers of their addresses

A network clears the cells of an address one by one. Whether it contains an address is said here
of the whole address as one number: a network of `n` bits contains the addresses of its family
whose numbers agree with its own when the last `width - n` bits are cut off.
-/

namespace SenderPolicy

namespace Address

/-! ## The number of a row of cells -/

theorem foldl_cells (size start : Nat) (cells : List Nat) :
    cells.foldl (fun value cell => value * size + cell) start
      = start * size ^ cells.length + valueOfCells size cells := by
  induction cells generalizing start with
  | nil => simp [valueOfCells]
  | cons cell cells inductionHypothesis =>
      rw [valueOfCells, List.foldl_cons, List.foldl_cons, inductionHypothesis,
        inductionHypothesis (0 * size + cell), List.length_cons, Nat.pow_succ]
      ring

/-- The first cell counts most. -/
theorem valueOfCells_cons (size cell : Nat) (cells : List Nat) :
    valueOfCells size (cell :: cells) = cell * size ^ cells.length + valueOfCells size cells := by
  rw [valueOfCells, List.foldl_cons, foldl_cells]
  simp

theorem valueOfCells_lt {size : Nat} {cells : List Nat} (small : ∀ cell ∈ cells, cell < size) :
    valueOfCells size cells < size ^ cells.length := by
  induction cells with
  | nil => simp [valueOfCells]
  | cons cell cells inductionHypothesis =>
      obtain ⟨first, others⟩ := List.forall_mem_cons.mp small
      have rest := inductionHypothesis others
      rw [valueOfCells_cons, List.length_cons, Nat.pow_succ]
      calc cell * size ^ cells.length + valueOfCells size cells
          < cell * size ^ cells.length + size ^ cells.length := by omega
        _ = (cell + 1) * size ^ cells.length := by ring
        _ ≤ size * size ^ cells.length := Nat.mul_le_mul_right _ first
        _ = size ^ cells.length * size := Nat.mul_comm ..

/-- The other address is of the same family, and the numbers of both agree in so many first
bits. -/
def AgreesIn (bits : Nat) (address other : Address) : Prop :=
  address.family = other.family
    ∧ address.value / 2 ^ (address.family.width - bits)
      = other.value / 2 ^ (address.family.width - bits)

end Address

namespace Network

/-! ## Cutting bits off a number -/

section
variable {cell rest cut value : Nat}

/-- Bits cut off within the last cells leave the first cell in front of what is left. -/
theorem cut_within (within : cut ≤ rest) :
    (cell * 2 ^ rest + value) / 2 ^ cut = cell * 2 ^ (rest - cut) + value / 2 ^ cut := by
  have split : cell * 2 ^ rest = 2 ^ cut * (cell * 2 ^ (rest - cut)) := by
    rw [← Nat.sub_add_cancel within, Nat.add_sub_cancel, Nat.pow_add]
    ring
  rw [split, Nat.mul_add_div (Nat.two_pow_pos cut)]

/-- Bits cut off beyond the last cells leave a part of the first cell alone. -/
theorem cut_beyond (beyond : rest ≤ cut) (small : value < 2 ^ rest) :
    (cell * 2 ^ rest + value) / 2 ^ cut = cell / 2 ^ (cut - rest) := by
  have split : 2 ^ cut = 2 ^ rest * 2 ^ (cut - rest) := by
    rw [← Nat.pow_add, Nat.add_sub_cancel' beyond]
  have whole : (cell * 2 ^ rest + value) / 2 ^ rest = cell := by
    rw [Nat.mul_comm, Nat.mul_add_div (Nat.two_pow_pos rest), Nat.div_eq_of_lt small,
      Nat.add_zero]
  rw [split, ← Nat.div_div_eq_div_mul, whole]

end

/-- A digit and a rest below the base leave no choice of either. -/
theorem mul_add_eq_iff {base digit other low otherLow : Nat} (small : low < base)
    (otherSmall : otherLow < base) :
    digit * base + low = other * base + otherLow ↔ digit = other ∧ low = otherLow := by
  constructor
  · intro same
    have positive : 0 < base := Nat.zero_lt_of_lt small
    have digits := congrArg (· / base) same
    have lows := congrArg (· % base) same
    simp only [Nat.mul_comm _ base, Nat.mul_add_div positive, Nat.div_eq_of_lt small,
      Nat.div_eq_of_lt otherSmall, Nat.mul_add_mod, Nat.mod_eq_of_lt small,
      Nat.mod_eq_of_lt otherSmall, Nat.add_zero] at digits lows
    exact ⟨digits, lows⟩
  · rintro ⟨rfl, rfl⟩
    rfl

/-! ## Clearing cells -/

section
variable {bits length start : Nat}

theorem maskCell_full (full : start + bits ≤ length) {cell : Nat} (small : cell < 2 ^ bits) :
    cell &&& maskCell bits length start = cell := by
  have mask : maskCell bits length start = 2 ^ bits - 1 := if_pos full
  rw [mask, Nat.and_two_pow_sub_one_eq_mod, Nat.mod_eq_of_lt small]

/-- A partial mask keeps the bits in front of those that are shifted in. -/
theorem maskCell_partial (partly : start < length) (beyond : length < start + bits) {cell : Nat}
    (small : cell < 2 ^ bits) :
    cell &&& maskCell bits length start
      = cell / 2 ^ (start + bits - length) * 2 ^ (start + bits - length) := by
  have mask : maskCell bits length start
      = ((2 ^ bits - 1) <<< (start + bits - length)) &&& (2 ^ bits - 1) := by
    rw [maskCell, if_neg (by omega), if_pos partly]
    rfl
  rw [← Nat.shiftRight_eq_div_pow, ← Nat.shiftLeft_eq]
  apply Nat.eq_of_testBit_eq
  intro position
  by_cases outside : bits ≤ position
  · have clear : cell.testBit position = false :=
      Nat.testBit_lt_two_pow (Nat.lt_of_lt_of_le small (Nat.pow_le_pow_right (by omega) outside))
    by_cases kept : start + bits - length ≤ position
    · simp [mask, clear, kept]
    · simp [mask, clear, kept]
  · have inside : position < bits := by omega
    by_cases kept : start + bits - length ≤ position
    · have shifted : position - (start + bits - length) < bits := by omega
      simp [mask, kept, inside, shifted]
    · simp [mask, kept]

theorem maskCell_empty (positive : 0 < bits) (empty : length ≤ start) :
    maskCell bits length start = 0 := by
  rw [maskCell, if_neg (by omega), if_neg (by omega)]

/-- What a mask leaves of two cells agrees if they do in front of the bits that are cut off. -/
theorem and_maskCell_eq_iff (positive : 0 < bits) {cell other : Nat} (small : cell < 2 ^ bits)
    (otherSmall : other < 2 ^ bits) :
    cell &&& maskCell bits length start = other &&& maskCell bits length start
      ↔ cell / 2 ^ (start + bits - length) = other / 2 ^ (start + bits - length) := by
  by_cases full : start + bits ≤ length
  · rw [maskCell_full full small, maskCell_full full otherSmall, Nat.sub_eq_zero_of_le full,
      Nat.pow_zero, Nat.div_one, Nat.div_one]
  by_cases partly : start < length
  · rw [maskCell_partial partly (by omega) small, maskCell_partial partly (by omega) otherSmall,
      Nat.mul_right_cancel_iff (Nat.two_pow_pos _)]
  · have gone : ∀ {value}, value < 2 ^ bits → value / 2 ^ (start + bits - length) = 0 :=
      fun small => Nat.div_eq_of_lt (Nat.lt_of_lt_of_le small
        (Nat.pow_le_pow_right (by omega) (by omega)))
    rw [maskCell_empty positive (by omega), gone small, gone otherSmall, Nat.and_zero,
      Nat.and_zero]

theorem clearCells_empty (positive : 0 < bits) (empty : length ≤ start) (cells : List Nat) :
    clearCells bits length start cells = List.replicate cells.length 0 := by
  induction cells generalizing start with
  | nil => rfl
  | cons cell cells inductionHypothesis =>
      rw [clearCells, maskCell_empty positive empty, Nat.and_zero,
        inductionHypothesis (by omega)]
      rfl

/-- Two rows of cells agree in their first bits if their numbers do. -/
theorem clearCells_eq_iff (positive : 0 < bits) {cells others : List Nat}
    (count : cells.length = others.length) (small : ∀ cell ∈ cells, cell < 2 ^ bits)
    (otherSmall : ∀ cell ∈ others, cell < 2 ^ bits) :
    clearCells bits length start cells = clearCells bits length start others
      ↔ Address.valueOfCells (2 ^ bits) cells / 2 ^ (start + bits * cells.length - length)
        = Address.valueOfCells (2 ^ bits) others / 2 ^ (start + bits * cells.length - length) := by
  induction cells generalizing start others with
  | nil =>
      rw [List.length_nil] at count
      rw [List.length_eq_zero_iff.mp count.symm]
      simp
  | cons cell cells inductionHypothesis =>
      cases others with
      | nil => cases count
      | cons other others =>
          have sameCount : cells.length = others.length := Nat.succ.inj count
          obtain ⟨first, small⟩ := List.forall_mem_cons.mp small
          obtain ⟨otherFirst, otherSmall⟩ := List.forall_mem_cons.mp otherSmall
          have bound := Address.valueOfCells_lt small
          have otherBound := Address.valueOfCells_lt otherSmall
          rw [← sameCount] at otherBound
          rw [← Nat.pow_mul] at bound otherBound
          have width : bits * (cell :: cells).length = bits * cells.length + bits := by
            rw [List.length_cons, Nat.mul_succ]
          rw [clearCells, clearCells, List.cons.injEq, Address.valueOfCells_cons,
            Address.valueOfCells_cons, ← sameCount, ← Nat.pow_mul, width]
          generalize bits * cells.length = rest at bound otherBound inductionHypothesis ⊢
          have later := @inductionHypothesis (start + bits) others sameCount small otherSmall
          have exponent : start + bits + rest - length = start + (rest + bits) - length := by omega
          rw [exponent] at later
          rw [and_maskCell_eq_iff positive first otherFirst]
          by_cases full : start + bits ≤ length
          · -- All bits of the first cell count, and the last cells are cut as by themselves.
            have within : start + (rest + bits) - length ≤ rest := by omega
            have low : ∀ {value}, value < 2 ^ rest →
                value / 2 ^ (start + (rest + bits) - length)
                  < 2 ^ (rest - (start + (rest + bits) - length)) := by
              intro value bound
              apply Nat.div_lt_of_lt_mul
              rwa [← Nat.pow_add, Nat.add_sub_cancel' within]
            rw [Nat.sub_eq_zero_of_le full, Nat.pow_zero, Nat.div_one, Nat.div_one,
              cut_within within, cut_within within, mul_add_eq_iff (low bound) (low otherBound),
              later]
          · -- The bits that count end before or within the first cell.
            have beyond : rest ≤ start + (rest + bits) - length := by omega
            have cut : start + (rest + bits) - length - rest = start + bits - length := by omega
            rw [cut_beyond beyond bound, cut_beyond beyond otherBound, cut,
              clearCells_empty positive (by omega), clearCells_empty positive (by omega), sameCount,
              and_iff_left rfl]

end

/-! ## Networks -/

theorem cellSize_eq (family : Family) : family.cellSize = 2 ^ family.cellBits := by
  cases family <;> rfl

theorem contains_ofAddress_iff {address other : Address} {bits : Nat} :
    (ofAddress address bits).contains other = true ↔ address.AgreesIn bits other := by
  simp only [contains, Bool.and_eq_true, decide_eq_true_eq, Address.AgreesIn]
  refine and_congr_right fun (same : address.family = other.family) => ?_
  have count : address.cells.length = other.cells.length := by
    rw [address.length_cells, other.length_cells, same]
  have small : ∀ cell ∈ address.cells, cell < 2 ^ address.family.cellBits :=
    cellSize_eq address.family ▸ address.cells_lt
  have otherSmall : ∀ cell ∈ other.cells, cell < 2 ^ address.family.cellBits := by
    rw [same]
    exact cellSize_eq other.family ▸ other.cells_lt
  have positive : 0 < address.family.cellBits := by
    cases address.family <;> decide
  have cut : 0 + address.family.cellBits * address.cells.length
      - min bits address.family.width = address.family.width - bits := by
    rw [address.length_cells, Family.width, Nat.mul_comm]
    omega
  have cleared := @clearCells_eq_iff _ (min bits address.family.width) 0 positive _ _ count small
    otherSmall
  rw [cut, ← cellSize_eq] at cleared
  simp only [clear, ofAddress, Address.value, ← same]
  exact cleared

end Network

end SenderPolicy
