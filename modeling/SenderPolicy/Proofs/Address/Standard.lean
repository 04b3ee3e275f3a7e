import SenderPolicy.Address.Network
import SenderPolicy.Proofs.Address.Reading

/-!
# The standard form of addresses

`IsStandard` says how an address is written, apart from the printer: four octets, or eight groups
with the first of their longest rows of two or more zeros left out, or octets behind `::ffff:`. The
printer writes this form and no other. What it writes is read as the address that was written, so
no two addresses have one text.
-/

namespace SenderPolicy.Address

/-! ## Rows of zeros -/

/-- There are zeros in so many places from a start on. -/
def HasZeros (groups : List Nat) (start length : Nat) : Prop :=
  ∀ place, start ≤ place → place < start + length → groups[place]? = some 0

/-- The first of the longest rows of zeros, if these have two groups or more. -/
structure IsGap (groups : List Nat) (start length : Nat) : Prop where
  long : 2 ≤ length
  zeros : HasZeros groups start length
  longest : ∀ other count, HasZeros groups other count → count ≤ length
  first : ∀ other, HasZeros groups other length → start ≤ other

section
variable {group : Nat} {groups : List Nat} {start length : Nat}

theorem hasZeros_cons_succ :
    HasZeros (group :: groups) (start + 1) length ↔ HasZeros groups start length := by
  constructor
  · intro zeros place after before
    exact zeros (place + 1) (by omega) (by omega)
  · intro zeros place after before
    obtain ⟨place, rfl⟩ : ∃ earlier, place = earlier + 1 := ⟨place - 1, by omega⟩
    exact zeros place (by omega) (by omega)

/-- The zeros at the start are those that the printer counts. -/
theorem hasZeros_zero_iff : HasZeros groups 0 length ↔ length ≤ leadingZeros groups := by
  induction groups generalizing length with
  | nil =>
      constructor
      · intro zeros
        refine Nat.le_of_not_lt fun positive => ?_
        cases zeros 0 (Nat.le_refl 0) (by omega)
      · intro short place _ before
        exact absurd (show length ≤ 0 from short) (by omega)
  | cons group groups inductionHypothesis =>
      cases length with
      | zero =>
          exact ⟨fun _ => Nat.zero_le _, fun _ place _ before => by omega⟩
      | succ length =>
          have tail : HasZeros (group :: groups) 0 (length + 1)
              ↔ group = 0 ∧ HasZeros groups 0 length := by
            constructor
            · intro zeros
              refine ⟨by simpa using zeros 0 (Nat.le_refl 0) (by omega), ?_⟩
              intro place _ before
              exact zeros (place + 1) (by omega) (by omega)
            · rintro ⟨rfl, zeros⟩ place _ before
              cases place with
              | zero => rfl
              | succ place => exact zeros place (by omega) (by omega)
          rw [tail, inductionHypothesis]
          by_cases zero : group = 0
          · simp [leadingZeros, zero]
          · simp [leadingZeros, zero]

theorem hasZeros_longestZeros :
    HasZeros groups (longestZeros groups).1 (longestZeros groups).2 := by
  induction groups with
  | nil =>
      intro place _ before
      exact absurd before (Nat.not_lt_zero place)
  | cons group groups inductionHypothesis =>
      unfold longestZeros
      dsimp only
      split
      · exact hasZeros_zero_iff.mpr (Nat.le_refl _)
      · exact hasZeros_cons_succ.mpr inductionHypothesis

/-- No row of zeros is longer than the one that the printer takes. -/
theorem le_longestZeros (zeros : HasZeros groups start length) :
    length ≤ (longestZeros groups).2 := by
  induction groups generalizing start with
  | nil =>
      refine Nat.le_of_not_lt fun positive => ?_
      cases zeros start (Nat.le_refl start) (by omega)
  | cons group groups inductionHypothesis =>
      have bound : length ≤ leadingZeros (group :: groups) ∨ length ≤ (longestZeros groups).2 := by
        cases start with
        | zero => exact .inl (hasZeros_zero_iff.mp zeros)
        | succ start => exact .inr (inductionHypothesis (hasZeros_cons_succ.mp zeros))
      unfold longestZeros
      dsimp only
      split
      · dsimp only
        omega
      · dsimp only
        omega

/-- No row of zeros of that length begins before the one that the printer takes. -/
theorem longestZeros_le (zeros : HasZeros groups start (longestZeros groups).2) :
    (longestZeros groups).1 ≤ start := by
  induction groups generalizing start with
  | nil => exact Nat.zero_le start
  | cons group groups inductionHypothesis =>
      unfold longestZeros at zeros ⊢
      dsimp only at zeros ⊢
      split
      · exact Nat.zero_le start
      · rename_i shorter
        rw [if_neg shorter] at zeros
        cases start with
        | zero => exact absurd (hasZeros_zero_iff.mp zeros) shorter
        | succ start =>
            exact Nat.succ_le_succ (inductionHypothesis (hasZeros_cons_succ.mp zeros))

theorem isGap_longestZeros (long : 2 ≤ (longestZeros groups).2) :
    IsGap groups (longestZeros groups).1 (longestZeros groups).2 where
  long := long
  zeros := hasZeros_longestZeros
  longest _ _ := le_longestZeros
  first _ := longestZeros_le

/-- There is one such row at most. -/
theorem IsGap.eq_longestZeros (gap : IsGap groups start length) :
    longestZeros groups = (start, length) := by
  have lengths : (longestZeros groups).2 = length :=
    Nat.le_antisymm (gap.longest _ _ hasZeros_longestZeros) (le_longestZeros gap.zeros)
  have starts : (longestZeros groups).1 = start := by
    refine Nat.le_antisymm (longestZeros_le ?_) (gap.first _ ?_)
    · rw [lengths]
      exact gap.zeros
    · rw [← lengths]
      exact hasZeros_longestZeros
  rw [← starts, ← lengths]

end

/-! ## Mapped addresses -/

/-- Groups that stand for an IPv4 address. -/
def IsMapped (groups : List Nat) : Prop :=
  ∃ high low, groups = [0, 0, 0, 0, 0, 0xFFFF, high, low]

theorem mappedCells?_eq_none_iff {groups : List Nat} :
    mappedCells? groups = none ↔ ¬ IsMapped groups := by
  unfold mappedCells?
  constructor
  · rintro nothing ⟨high, low, rfl⟩
    cases nothing
  · intro unmapped
    split
    · rename_i high low
      exact absurd ⟨high, low, rfl⟩ unmapped
    · rfl

/-- Only an IPv6 address with mapped groups stands for another one. -/
theorem mapped?_eq_none_iff {address : Address} :
    address.mapped? = none ↔ ¬ (address.family = .ip6 ∧ IsMapped address.cells) := by
  have small := address.cells_lt
  unfold mapped?
  cases family : address.family with
  | ip4 => simp
  | ip6 =>
      rw [family] at small
      constructor
      · rintro nothing ⟨_, high, low, cells⟩
        rw [cells] at nothing small
        have highSmall : high < 65536 := small high (by simp)
        have lowSmall : low < 65536 := small low (by simp)
        have fits : [high / 256, high % 256, low / 256, low % 256].length = Family.ip4.cellCount
            ∧ ∀ cell ∈ [high / 256, high % 256, low / 256, low % 256],
              cell < Family.ip4.cellSize := by
          refine ⟨rfl, ?_⟩
          simp only [List.forall_mem_cons, List.not_mem_nil, false_implies, implies_true, and_true,
            Family.cellSize]
          omega
        simp only [mappedCells?, Option.bind_some, ofCells?, dif_pos fits] at nothing
        cases nothing
      · intro unmapped
        have nothing := mappedCells?_eq_none_iff.mpr fun mapped => unmapped ⟨rfl, mapped⟩
        simp only [nothing, Option.bind_none]

/-- What a mapped address stands for is not mapped. -/
theorem mapped?_unmapped (address : Address) : address.unmapped.mapped? = none := by
  unfold unmapped
  cases mapped : address.mapped? with
  | none => exact mapped
  | some inner =>
      have family : inner.family = .ip4 := by
        unfold mapped? at mapped
        split at mapped
        · cases mapped
        · obtain ⟨octets, _, cells⟩ := Option.bind_eq_some_iff.mp mapped
          unfold ofCells? at cells
          split at cells
          · cases cells
            rfl
          · cases cells
      refine mapped?_eq_none_iff.mpr fun both => ?_
      rw [Option.getD_some, family] at both
      cases both.1

/-! ## The form -/

/-- How cells of a family are written. Groups have lower-case digits without leading zeros. -/
inductive IsStandard : Family → List Nat → Text → Prop where
  | octets (a b c d : Nat) :
      IsStandard .ip4 [a, b, c, d] (Text.join ['.'] ([a, b, c, d].map Text.ofNat))
  | mapped (high low : Nat) :
      IsStandard .ip6 [0, 0, 0, 0, 0, 0xFFFF, high, low]
        ("::ffff:".toList ++ Text.join ['.']
          ([high / 256, high % 256, low / 256, low % 256].map Text.ofNat))
  | shortened {groups start length} (unmapped : ¬ IsMapped groups)
      (gap : IsGap groups start length) :
      IsStandard .ip6 groups
        (Text.join [':'] ((groups.take start).map (Nat.toDigits 16)) ++ "::".toList
          ++ Text.join [':'] ((groups.drop (start + length)).map (Nat.toDigits 16)))
  | full {groups} (unmapped : ¬ IsMapped groups) (noGap : ∀ start, ¬ HasZeros groups start 2) :
      IsStandard .ip6 groups (Text.join [':'] (groups.map (Nat.toDigits 16)))

/-- The printer leaves out a row of two or more zeros if there is one. -/
theorem isStandard_shortenedText {groups : List Nat} (unmapped : ¬ IsMapped groups) :
    IsStandard .ip6 groups (shortenedText groups) := by
  unfold shortenedText
  dsimp only
  split
  · rename_i long
    exact .shortened unmapped (isGap_longestZeros long)
  · rename_i short
    exact .full unmapped fun start zeros => short (le_longestZeros zeros)

theorem isStandard_text (address : Address) :
    IsStandard address.family address.cells address.text := by
  have count := address.length_cells
  unfold text cellsText
  cases family : address.family with
  | ip4 =>
      rw [family] at count
      generalize address.cells = cells at count ⊢
      match cells, count with
      | [a, b, c, d], _ => exact .octets a b c d
  | ip6 =>
      dsimp only
      cases mapped : mappedCells? address.cells with
      | none => exact isStandard_shortenedText (mappedCells?_eq_none_iff.mp mapped)
      | some octets =>
          unfold mappedCells? at mapped
          split at mapped
          · rename_i high low cells
            cases mapped
            rw [cells]
            exact .mapped high low
          · cases mapped

/-- An address has one standard form. -/
theorem IsStandard.eq_cellsText {family : Family} {cells : List Nat} {text : Text}
    (standard : IsStandard family cells text) : text = cellsText family cells := by
  cases standard with
  | octets a b c d => rfl
  | mapped high low => rfl
  | shortened unmapped gap =>
      simp only [cellsText, mappedCells?_eq_none_iff.mpr unmapped, shortenedText,
        gap.eq_longestZeros, if_pos gap.long, groupsText]
  | full unmapped noGap =>
      have short : ¬ 2 ≤ (longestZeros cells).2 := by
        intro long
        refine noGap (longestZeros cells).1 fun place after before => ?_
        exact hasZeros_longestZeros place after (by omega)
      simp only [cellsText, mappedCells?_eq_none_iff.mpr unmapped, shortenedText, if_neg short,
        groupsText]

/-- Of two longest rows of zeros the first is left out, and a single zero is written. -/
example :
    (Address.mk .ip6 [1, 0, 0, 2, 0, 0, 3, 0] rfl (by decide)).text = "1::2:0:0:3:0".toList := by
  decide

/-! ## Writing and reading -/

/-- No two addresses have one text. -/
theorem text_injective : Function.Injective text := by
  intro address other same
  have found := read?_text other
  rw [← same, read?_text] at found
  exact Option.some.inj found

/-- Text in standard form stays as it is. -/
theorem standardText_idem (text : Text) : standardText (standardText text) = standardText text := by
  cases found : read? text with
  | none =>
      have asItIs : standardText text = text := by rw [standardText, found]
      rw [asItIs, asItIs]
  | some address =>
      have standard : standardText text = address.text := by rw [standardText, found]
      rw [standard, standardText, read?_text]

/-- All bits of a single address count, so each of its cells has a full mask. -/
theorem maskCell_single (address : Address) {index : Nat}
    (inside : index < address.family.cellCount) :
    Network.maskCell address.family.cellBits (Network.single address).length
        (index * address.family.cellBits)
      = Network.fullCell address.family.cellBits := by
  refine if_pos ?_
  have within := Nat.mul_le_mul_right address.family.cellBits (Nat.succ_le_of_lt inside)
  rwa [Nat.succ_mul] at within

/-- The text of an address is in standard form, alone in that, and is read as that address with
all its bits, so addresses differ in their texts and standard text stays. Text that denotes an
address is a literal of it between blanks. What is kept of it as a client address denotes an
address again, and none that is mapped. -/
theorem texts_and_literals :
    (∀ address, Network.read address.text none = .ok (Network.single address)
        ∧ (Network.single address).length = address.family.width
        ∧ ∀ index < address.family.cellCount,
            Network.maskCell address.family.cellBits (Network.single address).length
                (index * address.family.cellBits)
              = Network.fullCell address.family.cellBits)
      ∧ (∀ address other : Address, address.text = other.text →
          address.family = other.family ∧ address.cells = other.cells)
      ∧ (∀ text, standardText (standardText text) = standardText text)
      ∧ (∀ text address, read text = .ok address →
          ∃ kept inner, clientText? text = some kept ∧ read kept = .ok inner
            ∧ ¬ (inner.family = .ip6 ∧ IsMapped inner.cells))
      ∧ (∀ text address, read text = .ok address ↔ IsLiteral text.trim address)
      ∧ ∀ (address : Address) (text : Text),
          IsStandard address.family address.cells text ↔ text = address.text := by
  refine ⟨fun address => ⟨?_, rfl, fun index => maskCell_single address⟩, ?_, standardText_idem,
    ?_, ?_, ?_⟩
  · rw [Network.read, read_eq_ok_iff.mpr (read?_text address)]
    rfl
  · intro address other same
    rw [text_injective same]
    exact ⟨rfl, rfl⟩
  · intro text address reads
    have denotes : (read? text).map unmapped = some address.unmapped := by
      rw [read_eq_ok_iff.mp reads, Option.map_some]
    obtain ⟨kept, keeps, literal⟩ := exists_clientText denotes
    refine ⟨kept, address.unmapped, keeps, read_eq_ok_iff.mpr (read?_of_isLiteral literal), ?_⟩
    exact mapped?_eq_none_iff.mp (mapped?_unmapped address)
  · intro text address
    rw [read_eq_ok_iff, ← read?_eq_some_iff text.trim_trim, read?, read?, Text.trim_trim]
  · intro address text
    constructor
    · exact IsStandard.eq_cellsText
    · rintro rfl
      exact isStandard_text address

end SenderPolicy.Address
