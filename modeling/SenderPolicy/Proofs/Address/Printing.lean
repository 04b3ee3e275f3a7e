import SenderPolicy.Address.Printer
import SenderPolicy.Proofs.Address.Grammar

/-!
# Written addresses are literals

`Address.text` writes an address in its standard form. That form is a literal of the address:
octets are written without leading zeros, groups have one to four digits, and the row of zeros
that is left out is the row that the gap stands for.
-/

namespace SenderPolicy.Address

/-! ## Groups -/

theorem hexValue?_digitChar : ∀ n < 16, hexValue? n.digitChar = some n := by decide

theorem valueOfCells_concat (size : Nat) (cells : List Nat) (cell : Nat) :
    valueOfCells size (cells ++ [cell]) = valueOfCells size cells * size + cell := by
  simp [valueOfCells]

/-- The hexadecimal digits of a number spell it. -/
theorem exists_digits_toDigits (n : Nat) :
    ∃ digits, (Nat.toDigits 16 n).map hexValue? = digits.map some ∧ n = valueOfCells 16 digits := by
  induction n using Nat.strongRecOn with
  | ind n inductionHypothesis =>
      by_cases small : n < 16
      · refine ⟨[n], ?_, ?_⟩
        · rw [Nat.toDigits_of_lt_base small]
          simp [hexValue?_digitChar n small]
        · simp [valueOfCells]
      · obtain ⟨digits, found, value⟩ := inductionHypothesis (n / 16) (by omega)
        refine ⟨digits ++ [n % 16], ?_, ?_⟩
        · rw [Nat.toDigits_of_base_le (by decide) (Nat.le_of_not_lt small), List.map_append, found,
            List.map_append]
          simp [hexValue?_digitChar (n % 16) (Nat.mod_lt _ (by decide))]
        · rw [valueOfCells_concat, ← value]
          omega

/-- A cell of the second family is written as a group. -/
theorem isGroup_toDigits {n : Nat} (small : n < 65536) : IsGroup (Nat.toDigits 16 n) n where
  nonempty := List.length_pos_iff.mpr Nat.toDigits_ne_nil
  short := (Nat.length_toDigits_le_iff (by decide) (by decide)).mpr (by omega)
  digits := exists_digits_toDigits n

theorem isRow_groupsText {groups : List Nat} (some : groups ≠ [])
    (small : ∀ group ∈ groups, group < 65536) : IsRow (groupsText groups) groups := by
  induction groups with
  | nil => contradiction
  | cons group groups inductionHypothesis =>
      obtain ⟨first, others⟩ := List.forall_mem_cons.mp small
      cases groups with
      | nil => exact .group (isGroup_toDigits first)
      | cons next groups =>
          have rest := inductionHypothesis (by simp) others
          have parts : groupsText (group :: next :: groups)
              = Nat.toDigits 16 group ++ ':' :: groupsText (next :: groups) := by
            simp [groupsText, Text.join]
          rw [parts]
          exact .cons (isGroup_toDigits first) rest

theorem isSide_groupsText {groups : List Nat} (small : ∀ group ∈ groups, group < 65536) :
    IsSide (groupsText groups) groups := by
  cases groups with
  | nil => exact .inl ⟨rfl, rfl⟩
  | cons group groups => exact .inr (isRow_groupsText (by simp) small)

/-- Groups hold no dot. -/
theorem dot_not_mem_groupsText {groups : List Nat} (small : ∀ group ∈ groups, group < 65536) :
    '.' ∉ groupsText groups := by
  intro member
  rcases Text.mem_of_mem_join member with same | ⟨piece, isPiece, inside⟩
  · cases same
  · obtain ⟨group, isGroup, rfl⟩ := List.mem_map.mp isPiece
    exact (isGroup_toDigits (small group isGroup)).not_mem (by decide) inside

/-! ## The row of zeros -/

/-- Zeros stand where the longest row of them is found. -/
theorem longestZeros_spec (groups : List Nat) :
    groups = groups.take (longestZeros groups).1
        ++ List.replicate (longestZeros groups).2 0
        ++ groups.drop ((longestZeros groups).1 + (longestZeros groups).2) := by
  induction groups with
  | nil => rfl
  | cons group groups inductionHypothesis =>
      unfold longestZeros
      dsimp only
      split
      · -- The longest row is the one at the start.
        have zeros : (group :: groups).takeWhile (· = 0)
            = List.replicate (leadingZeros (group :: groups)) 0 := by
          refine List.eq_replicate_iff.mpr ⟨rfl, fun other member => ?_⟩
          simpa using List.all_eq_true.mp List.all_takeWhile other member
        have rest : (group :: groups).drop (leadingZeros (group :: groups))
            = (group :: groups).dropWhile (· = 0) :=
          calc
            _ = ((group :: groups).takeWhile (· = 0) ++ (group :: groups).dropWhile (· = 0)).drop
                  ((group :: groups).takeWhile (· = 0)).length := by
              rw [List.takeWhile_append_dropWhile, leadingZeros]
            _ = _ := List.drop_left
        dsimp only
        rw [List.take_zero, List.nil_append, Nat.zero_add, rest, ← zeros,
          List.takeWhile_append_dropWhile]
      · dsimp only
        rw [Nat.add_right_comm, List.take_succ_cons, List.drop_succ_cons, List.cons_append,
          List.cons_append, ← inductionHypothesis]

theorem isColons_shortenedText {groups : List Nat} (count : groups.length = 8)
    (small : ∀ group ∈ groups, group < 65536) : IsColons (shortenedText groups) groups := by
  unfold shortenedText
  dsimp only
  split
  · rename_i long
    have parts := longestZeros_spec groups
    generalize (longestZeros groups).1 = start at long parts ⊢
    generalize (longestZeros groups).2 = length at long parts ⊢
    have smallLeft : ∀ group ∈ groups.take start, group < 65536 :=
      fun group member => small group (List.mem_of_mem_take member)
    have smallRight : ∀ group ∈ groups.drop (start + length), group < 65536 :=
      fun group member => small group (List.mem_of_mem_drop member)
    have lengths := congrArg List.length parts
    simp only [List.length_append, List.length_replicate] at lengths
    have gap : 8 - (groups.take start).length - (groups.drop (start + length)).length = length := by
      omega
    have colons := IsColons.gap (isSide_groupsText smallLeft) (dot_not_mem_groupsText smallLeft)
      (isSide_groupsText smallRight) (by omega)
    rw [gap, ← parts] at colons
    simpa using colons
  · have some : groups ≠ [] := List.ne_nil_of_length_pos (by omega)
    exact .full (isRow_groupsText some small) count

/-! ## Addresses -/

/-- A mapped address is written with its last two groups in octets. -/
theorem isColons_mapped {cells octets : List Nat} (mapped : mappedCells? cells = some octets)
    (small : ∀ cell ∈ cells, cell < 65536) :
    IsColons ("::ffff:".toList ++ dottedText octets) cells := by
  unfold mappedCells? at mapped
  split at mapped
  · rename_i high low
    cases mapped
    have highSmall : high < 65536 := small high (by simp)
    have lowSmall : low < 65536 := small low (by simp)
    have dotted : IsDotted (dottedText [high / 256, high % 256, low / 256, low % 256])
        [high / 256, high % 256, low / 256, low % 256] := by
      refine ⟨rfl, ?_, rfl⟩
      simp only [List.forall_mem_cons, List.not_mem_nil, false_implies, implies_true, and_true]
      omega
    have mark : IsGroup "ffff".toList 65535 := by
      have spelled := isGroup_toDigits (n := 65535) (by decide)
      rwa [show Nat.toDigits 16 65535 = "ffff".toList by decide] at spelled
    have colons := IsColons.gap (.inl ⟨rfl, rfl⟩) (by simp) (.inr (.cons mark (.dotted dotted)))
      (by simp)
    simpa [Nat.div_add_mod] using colons
  · cases mapped

/-- The text of an address is a literal of it. -/
theorem isLiteral_text (address : Address) : IsLiteral address.text address := by
  have count := address.length_cells
  have small := address.cells_lt
  unfold IsLiteral Address.text cellsText
  cases family : address.family with
  | ip4 =>
      rw [family] at count small
      exact ⟨count, small, rfl⟩
  | ip6 =>
      rw [family] at count small
      dsimp only
      split
      · rename_i octets mapped
        exact isColons_mapped mapped small
      · exact isColons_shortenedText count small

/-- Addresses of the three kinds of spellings. -/
example :
    (Address.mk .ip6 [0x2001, 0xdb8, 0, 0, 0, 0, 0, 1] rfl (by decide)).text
      = "2001:db8::1".toList := by
  decide

end SenderPolicy.Address
