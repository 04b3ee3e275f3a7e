import SenderPolicy.Address.Printer
import SenderPolicy.Proofs.Text.Ascii
import SenderPolicy.Proofs.Text.Decimal
import SenderPolicy.Proofs.Text.Splitting

/-!
# The names of addresses under `arpa`

The name that holds the host names of an address is made up of the address's labels in reverse and
the family's zone. No label holds a dot, so the name is split into these parts again: it tells the
address, and it is the dotted form of the address turned round and put in front of its zone.
-/

namespace SenderPolicy.Address

/-! ## Labels -/

theorem digitChar_cases : ∀ digit < 16, digit.digitChar ≠ '.' ∧ digit.digitChar.toNat < 128 := by
  decide

theorem digitChar_inj : ∀ digit < 16, ∀ other < 16, digit.digitChar = other.digitChar →
    digit = other := by
  decide

/-- A label is a written octet or one hexadecimal digit. -/
theorem label_cases {address : Address} {label : Text} (member : label ∈ address.labels) :
    (address.family = .ip4 ∧ ∃ octet < 256, label = Text.ofNat octet)
      ∨ (address.family = .ip6 ∧ ∃ digit < 16, label = [Nat.digitChar digit]) := by
  have small := address.cells_lt
  unfold labels at member
  cases family : address.family with
  | ip4 =>
      rw [family] at member small
      obtain ⟨octet, isCell, rfl⟩ := List.mem_map.mp member
      exact .inl ⟨rfl, octet, small octet isCell, rfl⟩
  | ip6 =>
      rw [family] at member
      obtain ⟨group, _, digits⟩ := List.mem_flatMap.mp member
      obtain ⟨digit, isDigit, rfl⟩ := List.mem_map.mp digits
      refine .inr ⟨rfl, digit, ?_, rfl⟩
      simp only [List.mem_cons, List.not_mem_nil, or_false] at isDigit
      omega

/-- A label consists of ASCII characters other than dots. -/
theorem label_characters {address : Address} {label : Text} (member : label ∈ address.labels)
    {c : Char} (inside : c ∈ label) : c ≠ '.' ∧ c.toNat < 128 := by
  rcases label_cases member with ⟨_, octet, _, rfl⟩ | ⟨_, digit, small, rfl⟩
  · have digit := Text.isDigit_of_mem_ofNat inside
    constructor
    · rintro rfl
      cases digit
    · simp only [Char.isDigit, Bool.and_eq_true, decide_eq_true_eq] at digit
      have bound : c.toNat ≤ 57 := digit.2
      omega
  · obtain rfl := List.mem_singleton.mp inside
    exact digitChar_cases digit small

theorem labels_ne_nil (address : Address) : address.labels ≠ [] := by
  have count := address.length_cells
  intro nothing
  unfold labels at nothing
  cases family : address.family with
  | ip4 =>
      rw [family] at nothing count
      rw [List.map_eq_nil_iff.mp nothing] at count
      cases count
  | ip6 =>
      rw [family] at nothing count
      cases cells : address.cells with
      | nil =>
          rw [cells] at count
          cases count
      | cons cell rest =>
          rw [cells] at nothing
          cases nothing

/-! ## Addresses by their labels -/

/-- The digits of groups tell the groups. -/
theorem groups_of_digits {groups others : List Nat} (small : ∀ group ∈ groups, group < 65536)
    (otherSmall : ∀ group ∈ others, group < 65536)
    (same : groups.flatMap groupDigits = others.flatMap groupDigits) : groups = others := by
  induction groups generalizing others with
  | nil =>
      cases others with
      | nil => rfl
      | cons other others => cases same
  | cons group groups inductionHypothesis =>
      cases others with
      | nil => cases same
      | cons other others =>
          obtain ⟨first, small⟩ := List.forall_mem_cons.mp small
          obtain ⟨otherFirst, otherSmall⟩ := List.forall_mem_cons.mp otherSmall
          rw [List.flatMap_cons, List.flatMap_cons] at same
          obtain ⟨digits, rest⟩ := List.append_inj same rfl
          simp only [groupDigits, List.map_cons, List.map_nil, List.cons.injEq, and_true] at digits
          obtain ⟨thousands, hundreds, tens, ones⟩ := digits
          have here : group = other := by
            have bounded : ∀ n, n % 16 < 16 := fun n => Nat.mod_lt n (by decide)
            have first := digitChar_inj _ (bounded _) _ (bounded _) thousands
            have second := digitChar_inj _ (bounded _) _ (bounded _) hundreds
            have third := digitChar_inj _ (bounded _) _ (bounded _) tens
            have fourth := digitChar_inj _ (bounded _) _ (bounded _) ones
            omega
          rw [here, inductionHypothesis small otherSmall rest]

theorem ofNat_inj (n other : Nat) (same : Text.ofNat n = Text.ofNat other) : n = other := by
  have read := Text.toNat?_ofNat other
  rw [← same, Text.toNat?_ofNat] at read
  exact Option.some.inj read

/-- Addresses of one family with the same labels have the same cells. -/
theorem cells_of_labels {address other : Address} (family : address.family = other.family)
    (same : address.labels = other.labels) : address.cells = other.cells := by
  have small := address.cells_lt
  have otherSmall := other.cells_lt
  unfold labels at same
  rw [← family] at same otherSmall
  cases kind : address.family with
  | ip4 =>
      rw [kind] at same
      exact (List.map_inj_right ofNat_inj).mp same
  | ip6 =>
      rw [kind] at same small otherSmall
      exact groups_of_digits small otherSmall same

theorem family_of_label {family other : Family} (same : family.label = other.label) :
    family = other := by
  cases family <;> cases other <;> first | rfl | cases same

/-! ## The name -/

/-- The parts of the name between its dots. -/
def nameParts (address : Address) : List Text :=
  address.labels.reverse ++ [address.family.label, "arpa".toList]

/-- The parts of the name are ASCII text without dots. -/
theorem namePart_characters {address : Address} {part : Text} (member : part ∈ address.nameParts)
    {c : Char} (inside : c ∈ part) : c ≠ '.' ∧ c.toNat < 128 := by
  have fixed : ∀ text : Text, text.all (fun c => c ≠ '.' && c.toNat < 128) = true →
      c ∈ text → c ≠ '.' ∧ c.toNat < 128 := by
    intro text all inside
    simpa using List.all_eq_true.mp all c inside
  simp only [nameParts, List.mem_append, List.mem_reverse, List.mem_cons, List.not_mem_nil,
    or_false] at member
  rcases member with isLabel | rfl | rfl
  · exact label_characters isLabel inside
  · refine fixed _ ?_ inside
    cases address.family <;> decide
  · exact fixed _ (by decide) inside

theorem nameParts_ne_nil (address : Address) : address.nameParts ≠ [] :=
  List.append_ne_nil_of_right_ne_nil _ (List.cons_ne_nil _ _)

/-- The name is split into its parts. -/
theorem split_reverseName (address : Address) :
    Text.split (· = '.') address.reverseName = address.nameParts :=
  Text.split_join address.nameParts_ne_nil fun _ member inside =>
    (namePart_characters member inside).1 rfl

/-- No two addresses have one name. -/
theorem eq_of_reverseName {address other : Address}
    (same : address.reverseName = other.reverseName) :
    address.family = other.family ∧ address.cells = other.cells := by
  have parts := address.split_reverseName
  rw [same, other.split_reverseName] at parts
  obtain ⟨labels, zones⟩ := List.append_inj' parts rfl
  have family := family_of_label (List.cons.inj zones).1
  exact ⟨family.symm, cells_of_labels family.symm (List.reverse_inj.mp labels).symm⟩

/-- A number of characters that no part of a name reaches. -/
def partBound : Family → Nat
  | .ip4 => 8
  | .ip6 => 5

theorem length_namePart_lt {address : Address} {part : Text} (member : part ∈ address.nameParts) :
    part.length < partBound address.family := by
  simp only [nameParts, List.mem_append, List.mem_reverse, List.mem_cons, List.not_mem_nil,
    or_false] at member
  rcases member with isLabel | rfl | rfl
  · rcases label_cases isLabel with ⟨family, octet, small, rfl⟩ | ⟨family, digit, _, rfl⟩
    · have three : (Text.ofNat octet).length ≤ 3 :=
        (Nat.length_toDigits_le_iff (by decide) (by decide)).mpr (by omega)
      rw [family, partBound]
      omega
    · rw [family, partBound, List.length_singleton]
      omega
  · cases address.family <;> decide
  · cases address.family <;> decide

/-- Four octets, or four digits for each of eight groups. -/
theorem length_nameParts_mul_le (address : Address) :
    address.nameParts.length * partBound address.family ≤ 255 := by
  have count := address.length_cells
  rw [nameParts, List.length_append, List.length_reverse, labels]
  cases family : address.family with
  | ip4 =>
      rw [family] at count
      simp [count, Family.cellCount, partBound]
  | ip6 =>
      have four : ∀ group, (groupDigits group).length = 4 := fun _ => rfl
      rw [family] at count
      have sum : (address.cells.map fun _ => 4).sum = 4 * address.cells.length := by
        rw [List.map_const', List.sum_replicate_nat, Nat.mul_comm]
      simp only [List.length_flatMap, four, sum, count, Family.cellCount, partBound]
      decide

/-- The name is no longer than a domain name may be. -/
theorem byteLength_reverseName_le (address : Address) : address.reverseName.byteLength ≤ 255 := by
  have ascii : Text.isAscii address.reverseName = true := by
    refine List.all_eq_true.mpr fun c member => decide_eq_true ?_
    rcases Text.mem_of_mem_join member with rfl | ⟨part, isPart, inside⟩
    · decide
    · exact (namePart_characters isPart inside).2
  have length : address.reverseName.length
      ≤ address.nameParts.length * partBound address.family :=
    Text.length_join_le fun _ member => length_namePart_lt member
  rw [Text.byteLength_of_isAscii ascii]
  exact Nat.le_trans length address.length_nameParts_mul_le

/-- The dotted form is split into the labels. -/
theorem split_dottedLabels (address : Address) :
    Text.split (· = '.') address.dottedLabels = address.labels :=
  Text.split_join address.labels_ne_nil fun _ member inside =>
    (label_characters member inside).1 rfl

/-- The name is the dotted form turned round, the family's zone, and `arpa`. -/
theorem reverseName_eq (address : Address) :
    address.reverseName
      = Text.join ['.'] address.labels.reverse ++ '.' :: (address.family.label
        ++ ".arpa".toList) := by
  have some : address.labels.reverse ≠ [] := by
    simpa using address.labels_ne_nil
  rw [reverseName, Text.join_append _ some (List.cons_ne_nil _ _)]
  simp [Text.join]

end SenderPolicy.Address
