import SenderPolicy.Domain.Mapping
import SenderPolicy.Proofs.Text.Controls
import SenderPolicy.Proofs.Text.Splitting

/-!
# Mapping brings in no control characters

A character of a name becomes characters that the tables give, or stays what it is. The tables
give no control characters, so a control character of a mapped name stood in the name itself.
-/

namespace SenderPolicy.Domain

/-! ## The tables -/

/-- No row of characters becomes a row that begins with a control character. -/
theorem areVisible_shifts : ∀ row ∈ shifts, areVisible (row.drop 3) = true := by
  apply forall_mem_lines
  unfold shiftLines
  repeat refine List.forall_mem_cons.mpr ⟨forall_mem_hexRows (by decide +kernel), ?_⟩
  exact List.forall_mem_nil _

/-- The lines replace characters by others than control characters. -/
def ReplaceVisibly (lines : List String) : Prop :=
  ∀ line ∈ lines, ∀ row ∈ hexRows line, areVisible row.tail = true

theorem replaceVisibly_letterLines : ReplaceVisibly letterLines := by
  unfold ReplaceVisibly letterLines
  repeat refine List.forall_mem_cons.mpr ⟨forall_mem_hexRows (by decide +kernel), ?_⟩
  exact List.forall_mem_nil _

theorem replaceVisibly_symbolLines : ReplaceVisibly symbolLines := by
  unfold ReplaceVisibly symbolLines
  repeat refine List.forall_mem_cons.mpr ⟨forall_mem_hexRows (by decide +kernel), ?_⟩
  exact List.forall_mem_nil _

theorem replaceVisibly_ideographLines : ReplaceVisibly ideographLines := by
  unfold ReplaceVisibly ideographLines
  repeat refine List.forall_mem_cons.mpr ⟨forall_mem_hexRows (by decide +kernel), ?_⟩
  exact List.forall_mem_nil _

theorem replaceVisibly_formLines : ReplaceVisibly formLines := by
  unfold ReplaceVisibly formLines
  repeat refine List.forall_mem_cons.mpr ⟨forall_mem_hexRows (by decide +kernel), ?_⟩
  exact List.forall_mem_nil _

theorem replaceVisibly_higherLines : ReplaceVisibly higherLines := by
  unfold ReplaceVisibly higherLines
  repeat refine List.forall_mem_cons.mpr ⟨forall_mem_hexRows (by decide +kernel), ?_⟩
  exact List.forall_mem_nil _

/-- No character becomes a control character. -/
theorem areVisible_replacements : ∀ row ∈ replacements, areVisible row.tail = true := by
  apply forall_mem_lines
  simp only [List.forall_mem_append]
  exact ⟨⟨⟨⟨replaceVisibly_letterLines, replaceVisibly_symbolLines⟩,
    replaceVisibly_ideographLines⟩, replaceVisibly_formLines⟩, replaceVisibly_higherLines⟩

/-! ## Characters and names -/

/-- A control character that a character becomes is that character itself. -/
theorem eq_of_mem_mapCharacter {c other : Char} {text : Text} (control : IsControl c)
    (found : mapCharacter other = some text) (member : c ∈ text) : c = other := by
  unfold mapCharacter at found
  split at found
  · cases found
  split at found
  · cases found
    cases member
  split at found
  · rename_i target shifted
    cases found
    obtain rfl := List.mem_singleton.mp member
    obtain ⟨row, inTable, shifts⟩ := List.exists_of_findSome?_eq_some shifted
    unfold shift? at shifts
    split at shifts
    · rename_i first last step start
      split at shifts
      · cases shifts
        have visible : 0x20 ≤ start := by
          simpa [areVisible] using areVisible_shifts _ inTable
        exact absurd control (not_isControl_charOfCode (Nat.le_add_right_of_le visible))
      · cases shifts
    · cases shifts
  · cases replaced : replacement? other with
    | none =>
        rw [replaced] at found
        cases found
        exact List.mem_singleton.mp member
    | some replacement =>
        rw [replaced] at found
        cases found
        obtain ⟨row, isRow, rfl⟩ := Option.map_eq_some_iff.mp replaced
        have visible := areVisible_replacements row (List.mem_of_find?_eq_some isRow)
        exact absurd control (not_isControl_of_areVisible visible c member)

/-- A control character of a mapped name stands in the name. -/
theorem mem_of_mem_mapped {c : Char} {name text : Text} (control : IsControl c)
    (found : mapped name = some text) (member : c ∈ text) : c ∈ name := by
  obtain ⟨pieces, each, rfl⟩ := Option.map_eq_some_iff.mp found
  obtain ⟨piece, inside, inPiece⟩ := List.mem_flatten.mp member
  obtain ⟨other, inName, becomes⟩ := Text.exists_of_mem_mapM each inside
  exact eq_of_mem_mapCharacter control becomes inPiece ▸ inName

end SenderPolicy.Domain
