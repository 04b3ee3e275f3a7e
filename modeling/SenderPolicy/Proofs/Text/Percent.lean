import SenderPolicy.Proofs.Text.Splitting
import SenderPolicy.Text.Percent

/-!
# Encoded text

Unreserved characters stand for themselves. Any other becomes at least three characters, among
which are a percent sign, upper-case letters and digits, but no mark that could separate parts
of a value.
-/

namespace SenderPolicy.Text

theorem percentChar_of_isUnreserved {c : Char} (unreserved : isUnreserved c = true) :
    percentChar c = [c] :=
  if_pos unreserved

/-- A hexadecimal digit in upper case. -/
def isHexDigit (c : Char) : Bool :=
  "0123456789ABCDEF".toList.contains c

theorem isHexDigit_of_mem_percentByte {byte : UInt8} {c : Char} (member : c ∈ percentByte byte) :
    c = '%' ∨ isHexDigit c = true := by
  have each : ∀ n < 16, isHexDigit (Nat.digitChar n).toUpper = true := by decide
  have size : byte.toNat < 256 := byte.toNat_lt
  simp only [percentByte, List.mem_cons, List.not_mem_nil, or_false] at member
  rcases member with rfl | rfl | rfl
  · exact .inl rfl
  · exact .inr (each _ (by omega))
  · exact .inr (each _ (by omega))

theorem isHexDigit_of_mem_percentChar {c : Char} (reserved : isUnreserved c = false) {d : Char}
    (member : d ∈ percentChar c) : d = '%' ∨ isHexDigit d = true := by
  rw [percentChar, reserved] at member
  obtain ⟨byte, _, inside⟩ := List.mem_flatMap.mp member
  exact isHexDigit_of_mem_percentByte inside

theorem length_percentChar {c : Char} (reserved : isUnreserved c = false) :
    3 ≤ (percentChar c).length := by
  have bytes : (String.utf8EncodeChar c).length = c.utf8Size := String.length_utf8EncodeChar c
  have positive : 0 < c.utf8Size := c.utf8Size_pos
  rw [percentChar, reserved, if_neg Bool.false_ne_true]
  cases encoded : String.utf8EncodeChar c with
  | nil =>
      rw [encoded] at bytes
      exact absurd bytes.symm (Nat.ne_of_gt positive)
  | cons byte rest =>
      rw [List.flatMap_cons, List.length_append]
      exact Nat.le_add_right 3 _

/-- The dots between parts stay dots. -/
theorem percentEncode_join (pieces : List Text) :
    percentEncode (join ['.'] pieces) = join ['.'] (pieces.map percentEncode) := by
  cases pieces with
  | nil => rfl
  | cons piece pieces =>
      rw [join_cons, List.map_cons, join_cons]
      simp only [percentEncode, List.flatMap_append, List.flatMap_assoc, List.flatMap_map]
      rfl

end SenderPolicy.Text
