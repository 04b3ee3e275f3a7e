import SenderPolicy.Proofs.Text.Splitting

/-!
# Text in bytes

The UTF-8 encoding of text is the row of bytes of its characters. A dot is one byte of its own, and
that byte is in the encoding of no other character. So the first such byte in encoded text is its
first dot, and what stands on either side of it is encoded text again.
-/

namespace SenderPolicy.Text

/-- The UTF-8 encoding of text. -/
def bytes (text : Text) : List UInt8 :=
  text.flatMap String.utf8EncodeChar

/-- The byte of a dot. -/
def dotByte : UInt8 := 0x2E

theorem bytes_append (left right : Text) : (left ++ right).bytes = left.bytes ++ right.bytes :=
  List.flatMap_append

theorem bytes_dot_cons (text : Text) : bytes ('.' :: text) = dotByte :: text.bytes :=
  rfl

/-- The bytes of text are counted character by character. -/
theorem length_bytes (text : Text) : text.bytes.length = text.byteLength := by
  induction text with
  | nil => rfl
  | cons c rest inductionHypothesis =>
      rw [bytes, List.flatMap_cons, List.length_append, String.length_utf8EncodeChar]
      exact congrArg (c.utf8Size + ·) inductionHypothesis

theorem byteLength_append (left right : Text) :
    byteLength (left ++ right) = left.byteLength + right.byteLength := by
  rw [← length_bytes, bytes_append, List.length_append, length_bytes, length_bytes]

/-- A byte below 128 encodes a character by itself. -/
theorem toNat_of_mem_utf8EncodeChar {c : Char} {byte : UInt8}
    (member : byte ∈ String.utf8EncodeChar c) : byte.toNat = c.toNat ∨ 128 ≤ byte.toNat := by
  unfold String.utf8EncodeChar at member
  simp only at member
  split at member
  · left
    obtain rfl := List.mem_singleton.mp member
    rw [UInt8.toNat_ofNat']
    exact Nat.mod_eq_of_lt (by omega)
  · -- All bytes of a longer encoding have their highest bit set.
    right
    (repeat' split at member) <;>
      simp only [List.mem_cons, List.not_mem_nil, or_false] at member <;>
      rcases member with rfl | rfl | rfl | rfl <;>
      rw [UInt8.toNat_ofNat'] <;> omega

theorem dotByte_mem_bytes_iff {text : Text} : dotByte ∈ text.bytes ↔ '.' ∈ text := by
  constructor
  · intro member
    obtain ⟨c, inside, encodes⟩ := List.mem_flatMap.mp member
    rcases toNat_of_mem_utf8EncodeChar encodes with same | beyond
    · have dot : '.' = c := Char.ext (UInt32.toNat_inj.mp same)
      exact dot ▸ inside
    · exact absurd beyond (by decide)
  · intro member
    exact List.mem_flatMap.mpr ⟨'.', member, List.mem_singleton.mpr rfl⟩

/-- A row that goes on after a part without dots has no other such part before a dot. -/
theorem eq_of_append_dotByte_eq {before left after right : List UInt8} (first : dotByte ∉ before)
    (other : dotByte ∉ left) (same : before ++ dotByte :: after = left ++ dotByte :: right) :
    before = left ∧ after = right := by
  have ahead {part rest : List UInt8} (free : dotByte ∉ part) :
      (part ++ dotByte :: rest).takeWhile (· ≠ dotByte) = part := by
    rw [List.takeWhile_append_of_pos, List.takeWhile_cons_of_neg (by simp), List.append_nil]
    intro byte member
    exact decide_eq_true fun dot => free (dot ▸ member)
  have front : before = left := by rw [← ahead first, same, ahead other]
  subst front
  exact ⟨rfl, (List.cons.inj (List.append_cancel_left same)).2⟩

/-- The first dot among the bytes of text is its first dot. -/
theorem bytes_eq_append_dotByte_iff {text : Text} {before after : List UInt8}
    (first : dotByte ∉ before) :
    text.bytes = before ++ dotByte :: after
      ↔ ∃ left right, splitAtFirst '.' text = some (left, right)
        ∧ before = left.bytes ∧ after = right.bytes := by
  have encoded {left right : Text} : bytes (left ++ '.' :: right)
      = left.bytes ++ dotByte :: right.bytes := by
    rw [bytes_append, bytes_dot_cons]
  constructor
  · intro parts
    have member : '.' ∈ text := dotByte_mem_bytes_iff.mp (by simp [parts])
    obtain ⟨left, right, rfl, free⟩ := List.eq_append_cons_of_mem member
    have other : dotByte ∉ bytes left := fun inside => free (dotByte_mem_bytes_iff.mp inside)
    rw [encoded] at parts
    obtain ⟨rfl, rfl⟩ := eq_of_append_dotByte_eq other first parts
    exact ⟨left, right, splitAtFirst_append free right, rfl, rfl⟩
  · rintro ⟨left, right, found, rfl, rfl⟩
    rw [(splitAtFirst_eq_some_iff.mp found).1, encoded]

end SenderPolicy.Text
