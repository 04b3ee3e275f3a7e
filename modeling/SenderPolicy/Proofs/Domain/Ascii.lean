import Mathlib.Data.List.InsertIdx
import SenderPolicy.Domain.Ascii
import SenderPolicy.Proofs.Domain.Mapping
import SenderPolicy.Proofs.Text.Composition

/-!
# The ASCII form brings in no control characters

On the way to its ASCII form a name is mapped, composed and split into labels, and each label is
read from Punycode or written in it. What Punycode inserts lies outside ASCII, and its digits are
letters and digits, so a control character of the ASCII form stood in the name
(`asciiForm?_bringsNoControls`). What is proved of names in ASCII form needs no more of a
conversion than this (`Conversion.BringsNoControls`).
-/

namespace SenderPolicy.Domain

namespace Punycode

/-! ## Punycode -/

theorem threshold_le (place bias : Nat) : threshold place bias ≤ 26 := by
  unfold threshold
  split
  · omega
  · split <;> omega

theorem not_isControl_digit {value : Nat} (small : value < 36) : ¬ IsControl (digit value) := by
  have each : ∀ value < 36, ¬ IsControl (digit value) := by decide
  exact each value small

theorem not_isControl_of_mem_writeNumber {bias place number : Nat} {c : Char}
    (member : c ∈ writeNumber bias place number) : ¬ IsControl c := by
  induction number using Nat.strongRecOn generalizing place with
  | ind number inductionHypothesis =>
      have bound := threshold_le place bias
      have positive := threshold_pos place bias
      rw [writeNumber] at member
      split at member
      · rename_i last
        rw [List.mem_singleton.mp member]
        exact not_isControl_digit (by omega)
      · rename_i more
        rcases List.mem_cons.mp member with rfl | later
        · have digits : 0 < 36 - threshold place bias := by omega
          have small := Nat.mod_lt (number - threshold place bias) digits
          exact not_isControl_digit (by omega)
        · have smaller : (number - threshold place bias) / (36 - threshold place bias) < number :=
            Nat.lt_of_le_of_lt (Nat.div_le_self _ _) (by omega)
          exact inductionHypothesis _ smaller later

/-- What a walk has written holds no control character. -/
def Walk.WritesVisibly (walk : Walk) : Prop :=
  ∀ c ∈ walk.written, ¬ IsControl c

theorem Walk.WritesVisibly.passCharacter {walk : Walk} (visible : walk.WritesVisibly)
    (asciiCount code : Nat) (c : Char) : (walk.passCharacter asciiCount code c).WritesVisibly := by
  unfold Walk.passCharacter
  split
  · exact visible
  · split
    · exact List.forall_mem_append.mpr
        ⟨visible, fun _ member => not_isControl_of_mem_writeNumber member⟩
    · exact visible

theorem Walk.WritesVisibly.passCode {walk : Walk} (visible : walk.WritesVisibly) (text : Text)
    (asciiCount code : Nat) : (walk.passCode text asciiCount code).WritesVisibly := by
  have passed : ∀ start : Walk, start.WritesVisibly →
      (text.foldl (Walk.passCharacter asciiCount code) start).WritesVisibly := by
    induction text with
    | nil => exact fun _ start => start
    | cons c text inductionHypothesis =>
        exact fun _ start => inductionHypothesis _ (start.passCharacter asciiCount code c)
  exact passed { walk with steps := walk.steps + (code - walk.code) * (walk.count + 1) } visible

theorem not_isControl_of_mem_written {text : Text} {codes : List Nat} {asciiCount : Nat} {c : Char}
    (member : c ∈ (codes.foldl (Walk.passCode text asciiCount)
      ⟨firstCode, 0, firstBias, asciiCount, []⟩).written) : ¬ IsControl c := by
  have walked : ∀ start : Walk, start.WritesVisibly →
      (codes.foldl (Walk.passCode text asciiCount) start).WritesVisibly := by
    clear member
    induction codes with
    | nil => exact fun _ start => start
    | cons code codes inductionHypothesis =>
        exact fun _ start => inductionHypothesis _ (start.passCode text asciiCount code)
  have start : (⟨firstCode, 0, firstBias, asciiCount, []⟩ : Walk).WritesVisibly := by
    simp [Walk.WritesVisibly]
  exact walked _ start c member

/-- A control character of a text in Punycode is one of the text. -/
theorem mem_of_mem_encode {c : Char} {text : Text} (control : IsControl c)
    (member : c ∈ encode text) : c ∈ text := by
  unfold encode at member
  rcases List.mem_append.mp member with front | written
  · rcases List.mem_append.mp front with ascii | hyphen
    · exact (List.mem_filter.mp ascii).1
    · split at hyphen
      · cases hyphen
      · rw [List.mem_singleton.mp hyphen] at control
        exact absurd control (by decide)
  · exact absurd control (not_isControl_of_mem_written written)

/-- Only characters outside ASCII are inserted. -/
theorem mem_of_mem_insertAll {c : Char} (control : IsControl c) {bias code position : Nat}
    {inserted text decoded : Text} (outside : firstCode ≤ code)
    (found : insertAll bias code position inserted text = some decoded) (member : c ∈ decoded) :
    c ∈ inserted := by
  fun_induction insertAll bias code position inserted text with
  | case1 =>
      cases found
      exact member
  | case2 => cases found
  | case3 bias code position inserted first rest total rest' read count next valid
      inductionHypothesis =>
      have further : firstCode ≤ next := Nat.le_add_right_of_le outside
      rcases List.eq_or_mem_of_mem_insertIdx (inductionHypothesis further found) with rfl | before
      · rw [IsControl, toNat_ofNat_of_isValidChar valid] at control
        rw [firstCode] at further
        omega
      · exact before
  | case4 => cases found

/-- A control character of a text read from Punycode stands in the Punycode. -/
theorem mem_of_mem_decode? {c : Char} {code decoded : Text} (control : IsControl c)
    (found : decode? code = some decoded) (member : c ∈ decoded) : c ∈ code := by
  have front : ∀ {d}, d ∈ (partsOf code).1 → d ∈ code := by
    intro d inside
    unfold partsOf at inside
    split at inside
    · rename_i first rest numbers sides
      obtain ⟨same, -⟩ := Text.splitAtLast_eq_some_iff.mp sides
      rw [same]
      exact List.mem_append_left _ inside
    · cases inside
  exact front (mem_of_mem_insertAll control (Nat.le_refl _) found member)

end Punycode

/-! ## Labels and names -/

section
variable {c : Char} (control : IsControl c)
include control

theorem mem_of_mem_readLabel? {label read : Text} (found : readLabel? label = some read)
    (member : c ∈ read) : c ∈ label := by
  unfold readLabel? at found
  split at found
  · rename_i code opened
    split at found
    · obtain ⟨decoded, -⟩ := Option.filter_eq_some_iff.mp found
      rw [Text.eq_append_of_dropOpening? opened]
      exact List.mem_append_right _ (Punycode.mem_of_mem_decode? control decoded member)
    · cases found
  · split at found
    · cases found
      exact member
    · cases found

theorem mem_of_mem_writeLabel? {label written : Text} (found : writeLabel? label = some written)
    (member : c ∈ written) : c ∈ label := by
  unfold writeLabel? at found
  split at found
  · cases found
    exact member
  · split at found
    · cases found
      rcases List.mem_append.mp member with opening | code
      · exact absurd opening (control.not_mem_of_isVisible (by decide))
      · exact Punycode.mem_of_mem_encode control code
    · cases found

theorem mem_of_mem_asciiForm? {name ascii : Text} (found : asciiForm? name = some ascii)
    (member : c ∈ ascii) : c ∈ name := by
  obtain ⟨mappedName, isMapped, found⟩ := Option.bind_eq_some_iff.mp found
  obtain ⟨labels, read, found⟩ := Option.bind_eq_some_iff.mp found
  split at found
  · obtain ⟨written, writes, rfl⟩ := Option.map_eq_some_iff.mp found
    rcases Text.mem_of_mem_join member with rfl | ⟨piece, inWritten, inPiece⟩
    · exact absurd control (by decide)
    · obtain ⟨label, inLabels, isWritten⟩ := Text.exists_of_mem_mapM writes inWritten
      obtain ⟨source, inName, isRead⟩ := Text.exists_of_mem_mapM read inLabels
      have inLabel := mem_of_mem_writeLabel? control isWritten inPiece
      have inSource := mem_of_mem_readLabel? control isRead inLabel
      have inComposed := Text.mem_of_mem_split inName inSource
      exact mem_of_mem_mapped control isMapped (Text.mem_of_mem_composed control inComposed)
  · cases found

end

/-- The conversion brings no control character into a name. No line of the mapping tables holds
one, and Punycode is written in letters, digits and hyphens. -/
def Conversion.BringsNoControls (conversion : Conversion) : Prop :=
  ∀ name ascii, conversion name = some ascii → ∀ c ∈ ascii, IsControl c → c ∈ name

/-- The conversion at hand brings no control character into a name. -/
theorem asciiForm?_bringsNoControls : Conversion.BringsNoControls asciiForm? :=
  fun _ _ found _ member control => mem_of_mem_asciiForm? control found member

/-- A control character of a name in ASCII form stands in the name. -/
theorem mem_of_mem_toAscii {conversion : Conversion} (brings : conversion.BringsNoControls)
    {c : Char} (control : IsControl c) {name : Text} (member : c ∈ toAscii conversion name) :
    c ∈ name := by
  unfold toAscii at member
  split at member
  · exact member
  · cases form : conversion name with
    | none =>
        rw [form] at member
        exact member
    | some ascii =>
        rw [form] at member
        exact brings name ascii form c member control

end SenderPolicy.Domain
