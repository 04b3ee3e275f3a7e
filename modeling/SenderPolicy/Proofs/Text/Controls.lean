import SenderPolicy.Domain.Name
import SenderPolicy.Text.CodeTable

/-!
# Control characters

A control character, a code point below U+0020, can end a line or a field of a protocol. Most of
what is done with text brings none in that was not there before. This module says so of single
characters, and how it is read off a table of code points.
-/

namespace SenderPolicy

/-- A character of the first two rows of code points: line ends, tabs and the like. -/
def IsControl (c : Char) : Prop :=
  c.toNat < 0x20

instance (c : Char) : Decidable (IsControl c) :=
  inferInstanceAs (Decidable (_ < _))

/-- Where every character is visible there is no control character. -/
theorem IsControl.not_mem {c : Char} (control : IsControl c) {text : Text}
    (visible : ∀ d ∈ text, ¬ IsControl d) : c ∉ text :=
  fun member => visible c member control

/-- No character is a control character. -/
def Text.isVisible (text : Text) : Bool :=
  text.all fun c => 0x20 ≤ c.toNat

theorem IsControl.not_mem_of_isVisible {c : Char} (control : IsControl c) {text : Text}
    (visible : text.isVisible = true) : c ∉ text :=
  control.not_mem fun _ member =>
    Nat.not_lt.mpr (of_decide_eq_true (List.all_eq_true.mp visible _ member))

/-- The codes of a row are those of no control characters. -/
def areVisible (codes : List Nat) : Bool :=
  codes.all fun code => 0x20 ≤ code

theorem toNat_ofNat_of_isValidChar {code : Nat} (valid : code.isValidChar) :
    (Char.ofNat code).toNat = code := by
  rw [Char.ofNat, dif_pos valid]
  rfl

/-- A code that is not that of a control character gives none. -/
theorem not_isControl_charOfCode {code : Nat} (visible : 0x20 ≤ code) :
    ¬ IsControl (charOfCode code) := by
  unfold charOfCode
  split
  · rename_i valid
    rw [IsControl, toNat_ofNat_of_isValidChar valid]
    omega
  · decide

theorem not_isControl_of_areVisible {codes : List Nat} (visible : areVisible codes = true) :
    ∀ c ∈ codes.map charOfCode, ¬ IsControl c := by
  intro c member
  obtain ⟨code, inside, rfl⟩ := List.mem_map.mp member
  exact not_isControl_charOfCode (of_decide_eq_true (List.all_eq_true.mp visible code inside))

theorem not_isControl_of_isGraphic {c : Char} (graphic : Domain.isGraphic c = true) :
    ¬ IsControl c := by
  simp only [Domain.isGraphic, Bool.and_eq_true, decide_eq_true_eq] at graphic
  rw [IsControl]
  omega

/-- A property of all rows that the characters of a text spell is one of the table that the text
is written for. -/
theorem forall_mem_hexRows {property : List Nat → Bool} {characters : List Char}
    (each : ((Text.split (· = ',') characters).map hexNumbers).all property = true) :
    ∀ row ∈ hexRows (String.ofList characters), property row = true := by
  rw [hexRows, String.toList_ofList]
  exact List.all_eq_true.mp each

/-- A property of the rows of each line is one of all rows. -/
theorem forall_mem_lines {property : List Nat → Bool} {lines : List String}
    (each : ∀ line ∈ lines, ∀ row ∈ hexRows line, property row = true) :
    ∀ row ∈ lines.flatMap hexRows, property row = true := by
  intro row member
  obtain ⟨line, inTable, inLine⟩ := List.mem_flatMap.mp member
  exact each line inTable row inLine

end SenderPolicy
