import SenderPolicy.Proofs.Address.Printing
import SenderPolicy.Proofs.Macro.Characters
import SenderPolicy.Proofs.Text.Trimming

/-!
# Reading text that may hold a literal

A literal holds neither blanks nor slashes, so text denotes an address exactly if it is a literal
of it between blanks. What is kept of a client address is a literal again, of the address that a
mapped one stands for.
-/

namespace SenderPolicy.Address

/-! ## Characters of literals -/

/-- Digits, hexadecimal digits, colons and dots are visible and no slashes. -/
theorem isGraphic_of_addressCharacter {c : Char}
    (fits : (hexValue? c).isSome = true ∨ c = ':' ∨ c = '.') :
    Domain.isGraphic c = true ∧ c ≠ '/' := by
  have ascii : c.toNat < 128 := by
    rcases fits with digit | rfl | rfl
    · unfold hexValue? at digit
      split at digit
      · rename_i isDigit
        simp only [Char.isDigit, Bool.and_eq_true, decide_eq_true_eq] at isDigit
        have bound : c.toNat ≤ 57 := isDigit.2
        omega
      · split at digit
        · rename_i bounds
          have bound : c.toNat ≤ 102 := bounds.2
          omega
        · split at digit
          · rename_i bounds
            have bound : c.toNat ≤ 70 := bounds.2
            omega
          · cases digit
    · decide
    · decide
  have each : ∀ n < 128, (hexValue? (Char.ofNat n)).isSome = true ∨ Char.ofNat n = ':'
        ∨ Char.ofNat n = '.' →
      Domain.isGraphic (Char.ofNat n) = true ∧ Char.ofNat n ≠ '/' := by
    decide
  have here := each c.toNat ascii
  rw [Char.ofNat_toNat] at here
  exact here fits

theorem addressCharacter_apart {c : Char}
    (fits : (hexValue? c).isSome = true ∨ c = ':' ∨ c = '.') :
    isBlank c = false ∧ c ≠ '/' :=
  (isGraphic_of_addressCharacter fits).imp isBlank_of_isGraphic id

theorem characters_of_isLiteral {text : Text} {address : Address}
    (denotes : IsLiteral text address) :
    ∀ c ∈ text, (hexValue? c).isSome = true ∨ c = ':' ∨ c = '.' := by
  intro c member
  unfold IsLiteral at denotes
  cases family : address.family with
  | ip4 =>
      rw [family] at denotes
      rcases denotes.characters member with digit | dot
      · exact .inl (by simp [hexValue?, digit])
      · exact .inr (.inr dot)
  | ip6 =>
      rw [family] at denotes
      exact denotes.characters member

/-- A literal has no blanks and no slashes. -/
theorem apart_of_isLiteral {text : Text} {address : Address}
    (denotes : IsLiteral text address) : ∀ c ∈ text, isBlank c = false ∧ c ≠ '/' :=
  fun c member => addressCharacter_apart (characters_of_isLiteral denotes c member)

/-! ## Literals between blanks -/

theorem trim_of_isLiteral {text : Text} {address : Address} (literal : IsLiteral text address) :
    text.trim = text :=
  Text.trim_of_free fun c member => (apart_of_isLiteral literal c member).1

theorem read?_of_isLiteral {text : Text} {address : Address} (literal : IsLiteral text address) :
    read? text = some address :=
  (read?_eq_some_iff (trim_of_isLiteral literal)).mpr literal

theorem read_eq_ok_iff {text : Text} {address : Address} :
    read text = .ok address ↔ read? text = some address := by
  unfold read
  split
  · rename_i found
    rw [found, Except.ok.injEq, Option.some.injEq]
  · rename_i nothing
    simp [nothing]

/-- The text of an address is read as that address. -/
theorem read?_text (address : Address) : read? address.text = some address :=
  read?_of_isLiteral (isLiteral_text address)

/-- Text that denotes an address is a literal of it between blanks. -/
theorem isLiteral_trim {text : Text} {address : Address} (read : read? text = some address) :
    IsLiteral text.trim address := by
  refine (read?_eq_some_iff text.trim_trim).mp ?_
  rw [read?, Text.trim_trim]
  exact read

/-- An IPv4 address has one literal. -/
theorem IsLiteral.eq_text {text : Text} {address : Address} (literal : IsLiteral text address)
    (family : address.family = .ip4) : text = address.text := by
  rw [IsLiteral, family] at literal
  rw [literal.written, Address.text, family]
  rfl

/-! ## Client addresses -/

/-- The IPv4 address that a mapped address stands for, and any other address itself. -/
def unmapped (address : Address) : Address :=
  address.mapped?.getD address

/-- The text kept of a client address is a literal of the address that it stands for. -/
theorem exists_clientText {text : Text} {client : Address}
    (denotes : (read? text).map unmapped = some client) :
    ∃ kept, clientText? text = some kept ∧ IsLiteral kept client := by
  obtain ⟨address, read, rfl⟩ := Option.map_eq_some_iff.mp denotes
  unfold clientText? unmapped
  rw [read]
  cases mapped : address.mapped? with
  | none => exact ⟨_, by simp [mapped], isLiteral_trim read⟩
  | some inner => exact ⟨_, by simp [mapped], isLiteral_text inner⟩

end SenderPolicy.Address
