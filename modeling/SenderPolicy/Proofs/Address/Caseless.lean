import SenderPolicy.Address.Literal
import SenderPolicy.Proofs.Domain.Caseless

/-!
# Address literals without their letter case

The letters in an address literal are digits, and denote the same in both cases. So text denotes
the address that its lower-case form does.
-/

namespace SenderPolicy.Address

theorem toNat?_lower (text : Text) : Text.toNat? text.lower = Text.toNat? text := by
  by_cases digits : text.all Char.isDigit = true
  · have same : text.lower = text := by
      refine (List.map_congr_left fun c member => ?_).trans (List.map_id text)
      have digit := List.all_eq_true.mp digits c member
      refine toLower_of_not_isUpper fun upper => ?_
      obtain ⟨n, small, rfl⟩ := exists_of_isUpper upper
      have none : ∀ n < 26, (Char.ofNat (65 + n)).isDigit = false := by decide
      rw [none n small] at digit
      cases digit
    rw [same]
  · have other : ¬ text.lower.all Char.isDigit = true := by
      rwa [Text.all_lower isCaseless_isDigit]
    rw [Text.toNat?, Text.toNat?, if_neg fun both => other both.2, if_neg fun both => digits both.2]

theorem readOctet?_lower (text : Text) : readOctet? text.lower = readOctet? text := by
  have zero : text.lower.head? = some '0' ↔ text.head? = some '0' := by
    rw [Text.head?_lower]
    cases text.head? with
    | none => rfl
    | some c => simp [@toLower_eq_iff '0' (by decide) (by decide)]
  have length : text.lower.length = text.length := List.length_map ..
  simp only [readOctet?, zero, length, toNat?_lower]

theorem readDotted?_lower (text : Text) : readDotted? text.lower = readDotted? text := by
  simp only [readDotted?, Text.split_lower isCaseless_isDot, List.length_map, List.mapM_map,
    Function.comp_def, readOctet?_lower]

theorem readGroup?_lower (text : Text) : readGroup? text.lower = readGroup? text := by
  have value : hexValue? ∘ Char.toLower = hexValue? := funext (isCaseless_of_upper (by decide))
  have length : text.lower.length = text.length := List.length_map ..
  simp only [readGroup?, length]
  simp only [Text.lower, List.mapM_map, value]

theorem readPieces?_lower (pieces : List Text) :
    readPieces? (pieces.map Text.lower) = readPieces? pieces := by
  induction pieces with
  | nil => rfl
  | cons piece pieces inductionHypothesis =>
      cases pieces with
      | nil => simp only [List.map_cons, List.map_nil, readPieces?, readDotted?_lower,
          readGroup?_lower]
      | cons next pieces =>
          simp only [List.map_cons] at inductionHypothesis ⊢
          simp only [readPieces?, readGroup?_lower, inductionHypothesis]

theorem readGroups?_lower (text : Text) : readGroups? text.lower = readGroups? text := by
  have colon : IsCaseless fun c => decide (c = ':') := isCaseless_of_upper (by decide)
  have empty : text.lower = [] ↔ text = [] := List.map_eq_nil_iff
  simp only [readGroups?, empty, Text.split_lower colon, readPieces?_lower]

theorem splitAtGap_lower (text : Text) :
    splitAtGap text.lower = (splitAtGap text).map (Prod.map Text.lower Text.lower) := by
  have isColon := @toLower_eq_iff ':' (by decide) (by decide)
  fun_induction splitAtGap text with
  | case1 => rfl
  | case2 rest => rfl
  | case3 c rest noGap inductionHypothesis =>
      -- A colon before a colon in the lower-case form was one before.
      have noGapLower : ∀ others, c.toLower = ':' → Text.lower rest = ':' :: others → False := by
        intro others first second
        obtain ⟨d, tail, rfl, same, -⟩ := List.map_eq_cons_iff.mp second
        exact noGap tail ((isColon c).mp first) (by rw [(isColon d).mp same])
      rw [Text.lower, List.map_cons, ← Text.lower, splitAtGap.eq_3 _ _ noGapLower,
        inductionHypothesis]
      cases splitAtGap rest <;> rfl

theorem readColons?_lower (text : Text) : readColons? text.lower = readColons? text := by
  unfold readColons?
  rw [splitAtGap_lower]
  cases splitAtGap text with
  | none => simp only [Option.map_none, readGroups?_lower]
  | some sides =>
      have dotted : (sides.1.lower.contains '.') = sides.1.contains '.' := by
        rw [Bool.eq_iff_iff, List.contains_iff_mem, List.contains_iff_mem]
        exact Text.mem_lower_iff (by decide) (by decide)
      simp only [Option.map_some, Prod.map, dotted, readGroups?_lower]

/-- Text denotes the address that its lower-case form denotes. -/
theorem read?_lower (text : Text) : read? text.lower = read? text := by
  simp only [read?, Text.trim_lower, readDotted?_lower, readColons?_lower]

end SenderPolicy.Address
