import SenderPolicy.Proofs.Text.LetterCase
import SenderPolicy.Proofs.Text.Percent
import SenderPolicy.Proofs.Text.Splitting
import SenderPolicy.Text.Blank

/-!
# Text without its letter case

What is done with text on account of marks, digits or blanks can be done with its lower-case form
as well, and gives the lower-case form of what it gave before. So texts that differ in letter case
only are split, cut and encoded alike.
-/

namespace SenderPolicy

/-- What is asked of characters does not tell a letter from its lower-case form. -/
def IsCaseless {α : Type} (f : Char → α) : Prop :=
  ∀ c : Char, f c.toLower = f c

/-- Only the upper-case letters have to be looked at. -/
theorem isCaseless_of_upper {α : Type} {f : Char → α}
    (each : ∀ n < 26, f (Char.ofNat (65 + n)).toLower = f (Char.ofNat (65 + n))) :
    IsCaseless f := by
  intro c
  by_cases upper : c.isUpper = true
  · obtain ⟨n, small, rfl⟩ := exists_of_isUpper upper
    exact each n small
  · rw [toLower_of_not_isUpper upper]

theorem isCaseless_isBlank : IsCaseless isBlank :=
  isCaseless_of_upper (by decide)

theorem isCaseless_isDigit : IsCaseless Char.isDigit :=
  isCaseless_of_upper (by decide)

theorem isCaseless_isDot : IsCaseless fun c => decide (c = '.') :=
  isCaseless_of_upper (by decide)

/-- A character that is no letter is told apart from all others. -/
theorem toLower_eq_iff {mark : Char} (noLetter : mark.toLower = mark)
    (notLower : mark.isLower = false) (c : Char) : c.toLower = mark ↔ c = mark :=
  ⟨fun same => eq_of_toLower same notLower, fun same => same ▸ noLetter⟩

namespace Text

theorem lower_lower (text : Text) : text.lower.lower = text.lower := by
  have twice : IsCaseless Char.toLower := isCaseless_of_upper (by decide)
  rw [lower, lower, List.map_map]
  exact List.map_congr_left fun c _ => twice c

theorem lower_flatMap (code : Char → Text) (text : Text) :
    lower (text.flatMap code) = text.flatMap fun c => (code c).lower :=
  List.map_flatMap ..

/-! ## Searching and cutting -/

section
variable {property : Char → Bool} (caseless : IsCaseless property)
include caseless

theorem lower_dropWhile (text : Text) :
    lower (text.dropWhile property) = text.lower.dropWhile property := by
  have same : property ∘ Char.toLower = property := funext caseless
  rw [lower, lower, List.dropWhile_map, same]

theorem lower_dropEnd (text : Text) :
    (text.dropEnd property).lower = text.lower.dropEnd property := by
  have dropped : (text.reverse.dropWhile property).map Char.toLower
      = (text.reverse.map Char.toLower).dropWhile property := lower_dropWhile caseless text.reverse
  rw [dropEnd, dropEnd, lower, lower, List.map_reverse, dropped, List.map_reverse]

theorem all_lower (text : Text) : text.lower.all property = text.all property := by
  have same : property ∘ Char.toLower = property := funext caseless
  rw [lower, List.all_map, same]

theorem any_lower (text : Text) : text.lower.any property = text.any property := by
  have same : property ∘ Char.toLower = property := funext caseless
  rw [lower, List.any_map, same]

theorem split_lower (text : Text) :
    split property text.lower = (split property text).map lower := by
  induction text with
  | nil => rfl
  | cons c rest inductionHypothesis =>
      have later : split property (rest.map Char.toLower) = (split property rest).map lower :=
        inductionHypothesis
      simp only [lower, List.map_cons, split, caseless c, later]
      split
      · rfl
      · cases split property rest <;> rfl

end

theorem isAscii_lower (text : Text) : text.lower.isAscii = text.isAscii :=
  all_lower (isCaseless_of_upper (by decide)) text

theorem trim_lower (text : Text) : text.lower.trim = text.trim.lower := by
  simp only [trim, trimStart, trimEnd, lower_dropEnd isCaseless_isBlank,
    lower_dropWhile isCaseless_isBlank]

theorem lower_join (pieces : List Text) :
    (join ['.'] pieces).lower = join ['.'] (pieces.map lower) := by
  cases pieces with
  | nil => rfl
  | cons piece pieces =>
      rw [join_cons, List.map_cons, join_cons]
      simp only [lower, List.map_append, List.map_flatMap, List.flatMap_map]
      rfl

theorem head?_lower (text : Text) : text.lower.head? = text.head?.map Char.toLower :=
  List.head?_map ..

theorem getLast?_lower (text : Text) : text.lower.getLast? = text.getLast?.map Char.toLower :=
  List.getLast?_map ..

theorem byteLength_lower (text : Text) : text.lower.byteLength = text.byteLength := by
  have size : IsCaseless Char.utf8Size := isCaseless_of_upper (by decide)
  induction text with
  | nil => rfl
  | cons c rest inductionHypothesis =>
      have later : byteLength (rest.map Char.toLower) = byteLength rest := inductionHypothesis
      simp only [lower, List.map_cons, byteLength, size c, later]

section
variable {mark : Char} (noLetter : mark.toLower = mark) (notLower : mark.isLower = false)
include noLetter notLower

theorem splitAtFirst_lower (text : Text) :
    splitAtFirst mark text.lower = (splitAtFirst mark text).map (Prod.map lower lower) := by
  induction text with
  | nil => rfl
  | cons c rest inductionHypothesis =>
      have later : splitAtFirst mark (rest.map Char.toLower)
          = (splitAtFirst mark rest).map (Prod.map lower lower) := inductionHypothesis
      simp only [lower, List.map_cons, splitAtFirst, toLower_eq_iff noLetter notLower, later]
      split
      · rfl
      · cases splitAtFirst mark rest <;> rfl

end

/-! ## Encoding -/

theorem percentEncode_lower (text : Text) :
    text.lower.percentEncode.lower = text.percentEncode.lower := by
  have each : IsCaseless fun c => (percentChar c).lower := isCaseless_of_upper (by decide)
  calc text.lower.percentEncode.lower
      = text.flatMap fun c => (percentChar c.toLower).lower := by
        rw [percentEncode, lower_flatMap, lower, List.flatMap_map]
    _ = text.percentEncode.lower := by
        rw [percentEncode, lower_flatMap]
        exact congrArg text.flatMap (funext each)

end Text

end SenderPolicy
