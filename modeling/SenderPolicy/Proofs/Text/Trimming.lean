import SenderPolicy.Text.Blank

/-!
# Trimmed text

Trimming takes the blanks from both ends of text and nothing else, so trimmed text has no blank
at its ends, and trimming it again leaves it as it is.
-/

namespace SenderPolicy.Text

theorem dropWhile_of_head? {text : Text} (clear : ∀ c, text.head? = some c → isBlank c = false) :
    text.dropWhile isBlank = text := by
  cases text with
  | nil => rfl
  | cons c rest => simp [clear c rfl]

/-- Text without blanks at its ends is trimmed already. -/
theorem trim_of_ends {text : Text} (first : ∀ c, text.head? = some c → isBlank c = false)
    (last : ∀ c, text.getLast? = some c → isBlank c = false) : text.trim = text := by
  have reversed : ∀ c, text.reverse.head? = some c → isBlank c = false := by
    intro c isFirst
    exact last c (List.head?_reverse ▸ isFirst)
  rw [trim, trimStart, dropWhile_of_head? first, trimEnd, dropEnd, dropWhile_of_head? reversed,
    List.reverse_reverse]

theorem trim_of_free {text : Text} (free : ∀ c ∈ text, isBlank c = false) : text.trim = text :=
  trim_of_ends (fun c first => free c (List.mem_of_head? first))
    fun c last => free c (List.mem_of_getLast? last)

theorem mem_of_mem_trim {text : Text} {c : Char} (member : c ∈ text.trim) : c ∈ text := by
  have dropped : c ∈ text.trimStart := by
    have reversed := List.mem_reverse.mp member
    exact List.mem_reverse.mp ((List.dropWhile_sublist _).subset reversed)
  exact (List.dropWhile_sublist _).subset dropped

/-- The first character of trimmed text is no blank. -/
theorem isBlank_of_head?_trim {text : Text} {c : Char} (first : text.trim.head? = some c) :
    isBlank c = false := by
  obtain ⟨blanks, parts⟩ : text.trim <+: text.trimStart :=
    List.reverse_suffix.mp (by
      rw [trim, trimEnd, dropEnd, List.reverse_reverse]
      exact List.dropWhile_suffix _)
  have leading : text.trimStart.head? = some c := by
    rw [← parts, List.head?_append, first]
    rfl
  have clear := List.head?_dropWhile_not isBlank text
  rw [show text.dropWhile isBlank = text.trimStart from rfl, leading] at clear
  simpa using clear

/-- The last character of trimmed text is no blank. -/
theorem isBlank_of_getLast?_trim {text : Text} {c : Char} (last : text.trim.getLast? = some c) :
    isBlank c = false := by
  rw [trim, trimEnd, dropEnd, List.getLast?_reverse] at last
  have first := List.head?_dropWhile_not isBlank text.trimStart.reverse
  rw [last] at first
  simpa using first

theorem trim_trim (text : Text) : text.trim.trim = text.trim :=
  trim_of_ends (fun _ => isBlank_of_head?_trim) fun _ => isBlank_of_getLast?_trim

end SenderPolicy.Text
