import Mathlib.Algebra.GroupWithZero.Nat
import SenderPolicy.Proofs.Macro.Expansion
import SenderPolicy.Proofs.Text.Percent

/-!
# Cells in upper case

An upper-case symbol asks for percent encoding. The value is encoded before it is split, so a
delimiter that encoding changes separates no parts any more: what comes of the cell is the
encoding of what its lower-case form comes to exactly if no such delimiter stands beside a part
that is kept. In all else the two cells agree.

Whether encoding and rearranging may change places is a matter of lengths. Every delimiter beside
a kept part is one dot in the text, or none, and a hidden one is three characters at least.
-/

namespace SenderPolicy.Macro

/-! ## Parts of coded text -/

theorem Parts.ne_nil {delimiters text : Text} {parts : List Text}
    (separated : Parts delimiters text parts) : parts ≠ [] := by
  cases separated <;> exact List.cons_ne_nil _ _

/-- Text without delimiters belongs to the first part of what follows it. -/
theorem Parts.append_free {delimiters front text part : Text} {parts : List Text}
    (free : ∀ c ∈ front, c ∉ delimiters) (separated : Parts delimiters text (part :: parts)) :
    Parts delimiters (front ++ text) ((front ++ part) :: parts) := by
  cases separated with
  | last apart => exact .last (List.forall_mem_append.mpr ⟨free, apart⟩)
  | cons apart separates later =>
      rw [← List.append_assoc]
      exact .cons (List.forall_mem_append.mpr ⟨free, apart⟩) separates later

theorem Parts.append_last {delimiters text last : Text} {mark : Char} {parts : List Text}
    (separated : Parts delimiters text parts) (separates : mark ∈ delimiters)
    (free : ∀ c ∈ last, c ∉ delimiters) :
    Parts delimiters (text ++ mark :: last) (parts ++ [last]) := by
  induction separated with
  | last apart => exact .cons apart separates (.last free)
  | cons apart others _ inductionHypothesis =>
      rw [List.append_assoc]
      exact .cons apart others inductionHypothesis

/-- Text read backwards has its parts in the opposite order, each read backwards. -/
theorem Parts.reverse {delimiters text : Text} {parts : List Text}
    (separated : Parts delimiters text parts) :
    Parts delimiters text.reverse (parts.map List.reverse).reverse := by
  induction separated with
  | last free => exact .last fun c member => free c (List.mem_reverse.mp member)
  | cons free separates _ inductionHypothesis =>
      have backwards := inductionHypothesis.append_last separates
        fun c member => free c (List.mem_reverse.mp member)
      simpa using backwards

/-- The number of characters of parts with a mark after each. -/
def weight (parts : List Text) : Nat :=
  (parts.map fun part => part.length + 1).sum

@[simp]
theorem weight_nil : weight [] = 0 := rfl

@[simp]
theorem weight_cons (part : Text) (parts : List Text) :
    weight (part :: parts) = part.length + 1 + weight parts := by
  simp [weight]

theorem weight_reverse (parts : List Text) : weight parts.reverse = weight parts := by
  simp [weight, List.sum_reverse]

theorem weight_map_reverse (parts : List Text) :
    weight (parts.map List.reverse) = weight parts := by
  simp [weight, Function.comp_def]

theorem length_join {parts : List Text} (some : parts ≠ []) :
    (Text.join ['.'] parts).length + 1 = weight parts := by
  cases parts with
  | nil => contradiction
  | cons part parts =>
      have others : (parts.flatMap (['.'] ++ ·)).length = weight parts := by
        simp [weight, List.length_flatMap]
      rw [Text.join_cons, List.length_append, others, weight_cons]
      omega

theorem weight_take_succ_le (parts : List Text) (count : Nat) :
    weight (parts.take count) ≤ weight (parts.take (count + 1)) := by
  induction parts generalizing count with
  | nil => simp
  | cons part parts inductionHypothesis =>
      cases count with
      | zero => simp
      | succ count => simpa using inductionHypothesis count

/-- A coding of characters that brings no new delimiters. One that was there is kept, or it is
hidden behind characters that are none. -/
structure Coding (delimiters : Text) (code : Char → Text) : Prop where
  part : ∀ c ∉ delimiters, ∀ d ∈ code c, d ∉ delimiters
  delimiter : ∀ c ∈ delimiters,
    code c = [c] ∨ 2 ≤ (code c).length ∧ ∀ d ∈ code c, d ∉ delimiters

/-- What becomes of parts along some marks: if all of these are kept the parts are those that are
expected, and otherwise they are longer. -/
structure CodedAlong (code : Char → Text) (marks : Text) (expected coded : List Text) : Prop where
  kept : (∀ c ∈ marks, code c = [c]) → coded = expected
  hidden : (∃ c ∈ marks, code c ≠ [c]) → weight expected < weight coded

namespace CodedAlong

variable {code : Char → Text} {marks : Text} {expected coded : List Text}

theorem nil : CodedAlong code [] [] [] :=
  ⟨fun _ => rfl, nofun⟩

theorem weight_le (along : CodedAlong code marks expected coded) :
    weight expected ≤ weight coded := by
  by_cases kept : ∀ c ∈ marks, code c = [c]
  · exact Nat.le_of_eq (congrArg weight (along.kept kept).symm)
  · simp only [Classical.not_forall, exists_prop] at kept
    exact Nat.le_of_lt (along.hidden kept)

/-- A further part before a mark that is kept. -/
theorem cons (along : CodedAlong code marks expected coded) {mark : Char}
    (kept : code mark = [mark]) (part : Text) :
    CodedAlong code (mark :: marks) (part :: expected) (part :: coded) := by
  refine ⟨fun allKept => ?_, ?_⟩
  · rw [along.kept fun c member => allKept c (List.mem_cons_of_mem _ member)]
  · rintro ⟨c, member, changed⟩
    rcases List.mem_cons.mp member with rfl | inside
    · exact absurd kept changed
    · simpa using along.hidden ⟨c, inside, changed⟩

end CodedAlong

section
variable {delimiters : Text} {code : Char → Text} (coding : Coding delimiters code)
include coding

theorem Coding.reverse : Coding delimiters fun c => (code c).reverse where
  part c other d member := coding.part c other d (List.mem_reverse.mp member)
  delimiter c member := by
    rcases coding.delimiter c member with kept | ⟨long, free⟩
    · exact .inl (by rw [kept]; rfl)
    · exact .inr ⟨by rwa [List.length_reverse], fun d inside =>
        free d (List.mem_reverse.mp inside)⟩

theorem Coding.free {part : Text} (free : ∀ c ∈ part, c ∉ delimiters) :
    ∀ c ∈ part.flatMap code, c ∉ delimiters := by
  intro c member
  obtain ⟨d, inside, coded⟩ := List.mem_flatMap.mp member
  exact coding.part d (free d inside) c coded

/-- The first parts of a coded text are the first parts coded, along the delimiters after them. -/
theorem Coding.first_parts {text : Text} {parts : List Text}
    (separated : Parts delimiters text parts) :
    ∃ coded, Parts delimiters (text.flatMap code) coded ∧ coded.length ≤ parts.length
      ∧ ∀ count, CodedAlong code ((text.filter delimiters.contains).take count)
          ((parts.map (List.flatMap code)).take count) (coded.take count) := by
  induction separated with
  | @last part free =>
      have nothing : part.filter delimiters.contains = [] :=
        List.filter_eq_nil_iff.mpr fun c member => by simpa using free c member
      refine ⟨[part.flatMap code], .last (coding.free free), Nat.le_refl _, fun count => ?_⟩
      exact ⟨fun _ => rfl, fun ⟨_, member, _⟩ => by simp [nothing] at member⟩
  | @cons part mark rest parts free separates later inductionHypothesis =>
      obtain ⟨coded, codedParts, fewer, along⟩ := inductionHypothesis
      have found : (part ++ mark :: rest).filter delimiters.contains
          = mark :: rest.filter delimiters.contains := by
        have nothing : part.filter delimiters.contains = [] :=
          List.filter_eq_nil_iff.mpr fun c member => by simpa using free c member
        simp [nothing, separates]
      have codedText : (part ++ mark :: rest).flatMap code
          = part.flatMap code ++ (code mark ++ rest.flatMap code) := by
        simp
      rw [codedText, found]
      rcases coding.delimiter mark separates with kept | ⟨long, hidden⟩
      · refine ⟨part.flatMap code :: coded, ?_, Nat.succ_le_succ fewer, fun count => ?_⟩
        · rw [kept]
          exact .cons (coding.free free) separates codedParts
        · cases count with
          | zero => exact .nil
          | succ count => exact (along count).cons kept _
      · cases coded with
        | nil => exact absurd rfl codedParts.ne_nil
        | cons first coded =>
            refine ⟨(part.flatMap code ++ (code mark ++ first)) :: coded,
              (codedParts.append_free hidden).append_free (coding.free free),
              Nat.le_succ_of_le fewer, fun count => ?_⟩
            cases count with
            | zero => exact .nil
            | succ count =>
                -- The hidden mark alone makes up for the one character after its part.
                have least := (along count).weight_le
                have further := weight_take_succ_le (first :: coded) count
                have more : weight (((part :: parts).map (List.flatMap code)).take (count + 1))
                    < weight (((part.flatMap code ++ (code mark ++ first)) :: coded).take
                        (count + 1)) := by
                  simp only [List.map_cons, List.take_succ_cons, weight_cons,
                    List.length_append] at least further ⊢
                  omega
                refine ⟨fun allKept => ?_, fun _ => more⟩
                rw [allKept mark (by simp)] at long
                cases Nat.not_succ_le_self 1 long

/-- The same of the last parts, along the delimiters before them. -/
theorem Coding.last_parts {text : Text} {parts : List Text}
    (separated : Parts delimiters text parts) :
    ∃ coded, Parts delimiters (text.flatMap code) coded ∧ coded.length ≤ parts.length
      ∧ ∀ count, CodedAlong code ((text.filter delimiters.contains).reverse.take count)
          ((parts.map (List.flatMap code)).reverse.take count) (coded.reverse.take count) := by
  obtain ⟨coded, codedParts, fewer, along⟩ := coding.reverse.first_parts separated.reverse
  have backwards : (text.reverse.flatMap fun c => (code c).reverse) = (text.flatMap code).reverse :=
    (List.reverse_flatMap ..).symm
  rw [backwards] at codedParts
  have forwards := codedParts.reverse
  rw [List.reverse_reverse] at forwards
  have expected : (parts.map List.reverse).reverse.map (List.flatMap fun c => (code c).reverse)
      = (parts.map (List.flatMap code)).reverse.map List.reverse := by
    simp [List.map_reverse, Function.comp_def, List.reverse_flatMap]
  refine ⟨_, forwards, by simpa using fewer, fun count => ?_⟩
  obtain ⟨same, more⟩ := along count
  rw [expected, ← List.map_take, List.filter_reverse] at same more
  rw [List.reverse_reverse, ← List.map_take]
  refine ⟨fun kept => ?_, fun ⟨c, member, changed⟩ => ?_⟩
  · have coded := same fun c member => congrArg List.reverse (kept c member)
    have twice : (List.reverse ∘ List.reverse : Text → Text) = id := funext List.reverse_reverse
    rw [coded, List.map_map, twice, List.map_id]
  · rw [weight_map_reverse] at more ⊢
    exact more ⟨c, member, fun kept => changed (List.reverse_eq_iff.mp kept)⟩

end

/-! ## Transformers -/

namespace Transformer

/-- The first elements of a list, all of them if there is no number. -/
def keepFirst {α : Type} (count : Option Nat) (elements : List α) : List α :=
  match count with
  | none => elements
  | some count => elements.take count

theorem keepLast_eq (count : Option Nat) (parts : List Text) :
    keepLast count parts = (keepFirst count parts.reverse).reverse := by
  cases count with
  | none => simp [keepLast, keepFirst]
  | some count => simp [keepLast, keepFirst, List.take_reverse]

/-- Without a number, one that is large enough serves. -/
theorem exists_keepFirst (count : Option Nat) (bound : Nat) :
    ∃ first, ∀ {α : Type} (elements : List α), elements.length ≤ bound →
      keepFirst count elements = elements.take first := by
  cases count with
  | none => exact ⟨bound, fun elements within => (List.take_of_length_le within).symm⟩
  | some count => exact ⟨count, fun elements _ => rfl⟩

/-- The characters at which a value is split. -/
def separators (transformer : Transformer) : Text :=
  if transformer.delimiters = [] then ['.'] else transformer.delimiters

/-- The parts of a value in the order opposite to that in which they are kept. -/
def fromEnd {α : Type} (transformer : Transformer) (elements : List α) : List α :=
  if transformer.reversed then elements else elements.reverse

@[simp]
theorem length_fromEnd {α : Type} (transformer : Transformer) (elements : List α) :
    (transformer.fromEnd elements).length = elements.length := by
  unfold fromEnd
  split <;> simp

/-- The separators of a value that stand beside a part that is kept. -/
def keptSeparators (transformer : Transformer) (value : Text) : Text :=
  keepFirst transformer.keep
    (transformer.fromEnd (value.filter transformer.separators.contains))

/-- The parts of a value that are kept, the last one first. -/
def keptParts (transformer : Transformer) (value : Text) : List Text :=
  keepFirst transformer.keep
    (transformer.fromEnd (value.split transformer.separators.contains))

theorem apply_eq (transformer : Transformer) (value : Text) :
    transformer.apply value
      = if transformer.isTrivial then value
        else Text.join ['.'] (transformer.keptParts value).reverse := by
  unfold apply
  congr 1
  simp only [keepLast_eq, keptParts, fromEnd, separators]
  cases transformer.reversed <;> simp

section
variable (transformer : Transformer)

theorem mem_of_mem_keptSeparators {value : Text} {c : Char}
    (member : c ∈ transformer.keptSeparators value) : c ∈ transformer.separators := by
  have found : c ∈ transformer.fromEnd (value.filter transformer.separators.contains) := by
    unfold keptSeparators keepFirst at member
    split at member
    · exact member
    · exact List.mem_of_mem_take member
  have inside : c ∈ value.filter transformer.separators.contains := by
    unfold fromEnd at found
    split at found
    · exact found
    · exact List.mem_reverse.mp found
  exact List.contains_iff_mem.mp (List.mem_filter.mp inside).2

/-- Beside a kept separator there is a kept part. -/
theorem keptParts_ne_nil {value : Text} {c : Char}
    (member : c ∈ transformer.keptSeparators value) : transformer.keptParts value ≠ [] := by
  have some : transformer.fromEnd (value.split transformer.separators.contains) ≠ [] := by
    unfold fromEnd
    split <;> simp [Text.split_ne_nil]
  simp only [keptSeparators, keptParts] at member ⊢
  generalize transformer.keep = keep at member ⊢
  cases keep with
  | none => exact some
  | some count =>
      cases count with
      | zero => simp [keepFirst] at member
      | succ count => simpa [keepFirst] using some

/-- The kept parts of a coded value are the kept parts coded, along the separators beside them. -/
theorem keptParts_flatMap {code : Char → Text} (coding : Coding transformer.separators code)
    (value : Text) :
    CodedAlong code (transformer.keptSeparators value)
      ((transformer.keptParts value).map (List.flatMap code))
      (transformer.keptParts (value.flatMap code)) := by
  have separated := parts_split transformer.separators value
  obtain ⟨coded, codedParts, fewer, along⟩ : ∃ coded,
      Parts transformer.separators (value.flatMap code) coded
        ∧ coded.length ≤ (value.split transformer.separators.contains).length
        ∧ ∀ count, CodedAlong code
          ((transformer.fromEnd (value.filter transformer.separators.contains)).take count)
          (((transformer.fromEnd (value.split transformer.separators.contains)).take count).map
            (List.flatMap code))
          ((transformer.fromEnd coded).take count) := by
    unfold fromEnd
    cases transformer.reversed with
    | true => simpa using coding.first_parts separated
    | false => simpa using coding.last_parts separated
  obtain ⟨count, first⟩ := exists_keepFirst transformer.keep
    (value.length + (value.split transformer.separators.contains).length)
  have marks := List.length_filter_le transformer.separators.contains value
  unfold keptSeparators keptParts
  rw [codedParts.split_eq, first, first, first]
  · exact along count
  all_goals rw [length_fromEnd]; omega

end

/-- Percent encoding brings no delimiters: it writes percent signs and hexadecimal digits. -/
theorem coding_percentChar {delimiters : Text} (areDelimiters : ∀ c ∈ delimiters, isDelimiter c) :
    Coding delimiters Text.percentChar := by
  have apart : ∀ {c d : Char}, Text.isUnreserved c = false → d ∈ Text.percentChar c →
      d ∉ delimiters := by
    intro c d reserved member delimiter
    have isDelimiter := areDelimiters d delimiter
    rcases Text.isHexDigit_of_mem_percentChar reserved member with rfl | digit
    · cases isDelimiter
    · have each : "0123456789ABCDEF".toList.all (fun c => !Macro.isDelimiter c) = true := by decide
      have other := List.all_eq_true.mp each d (List.contains_iff_mem.mp digit)
      simp [isDelimiter] at other
  constructor
  · intro c other d member
    cases reserved : Text.isUnreserved c with
    | true =>
        rw [Text.percentChar_of_isUnreserved reserved, List.mem_singleton] at member
        exact member ▸ other
    | false => exact apart reserved member
  · intro c _
    cases reserved : Text.isUnreserved c with
    | true => exact .inl (Text.percentChar_of_isUnreserved reserved)
    | false =>
        have long := Text.length_percentChar reserved
        exact .inr ⟨by omega, fun d member => apart reserved member⟩

theorem percentChar_eq_iff {c : Char} : Text.percentChar c = [c] ↔ Text.isUnreserved c = true := by
  refine ⟨fun same => ?_, Text.percentChar_of_isUnreserved⟩
  cases reserved : Text.isUnreserved c with
  | true => rfl
  | false =>
      have long := Text.length_percentChar reserved
      rw [same] at long
      simp at long

/-- Encoding a value and rearranging it change places exactly if no separator beside a kept part
is reserved in URLs. -/
theorem apply_percentEncode (transformer : Transformer)
    (areDelimiters : ∀ c ∈ transformer.delimiters, isDelimiter c) (value : Text) :
    transformer.apply value.percentEncode = (transformer.apply value).percentEncode
      ↔ ∀ c ∈ transformer.keptSeparators value, Text.isUnreserved c := by
  have separators : ∀ c ∈ transformer.separators, isDelimiter c := by
    unfold Transformer.separators
    split
    · exact List.forall_mem_singleton.mpr rfl
    · exact areDelimiters
  have along := transformer.keptParts_flatMap (coding_percentChar separators) value
  simp only [apply_eq]
  split
  · rename_i nothing
    have dots : transformer.separators = ['.'] := by
      simp only [isTrivial, Bool.and_eq_true, decide_eq_true_eq] at nothing
      exact if_pos nothing.2
    have each : ∀ c ∈ transformer.keptSeparators value, Text.isUnreserved c := by
      intro c member
      have found := transformer.mem_of_mem_keptSeparators member
      rw [dots, List.mem_singleton] at found
      exact found ▸ rfl
    exact iff_of_true rfl each
  · rw [Text.percentEncode_join, List.map_reverse]
    constructor
    · intro same c member
      cases reserved : Text.isUnreserved c with
      | true => rfl
      | false =>
          have changed : Text.percentChar c ≠ [c] := fun kept => by
            rw [percentChar_eq_iff.mp kept] at reserved
            cases reserved
          have longer := along.hidden ⟨c, member, changed⟩
          have expectedSome := transformer.keptParts_ne_nil member
          have codedSome : transformer.keptParts (value.flatMap Text.percentChar) ≠ [] := by
            intro nothing
            rw [nothing] at longer
            cases longer
          have expectedLength :
              (Text.join ['.']
                  ((transformer.keptParts value).map Text.percentEncode).reverse).length
                + 1 = weight ((transformer.keptParts value).map Text.percentEncode) := by
            rw [length_join (by simpa), weight_reverse]
          have codedLength :
              (Text.join ['.'] (transformer.keptParts value.percentEncode).reverse).length + 1
                = weight (transformer.keptParts value.percentEncode) := by
            rw [length_join (by simpa), weight_reverse]
          rw [same, expectedLength] at codedLength
          exact absurd codedLength (Nat.ne_of_lt longer)
    · intro unreserved
      have kept := along.kept fun c member => percentChar_eq_iff.mpr (unreserved c member)
      exact congrArg (fun parts => Text.join ['.'] parts.reverse) kept

end Transformer

/-! ## Written cells -/

section
variable (localNames : List Text) (mode : Mode) (values : Values)

/-- A text that is one cell stands for what the cell stands for. -/
theorem expandString_text {found : Cell} (plain : Token.IsPlain (.cell found)) :
    expandString localNames mode values (Token.text (.cell found))
      = expandCell localNames mode values found := by
  have scanned : scan (Token.text (.cell found)) = ([.cell found], []) := by
    simpa [textOf] using scan_textOf (List.forall_mem_singleton.mpr plain : ArePlain [.cell found])
  simp only [expandString, scanned, expandTokens, expandToken]
  cases expandCell localNames mode values found with
  | error obstacle => rfl
  | ok text => simp [Except.map]

/-- The obstacles of a cell do not depend on the case of its letter, up to the letter itself in
the wording. Nor does anything else but the encoding of the value. -/
theorem expandCell_encoded (letter : Letter) (transformers : Text) :
    let plain := expandCell localNames mode values ⟨letter, false, transformers⟩
    let encoded := expandCell localNames mode values ⟨letter, true, transformers⟩
    (∃ failure other, plain = .error (.failure failure) ∧ encoded = .error (.failure other)
        ∧ other.code = failure.code)
      ∨ plain = .error .clientDomainUnknown ∧ encoded = .error .clientDomainUnknown
      ∨ ∃ value transformer, values.value? localNames letter = some value
        ∧ Transformer.read transformers = .ok transformer
        ∧ plain = .ok (transformer.apply value)
        ∧ encoded = .ok (transformer.apply value.percentEncode) := by
  simp only [expandCell_eq]
  by_cases allowed : mode.allows letter = true
  · rw [if_pos allowed, if_pos allowed]
    cases values.value? localNames letter with
    | none => exact .inr (.inl ⟨rfl, rfl⟩)
    | some value =>
        cases Transformer.read transformers with
        | error failure => exact .inl ⟨failure, failure, rfl, rfl, rfl⟩
        | ok transformer => exact .inr (.inr ⟨value, transformer, rfl, rfl, rfl, rfl⟩)
  · rw [if_neg allowed, if_neg allowed]
    exact .inl ⟨_, _, rfl, rfl, rfl⟩

end

namespace WrittenCell

/-- The cell with its symbol in upper case. -/
def upper (cell : WrittenCell) : WrittenCell :=
  { cell with symbol := cell.symbol.toUpper }

/-- The cells of the syntax for both cases of a symbol differ in nothing else. -/
theorem exists_writes_upper {cell : WrittenCell} (wellFormed : cell.IsWellFormed)
    (lower : cell.symbol.toLower = cell.symbol) :
    ∃ letter, cell.Writes ⟨letter, false, cell.transformers⟩
      ∧ cell.upper.Writes ⟨letter, true, cell.transformers⟩ ∧ cell.upper.IsWellFormed := by
  obtain ⟨found, writes⟩ := exists_writes wellFormed
  have symbol : cell.symbol = found.letter.symbol := (writes.symbol.trans lower).symm
  have notUpper := (ofSymbol?_mark found.letter false).2
  have isUpper := (ofSymbol?_mark found.letter true).2
  have back : cell.symbol.toUpper.toLower = cell.symbol := by
    rw [symbol]
    cases found.letter <;> decide
  simp only [Bool.false_eq_true, if_false, if_true, ← symbol] at notUpper isUpper
  refine ⟨found.letter, ⟨writes.symbol, notUpper.symm, rfl⟩, ⟨?_, isUpper.symm, rfl⟩,
    ⟨?_, wellFormed.digits, wellFormed.delimiters⟩⟩
  · exact symbol.symm.trans back.symm
  · exact back.trans lower.symm ▸ wellFormed.symbol

end WrittenCell

/-- A cell with its symbol in upper case fails, and waits for the client's domain, when the same
cell with the symbol in lower case does. Its text is the encoding of the other's text exactly if
no separator beside a kept part is reserved in URLs, for the value is encoded and then split. -/
theorem expandString_upper {cell : WrittenCell} (wellFormed : cell.IsWellFormed)
    (lower : cell.symbol.toLower = cell.symbol) (localNames : List Text) (mode : Mode)
    (values : Values) :
    let plain := readingOf (expandString localNames mode values cell.text)
    let encoded := readingOf (expandString localNames mode values cell.upper.text)
    (∀ code, plain = .failed code ↔ encoded = .failed code)
      ∧ (plain = .clientUnknown ↔ encoded = .clientUnknown)
      ∧ ∀ text, plain = .text text → ∃ value transformer,
        symbolValue? localNames values cell.symbol = some value
          ∧ Transformer.read cell.transformers = .ok transformer
          ∧ text = transformer.apply value
          ∧ encoded = .text (transformer.apply value.percentEncode)
          ∧ (encoded = .text text.percentEncode
            ↔ ∀ c ∈ transformer.keptSeparators value, Text.isUnreserved c) := by
  obtain ⟨letter, writes, writesUpper, upperWellFormed⟩ :=
    WrittenCell.exists_writes_upper wellFormed lower
  intro plain encoded
  have plainCell :
      plain = readingOf (expandCell localNames mode values ⟨letter, false, cell.transformers⟩) := by
    rw [← expandString_text localNames mode values (writes.isPlain wellFormed), writes.text_eq]
  have encodedCell : encoded
      = readingOf (expandCell localNames mode values ⟨letter, true, cell.transformers⟩) := by
    rw [← expandString_text localNames mode values (writesUpper.isPlain upperWellFormed),
      writesUpper.text_eq]
  rw [plainCell, encodedCell]
  rcases expandCell_encoded localNames mode values letter cell.transformers with
    ⟨failure, other, failed, failedUpper, code⟩ | ⟨unknown, unknownUpper⟩
    | ⟨value, transformer, known, read, text, textUpper⟩
  · rw [failed, failedUpper]
    exact ⟨fun _ => by rw [readingOf, readingOf, code], by simp [readingOf], by simp [readingOf]⟩
  · rw [unknown, unknownUpper]
    exact ⟨fun _ => Iff.rfl, Iff.rfl, by simp [readingOf]⟩
  · have areDelimiters := WrittenCell.isDelimiter_of_read wellFormed read
    rw [text, textUpper]
    refine ⟨by simp [readingOf], by simp [readingOf], ?_⟩
    rintro _ ⟨⟩
    refine ⟨value, transformer, ?_, read, rfl, rfl, ?_⟩
    · rw [← lower, writes.symbolValue?_eq]
      exact known
    · rw [readingOf, Reading.text.injEq]
      exact transformer.apply_percentEncode areDelimiters value

/-- Two of four parts are kept in the opposite order. The dot and the dash that stand beside them
are not hidden, and the plus is too far behind. -/
theorem expandString_upper_unhidden :
    let values : Values :=
      ⟨"a@1.b-c+d@example.com".toList, "a@1.b-c+d".toList, "example.com".toList,
        "example.com".toList, "192.0.2.3".toList, none, "in-addr".toList,
        "mx.example.org".toList, "192.0.2.3".toList, none, 0⟩
    let cell : WrittenCell := ⟨'l', "2".toList, true, ".-+".toList⟩
    cell.IsWellFormed ∧ cell.symbol.toLower = cell.symbol
      ∧ readingOf (expandString [] .domain values cell.text) = .text "b.a@1".toList
      ∧ readingOf (expandString [] .domain values cell.upper.text) = .text "b.a%401".toList := by
  intro values cell
  have wellFormed : cell.IsWellFormed :=
    ⟨by decide, List.all_eq_true.mp (by decide), by simp [cell]⟩
  have lower : cell.symbol.toLower = cell.symbol := by decide
  have plain : readingOf (expandString [] .domain values cell.text) = .text "b.a@1".toList := by
    decide +kernel
  obtain ⟨value, transformer, known, read, _, _, same⟩ :=
    (expandString_upper wellFormed lower [] .domain values).2.2 _ plain
  obtain rfl : "a@1.b-c+d".toList = value := Option.some.inj known
  obtain rfl : (⟨some 2, true, ".-+".toList⟩ : Transformer) = transformer := Except.ok.inj read
  exact ⟨wellFormed, lower, plain, same.mpr (List.all_eq_true.mp (by decide))⟩

/-- A plus that separates parts is hidden. -/
theorem expandString_upper_hidden :
    let values : Values :=
      ⟨"a+b@example.com".toList, "a+b".toList, "example.com".toList, "example.com".toList,
        "192.0.2.3".toList, none, "in-addr".toList, "mx.example.org".toList, "192.0.2.3".toList,
        none, 0⟩
    ∀ mode, readingOf (expandString [] mode values "%{l+}".toList) = .text "a.b".toList
      ∧ readingOf (expandString [] mode values "%{L+}".toList) = .text "a%2Bb".toList
      ∧ Text.percentEncode "a.b".toList = "a.b".toList := by
  intro values mode
  cases mode <;> decide +kernel

end SenderPolicy.Macro
