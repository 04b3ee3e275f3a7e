import SenderPolicy.Text.Basic

/-!
# Where text is split

Each way of splitting text is described by what it leaves: the two sides of a mark put
together give the text back, and one of them is free of the mark. Together the two facts
leave no choice, so that a text written with a mark is split where it was put together.
-/

namespace SenderPolicy.Text

/-! ## At the first or last mark -/

theorem splitAtFirst_eq_some_iff {mark : Char} {text before after : Text} :
    splitAtFirst mark text = some (before, after)
      ↔ text = before ++ mark :: after ∧ mark ∉ before := by
  constructor
  · intro split
    induction text generalizing before with
    | nil => cases split
    | cons c rest inductionHypothesis =>
        unfold splitAtFirst at split
        split at split
        · rename_i hit
          cases split
          exact ⟨congrArg (· :: _) hit, by simp⟩
        · rename_i miss
          simp only [Option.map_eq_some_iff, Prod.mk.injEq, Prod.exists] at split
          obtain ⟨left, right, found, rfl, rfl⟩ := split
          obtain ⟨rfl, free⟩ := inductionHypothesis found
          exact ⟨rfl, List.not_mem_cons_of_ne_of_not_mem (Ne.symm miss) free⟩
  · rintro ⟨rfl, free⟩
    induction before with
    | nil => simp [splitAtFirst]
    | cons c before inductionHypothesis =>
        simp only [List.mem_cons, not_or] at free
        obtain ⟨different, later⟩ := free
        simp [splitAtFirst, Ne.symm different, inductionHypothesis later]

/-- Text is split at the mark that follows a part without marks. -/
theorem splitAtFirst_append {mark : Char} {before : Text} (free : mark ∉ before) (after : Text) :
    splitAtFirst mark (before ++ mark :: after) = some (before, after) :=
  splitAtFirst_eq_some_iff.mpr ⟨rfl, free⟩

theorem splitAtFirst_eq_none_iff {mark : Char} {text : Text} :
    splitAtFirst mark text = none ↔ mark ∉ text := by
  constructor
  · intro none member
    obtain ⟨before, after, rfl, free⟩ := List.eq_append_cons_of_mem member
    cases none.symm.trans (splitAtFirst_append free after)
  · intro absent
    cases found : splitAtFirst mark text with
    | none => rfl
    | some sides =>
        obtain ⟨rfl, _⟩ := splitAtFirst_eq_some_iff.mp found
        exact absurd (by simp) absent

theorem splitAtLast_eq_none_iff {mark : Char} {text : Text} :
    splitAtLast mark text = none ↔ mark ∉ text := by
  induction text with
  | nil => simp [splitAtLast]
  | cons c rest inductionHypothesis =>
      unfold splitAtLast
      cases found : splitAtLast mark rest with
      | some sides =>
          have holds : mark ∈ rest := by
            by_cases member : mark ∈ rest
            · exact member
            · rw [inductionHypothesis.mpr member] at found
              cases found
          simp [holds]
      | none =>
          have free := inductionHypothesis.mp found
          by_cases hit : c = mark
          · simp [hit]
          · simp [hit, free, Ne.symm hit]

theorem splitAtLast_eq_some_iff {mark : Char} {text before after : Text} :
    splitAtLast mark text = some (before, after)
      ↔ text = before ++ mark :: after ∧ mark ∉ after := by
  constructor
  · intro split
    induction text generalizing before with
    | nil => cases split
    | cons c rest inductionHypothesis =>
        unfold splitAtLast at split
        cases found : splitAtLast mark rest with
        | some sides =>
            rw [found] at split
            cases split
            obtain ⟨rfl, free⟩ := inductionHypothesis found
            exact ⟨rfl, free⟩
        | none =>
            have free := splitAtLast_eq_none_iff.mp found
            simp only [found] at split
            split at split
            · rename_i hit
              cases split
              exact ⟨congrArg (· :: _) hit, free⟩
            · cases split
  · rintro ⟨rfl, free⟩
    induction before with
    | nil =>
        rw [List.nil_append, splitAtLast, splitAtLast_eq_none_iff.mpr free]
        simp
    | cons c before inductionHypothesis =>
        rw [List.cons_append, splitAtLast, inductionHypothesis]

/-- Text is split at the mark that a part without marks follows. -/
theorem splitAtLast_append {mark : Char} {after : Text} (before : Text) (free : mark ∉ after) :
    splitAtLast mark (before ++ mark :: after) = some (before, after) :=
  splitAtLast_eq_some_iff.mpr ⟨rfl, free⟩

/-! ## Behind an opening -/

theorem eq_append_of_dropOpening? {opening text rest : Text}
    (found : dropOpening? opening text = some rest) : text = opening ++ rest := by
  induction opening generalizing text with
  | nil =>
      cases found
      rfl
  | cons first opening inductionHypothesis =>
      cases text with
      | nil => cases found
      | cons c text =>
          obtain ⟨rfl, later⟩ := Option.ite_none_right_eq_some.mp found
          rw [inductionHypothesis later, List.cons_append]

/-! ## At every separator -/

theorem split_ne_nil (isSeparator : Char → Bool) (text : Text) : split isSeparator text ≠ [] := by
  cases text with
  | nil => simp [split]
  | cons c rest =>
      unfold split
      split
      · simp
      · split <;> simp

/-- Text without a separator is one piece. -/
theorem split_of_free {isSeparator : Char → Bool} {text : Text}
    (free : ∀ c ∈ text, isSeparator c = false) : split isSeparator text = [text] := by
  induction text with
  | nil => rfl
  | cons c rest inductionHypothesis =>
      have here := free c List.mem_cons_self
      have later := inductionHypothesis fun other member =>
        free other (List.mem_cons_of_mem _ member)
      simp [split, here, later]

/-- Text without a separator in front of one is the first piece. -/
theorem split_append_cons {isSeparator : Char → Bool} {piece rest : Text} {separator : Char}
    (free : ∀ c ∈ piece, isSeparator c = false) (separates : isSeparator separator = true) :
    split isSeparator (piece ++ separator :: rest) = piece :: split isSeparator rest := by
  induction piece with
  | nil => simp [split, separates]
  | cons c piece inductionHypothesis =>
      have here := free c List.mem_cons_self
      have later := inductionHypothesis fun other member =>
        free other (List.mem_cons_of_mem _ member)
      simp [split, here, later]

/-- The first piece ends at the first separator or with the text. -/
theorem split_eq_cons {isSeparator : Char → Bool} {text piece : Text} {pieces : List Text}
    (splits : split isSeparator text = piece :: pieces) :
    (∀ c ∈ piece, isSeparator c = false)
      ∧ (pieces = [] ∧ text = piece
        ∨ ∃ separator rest, isSeparator separator = true
          ∧ text = piece ++ separator :: rest ∧ split isSeparator rest = pieces) := by
  induction text generalizing piece with
  | nil =>
      cases splits
      exact ⟨by simp, .inl ⟨rfl, rfl⟩⟩
  | cons c rest inductionHypothesis =>
      unfold split at splits
      by_cases hit : isSeparator c = true
      · rw [if_pos hit] at splits
        cases splits
        exact ⟨by simp, .inr ⟨c, rest, hit, rfl, rfl⟩⟩
      · rw [if_neg hit] at splits
        cases later : split isSeparator rest with
        | nil => exact absurd later (split_ne_nil _ _)
        | cons first others =>
            rw [later] at splits
            cases splits
            obtain ⟨free, ending⟩ := inductionHypothesis later
            have here : isSeparator c = false := by simpa using hit
            refine ⟨List.forall_mem_cons.mpr ⟨here, free⟩, ?_⟩
            rcases ending with ⟨nothing, rfl⟩ | ⟨separator, after, separates, rfl, others⟩
            · exact .inl ⟨nothing, rfl⟩
            · exact .inr ⟨separator, after, separates, rfl, others⟩

/-- What is true of all characters is true of those of each piece. -/
theorem mem_of_mem_split {isSeparator : Char → Bool} {text piece : Text}
    (member : piece ∈ split isSeparator text) {c : Char} (inside : c ∈ piece) : c ∈ text := by
  generalize splits : split isSeparator text = pieces at member
  induction pieces generalizing text with
  | nil => cases member
  | cons first pieces inductionHypothesis =>
      obtain ⟨_, ⟨rfl, rfl⟩ | ⟨separator, rest, _, rfl, later⟩⟩ := split_eq_cons splits
      · rw [List.mem_singleton] at member
        exact member ▸ inside
      · rcases List.mem_cons.mp member with rfl | others
        · exact List.mem_append_left _ inside
        · have found := inductionHypothesis later others
          exact List.mem_append_right _ (List.mem_cons_of_mem _ found)

/-- No piece holds a separator. -/
theorem free_of_mem_split {isSeparator : Char → Bool} {text piece : Text}
    (member : piece ∈ split isSeparator text) : ∀ c ∈ piece, isSeparator c = false := by
  generalize splits : split isSeparator text = pieces at member
  induction pieces generalizing text with
  | nil => cases member
  | cons first pieces inductionHypothesis =>
      obtain ⟨free, ending⟩ := split_eq_cons splits
      rcases List.mem_cons.mp member with rfl | others
      · exact free
      · rcases ending with ⟨rfl, _⟩ | ⟨_, rest, _, _, later⟩
        · cases others
        · exact inductionHypothesis later others

/-- Pieces without separators are what a text joined from them is split into. -/
theorem split_join {separator : Char} {pieces : List Text} (some : pieces ≠ [])
    (free : ∀ piece ∈ pieces, separator ∉ piece) :
    split (· = separator) (join [separator] pieces) = pieces := by
  induction pieces with
  | nil => contradiction
  | cons piece pieces inductionHypothesis =>
      obtain ⟨here, others⟩ := List.forall_mem_cons.mp free
      have unseparated : ∀ c ∈ piece, decide (c = separator) = false := by
        intro c member
        exact decide_eq_false fun same => here (same ▸ member)
      cases pieces with
      | nil => exact split_of_free unseparated
      | cons next pieces =>
          have later := inductionHypothesis (by simp) others
          rw [join, List.append_assoc, List.singleton_append,
            split_append_cons unseparated (by simp), later]

/-- The pieces of a text joined again give the text. -/
theorem join_split (separator : Char) (text : Text) :
    join [separator] (split (· = separator) text) = text := by
  generalize splits : split (· = separator) text = pieces
  induction pieces generalizing text with
  | nil => exact absurd splits (split_ne_nil _ _)
  | cons piece pieces inductionHypothesis =>
      obtain ⟨_, ⟨rfl, rfl⟩ | ⟨mark, rest, separates, rfl, later⟩⟩ := split_eq_cons splits
      · rfl
      · obtain rfl : mark = separator := by simpa using separates
        have joined := inductionHypothesis rest later
        cases pieces with
        | nil => exact absurd later (split_ne_nil _ _)
        | cons next pieces => rw [join, joined, List.append_assoc, List.singleton_append]

/-- Every piece but the first follows a separator. -/
theorem join_cons (separator piece : Text) (pieces : List Text) :
    join separator (piece :: pieces) = piece ++ pieces.flatMap (separator ++ ·) := by
  induction pieces generalizing piece with
  | nil => simp [join]
  | cons next pieces inductionHypothesis =>
      rw [join, inductionHypothesis, List.flatMap_cons, List.append_assoc, List.append_assoc]

/-- A joined text holds its separators and what its pieces hold. -/
theorem mem_of_mem_join {separator c : Char} {pieces : List Text}
    (member : c ∈ join [separator] pieces) : c = separator ∨ ∃ piece ∈ pieces, c ∈ piece := by
  induction pieces with
  | nil => cases member
  | cons piece pieces inductionHypothesis =>
      cases pieces with
      | nil => exact .inr ⟨piece, by simp, member⟩
      | cons next pieces =>
          rw [join, List.append_assoc, List.mem_append, List.singleton_append,
            List.mem_cons] at member
          rcases member with inside | rfl | later
          · exact .inr ⟨piece, by simp, inside⟩
          · exact .inl rfl
          · rcases inductionHypothesis later with same | ⟨other, member, inside⟩
            · exact .inl same
            · exact .inr ⟨other, List.mem_cons_of_mem _ member, inside⟩

/-- Two rows of pieces are joined by one more separator. -/
theorem join_append (separator : Text) {left right : List Text} (some : left ≠ [])
    (others : right ≠ []) :
    join separator (left ++ right) = join separator left ++ separator ++ join separator right := by
  obtain ⟨piece, pieces, rfl⟩ := List.exists_cons_of_ne_nil some
  obtain ⟨next, rest, rfl⟩ := List.exists_cons_of_ne_nil others
  simp only [List.cons_append, join_cons, List.flatMap_append, List.flatMap_cons,
    List.append_assoc]

/-- Every piece takes its own characters and one more at most. -/
theorem length_join_le {separator : Char} {pieces : List Text} {bound : Nat}
    (short : ∀ piece ∈ pieces, piece.length < bound) :
    (join [separator] pieces).length ≤ pieces.length * bound := by
  induction pieces with
  | nil => exact Nat.zero_le _
  | cons piece pieces inductionHypothesis =>
      obtain ⟨here, others⟩ := List.forall_mem_cons.mp short
      have rest := inductionHypothesis others
      rw [List.length_cons, Nat.succ_mul]
      cases pieces with
      | nil =>
          rw [join]
          omega
      | cons next pieces =>
          rw [join, List.length_append, List.length_append, List.length_singleton]
          omega

/-! ## Pieces that are read one by one -/

/-- Reading all items of a list succeeds if reading each of them does. -/
theorem mapM_eq_some_iff {α β : Type} {read : α → Option β} {items : List α} {values : List β} :
    items.mapM read = some values ↔ items.map read = values.map some := by
  induction items generalizing values with
  | nil => cases values <;> simp
  | cons item items inductionHypothesis =>
      rw [List.mapM_cons, Option.bind_eq_bind, Option.bind_eq_some_iff]
      constructor
      · rintro ⟨value, first, others⟩
        rw [Option.bind_eq_bind, Option.bind_eq_some_iff] at others
        obtain ⟨later, rest, gathered⟩ := others
        cases gathered
        rw [List.map_cons, List.map_cons, first, inductionHypothesis.mp rest]
      · intro reads
        cases values with
        | nil => cases reads
        | cons value values =>
            obtain ⟨first, others⟩ := List.cons.inj reads
            refine ⟨value, first, ?_⟩
            rw [Option.bind_eq_bind, inductionHypothesis.mpr others]
            rfl

/-- What is read comes from one of the items. -/
theorem exists_of_mem_mapM {α β : Type} {read : α → Option β} {items : List α} {values : List β}
    (found : items.mapM read = some values) {value : β} (member : value ∈ values) :
    ∃ item ∈ items, read item = some value := by
  have inside : some value ∈ items.map read := by
    rw [mapM_eq_some_iff.mp found]
    exact List.mem_map_of_mem member
  exact List.mem_map.mp inside

end SenderPolicy.Text
