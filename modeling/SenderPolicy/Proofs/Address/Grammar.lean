import SenderPolicy.Address.Literal
import SenderPolicy.Proofs.Text.Decimal
import SenderPolicy.Proofs.Text.Splitting

/-!
# The grammar of address literals

`IsDotted` and `IsColons` describe the literals of the two families by how they are put
together: octets between dots, and groups between colons with at most one gap. The readers
accept exactly these texts, so each of them denotes one address.
-/

namespace SenderPolicy.Address

/-! ## Dotted literals -/

/-- Four numbers below 256 between dots. -/
structure IsDotted (text : Text) (cells : List Nat) : Prop where
  count : cells.length = 4
  small : ∀ cell ∈ cells, cell < 256
  written : text = Text.join ['.'] (cells.map Text.ofNat)

theorem readOctet?_eq_some_iff {text : Text} {n : Nat} :
    readOctet? text = some n ↔ n < 256 ∧ text = Text.ofNat n := by
  unfold readOctet?
  constructor
  · intro read
    split at read
    · rename_i shape
      obtain ⟨_, plain⟩ := shape
      obtain ⟨number, small⟩ := Option.filter_eq_some_iff.mp read
      refine ⟨by simpa using small, Text.ofNat_of_toNat? number fun zero => ?_⟩
      obtain ⟨c, alone⟩ := List.length_eq_one_iff.mp (plain zero)
      rw [alone] at zero ⊢
      simpa using zero
    · cases read
  · rintro ⟨small, rfl⟩
    have short : (Text.ofNat n).length ≤ 3 :=
      (Nat.length_toDigits_le_iff (by decide) (by decide)).mpr (by omega)
    have plain : (Text.ofNat n).head? = some '0' → (Text.ofNat n).length = 1 := by
      intro zero
      rw [Text.ofNat_head? zero]
      rfl
    rw [if_pos ⟨short, plain⟩, Text.toNat?_ofNat]
    simp [small]

theorem map_readOctet? {octets : List Text} {cells : List Nat} :
    octets.map readOctet? = cells.map some
      ↔ (∀ cell ∈ cells, cell < 256) ∧ octets = cells.map Text.ofNat := by
  induction octets generalizing cells with
  | nil => cases cells <;> simp
  | cons octet octets inductionHypothesis =>
      cases cells with
      | nil => simp
      | cons cell cells =>
          simp only [List.map_cons, List.cons.injEq, readOctet?_eq_some_iff, inductionHypothesis,
            List.forall_mem_cons]
          constructor
          · rintro ⟨⟨small, rfl⟩, others, rfl⟩
            exact ⟨⟨small, others⟩, rfl, rfl⟩
          · rintro ⟨⟨small, others⟩, rfl, rfl⟩
            exact ⟨⟨small, rfl⟩, others, rfl⟩

/-- A written number holds no dot. -/
theorem not_mem_ofNat {n : Nat} {c : Char} (noDigit : c.isDigit = false) :
    c ∉ Text.ofNat n := by
  intro member
  rw [Text.isDigit_of_mem_ofNat member] at noDigit
  cases noDigit

/-- A dotted literal is split into its numbers. -/
theorem IsDotted.split {text : Text} {cells : List Nat} (dotted : IsDotted text cells) :
    Text.split (· = '.') text = cells.map Text.ofNat := by
  have free : ∀ piece ∈ cells.map Text.ofNat, '.' ∉ piece := by
    intro piece member
    obtain ⟨n, _, rfl⟩ := List.mem_map.mp member
    exact not_mem_ofNat (by decide)
  have some : cells.map Text.ofNat ≠ [] := by
    intro nothing
    have count := dotted.count
    rw [List.map_eq_nil_iff.mp nothing] at count
    cases count
  rw [dotted.written, Text.split_join some free]

theorem readDotted?_eq_some_iff {text : Text} {cells : List Nat} :
    readDotted? text = some cells ↔ IsDotted text cells := by
  simp only [readDotted?]
  constructor
  · intro read
    split at read
    · rename_i count
      obtain ⟨small, written⟩ := map_readOctet?.mp (Text.mapM_eq_some_iff.mp read)
      refine ⟨?_, small, ?_⟩
      · rw [← count, written, List.length_map]
      · rw [← written, Text.join_split]
    · cases read
  · intro dotted
    rw [dotted.split]
    simp only [List.length_map, dotted.count, if_true]
    exact Text.mapM_eq_some_iff.mpr (map_readOctet?.mpr ⟨dotted.small, rfl⟩)

/-- A dotted literal consists of digits and dots. -/
theorem IsDotted.characters {text : Text} {cells : List Nat} (dotted : IsDotted text cells)
    {c : Char} (member : c ∈ text) : c.isDigit = true ∨ c = '.' := by
  rw [dotted.written] at member
  rcases Text.mem_of_mem_join member with same | ⟨piece, isPiece, inside⟩
  · exact .inr same
  · obtain ⟨n, _, rfl⟩ := List.mem_map.mp isPiece
    exact .inl (Text.isDigit_of_mem_ofNat inside)

/-- A dotted literal holds a dot. -/
theorem IsDotted.dot_mem {text : Text} {cells : List Nat} (dotted : IsDotted text cells) :
    '.' ∈ text := by
  obtain ⟨count, _, rfl⟩ := dotted
  match cells, count with
  | [_, _, _, _], _ => simp [Text.join]

/-! ## Groups between colons -/

/-- One to four hexadecimal digits. -/
structure IsGroup (text : Text) (value : Nat) : Prop where
  nonempty : 1 ≤ text.length
  short : text.length ≤ 4
  digits : ∃ digits, text.map hexValue? = digits.map some ∧ value = valueOfCells 16 digits

/-- Groups between colons; the last two may be written as a dotted literal. -/
inductive IsRow : Text → List Nat → Prop where
  | group {text value} (group : IsGroup text value) : IsRow text [value]
  | dotted {text a b c d} (dotted : IsDotted text [a, b, c, d]) :
      IsRow text [256 * a + b, 256 * c + d]
  | cons {text value rest values} (first : IsGroup text value) (others : IsRow rest values) :
      IsRow (text ++ ':' :: rest) (value :: values)

/-- A row of groups, which may be missing. -/
def IsSide (text : Text) (cells : List Nat) : Prop :=
  text = [] ∧ cells = [] ∨ IsRow text cells

/-- Eight groups, or fewer around a gap that stands for the missing zeros; a dotted literal
stands at the end only. -/
inductive IsColons : Text → List Nat → Prop where
  | full {text cells} (row : IsRow text cells) (count : cells.length = 8) : IsColons text cells
  | gap {before after head tail} (left : IsSide before head) (plain : '.' ∉ before)
      (right : IsSide after tail) (count : head.length + tail.length ≤ 7) :
      IsColons (before ++ ':' :: ':' :: after)
        (head ++ List.replicate (8 - head.length - tail.length) 0 ++ tail)

theorem readGroup?_eq_some_iff {text : Text} {value : Nat} :
    readGroup? text = some value ↔ IsGroup text value := by
  have same : ∀ digits : List Nat,
      digits.foldl (fun value digit => 16 * value + digit) 0 = valueOfCells 16 digits := by
    intro digits
    simp only [valueOfCells, Nat.mul_comm]
  unfold readGroup?
  constructor
  · intro read
    split at read
    · rename_i bounds
      obtain ⟨digits, found, rfl⟩ := Option.map_eq_some_iff.mp read
      exact ⟨bounds.1, bounds.2, digits, Text.mapM_eq_some_iff.mp found, same digits⟩
    · cases read
  · rintro ⟨nonempty, short, digits, found, rfl⟩
    rw [if_pos ⟨nonempty, short⟩, Text.mapM_eq_some_iff.mpr found]
    exact congrArg some (same digits)

/-- A group consists of hexadecimal digits. -/
theorem IsGroup.characters {text : Text} {value : Nat} (group : IsGroup text value) {c : Char}
    (member : c ∈ text) : (hexValue? c).isSome = true := by
  obtain ⟨_, _, digits, found, _⟩ := group
  have inside : hexValue? c ∈ digits.map some := found ▸ List.mem_map_of_mem member
  obtain ⟨digit, _, equal⟩ := List.mem_map.mp inside
  rw [← equal]
  rfl

theorem IsGroup.not_mem {text : Text} {value : Nat} (group : IsGroup text value) {c : Char}
    (noDigit : hexValue? c = none) : c ∉ text := by
  intro member
  have digit := group.characters member
  rw [noDigit] at digit
  cases digit

/-- What a row consists of. -/
theorem IsRow.characters {text : Text} {cells : List Nat} (row : IsRow text cells) {c : Char}
    (member : c ∈ text) : (hexValue? c).isSome = true ∨ c = ':' ∨ c = '.' := by
  induction row with
  | group group => exact .inl (group.characters member)
  | dotted dotted =>
      rcases dotted.characters member with digit | same
      · left
        simp [hexValue?, digit]
      · exact .inr (.inr same)
  | cons first others inductionHypothesis =>
      rcases List.mem_append.mp member with inside | later
      · exact .inl (first.characters inside)
      · rcases List.mem_cons.mp later with same | later
        · exact .inr (.inl same)
        · exact inductionHypothesis later

/-- The reader of pieces between colons reads the rows. -/
theorem readPieces?_eq_some_iff {text : Text} {cells : List Nat} :
    readPieces? (Text.split (· = ':') text) = some cells ↔ IsRow text cells := by
  constructor
  · generalize splits : Text.split (· = ':') text = pieces
    intro read
    induction pieces generalizing text cells with
    | nil => exact absurd splits (Text.split_ne_nil _ _)
    | cons piece pieces inductionHypothesis =>
        obtain ⟨_, ⟨rfl, rfl⟩ | ⟨mark, rest, separates, rfl, later⟩⟩ := Text.split_eq_cons splits
        · simp only [readPieces?] at read
          split at read
          · rename_i octets found
            have dotted := readDotted?_eq_some_iff.mp found
            match octets, dotted.count with
            | [_, _, _, _], _ =>
                cases read
                exact .dotted dotted
          · obtain ⟨value, found, rfl⟩ := Option.map_eq_some_iff.mp read
            exact .group (readGroup?_eq_some_iff.mp found)
        · obtain rfl : mark = ':' := by simpa using separates
          cases pieces with
          | nil => exact absurd later (Text.split_ne_nil _ _)
          | cons next pieces =>
              simp only [readPieces?] at read
              obtain ⟨value, found, others⟩ := Option.bind_eq_some_iff.mp read
              obtain ⟨values, readRest, rfl⟩ := Option.map_eq_some_iff.mp others
              exact .cons (readGroup?_eq_some_iff.mp found) (inductionHypothesis later readRest)
  · intro row
    have free : ∀ {piece : Text}, ':' ∉ piece → ∀ c ∈ piece, decide (c = ':') = false := by
      intro piece absent c member
      exact decide_eq_false fun same => absent (same ▸ member)
    induction row with
    | @group text value group =>
        have undotted : readDotted? text = none := by
          cases found : readDotted? text with
          | none => rfl
          | some octets =>
              have dotted := readDotted?_eq_some_iff.mp found
              exact absurd dotted.dot_mem (group.not_mem (by decide))
        rw [Text.split_of_free (free (group.not_mem (by decide))), readPieces?, undotted]
        simp only [readGroup?_eq_some_iff.mpr group, Option.map_some]
    | @dotted text a b c d dotted =>
        have noColon : ':' ∉ text := by
          intro member
          rcases dotted.characters member with digit | same
          · cases digit
          · cases same
        rw [Text.split_of_free (free noColon), readPieces?, readDotted?_eq_some_iff.mpr dotted]
        rfl
    | @cons text value rest values first others inductionHypothesis =>
        rw [Text.split_append_cons (free (first.not_mem (by decide))) (by simp)]
        cases later : Text.split (· = ':') rest with
        | nil => exact absurd later (Text.split_ne_nil _ _)
        | cons next pieces =>
            rw [later] at inductionHypothesis
            rw [readPieces?, readGroup?_eq_some_iff.mpr first, Option.bind_some,
              inductionHypothesis]
            · rfl
            · simp

/-- A row begins with no colon. -/
theorem IsRow.exists_cons {text : Text} {cells : List Nat} (row : IsRow text cells) :
    ∃ c rest, text = c :: rest ∧ c ≠ ':' := by
  have first : ∀ {piece : Text}, piece ≠ [] → ':' ∉ piece →
      ∃ c rest, piece = c :: rest ∧ c ≠ ':' := by
    intro piece nonempty absent
    obtain ⟨c, rest, rfl⟩ := List.exists_cons_of_ne_nil nonempty
    exact ⟨c, rest, rfl, fun same => absent (same ▸ List.mem_cons_self)⟩
  cases row with
  | group group =>
      exact first (List.ne_nil_of_length_pos group.nonempty) (group.not_mem (by decide))
  | dotted dotted =>
      refine first (List.ne_nil_of_mem dotted.dot_mem) fun member => ?_
      rcases dotted.characters member with digit | same
      · cases digit
      · cases same
  | cons group others =>
      obtain ⟨c, rest, rfl, different⟩ :=
        first (List.ne_nil_of_length_pos group.nonempty) (group.not_mem (by decide))
      exact ⟨c, _, rfl, different⟩

theorem readGroups?_eq_some_iff {text : Text} {cells : List Nat} :
    readGroups? text = some cells ↔ IsSide text cells := by
  unfold readGroups? IsSide
  by_cases empty : text = []
  · rw [if_pos empty]
    constructor
    · rintro ⟨⟩
      exact .inl ⟨empty, rfl⟩
    · rintro (⟨_, rfl⟩ | row)
      · rfl
      · obtain ⟨c, rest, rfl, _⟩ := row.exists_cons
        cases empty
  · rw [if_neg empty, readPieces?_eq_some_iff]
    exact ⟨.inr, fun shape => shape.resolve_left fun nothing => empty nothing.1⟩

/-! ## The gap -/

theorem splitAtGap_sound {text before after : Text}
    (found : splitAtGap text = some (before, after)) : text = before ++ ':' :: ':' :: after := by
  induction text using splitAtGap.induct generalizing before with
  | case1 => cases found
  | case2 rest =>
      cases found
      rfl
  | case3 c rest apart inductionHypothesis =>
      rw [splitAtGap] at found
      · simp only [Option.map_eq_some_iff, Prod.mk.injEq, Prod.exists] at found
        obtain ⟨left, right, later, rfl, rfl⟩ := found
        exact congrArg (c :: ·) (inductionHypothesis later)
      · exact apart

/-- No gap begins at a character that is no colon or stands before one that is none. -/
theorem splitAtGap_cons {c : Char} {rest : Text}
    (apart : c ≠ ':' ∨ rest.head? ≠ some ':') :
    splitAtGap (c :: rest)
      = (splitAtGap rest).map fun (before, after) => (c :: before, after) := by
  rw [splitAtGap]
  rintro after rfl rfl
  rcases apart with different | different
  · exact different rfl
  · exact different rfl

/-- There is no gap in text without a colon. -/
theorem splitAtGap_append {piece : Text} (free : ':' ∉ piece) (rest : Text) :
    splitAtGap (piece ++ rest)
      = (splitAtGap rest).map fun (before, after) => (piece ++ before, after) := by
  induction piece with
  | nil => simp
  | cons c piece inductionHypothesis =>
      simp only [List.mem_cons, not_or] at free
      rw [List.cons_append, splitAtGap_cons (.inl (Ne.symm free.1)), inductionHypothesis free.2,
        Option.map_map]
      rfl

/-- There is no gap in a row, so the first gap after it is the one that follows it. -/
theorem IsRow.splitAtGap_append {text : Text} {cells : List Nat} (row : IsRow text cells)
    (rest : Text) :
    splitAtGap (text ++ rest)
      = (splitAtGap rest).map fun (before, after) => (text ++ before, after) := by
  induction row with
  | group group => exact Address.splitAtGap_append (group.not_mem (by decide)) rest
  | dotted dotted =>
      refine Address.splitAtGap_append (fun member => ?_) rest
      rcases dotted.characters member with digit | same
      · cases digit
      · cases same
  | cons first others inductionHypothesis =>
      obtain ⟨c, later, rfl, different⟩ := others.exists_cons
      rw [List.append_assoc, Address.splitAtGap_append (first.not_mem (by decide)),
        List.cons_append, splitAtGap_cons (.inr (by simpa using different)), inductionHypothesis,
        Option.map_map, Option.map_map]
      congr 1
      funext sides
      simp

theorem readColons?_eq_some_iff {text : Text} {cells : List Nat} :
    readColons? text = some cells ↔ IsColons text cells := by
  unfold readColons?
  constructor
  · intro read
    split at read
    · obtain ⟨groups, count⟩ := Option.filter_eq_some_iff.mp read
      have length : cells.length = 8 := by simpa using count
      rcases readGroups?_eq_some_iff.mp groups with ⟨_, rfl⟩ | row
      · cases length
      · exact .full row length
    · rename_i before after found
      split at read
      · cases read
      · rename_i plain
        split at read
        · rename_i head tail left right
          split at read
          · rename_i count
            cases read
            rw [splitAtGap_sound found]
            exact .gap (readGroups?_eq_some_iff.mp left) (by simpa using plain)
              (readGroups?_eq_some_iff.mp right) count
          · cases read
        · cases read
  · intro colons
    cases colons with
    | full row count =>
        have noGap := row.splitAtGap_append []
        rw [List.append_nil] at noGap
        have side : IsSide text cells := .inr row
        rw [noGap, splitAtGap, Option.map_none]
        simp [readGroups?_eq_some_iff.mpr side, count]
    | @gap before after head tail left plain right count =>
        have found : splitAtGap (before ++ ':' :: ':' :: after) = some (before, after) := by
          rcases left with ⟨rfl, _⟩ | row
          · rfl
          · rw [row.splitAtGap_append, splitAtGap, Option.map_some]
            simp only [List.append_nil]
        have undotted : before.contains '.' = false := by simpa using plain
        simp only [found, undotted, readGroups?_eq_some_iff.mpr left,
          readGroups?_eq_some_iff.mpr right, count, if_true]
        rfl

/-! ## Literals of both families -/

/-- The text is a literal of the address. -/
def IsLiteral (text : Text) (address : Address) : Prop :=
  match address.family with
  | .ip4 => IsDotted text address.cells
  | .ip6 => IsColons text address.cells

/-- What the literals of the second family consist of. -/
theorem IsColons.characters {text : Text} {cells : List Nat} (colons : IsColons text cells)
    {c : Char} (member : c ∈ text) : (hexValue? c).isSome = true ∨ c = ':' ∨ c = '.' := by
  have side : ∀ {text cells}, IsSide text cells → c ∈ text →
      (hexValue? c).isSome = true ∨ c = ':' ∨ c = '.' := by
    rintro text cells (⟨rfl, _⟩ | row) inside
    · cases inside
    · exact row.characters inside
  cases colons with
  | full row count => exact row.characters member
  | gap left plain right count =>
      rcases List.mem_append.mp member with inside | later
      · exact side left inside
      · simp only [List.mem_cons] at later
        rcases later with same | same | inside
        · exact .inr (.inl same)
        · exact .inr (.inl same)
        · exact side right inside

/-- A literal of the second family holds a colon. -/
theorem IsColons.colon_mem {text : Text} {cells : List Nat} (colons : IsColons text cells) :
    ':' ∈ text := by
  cases colons with
  | full row count =>
      cases row with
      | group group => cases count
      | dotted dotted => cases count
      | cons first others => simp
  | gap left plain right count => simp

theorem ofCells?_cells {address : Address} {family : Family} (same : address.family = family) :
    ofCells? family address.cells = some address := by
  subst same
  rw [ofCells?, dif_pos ⟨address.length_cells, address.cells_lt⟩]

theorem of_ofCells? {family : Family} {cells : List Nat} {address : Address}
    (found : ofCells? family cells = some address) :
    address.family = family ∧ address.cells = cells := by
  unfold ofCells? at found
  split at found
  · cases found
    exact ⟨rfl, rfl⟩
  · cases found

/-- Text without blanks at its ends denotes an address exactly if it is a literal of it. -/
theorem read?_eq_some_iff {text : Text} {address : Address} (trimmed : text.trim = text) :
    read? text = some address ↔ IsLiteral text address := by
  simp only [read?, trimmed]
  constructor
  · intro read
    split at read
    · rename_i cells dotted
      obtain ⟨family, rfl⟩ := of_ofCells? read
      rw [IsLiteral, family]
      exact readDotted?_eq_some_iff.mp dotted
    · obtain ⟨cells, colons, found⟩ := Option.bind_eq_some_iff.mp read
      obtain ⟨family, rfl⟩ := of_ofCells? found
      rw [IsLiteral, family]
      exact readColons?_eq_some_iff.mp colons
  · intro literal
    unfold IsLiteral at literal
    cases family : address.family with
    | ip4 =>
        rw [family] at literal
        simp only [readDotted?_eq_some_iff.mpr literal, ofCells?_cells family]
    | ip6 =>
        rw [family] at literal
        have undotted : readDotted? text = none := by
          cases found : readDotted? text with
          | none => rfl
          | some octets =>
              have dotted := readDotted?_eq_some_iff.mp found
              rcases dotted.characters literal.colon_mem with digit | same
              · cases digit
              · cases same
        simp only [undotted, readColons?_eq_some_iff.mpr literal, Option.bind_some,
          ofCells?_cells family]

end SenderPolicy.Address
