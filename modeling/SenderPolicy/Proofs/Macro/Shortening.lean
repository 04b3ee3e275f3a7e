import Mathlib.Logic.Relation
import SenderPolicy.Proofs.Macro.Caseless
import SenderPolicy.Proofs.Text.Bytes

/-!
# Names that are too long

A name that is too long loses labels at its start, one at a time. `ShortensTo` says what is left
without counting labels: the longest text behind a dot that is short enough or, if none is, the text
behind the last dot. `Cuts` is the loss of one label among the bytes of a name. Such losses come to
an end, each of them takes whole characters, and what they leave is what `ShortensTo` says.
-/

namespace SenderPolicy.Macro

open Text Relation

/-! ## What is left -/

/-- The text stands behind some dot of a name. -/
def IsBehindDot (rest name : Text) : Prop :=
  ∃ before, name = before ++ '.' :: rest

/-- What a name is shortened to. -/
inductive ShortensTo (name : Text) : Text → Prop where
  /-- A name that is short enough stays as it is. -/
  | whole (fits : name.byteLength ≤ maximumDomainLength) : ShortensTo name name
  /-- Otherwise the longest text behind a dot is left that is short enough. -/
  | longest {rest : Text} (long : maximumDomainLength < name.byteLength)
      (behind : IsBehindDot rest name) (fits : rest.byteLength ≤ maximumDomainLength)
      (longest : ∀ other, IsBehindDot other name → other.byteLength ≤ maximumDomainLength →
        other.byteLength ≤ rest.byteLength) : ShortensTo name rest
  /-- If there is no such text, the one behind the last dot is left. -/
  | last {rest : Text} (long : maximumDomainLength < name.byteLength)
      (none : ∀ other, IsBehindDot other name → maximumDomainLength < other.byteLength)
      (behind : IsBehindDot rest name) (last : '.' ∉ rest) : ShortensTo name rest
  /-- A name without dots stays as it is. -/
  | single (long : maximumDomainLength < name.byteLength) (single : '.' ∉ name) :
      ShortensTo name name

section
variable {name before after rest : Text}

theorem IsBehindDot.dot_mem (behind : IsBehindDot rest name) : '.' ∈ name := by
  obtain ⟨before, rfl⟩ := behind
  simp

theorem IsBehindDot.byteLength_lt (behind : IsBehindDot rest name) :
    rest.byteLength < name.byteLength := by
  obtain ⟨before, rfl⟩ := behind
  have dot : byteLength ('.' :: rest) = 1 + rest.byteLength := rfl
  rw [byteLength_append, dot]
  omega

/-- What stands behind a dot stands behind the first one, or behind a dot after that. -/
theorem isBehindDot_iff (free : '.' ∉ before) :
    IsBehindDot rest (before ++ '.' :: after) ↔ rest = after ∨ IsBehindDot rest after := by
  constructor
  · rintro ⟨front, same⟩
    rcases List.append_eq_append_iff.mp same with ⟨more, rfl, tail⟩ | ⟨more, rfl, tail⟩
    · cases more with
      | nil => exact .inl (List.cons.inj tail).2.symm
      | cons c more => exact .inr ⟨more, (List.cons.inj tail).2⟩
    · cases more with
      | nil => exact .inl (List.cons.inj tail).2
      | cons c more =>
          obtain ⟨rfl, _⟩ := List.cons.inj tail
          exact absurd (by simp) free
  · rintro (rfl | ⟨front, rfl⟩)
    · exact ⟨before, rfl⟩
    · exact ⟨before ++ '.' :: front, by simp⟩

/-- A name that is too long is shortened to what it is shortened to without its first label. -/
theorem shortensTo_cut_iff (long : maximumDomainLength < byteLength (before ++ '.' :: after))
    (free : '.' ∉ before) :
    ShortensTo (before ++ '.' :: after) rest ↔ ShortensTo after rest := by
  have dots {other : Text} := @isBehindDot_iff before after other free
  have first : IsBehindDot after (before ++ '.' :: after) := ⟨before, rfl⟩
  constructor
  · intro shortens
    cases shortens with
    | whole fits => exact absurd long (Nat.not_lt.mpr fits)
    | longest _ behind fits longest =>
        rcases dots.mp behind with rfl | deeper
        · exact .whole fits
        · have shorter := deeper.byteLength_lt
          have afterLong : maximumDomainLength < after.byteLength := by
            refine Nat.lt_of_not_le fun afterFits => ?_
            have bound := longest after first afterFits
            omega
          refine .longest afterLong deeper fits fun other lower => ?_
          exact longest other (dots.mpr (.inr lower))
    | last _ none behind last =>
        have afterLong := none after first
        rcases dots.mp behind with rfl | deeper
        · exact .single afterLong last
        · exact .last afterLong (fun other lower => none other (dots.mpr (.inr lower))) deeper last
    | single _ single => exact absurd first.dot_mem single
  · intro shortens
    cases shortens with
    | whole fits =>
        refine .longest long first fits fun other behind _ => ?_
        rcases dots.mp behind with rfl | deeper
        · exact Nat.le_refl _
        · exact Nat.le_of_lt deeper.byteLength_lt
    | longest afterLong behind fits longest =>
        refine .longest long (dots.mpr (.inr behind)) fits fun other lower otherFits => ?_
        rcases dots.mp lower with rfl | deeper
        · exact absurd afterLong (Nat.not_lt.mpr otherFits)
        · exact longest other deeper otherFits
    | last afterLong none behind last =>
        refine .last long (fun other lower => ?_) (dots.mpr (.inr behind)) last
        rcases dots.mp lower with rfl | deeper
        · exact afterLong
        · exact none other deeper
    | single afterLong single =>
        refine .last long (fun other lower => ?_) first single
        rcases dots.mp lower with rfl | deeper
        · exact afterLong
        · exact absurd deeper.dot_mem single

end

theorem shortensTo_iff {name rest : Text} : ShortensTo name rest ↔ rest = shortenDomain name := by
  induction name using shortenDomain.induct with
  | case1 name fits =>
      rw [shortenDomain_eq, if_pos fits]
      constructor
      · intro shortens
        cases shortens with
        | whole => rfl
        | longest long | last long | single long => exact absurd fits (Nat.not_le.mpr long)
      · rintro rfl
        exact .whole fits
  | case2 name long single =>
      rw [shortenDomain_eq, if_neg long, single, Option.elim_none]
      have dotless : '.' ∉ name := splitAtFirst_eq_none_iff.mp single
      constructor
      · intro shortens
        cases shortens with
        | whole | single => rfl
        | longest _ behind | last _ _ behind => exact absurd behind.dot_mem dotless
      · rintro rfl
        exact .single (Nat.not_le.mp long) dotless
  | case3 name long before after found inductionHypothesis =>
      rw [shortenDomain_eq, if_neg long, found, Option.elim_some]
      obtain ⟨rfl, free⟩ := splitAtFirst_eq_some_iff.mp found
      exact (shortensTo_cut_iff (Nat.not_le.mp long) free).trans inductionHypothesis

/-! ## Bytes -/

/-- Bytes that are too many lose those up to their first dot. -/
def Cuts (name rest : List UInt8) : Prop :=
  maximumDomainLength < name.length ∧ ∃ before, name = before ++ dotByte :: rest ∧ dotByte ∉ before

/-- Labels cannot be lost forever. -/
theorem cuts_wellFounded : WellFounded fun rest name => Cuts name rest := by
  refine Subrelation.wf ?_ (measure List.length).wf
  rintro rest _ ⟨_, before, rfl, _⟩
  change rest.length < (before ++ dotByte :: rest).length
  rw [List.length_append, List.length_cons]
  omega

/-- Encoded text loses its first label, and what is left is encoded text. -/
theorem cuts_bytes_iff {name : Text} {rest : List UInt8} :
    Cuts name.bytes rest ↔ maximumDomainLength < name.byteLength
      ∧ ∃ before after, name.splitAtFirst '.' = some (before, after) ∧ rest = after.bytes := by
  rw [Cuts, length_bytes]
  refine and_congr_right fun _ => ?_
  constructor
  · rintro ⟨before, parts, first⟩
    obtain ⟨left, right, found, _, same⟩ := (bytes_eq_append_dotByte_iff first).mp parts
    exact ⟨left, right, found, same⟩
  · rintro ⟨left, right, found, rfl⟩
    have free := (splitAtFirst_eq_some_iff.mp found).2
    have first : dotByte ∉ left.bytes := fun member => free (dotByte_mem_bytes_iff.mp member)
    have parts := (bytes_eq_append_dotByte_iff first).mpr ⟨left, right, found, rfl, rfl⟩
    exact ⟨left.bytes, parts, first⟩

/-- Whatever is left of encoded text on the way is the encoding of its last characters, from its
start or from a dot on. -/
theorem exists_of_cuts {name : Text} {rest : List UInt8}
    (cuts : ReflTransGen Cuts name.bytes rest) :
    ∃ before after, name = before ++ after ∧ rest = after.bytes
      ∧ (before = [] ∨ before.getLast? = some '.') := by
  induction cuts with
  | refl => exact ⟨[], name, rfl, rfl, .inl rfl⟩
  | tail _ cut inductionHypothesis =>
      obtain ⟨front, middle, rfl, rfl, _⟩ := inductionHypothesis
      obtain ⟨_, before, after, found, rfl⟩ := cuts_bytes_iff.mp cut
      obtain ⟨rfl, _⟩ := splitAtFirst_eq_some_iff.mp found
      exact ⟨front ++ (before ++ ['.']), after, by simp, rfl, .inr (by simp)⟩

/-- The bytes of a name lose labels until the bytes of the shortened name are left. -/
theorem cuts_shortenDomain (name : Text) :
    ReflTransGen Cuts name.bytes (shortenDomain name).bytes
      ∧ ∀ rest, ¬ Cuts (shortenDomain name).bytes rest := by
  induction name using shortenDomain.induct with
  | case1 name fits =>
      rw [shortenDomain_eq, if_pos fits]
      refine ⟨.refl, fun rest cut => ?_⟩
      exact absurd fits (Nat.not_le.mpr (cuts_bytes_iff.mp cut).1)
  | case2 name long single =>
      rw [shortenDomain_eq, if_neg long, single, Option.elim_none]
      refine ⟨.refl, fun rest cut => ?_⟩
      obtain ⟨_, before, after, found, _⟩ := cuts_bytes_iff.mp cut
      cases single.symm.trans found
  | case3 name long before after found inductionHypothesis =>
      rw [shortenDomain_eq, if_neg long, found, Option.elim_some]
      obtain ⟨later, ends⟩ := inductionHypothesis
      have cut : Cuts name.bytes after.bytes :=
        cuts_bytes_iff.mpr ⟨Nat.not_le.mp long, before, after, found, rfl⟩
      exact ⟨later.head cut, ends⟩

/-! ## Expansions -/

/-- The expansion of a domain specification is what its full expansion is shortened to. On the bytes
of any text the loop that shortens it comes to an end, with the bytes of the shortened text, and on
its way it has only cut between two characters. -/
theorem expand_domain_shortens (localNames : List Text) (values : Values) (text : Text) :
    (∀ result, expand localNames .domain values text = .ok result
        ↔ ∃ full, expandDomainFully localNames values text = .ok full ∧ ShortensTo full result)
      ∧ (WellFounded fun rest name => Cuts name rest)
      ∧ ∀ full : Text,
        ReflTransGen Cuts full.bytes (shortenDomain full).bytes
          ∧ (∀ rest, ¬ Cuts (shortenDomain full).bytes rest)
          ∧ ∀ rest, ReflTransGen Cuts full.bytes rest →
            ∃ before after, full = before ++ after ∧ rest = after.bytes
              ∧ (before = [] ∨ before.getLast? = some '.') := by
  refine ⟨fun result => ?_, cuts_wellFounded, fun full => ?_⟩
  · rw [expand]
    cases expandDomainFully localNames values text with
    | error obstacle => simp [Except.map]
    | ok full => simp [Except.map, shortensTo_iff, eq_comm]
  · obtain ⟨reaches, ends⟩ := cuts_shortenDomain full
    exact ⟨reaches, ends, fun rest => exists_of_cuts⟩

/-- A label of letters that take two bytes each is too long, and what stands behind it is not. -/
theorem expand_domain_shortens_accented :
    let localPart : Text := List.replicate 130 'é' ++ ".ü".toList
    let values : Values :=
      ⟨localPart ++ "@example.com".toList, localPart, "example.com".toList, "example.com".toList,
        "192.0.2.3".toList, none, "in-addr".toList, "mx.example.org".toList, "192.0.2.3".toList,
        none, 0⟩
    let full : Text := localPart ++ ".example.com".toList
    let short : Text := "ü.example.com".toList
    expandDomainFully [] values "%{l}.example.com".toList = .ok full ∧ ShortensTo full short
      ∧ ReflTransGen Cuts full.bytes short.bytes ∧ ∀ rest, ¬ Cuts short.bytes rest := by
  intro localPart values full short
  have value {result : Except Obstacle Text} {text : Text} (found : result.toOption = some text) :
      result = .ok text := by
    cases result with
    | error obstacle => cases found
    | ok other => exact congrArg _ (Option.some.inj found)
  have whole := @value (expandDomainFully [] values "%{l}.example.com".toList) full
    (by decide +kernel)
  have expanded := @value (expand [] .domain values "%{l}.example.com".toList) short
    (by decide +kernel)
  obtain ⟨shortened, _, loop⟩ := expand_domain_shortens [] values "%{l}.example.com".toList
  obtain ⟨_, same, shortens⟩ := (shortened short).mp expanded
  obtain rfl := Except.ok.inj (same.symm.trans whole)
  obtain ⟨reaches, ends, _⟩ := loop full
  rw [← shortensTo_iff.mp shortens] at reaches ends
  exact ⟨whole, shortens, reaches, ends⟩

end SenderPolicy.Macro
