import SenderPolicy.Dns.Question
import SenderPolicy.Proofs.Macro.Characters

/-!
# Fully qualified names and host names

A fully qualified name is what a check may be about, a host name what a question for addresses
or mail exchangers may be about. Being fully qualified is a matter of characters and of their
order, and bounds no length. Host names are bounded, and `FitsQuestion` says how: of the fully
qualified names just those that fit are host names (`isHostName_iff_fitsQuestion`).
-/

namespace SenderPolicy.Domain

/-- Some visible ASCII characters. -/
def IsVisible (label : Text) : Prop :=
  label ≠ [] ∧ ∀ c ∈ label, isGraphic c = true

/-- The lengths that a question allows, in bytes: 63 for a label, 253 for all of the name, one
dot at its end apart. -/
def FitsQuestion (name : Text) : Prop :=
  (Text.dropEndDot name).byteLength ≤ 253
    ∧ ∀ label ∈ Text.split (· = '.') (Text.dropEndDot name), label.byteLength ≤ 63

instance (name : Text) : Decidable (FitsQuestion name) :=
  inferInstanceAs (Decidable (_ ∧ _))

/-! ## Labels of qualified names -/

theorem isGraphic_of_isAlphanum {c : Char} (alphanumeric : c.isAlphanum = true) :
    isGraphic c = true := by
  have range := Macro.toNat_of_isAlphanum alphanumeric
  simp only [isGraphic, Bool.and_eq_true, decide_eq_true_eq]
  omega

theorem isVisible_of_isLabel {label : Text} (inner : isLabel label = true) : IsVisible label := by
  simp only [isLabel, Bool.and_eq_true, List.all_eq_true, Bool.or_eq_true, beq_iff_eq] at inner
  obtain ⟨⟨each, begins⟩, -⟩ := inner
  constructor
  case left =>
    rintro rfl
    cases begins
  case right =>
    intro c member
    rcases each c member with ending | rfl
    · rcases Bool.or_eq_true_iff.mp ending with alphanumeric | underscore
      · exact isGraphic_of_isAlphanum alphanumeric
      · obtain rfl := beq_iff_eq.mp underscore
        decide
    · decide

theorem isVisible_of_isTopLabel {label : Text} (top : isTopLabel label = true) :
    IsVisible label := by
  obtain ⟨filled, each⟩ := Macro.isLabelCharacter_of_mem top
  exact ⟨filled, fun c member =>
    Macro.isGraphic_of_isLiteral (Macro.isLiteral_of_isLabelCharacter (each c member))⟩

theorem isVisible_of_areQualifiedLabels {labels : List Text}
    (qualified : areQualifiedLabels labels = true) : ∀ label ∈ labels, IsVisible label := by
  induction labels using areQualifiedLabels.induct with
  | case1 => cases qualified
  | case2 => cases qualified
  | case3 label top =>
      obtain ⟨inner, last⟩ := Bool.and_eq_true_iff.mp qualified
      exact List.forall_mem_cons.mpr ⟨isVisible_of_isLabel inner,
        List.forall_mem_singleton.mpr (isVisible_of_isTopLabel last)⟩
  | case4 label labels several more inductionHypothesis =>
      obtain ⟨inner, others⟩ : isLabel label = true ∧ areQualifiedLabels labels = true := by
        rw [areQualifiedLabels.eq_def] at qualified
        grind
      exact List.forall_mem_cons.mpr ⟨isVisible_of_isLabel inner, inductionHypothesis others⟩

/-! ## Names that may be asked about -/

/-- Host names are visible. -/
theorem isGraphic_of_isHostName {name : Text} (host : isHostName name = true) :
    ∀ c ∈ name, isGraphic c = true := by
  simp only [isHostName, Bool.and_eq_true, List.all_eq_true] at host
  obtain ⟨-, labels⟩ := host
  have inner : ∀ c ∈ Text.dropEndDot name, isGraphic c = true := by
    intro c member
    rw [← Text.join_split '.' (Text.dropEndDot name)] at member
    rcases Text.mem_of_mem_join member with rfl | ⟨label, isLabel, inside⟩
    · rfl
    · have hostLabel := labels label isLabel
      simp only [isHostLabel, Bool.and_eq_true, List.all_eq_true] at hostLabel
      exact hostLabel.2 c inside
  intro c member
  unfold Text.dropEndDot at inner
  split at inner
  · rename_i dotted
    obtain ⟨front, rfl⟩ := List.getLast?_eq_some_iff.mp dotted
    rw [List.dropLast_concat] at inner
    rcases List.mem_append.mp member with before | last
    · exact inner c before
    · rw [List.mem_singleton.mp last]
      rfl
  · exact inner c member

/-- Of the fully qualified names those that fit into a question are host names. -/
theorem isHostName_iff_fitsQuestion {name : Text} (qualified : isFullyQualified name = true) :
    isHostName name = true ↔ FitsQuestion name := by
  have visible := isVisible_of_areQualifiedLabels qualified
  have filled : Text.dropEndDot name ≠ [] := by
    intro empty
    rw [isFullyQualified, empty] at qualified
    cases qualified
  have label : ∀ label ∈ Text.split (· = '.') (Text.dropEndDot name),
      isHostLabel label = true ↔ label.byteLength ≤ 63 := by
    intro label member
    obtain ⟨filled, each⟩ := visible label member
    simp [isHostLabel, filled, List.all_eq_true.mpr each]
  simp only [isHostName, FitsQuestion, Bool.and_eq_true, decide_eq_true_eq, List.all_eq_true]
  constructor
  · rintro ⟨⟨-, short⟩, each⟩
    exact ⟨short, fun other member => (label other member).mp (each other member)⟩
  · rintro ⟨short, each⟩
    exact ⟨⟨filled, short⟩, fun other member => (label other member).mpr (each other member)⟩

/-- A question about a fully qualified name can be asked exactly if the name fits; the types
of records that are asked of any text do without. -/
theorem make_of_isFullyQualified {name : Text} (qualified : isFullyQualified name = true)
    (type : Dns.RecordType) :
    Dns.Question.make name type =
      if type.needsHostName = true → FitsQuestion name then .ok ⟨name, type⟩
      else .error (.notAHostName name) := by
  unfold Dns.Question.make
  cases needs : type.needsHostName with
  | false => simp
  | true =>
      by_cases fits : FitsQuestion name
      · simp [fits, (isHostName_iff_fitsQuestion qualified).mpr fits]
      · have refused : isHostName name = false :=
          Bool.eq_false_iff.mpr fun host => fits ((isHostName_iff_fitsQuestion qualified).mp host)
        simp [fits, refused]

end SenderPolicy.Domain
