import SenderPolicy.Proofs.Macro.Failures
import SenderPolicy.Proofs.Record.Failures

/-!
# Ordinary failures and how failures are worded

Some wordings would say that a check is at odds with itself: a record that is evaluated before
it has been read, a term that has been recognised but is of no known kind or lacks a part, a
cell that has been recognised but is empty, a text that cannot be expanded although it has been
prepared, or one that one reader of domain specifications accepts and another turns down.
Ordinary failures are those by records, cells, answers and limits, and none of them is worded
like that.
-/

namespace SenderPolicy

namespace Failure

/-- How the wordings begin that say that a check is at odds with itself. -/
def internalOpenings : List Text :=
  ["No parsed SPF record to evaluate".toList, "No valid client address".toList,
    "Unable to expand".toList, "Invalid DomainSpec".toList, "Unknown term".toList,
    "Unknown modifier".toList, "Unknown mechanism".toList, "Invalid qualifier".toList,
    "Missing domain".toList, "Not an IPv4 address".toList, "Empty macro cell".toList,
    "Unknown command".toList]

/-- How the wordings begin that say that macro text is not made up of tokens. -/
def unreadableOpenings : List Text :=
  ["Middle part does not match".toList, "End part does not match".toList]

/-- The wording of the failure begins in one of these ways. -/
def beginsWith (openings : List Text) (failure : Failure) : Bool :=
  openings.any fun opening => opening.isPrefixOf failure.message

/-- The failures by records, cells, answers and limits. -/
inductive IsOrdinary : Failure → Prop where
  | ofTerm {failure : Failure} (ofTerm : failure.IsOfTerm) : IsOrdinary failure
  | ofCell {failure : Failure} (ofCell : failure.IsOfCell) : IsOrdinary failure
  | notARecord (text : Text) : IsOrdinary (.notARecord text)
  | emptyRecord : IsOrdinary .emptyRecord
  | tooManyLookups (count : Nat) : IsOrdinary (.tooManyLookups count)
  | tooManyExchangers (limit : Nat) : IsOrdinary (.tooManyExchangers limit)
  | severalRecords : IsOrdinary .severalRecords
  | recordsDiffer : IsOrdinary .recordsDiffer
  | notFullyQualified (domain : Text) : IsOrdinary (.notFullyQualified domain)
  | noRecordFound (domain : Text) : IsOrdinary (.noRecordFound domain)
  | redirectWithoutRecord (cause : Failure) : IsOrdinary (.redirectWithoutRecord cause)
  | recordUnanswered (domain : Text) : IsOrdinary (.recordUnanswered domain)
  | unanswered (reason : Text) : IsOrdinary (.unanswered reason)

/-- A text is turned down as a record by an ordinary failure. -/
theorem isOrdinary_of_read {text : Text} {failure : Failure}
    (failed : Record.read text = .error failure) : failure.IsOrdinary := by
  rcases Record.failure_of_read failed with ofTerm | rfl | rfl
  · exact .ofTerm ofTerm
  · exact .emptyRecord
  · exact .notARecord _

/-- Ordinary failures, and those of text that is not made up of tokens. -/
def IsExpected (failure : Failure) : Prop :=
  failure.IsOrdinary ∨ failure.IsUnreadable

/-! ## Wordings -/

/-- Letter case apart, there are two wordings for reserved names, and they begin in their own
ways. -/
theorem beginsWith_reservedModifier {name : Text}
    (reserved : Text.lower name ∈ Record.reservedNames) :
    beginsWith internalOpenings (.reservedModifier name) = false := by
  have apart : ∀ opening ∈ internalOpenings, ∀ lowered ∈ Record.reservedNames,
      ¬ Text.lower opening <+: Text.lower "Invalid ".toList ++ lowered
        ++ Text.lower " modifier".toList := by
    decide +kernel
  rw [Failure.beginsWith, List.any_eq_false]
  intro opening member begins
  have wording : message (.reservedModifier name)
      = "Invalid ".toList ++ name ++ " modifier".toList := rfl
  rw [wording, List.isPrefixOf_iff_prefix] at begins
  have lowered := begins.map Char.toLower
  rw [List.map_append, List.map_append] at lowered
  exact apart opening member _ reserved lowered

theorem IsOfTerm.beginsWith {failure : Failure} (ofTerm : failure.IsOfTerm) :
    failure.beginsWith internalOpenings = false
      ∧ failure.beginsWith unreadableOpenings = false := by
  cases ofTerm with
  | reservedModifier reserved => exact ⟨beginsWith_reservedModifier reserved, rfl⟩
  | prefixLength family text => cases family <;> exact ⟨rfl, rfl⟩
  | _ => exact ⟨rfl, rfl⟩

theorem IsOfCell.beginsWith {failure : Failure} (ofCell : failure.IsOfCell) :
    failure.beginsWith internalOpenings = false
      ∧ failure.beginsWith unreadableOpenings = false := by
  cases ofCell <;> exact ⟨rfl, rfl⟩

theorem IsOrdinary.beginsWith {failure : Failure} (ordinary : failure.IsOrdinary) :
    failure.beginsWith internalOpenings = false
      ∧ failure.beginsWith unreadableOpenings = false := by
  cases ordinary with
  | ofTerm ofTerm => exact ofTerm.beginsWith
  | ofCell ofCell => exact ofCell.beginsWith
  | _ => exact ⟨rfl, rfl⟩

theorem IsExpected.beginsWith {failure : Failure} (expected : failure.IsExpected) :
    failure.beginsWith internalOpenings = false := by
  rcases expected with ordinary | unreadable
  · exact ordinary.beginsWith.1
  · cases unreadable <;> rfl

end Failure

end SenderPolicy
