import SenderPolicy.Record.Parser

/-!
# Modifiers of a record

Reading a record turns down a modifier that excludes an earlier one. So no two modifiers of a
record exclude each other: at most one redirects, and at most one explains.
-/

namespace SenderPolicy

/-- No two modifiers exclude each other. -/
abbrev Modifier.Compatible (modifiers : List Modifier) : Prop :=
  modifiers.Pairwise fun earlier later => later.excludes earlier = false

namespace Record

/-- A term is put in front of what the others give. -/
theorem exists_of_map_addFirst {term : Term} {outcome : Except Failure Record} {record : Record}
    (reads : outcome.map (addFirst · term) = .ok record) :
    ∃ others, outcome = .ok others ∧ record = addFirst others term := by
  cases outcome with
  | error failure => contradiction
  | ok others =>
      cases reads
      exact ⟨others, rfl, rfl⟩

theorem compatible_of_readTerms {earlier : List Modifier} {texts : List Text} {record : Record}
    (reads : readTerms earlier texts = .ok record) :
    Modifier.Compatible record.modifiers
      ∧ ∀ modifier ∈ record.modifiers, earlier.any modifier.excludes = false := by
  induction texts generalizing earlier record with
  | nil =>
      cases reads
      exact ⟨.nil, fun _ member => nomatch member⟩
  | cons text texts inductionHypothesis =>
      unfold readTerms at reads
      split at reads
      · contradiction
      · obtain ⟨others, rest, rfl⟩ := exists_of_map_addFirst reads
        have kept := inductionHypothesis rest
        exact kept
      · rename_i modifier _
        split at reads
        · contradiction
        · rename_i fresh
          obtain ⟨others, rest, rfl⟩ := exists_of_map_addFirst reads
          obtain ⟨compatible, apart⟩ := inductionHypothesis rest
          simp only [List.any_cons, Bool.or_eq_false_iff] at apart
          refine ⟨List.pairwise_cons.mpr ⟨fun other member => (apart other member).1,
            compatible⟩, ?_⟩
          intro other member
          cases member with
          | head => simpa using fresh
          | tail _ later => exact (apart other later).2

/-- No two modifiers of a record exclude each other. -/
theorem compatible_of_read {text : Text} {record : Record} (reads : read text = .ok record) :
    Modifier.Compatible record.modifiers := by
  simp only [read] at reads
  split at reads
  · contradiction
  · split at reads
    · exact (compatible_of_readTerms reads).1
    · contradiction

end Record

end SenderPolicy
