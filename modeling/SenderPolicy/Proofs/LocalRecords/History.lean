import Mathlib.Data.List.Induction
import SenderPolicy.LocalRecords
import SenderPolicy.Proofs.Text.Trimming

/-!
# What calls leave in local records

Local records are added, removed and looked up by calls. What is kept under a name after a row of
calls is said by the row itself: it is the record of the last accepted addition under the name,
unless a removal under the name has followed.
-/

namespace SenderPolicy

/-- A record is read from its text without blanks at the ends as well. -/
theorem Record.read_trim {text : Text} {record : Record} (reads : Record.read text = .ok record) :
    Record.read text.trim = .ok record := by
  simp only [Record.read, Text.trim_trim] at reads ⊢
  split at reads
  · cases reads
  · rename_i unfinished
    split at reads
    · rename_i opens
      rw [if_neg unfinished, if_pos opens, reads]
    · cases reads

namespace LocalRecords

/-! ## Calls -/

/-- What local records are asked to do. -/
inductive Call where
  | add (host text : Text)
  | remove (host : Text)
  | find (domain : Text)
deriving DecidableEq

/-- What a call gives back. -/
inductive Reply where
  | added
  | rejected (failure : Failure)
  | removed (text : Option Text)
  | found (text : Option Text)
deriving DecidableEq

/-- The records after a call, and its reply. -/
def answer (records : LocalRecords) : Call → LocalRecords × Reply
  | .add host text =>
      match records.add host text with
      | .error failure => (records, .rejected failure)
      | .ok after => (after, .added)
  | .remove host => ((records.remove host).1, .removed (records.remove host).2)
  | .find domain => (records, .found (records.find? domain))

/-- The records after a row of calls that begins with none kept. -/
def ofCalls (calls : List Call) : LocalRecords :=
  calls.foldl (fun records call => (records.answer call).1) {}

@[simp] theorem ofCalls_concat (calls : List Call) (call : Call) :
    ofCalls (calls ++ [call]) = ((ofCalls calls).answer call).1 := by
  rw [ofCalls, List.foldl_append]
  rfl

/-! ## The text kept under a name -/

/-- The call settles what is kept under a name: it puts a record there or gives up what is
there. -/
inductive Call.Settles (name : Text) : Call → Prop where
  | add {host text : Text} {record : Record} (same : Domain.normal host = name)
      (reads : Record.read text = .ok record) : Settles name (.add host text)
  | remove {host : Text} (same : Domain.normal host = name) : Settles name (.remove host)

/-- A text stands under a name after a row of calls: it comes from the last of them that settles
what is kept there. -/
inductive Stands : List Call → Text → Text → Prop where
  | intro {earlier later : List Call} {host text : Text} {record : Record}
      (reads : Record.read text = .ok record)
      (latest : ∀ call ∈ later, ¬ call.Settles (Domain.normal host)) :
      Stands (earlier ++ .add host text :: later) (Domain.normal host) text.trim

/-- What stands after one more call has just been put there, or stood before and is not settled
anew. -/
theorem stands_concat_iff {calls : List Call} {call : Call} {name kept : Text} :
    Stands (calls ++ [call]) name kept
      ↔ (∃ host text record, call = .add host text ∧ Record.read text = .ok record
          ∧ Domain.normal host = name ∧ text.trim = kept)
        ∨ Stands calls name kept ∧ ¬ call.Settles name := by
  constructor
  · generalize row : calls ++ [call] = whole
    rintro @⟨earlier, later, host, text, record, reads, latest⟩
    obtain rfl | ⟨between, last, rfl⟩ := List.eq_nil_or_concat later
    · obtain ⟨rfl, same⟩ := List.append_inj' row rfl
      exact .inl ⟨host, text, record, List.head_eq_of_cons_eq same, reads, rfl, rfl⟩
    · rw [List.concat_eq_append] at row latest
      rw [← List.cons_append, ← List.append_assoc] at row
      obtain ⟨rfl, same⟩ := List.append_inj' row rfl
      obtain rfl : call = last := List.head_eq_of_cons_eq same
      refine .inr ⟨.intro reads fun other member => ?_, ?_⟩
      · exact latest other (List.mem_append_left _ member)
      · exact latest call (by simp)
  · rintro (⟨host, text, record, rfl, reads, rfl, rfl⟩ | ⟨@⟨earlier, later, host, text, record,
      reads, latest⟩, unsettled⟩)
    · exact .intro reads (by simp)
    · rw [List.append_assoc, List.cons_append]
      refine .intro reads fun other member => ?_
      rcases List.mem_append.mp member with before | last
      · exact latest other before
      · rwa [List.mem_singleton.mp last]

/-- What stands under a name can be read as a record. -/
theorem Stands.reads {calls : List Call} {name kept : Text} (stands : Stands calls name kept) :
    ∃ record, Record.read kept = .ok record := by
  obtain ⟨reads, _⟩ := stands
  exact ⟨_, Record.read_trim reads⟩

/-! ## The store -/

section
variable {records : LocalRecords} {name other : Text}

theorem get?_cons {key text : Text} {entries : List (Text × Text)} :
    (⟨(key, text) :: entries⟩ : LocalRecords).get? name
      = if name = key then some text else (⟨entries⟩ : LocalRecords).get? name := by
  rw [get?, List.lookup_cons]
  by_cases here : name = key
  · rw [beq_iff_eq.mpr here, if_pos here]
  · rw [beq_eq_false_iff_ne.mpr here, if_neg here]
    rfl

theorem get?_erase :
    (records.erase name).get? other = if other = name then none else records.get? other := by
  obtain ⟨entries⟩ := records
  induction entries with
  | nil => simp [get?, erase]
  | cons entry entries inductionHypothesis =>
      obtain ⟨key, text⟩ := entry
      rw [erase] at inductionHypothesis ⊢
      by_cases gone : key = name
      · subst gone
        rw [List.filter_cons_of_neg (by simp), inductionHypothesis, get?_cons]
        by_cases same : other = key <;> simp [same]
      · rw [List.filter_cons_of_pos (by simpa using gone), get?_cons, inductionHypothesis,
          get?_cons]
        by_cases here : other = key
        · rw [if_pos here, if_pos here, if_neg fun same => gone (here ▸ same)]
        · rw [if_neg here, if_neg here]

theorem add_of_error {host text : Text} {failure : Failure}
    (reads : Record.read text = .error failure) : records.add host text = .error failure := by
  rw [add, reads]
  rfl

theorem add_of_ok {host text : Text} {record : Record} (reads : Record.read text = .ok record) :
    records.add host text
      = .ok ⟨(Domain.normal host, text.trim) :: (records.erase (Domain.normal host)).entries⟩ := by
  rw [add, reads]
  rfl

/-- One more call leaves what it puts under a name, and what stood there if it settles nothing
there. -/
theorem get?_answer (call : Call) {kept : Text} :
    (records.answer call).1.get? name = some kept
      ↔ (∃ host text record, call = .add host text ∧ Record.read text = .ok record
          ∧ Domain.normal host = name ∧ text.trim = kept)
        ∨ records.get? name = some kept ∧ ¬ call.Settles name := by
  cases call with
  | add host text =>
      cases reads : Record.read text with
      | error failure =>
          have unsettled : ¬ (Call.add host text).Settles name := by
            rintro (⟨_, readable⟩ | _)
            simp [reads] at readable
          simp [answer, add_of_error reads, unsettled, reads]
      | ok record =>
          have settled : (Call.add host text).Settles name ↔ Domain.normal host = name :=
            ⟨fun settles => by cases settles; assumption, fun same => .add same reads⟩
          simp only [answer, add_of_ok reads, get?_cons, settled]
          by_cases here : name = Domain.normal host
          · simp [here, reads]
          · have kept : (⟨(records.erase (Domain.normal host)).entries⟩ : LocalRecords).get? name
                = records.get? name := get?_erase.trans (if_neg here)
            simp [here, Ne.symm here, kept]
  | remove host =>
      have settled : (Call.remove host).Settles name ↔ Domain.normal host = name :=
        ⟨fun settles => by cases settles; assumption, .remove⟩
      simp only [answer, remove, get?_erase, settled]
      by_cases here : name = Domain.normal host
      · simp [here]
      · simp [here, Ne.symm here]
  | find domain =>
      have unsettled : ¬ (Call.find domain).Settles name := by rintro ⟨⟩
      simp [answer, unsettled]

end

/-- What the store keeps under a name after a row of calls is what stands there. -/
theorem get?_ofCalls_iff {calls : List Call} {name kept : Text} :
    (ofCalls calls).get? name = some kept ↔ Stands calls name kept := by
  induction calls using List.reverseRecOn generalizing name kept with
  | nil =>
      constructor
      · rintro ⟨⟩
      · generalize row : ([] : List Call) = whole
        rintro ⟨⟩
        simp at row
  | append_singleton calls call inductionHypothesis =>
      rw [ofCalls_concat, get?_answer, stands_concat_iff, inductionHypothesis]

theorem get?_ofCalls_eq_none_iff {calls : List Call} {name : Text} :
    (ofCalls calls).get? name = none ↔ ∀ kept, ¬ Stands calls name kept := by
  simp only [← get?_ofCalls_iff, Option.eq_none_iff_forall_ne_some, ne_eq]

end LocalRecords

end SenderPolicy
