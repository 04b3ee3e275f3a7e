import SenderPolicy.Proofs.Check.Likeness.Tasks

/-!
# Answers side by side

What becomes of an answer depends on its records, and on their order only where they are taken
one after the other: mail exchangers and host names. Of addresses it counts whether one of them
fits, and of texts whether there is exactly one. `receive_alike` says so of every answer.
-/

namespace SenderPolicy.Check.Likeness

/-! ## Records in any order -/

/-- Lists with the same elements are both empty, have the same single element, or have several
both. -/
theorem perm_cases {α : Type} {one other : List α} (same : one.Perm other) :
    one = [] ∧ other = []
      ∨ (∃ element, one = [element] ∧ other = [element])
      ∨ ∃ first second rest otherFirst otherSecond otherRest,
        one = first :: second :: rest ∧ other = otherFirst :: otherSecond :: otherRest := by
  match one, other with
  | [], _ => exact .inl ⟨rfl, same.nil_eq.symm⟩
  | [element], _ => exact .inr (.inl ⟨element, rfl, List.singleton_perm.mp same |>.symm⟩)
  | first :: second :: rest, [] => cases same.length_eq
  | first :: second :: rest, [_] => cases same.length_eq
  | first :: second :: rest, otherFirst :: otherSecond :: otherRest =>
      exact .inr (.inr ⟨_, _, _, _, _, _, rfl, rfl⟩)

theorem any_eq_of_perm {one other : List Text} (same : one.Perm other) (test : Text → Bool) :
    one.any test = other.any test := by
  rw [Bool.eq_iff_iff, List.any_eq_true, List.any_eq_true]
  simp only [same.mem_iff]

theorem matchesAny_eq_of_perm {one other : List Text} (same : one.Perm other) (client : Address)
    (lengths : PrefixLengths) : matchesAny client lengths one = matchesAny client lengths other :=
  any_eq_of_perm same _

theorem confirms_eq_of_perm {one other : List Text} (same : one.Perm other) (client : Address) :
    confirms client one = confirms client other :=
  any_eq_of_perm same _

theorem isEmpty_eq_of_perm {one other : List Text} (same : one.Perm other) :
    one.isEmpty = other.isEmpty := by
  rcases perm_cases same with ⟨rfl, rfl⟩ | ⟨_, rfl, rfl⟩ | ⟨_, _, _, _, _, _, rfl, rfl⟩ <;> rfl

/-- The one record among some texts does not depend on where it stands. -/
theorem publishedRecord_eq_of_perm {one other : List Text} (same : one.Perm other) :
    publishedRecord one = publishedRecord other := by
  unfold publishedRecord
  rcases perm_cases (same.filter Record.announcesVersion) with
    ⟨first, second⟩ | ⟨_, first, second⟩ | ⟨_, _, _, _, _, _, first, second⟩ <;>
    rw [first, second]

theorem mem_of_publishedRecord {texts : List Text} {text : Text}
    (found : publishedRecord texts = .ok (some text)) : text ∈ texts := by
  unfold publishedRecord at found
  split at found
  · cases found
  · rename_i only
    cases found
    exact List.mem_of_mem_filter (only ▸ List.mem_singleton_self text)
  · cases found

variable {likeness : Likeness} {environment : Environment} {one other : State}
  {type : Dns.RecordType} {answer otherAnswer : Dns.Answer}

section
variable (alike : likeness.AlikeStates environment one other)
  (answers : likeness.AlikeAnswers type answer otherAnswer)
include alike

/-! ## Records -/

/-- A text that is found is kept, if it is plain. -/
theorem keepRecordText_alike {found : Option Text}
    (plain : ∀ text, found = some text → likeness.plain text) :
    likeness.AlikeStates environment (keepRecordText found one) (keepRecordText found other) := by
  cases found with
  | none => exact alike
  | some text =>
      refine { alike with slot := rfl, plain := ?_ }
      rintro _ ⟨⟩
      exact plain text rfl

include answers in
theorem receiveRecords_alike (holdsText : holdsText type = true)
    {next otherNext : Option Text → Reaction}
    (nexts : ∀ found, (∀ text, found = some text → likeness.plain text) →
      likeness.AlikeReactions environment (next found) (otherNext found)) :
    likeness.AlikeReactions environment (receiveRecords answer one next)
      (receiveRecords otherAnswer other otherNext) := by
  cases answers with
  | timeout => exact .fail alike rfl
  | @records texts otherTexts same _ plain =>
      simp only [receiveRecords, ← publishedRecord_eq_of_perm same]
      cases found : publishedRecord texts with
      | error failure => exact .fail alike rfl
      | ok record =>
          refine nexts record fun text isText => ?_
          subst isText
          exact plain holdsText text (mem_of_publishedRecord found)

include answers

theorem receiveSpfRecords_alike (holdsText : holdsText type = true) :
    likeness.AlikeReactions environment (receiveSpfRecords answer one)
      (receiveSpfRecords otherAnswer other) := by
  refine receiveRecords_alike alike answers holdsText fun found plain => ?_
  cases found with
  | some text => exact .proceed (keepRecordText_alike alike plain)
  | none => exact askRecords_alike alike _ rfl

theorem receiveTxtRecords_alike (holdsText : holdsText type = true) :
    likeness.AlikeReactions environment (receiveTxtRecords answer one)
      (receiveTxtRecords otherAnswer other) :=
  receiveRecords_alike alike answers holdsText fun _ plain =>
    .proceed (keepRecordText_alike alike plain)

theorem receiveStrictSpfRecords_alike (holdsText : holdsText type = true) :
    likeness.AlikeReactions environment (receiveStrictSpfRecords answer one)
      (receiveStrictSpfRecords otherAnswer other) :=
  receiveRecords_alike alike answers holdsText fun _ plain =>
    .ask alike ⟨⟨alike.domain, rfl⟩, .same ⟨rfl, plain⟩⟩

theorem receiveStrictTxtRecords_alike (holdsText : holdsText type = true) {spf : Option Text}
    (plainSpf : ∀ text, spf = some text → likeness.plain text) :
    likeness.AlikeReactions environment (receiveStrictTxtRecords spf answer one)
      (receiveStrictTxtRecords spf otherAnswer other) := by
  refine receiveRecords_alike alike answers holdsText fun txt plain => ?_
  split
  · exact .fail alike rfl
  · refine .proceed (keepRecordText_alike alike fun text isText => ?_)
    cases spf with
    | none => exact plain text isText
    | some first => exact plainSpf text isText

/-! ## Addresses -/

theorem receiveAddresses_alike (lengths : PrefixLengths) :
    likeness.AlikeReactions environment (receiveAddresses lengths answer one)
      (receiveAddresses lengths otherAnswer other) := by
  cases answers with
  | timeout => exact .fail alike rfl
  | records same =>
      simp only [receiveAddresses, alike.client]
      split
      · exact .fail alike rfl
      · rw [matchesAny_eq_of_perm same]
        exact setMatched_alike alike _

theorem receiveExistence_alike :
    likeness.AlikeReactions environment (receiveExistence answer one)
      (receiveExistence otherAnswer other) := by
  cases answers with
  | timeout => exact .fail alike rfl
  | records same =>
      simp only [receiveExistence, isEmpty_eq_of_perm same]
      exact setMatched_alike alike _

end

section
variable (holds : likeness.Holds environment) (alike : likeness.AlikeStates environment one other)
include holds alike

theorem askExchangerAddresses_alike (lengths : PrefixLengths) (hosts : List Text) :
    likeness.AlikeReactions environment (askExchangerAddresses lengths hosts one)
      (askExchangerAddresses lengths hosts other) := by
  simp only [askExchangerAddresses, alike.client]
  split
  · exact .fail alike rfl
  · split
    · exact setMatched_alike alike _
    · exact .ask alike ⟨alikeQuestions_refl holds _, .same trivial⟩

theorem askHostAddresses_alike {target otherTarget : Text}
    (targets : likeness.names target otherTarget) (names : List Text) :
    likeness.AlikeReactions environment (askHostAddresses target names one)
      (askHostAddresses otherTarget names other) := by
  simp only [askHostAddresses, alike.client]
  split
  · exact .fail alike rfl
  · split
    · exact setMatched_alike alike _
    · exact .ask alike ⟨alikeQuestions_refl holds _, .hostAddresses targets⟩

theorem askClientAddresses_alike (names : List Text) :
    likeness.AlikeReactions environment (askClientAddresses names one)
      (askClientAddresses names other) := by
  simp only [askClientAddresses, alike.client]
  split
  · exact .fail alike rfl
  · split
    · exact .proceed { alike with clientDomain := rfl }
    · exact .ask alike ⟨alikeQuestions_refl holds _, .same trivial⟩

variable (answers : likeness.AlikeAnswers type answer otherAnswer)
include answers

theorem receiveExchangers_alike (ordered : keepsOrder type = true) (lengths : PrefixLengths) :
    likeness.AlikeReactions environment (receiveExchangers environment lengths answer one)
      (receiveExchangers environment lengths otherAnswer other) := by
  cases answers with
  | timeout => exact .fail alike rfl
  | records _ inOrder =>
      obtain rfl := inOrder ordered
      simp only [receiveExchangers]
      split
      · exact .fail alike rfl
      · exact askExchangerAddresses_alike holds alike lengths _

theorem receiveExchangerAddresses_alike (lengths : PrefixLengths) (pending : List Text) :
    likeness.AlikeReactions environment (receiveExchangerAddresses lengths pending answer one)
      (receiveExchangerAddresses lengths pending otherAnswer other) := by
  cases answers with
  | timeout => exact .fail alike rfl
  | records same =>
      simp only [receiveExchangerAddresses, alike.client]
      split
      · exact .fail alike rfl
      · rw [matchesAny_eq_of_perm same]
        split
        · exact setMatched_alike alike _
        · exact askExchangerAddresses_alike holds alike lengths pending

theorem receiveHostNames_alike (ordered : keepsOrder type = true) {target otherTarget : Text}
    (targets : likeness.names target otherTarget) :
    likeness.AlikeReactions environment (receiveHostNames environment target answer one)
      (receiveHostNames environment otherTarget otherAnswer other) := by
  cases answers with
  | timeout => exact setMatched_alike alike _
  | records _ inOrder =>
      obtain rfl := inOrder ordered
      exact askHostAddresses_alike holds alike targets _

theorem receiveHostAddresses_alike {target otherTarget : Text}
    (targets : likeness.names target otherTarget) (candidate : Text) (pending : List Text) :
    likeness.AlikeReactions environment (receiveHostAddresses target candidate pending answer one)
      (receiveHostAddresses otherTarget candidate pending otherAnswer other) := by
  cases answers with
  | timeout => exact askHostAddresses_alike holds alike targets pending
  | records same =>
      simp only [receiveHostAddresses, alike.client]
      split
      · exact .fail alike rfl
      · rw [confirms_eq_of_perm same, holds.isWithin targets]
        split
        · exact setMatched_alike alike _
        · exact askHostAddresses_alike holds alike targets pending

theorem receiveExplanationTexts_alike :
    likeness.AlikeReactions environment (receiveExplanationTexts environment answer one)
      (receiveExplanationTexts environment otherAnswer other) := by
  cases answers with
  | timeout => exact .proceed alike
  | records same =>
      rcases perm_cases same with
        ⟨rfl, rfl⟩ | ⟨text, rfl, rfl⟩ | ⟨_, _, _, _, _, _, rfl, rfl⟩
      · exact .proceed alike
      · exact prepareExplanation_alike holds alike text
      · exact .proceed alike

theorem receiveClientNames_alike (ordered : keepsOrder type = true) :
    likeness.AlikeReactions environment (receiveClientNames environment answer one)
      (receiveClientNames environment otherAnswer other) := by
  cases answers with
  | timeout => exact .proceed { alike with clientDomain := rfl }
  | records _ inOrder =>
      obtain rfl := inOrder ordered
      exact askClientAddresses_alike holds alike _

theorem receiveClientAddresses_alike (candidate : Text) (pending : List Text) :
    likeness.AlikeReactions environment (receiveClientAddresses candidate pending answer one)
      (receiveClientAddresses candidate pending otherAnswer other) := by
  cases answers with
  | timeout => exact askClientAddresses_alike holds alike pending
  | records same =>
      simp only [receiveClientAddresses, alike.client]
      split
      · exact .fail alike rfl
      · rw [confirms_eq_of_perm same]
        split
        · exact .proceed { alike with clientDomain := rfl }
        · exact askClientAddresses_alike holds alike pending

/-- Answers alike to questions alike lead to reactions alike. -/
theorem receive_alike {awaiting otherAwaiting : Awaiting}
    (awaitings : likeness.AlikeAwaiting type awaiting otherAwaiting) :
    likeness.AlikeReactions environment (receive environment answer one awaiting)
      (receive environment otherAnswer other otherAwaiting) := by
  cases awaitings with
  | hostNames targets ordered => exact receiveHostNames_alike holds alike answers ordered targets
  | hostAddresses targets => exact receiveHostAddresses_alike holds alike answers targets _ _
  | same fits =>
      cases awaiting with
      | spfRecords => exact receiveSpfRecords_alike alike answers fits
      | txtRecords => exact receiveTxtRecords_alike alike answers fits
      | strictSpfRecords => exact receiveStrictSpfRecords_alike alike answers fits
      | strictTxtRecords spf => exact receiveStrictTxtRecords_alike alike answers fits.1 fits.2
      | addresses lengths => exact receiveAddresses_alike alike answers lengths
      | exchangers lengths => exact receiveExchangers_alike holds alike answers fits lengths
      | exchangerAddresses lengths pending =>
          exact receiveExchangerAddresses_alike holds alike answers lengths pending
      | hostNames target => exact receiveHostNames_alike holds alike answers fits (holds.refl _)
      | hostAddresses target candidate pending =>
          exact receiveHostAddresses_alike holds alike answers (holds.refl _) candidate pending
      | existence => exact receiveExistence_alike alike answers
      | explanationTexts => exact receiveExplanationTexts_alike holds alike answers
      | clientNames => exact receiveClientNames_alike holds alike answers fits
      | clientAddresses candidate pending =>
          exact receiveClientAddresses_alike holds alike answers candidate pending

end

end SenderPolicy.Check.Likeness
