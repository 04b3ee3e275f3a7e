import SenderPolicy.Proofs.Check.Budget.Tasks

/-!
# Answers pay for their questions

Whatever an answer is, the price of its question was put aside when it was asked, with enough for
the questions that the answer leads to.
-/

namespace SenderPolicy.Check

section
variable {tariff : Tariff} {environment : Environment} {state : State} {price budget : Nat}

theorem receiveRecords_affords {next : Option Text → Reaction} (answer : Dns.Answer)
    (compatible : state.Compatible)
    (affords : state.budget tariff environment.recordLimit + price ≤ budget)
    (each : ∀ found, (next found).Affords tariff environment price budget) :
    (receiveRecords answer state next).Affords tariff environment price budget := by
  unfold receiveRecords
  split
  · exact ⟨compatible, affords⟩
  · split
    · exact ⟨compatible, affords⟩
    · exact each _

theorem keepRecordText_affords (found : Option Text) (compatible : state.Compatible)
    (affords : state.budget tariff environment.recordLimit + price ≤ budget) :
    (Reaction.proceed (keepRecordText found state)).Affords tariff environment price budget := by
  unfold keepRecordText
  split
  · refine ⟨?_, affords⟩
    intro policy found
    cases found
  · exact ⟨compatible, affords⟩

theorem askExchangerAddresses_affords (lengths : PrefixLengths) (hosts : List Text)
    (compatible : state.Compatible)
    (affords : state.budget tariff environment.recordLimit + tariff.question * hosts.length + price
      ≤ budget) :
    (askExchangerAddresses lengths hosts state).Affords tariff environment price budget := by
  have within : state.budget tariff environment.recordLimit + price ≤ budget := by omega
  unfold askExchangerAddresses
  split
  · exact ⟨compatible, within⟩
  · split
    · exact ⟨compatible, within⟩
    · rename_i found
      have fewer := question_pending_le tariff.question found
      exact ask_affords rfl compatible (by simp only [Awaiting.questionLimit]; omega)

theorem askHostAddresses_affords (target : Text) (names : List Text)
    (compatible : state.Compatible)
    (affords : state.budget tariff environment.recordLimit + tariff.question * names.length + price
      ≤ budget) :
    (askHostAddresses target names state).Affords tariff environment price budget := by
  have within : state.budget tariff environment.recordLimit + price ≤ budget := by omega
  unfold askHostAddresses
  split
  · exact ⟨compatible, within⟩
  · split
    · exact ⟨compatible, within⟩
    · rename_i found
      have fewer := question_pending_le tariff.question found
      exact ask_affords rfl compatible (by simp only [Awaiting.questionLimit]; omega)

/-- While the client's domain is looked up, nothing is put aside for it. -/
theorem askClientAddresses_affords (names : List Text) (compatible : state.Compatible)
    (affords : state.workBudget tariff environment.recordLimit + tariff.question * names.length
      + price ≤ budget) :
    (askClientAddresses names state).Affords tariff environment price budget := by
  unfold askClientAddresses
  cases known : state.identity.client with
  | none =>
      have nothing : state.clientBudget tariff environment.recordLimit = 0 := by
        simp [State.clientBudget, known]
      refine ⟨compatible, ?_⟩
      rw [State.budget, nothing]
      omega
  | some client =>
      simp only
      split
      · refine ⟨compatible, ?_⟩
        show state.workBudget tariff environment.recordLimit + 0 + price ≤ budget
        omega
      · rename_i found
        have fewer := question_pending_le tariff.question found
        refine ⟨compatible, ?_⟩
        show state.workBudget tariff environment.recordLimit + 0 + tariff.question * _ + 0 + price
          ≤ budget
        simp only [Awaiting.questionLimit]
        omega

/-- No more names are asked about than the limit allows. -/
theorem length_names_le (limit : Nat) (names : List Text) :
    ((names.take limit).map Text.dropEndDots).length ≤ limit := by
  rw [List.length_map, List.length_take]
  exact Nat.min_le_left limit names.length

/-- Questions about that many names and one more. -/
theorem question_names_le (price : Nat) {limit : Nat} {names : List Text}
    (few : names.length ≤ limit) : price * names.length + price ≤ price * (1 + limit) := by
  have fewer := Nat.mul_le_mul_left price few
  rw [Nat.mul_add, Nat.mul_one]
  omega

/-- An answer pays for its question from what was put aside for it. -/
theorem receive_affords (answer : Dns.Answer) (awaiting : Awaiting)
    (other : awaiting.findsClient = false) (compatible : state.Compatible) :
    (receive environment answer state awaiting).Affords tariff environment tariff.question
      (state.budget tariff environment.recordLimit
        + tariff.question * awaiting.questionLimit environment.recordLimit) := by
  have paid : state.budget tariff environment.recordLimit + tariff.question
      ≤ state.budget tariff environment.recordLimit
        + tariff.question * awaiting.questionLimit environment.recordLimit := by
    have positive : 1 ≤ awaiting.questionLimit environment.recordLimit := by
      cases awaiting <;> simp only [Awaiting.questionLimit] <;> omega
    have cost := Nat.mul_le_mul_left tariff.question positive
    omega
  cases awaiting with
  | spfRecords =>
      apply receiveRecords_affords answer compatible paid
      intro found
      cases found with
      | some text => exact keepRecordText_affords (some text) compatible paid
      | none =>
          apply askRecords_affords .txt rfl compatible
          simp only [Awaiting.questionLimit]
          omega
  | txtRecords =>
      apply receiveRecords_affords answer compatible paid
      intro found
      exact keepRecordText_affords found compatible paid
  | strictSpfRecords =>
      apply receiveRecords_affords answer compatible paid
      intro found
      apply ask_affords rfl compatible
      simp only [Awaiting.questionLimit]
      omega
  | strictTxtRecords spf =>
      apply receiveRecords_affords answer compatible paid
      intro found
      split
      · exact ⟨compatible, paid⟩
      · exact keepRecordText_affords _ compatible paid
  | addresses lengths =>
      simp only [receive, receiveAddresses]
      split
      · exact ⟨compatible, paid⟩
      · cases state.identity.client with
        | none => exact ⟨compatible, paid⟩
        | some client => exact ⟨compatible, paid⟩
  | exchangers lengths =>
      simp only [receive, receiveExchangers]
      split
      · exact ⟨compatible, paid⟩
      · rename_i hosts
        split
        · exact ⟨compatible, paid⟩
        · rename_i few
          have few : (hosts.map Text.dropEndDots).length ≤ environment.recordLimit := by
            rw [List.length_map]
            omega
          have cost := question_names_le tariff.question few
          apply askExchangerAddresses_affords lengths _ compatible
          simp only [Awaiting.questionLimit]
          omega
  | exchangerAddresses lengths pending =>
      have cost := question_names_le tariff.question (Nat.le_refl pending.length)
      simp only [receive, receiveExchangerAddresses]
      split
      · exact ⟨compatible, paid⟩
      · cases state.identity.client with
        | none => exact ⟨compatible, paid⟩
        | some client =>
            simp only
            split
            · exact ⟨compatible, paid⟩
            · apply askExchangerAddresses_affords lengths _ compatible
              simp only [Awaiting.questionLimit]
              omega
  | hostNames target =>
      simp only [receive, receiveHostNames]
      split
      · exact ⟨compatible, paid⟩
      · rename_i names
        have cost := question_names_le tariff.question
          (length_names_le environment.recordLimit names)
        apply askHostAddresses_affords target _ compatible
        simp only [Awaiting.questionLimit]
        omega
  | hostAddresses target candidate pending =>
      have cost := question_names_le tariff.question (Nat.le_refl pending.length)
      have rest : (askHostAddresses target pending state).Affords tariff environment
          tariff.question (state.budget tariff environment.recordLimit
            + tariff.question * (1 + pending.length)) :=
        askHostAddresses_affords target _ compatible (by omega)
      simp only [receive, receiveHostAddresses]
      split
      · exact rest
      · cases state.identity.client with
        | none => exact ⟨compatible, paid⟩
        | some client =>
            simp only
            split
            · exact ⟨compatible, paid⟩
            · exact rest
  | existence =>
      simp only [receive, receiveExistence]
      split
      · exact ⟨compatible, paid⟩
      · exact ⟨compatible, paid⟩
  | explanationTexts =>
      simp only [receive, receiveExplanationTexts]
      split
      · exact prepareExplanation_affords _ compatible paid
      · exact ⟨compatible, paid⟩
  | clientNames => contradiction
  | clientAddresses candidate pending => contradiction

/-- So does an answer that is needed to find the client's domain. -/
theorem receive_client_affords (answer : Dns.Answer) (awaiting : Awaiting)
    (finds : awaiting.findsClient = true) (compatible : state.Compatible) :
    (receive environment answer state awaiting).Affords tariff environment tariff.question
      (state.workBudget tariff environment.recordLimit
        + tariff.question * awaiting.questionLimit environment.recordLimit) := by
  -- Once the domain is settled, nothing more is put aside for it.
  have settled (name : Text) {length : Nat} : (setClientDomain name state).Affords tariff
      environment tariff.question (state.workBudget tariff environment.recordLimit
        + tariff.question * (1 + length)) := by
    have cost := Nat.mul_le_mul_left tariff.question (Nat.le_add_right 1 length)
    refine ⟨compatible, ?_⟩
    show state.workBudget tariff environment.recordLimit + 0 + tariff.question ≤ _
    omega
  cases awaiting with
  | clientNames =>
      simp only [receive, receiveClientNames]
      split
      · exact settled _
      · rename_i names
        have cost := question_names_le tariff.question
          (length_names_le environment.recordLimit names)
        apply askClientAddresses_affords _ compatible
        simp only [Awaiting.questionLimit]
        omega
  | clientAddresses candidate pending =>
      have cost := question_names_le tariff.question (Nat.le_refl pending.length)
      have rest : (askClientAddresses pending state).Affords tariff environment
          tariff.question (state.workBudget tariff environment.recordLimit
            + tariff.question * (1 + pending.length)) :=
        askClientAddresses_affords _ compatible (by omega)
      simp only [receive, receiveClientAddresses]
      split
      · exact rest
      · cases known : state.identity.client with
        | none =>
            have nothing : state.clientBudget tariff environment.recordLimit = 0 := by
              simp [State.clientBudget, known]
            refine ⟨compatible, ?_⟩
            rw [State.budget, nothing]
            simp only [Awaiting.questionLimit]
            omega
        | some client =>
            simp only
            split
            · exact settled _
            · exact rest
  | _ => contradiction

end

end SenderPolicy.Check
