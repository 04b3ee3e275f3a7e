import SenderPolicy.Proofs.Check.Realization.Rules
import SenderPolicy.Proofs.Check.Terms
import SenderPolicy.Proofs.Macro.Values

/-!
# Terms carry out their evaluation

The turns of one term: walks through host names, the lookup of the client's domain, the
expansion of a domain specification, and the mechanisms that ask the DNS. An include and a
redirect are carried out if the evaluation of their domain is.
-/

namespace SenderPolicy.Direct

open SenderPolicy.Check
open Evaluation

section
variable {setting : Setting} {level : Level} {α β : Type} {below : List Task}
  {done : β → Ledger → State → Prop} {ledger : Ledger}

/-! ## Walks -/

/-- The reactions of a walk through host names, which ends by an update of the state. -/
structure Walks (setting : Setting) (decides : Text → Dns.Answer → Except Failure (Option α))
    (finish : α → State → State) (otherwise : α) (awaiting : Text → List Text → Awaiting)
    (begin : List Text → State → Reaction) : Prop where
  begins : ∀ names state, state.identity.client = some setting.client →
    begin names state
      = match nextQuestion? (.ofFamily setting.client.family) names with
        | none => .proceed (finish otherwise state)
        | some (name, question, rest) => .ask state ⟨question, awaiting name rest⟩
  receives : ∀ name rest answer state, state.identity.client = some setting.client →
    receive setting.environment answer state (awaiting name rest)
      = match decides name answer with
        | .error failure => .fail state failure
        | .ok (some value) => .proceed (finish value state)
        | .ok none => begin rest state

/-- The turns of a walk carry it out. -/
theorem Walks.realizes {decides : Text → Dns.Answer → Except Failure (Option α)}
    {finish : α → State → State} {otherwise : α} {awaiting : Text → List Text → Awaiting}
    {begin : List Text → State → Reaction} {state : State} {next : α → Evaluation β}
    (walks : Walks setting decides finish otherwise awaiting begin)
    (clear : Clear state.tasks below) (carries : Carries setting level ledger state)
    (continues : ∀ value questions, Realizes setting level below done
      (.running (finish value state)) (next value) { ledger with questions })
    (names : List Text) :
    Realizes setting level below done (begin names state).settle.position
      (walk setting decides otherwise names >>= next) ledger := by
  induction names generalizing ledger with
  | nil =>
      rw [walks.begins [] state carries.client]
      exact continues otherwise ledger.questions
  | cons name names inductionHypothesis =>
      rw [walks.begins _ state carries.client, walk, nextQuestion?]
      cases Dns.Question.make name (.ofFamily setting.client.family) with
      | error failure =>
          have skipped := inductionHypothesis carries continues
          rw [walks.begins _ state carries.client] at skipped
          exact skipped
      | ok question =>
          simp only [bind_assoc]
          apply realizes_ask clear.guardExplanation_notMem
          rw [walks.receives _ _ _ _ carries.client]
          cases decides name (setting.zone question) with
          | error failure => exact realizes_fail rfl rfl clear (carries.asked _)
          | ok decision =>
              cases decision with
              | some value => exact continues value _
              | none => exact inductionHypothesis (carries.asked _) continues

/-! ## The client's domain -/

theorem walks_clientAddresses :
    Walks setting (confirmedName setting)
      (fun name state => { state with clientDomain := some name }) Macro.unknownName
      .clientAddresses askClientAddresses where
  begins names state known := by
    unfold askClientAddresses
    rw [known]
    rfl
  receives name rest answer state known := by
    simp only [receive, receiveClientAddresses]
    cases answer with
    | timeout note => rfl
    | records records =>
        rw [known]
        simp only [confirmedName]
        split <;> rfl

/-- The answers to the question for the client's host names lead to its domain. -/
theorem realizes_learnClientDomain {state : State} {next : Unit → Evaluation β}
    (clear : Clear state.tasks below) (carries : Carries setting level ledger state)
    (continues : ∀ name questions, Realizes setting level below done
      (.running { state with clientDomain := some name }) (next ())
      { ledger with clientDomain := some name, questions }) :
    Realizes setting level below done
      (.waiting state ⟨⟨setting.client.reverseName, .ptr⟩, .clientNames⟩)
      (learnClientDomain setting >>= next) ledger := by
  unfold learnClientDomain
  simp only [bind_assoc]
  apply realizes_ask clear.guardExplanation_notMem
  have continued : ∀ name questions, Realizes setting level below done
      (.running { state with clientDomain := some name })
      ((modify fun ledger => { ledger with clientDomain := some name } : Evaluation Unit) >>= next)
      { ledger with questions } := by
    intro name questions
    exact .silently rfl rfl (continues name questions)
  simp only [receive, receiveClientNames]
  cases setting.zone ⟨setting.client.reverseName, .ptr⟩ with
  | timeout note => exact continued _ _
  | records names =>
      simp only [bind_assoc]
      apply walks_clientAddresses.realizes clear (carries.asked _)
      intro name questions
      exact continued name questions

/-! ## Domain specifications -/

/-- A state expands a domain specification as the evaluation does. -/
theorem Stands.expand_eq {domain : Text} {verdict : Option Qualifier}
    {state : State} (stands : Stands setting level ledger domain verdict state)
    (spec : Text) :
    state.expand setting.environment .domain spec
      = Macro.expand setting.environment.localNames .domain
        (values setting domain ledger.clientDomain) spec := by
  have same : state.values setting.environment
      = { values setting domain ledger.clientDomain with receiver := state.receiver } := by
    simp only [State.values, values, stands.identity, stands.domain, stands.clientDomain]
  rw [State.expand, same, Macro.expand_domain_receiver]

/-- The host that a state finds is the one that the evaluation finds. -/
theorem hostOf_expand (environment : Environment) (state : State) (spec : Text) :
    hostOf spec (state.expand environment .domain spec)
      = MonadExcept.ofExcept (state.targetHost environment (some spec)) := by
  simp only [State.targetHost]
  cases state.expand environment .domain spec with
  | ok host => rfl
  | error obstacle => cases obstacle <;> rfl

/-- The turns that prepare an expansion carry it out, up to the host that is found. -/
theorem realizes_expandSpec {state : State} {spec domain : Text} {verdict : Option Qualifier}
    {next : Text → Evaluation β} (clear : Clear state.tasks below)
    (stands : Stands setting level ledger domain verdict state)
    (continues : ∀ after later, after.tasks = state.tasks → later.lookups = ledger.lookups →
      Stands setting level later domain verdict after →
      Realizes setting level below done (.running after)
        (MonadExcept.ofExcept (after.targetHost setting.environment (some spec)) >>= next)
        later) :
    Realizes setting level below done
      (state.prepareExpansion setting.environment .domain spec).settle.position
      (expandSpec setting domain spec >>= next) ledger := by
  have after : Stands setting level ledger domain verdict
      (state.afterExpansion setting.environment .domain spec) := stands.update _ _ _ _
  have expanded := stands.expand_eq spec
  unfold State.prepareExpansion expandSpec
  rw [bind_assoc]
  have runs : (expansion setting domain spec).runFrom ledger
      = (.ok (state.expand setting.environment .domain spec), ledger) := by
    rw [expanded]
    rfl
  apply Realizes.silently runs rfl
  cases found : state.expand setting.environment .domain spec with
  | ok host =>
      have continued := continues (state.afterExpansion setting.environment .domain spec) ledger
        rfl rfl after
      rw [← hostOf_expand, after.expand_eq, ← expanded, found] at continued
      exact continued
  | error obstacle =>
      cases obstacle with
      | failure failure => exact realizes_fail rfl rfl clear after.toCarries
      | clientDomainUnknown =>
          simp only [stands.client, bind_assoc]
          have cleared : Clear
              (state.afterExpansion setting.environment .domain spec).tasks below := clear
          apply realizes_learnClientDomain cleared after.toCarries
          intro name questions
          have learned : Stands setting level { ledger with clientDomain := some name, questions }
              domain verdict
              { state.afterExpansion setting.environment .domain spec with
                clientDomain := some name } :=
            ⟨⟨after.counted, after.identity, after.result, after.depth, rfl, after.muted⟩,
              after.domain, after.verdict⟩
          have continued := continues { state.afterExpansion setting.environment .domain spec with
            clientDomain := some name }
            { ledger with clientDomain := some name, questions } rfl rfl learned
          rw [← hostOf_expand, learned.expand_eq] at continued
          exact .silently rfl rfl continued

/-- The first half of a term is carried out if its second half is. -/
theorem realizes_termHost {state : State} {half : Task} {spec : Option Text} {domain : Text}
    {verdict : Option Qualifier} {next : Text → Evaluation β}
    (passive : isCatcher half = false) (clear : Clear state.tasks below)
    (stands : Stands setting level ledger domain verdict state)
    (continues : ∀ after later, after.tasks = half :: state.tasks → level.depth < later.lookups →
      later.lookups ≤ lookupLimit → Stands setting level later domain verdict after →
      Realizes setting level below done (.running after)
        (MonadExcept.ofExcept (after.targetHost setting.environment spec) >>= next) later) :
    Realizes setting level below done
      (beginTerm setting.environment half spec state).settle.position
      (termHost setting domain spec >>= next) ledger := by
  have counted : Stands setting level { ledger with lookups := ledger.lookups + 1 } domain verdict
      (state.countLookup.push half) :=
    ⟨⟨Nat.le_succ_of_le stands.counted, stands.identity, stands.result,
        congrArg (· + 1) stands.depth, stands.clientDomain, stands.muted⟩,
      stands.domain, stands.verdict⟩
  have depth : state.countLookup.depth = ledger.lookups + 1 := congrArg (· + 1) stands.depth
  unfold beginTerm termHost
  rw [bind_assoc]
  by_cases exceeds : lookupLimit < ledger.lookups + 1
  · have full : state.countLookup.exceedsLimit = true := by
      rw [State.exceedsLimit, depth]
      exact decide_eq_true exceeds
    have runs : count.runFrom ledger
        = (.error (.tooManyLookups (ledger.lookups + 1)),
          { ledger with lookups := ledger.lookups + 1 }) := by
      rw [runFrom_count, if_pos exceeds]
    simp only [full, if_true]
    rw [depth]
    apply realizes_fail runs rfl
    · exact clear
    · exact ⟨counted.counted, stands.identity, stands.result, depth, stands.clientDomain,
        stands.muted⟩
  · have within : state.countLookup.exceedsLimit = false := by
      rw [State.exceedsLimit, depth]
      exact decide_eq_false exceeds
    have runs : count.runFrom ledger
        = (.ok (), { ledger with lookups := ledger.lookups + 1 }) := by
      rw [runFrom_count, if_neg exceeds]
    simp only [within]
    apply Realizes.silently runs rfl
    have deeper : level.depth < ledger.lookups + 1 := Nat.lt_succ_of_le stands.counted
    cases spec with
    | none =>
        have continued := continues (state.countLookup.push half) _ rfl deeper
          (Nat.le_of_not_lt exceeds) counted
        simp only [State.targetHost, counted.domain] at continued
        exact continued
    | some spec =>
        apply realizes_expandSpec (clear.cons passive) counted
        intro after later stack same
        exact continues after later stack (same ▸ deeper) (same ▸ Nat.le_of_not_lt exceeds)

/-- The second half of a term finds its host and reacts to it. -/
theorem realizes_targetHost {state : State} {half : Task} {tasks : List Task}
    {spec : Option Text} {next : Text → Evaluation β} (react : Text → Reaction)
    (stack : state.tasks = half :: tasks)
    (reacts : runTask setting.environment { state with tasks } half
      = match state.targetHost setting.environment spec with
        | .error failure => .fail { state with tasks } failure
        | .ok host => react host)
    (clear : Clear tasks below) (carries : Carries setting level ledger { state with tasks })
    (continues : ∀ host, Realizes setting level below done (react host).settle.position
      (next host) ledger) :
    Realizes setting level below done (.running state)
      (MonadExcept.ofExcept (state.targetHost setting.environment spec) >>= next) ledger := by
  apply realizes_run stack
  rw [reacts]
  cases state.targetHost setting.environment spec with
  | error failure => exact realizes_fail rfl rfl clear carries
  | ok host => exact continues host

/-! ## Mechanisms that ask about hosts -/

/-- What follows a mechanism, whose match has been kept in the state. -/
def MatchContinues (setting : Setting) (level : Level) (below : List Task)
    (done : β → Ledger → State → Prop) (tasks : List Task) (domain : Text)
    (next : Bool → Evaluation β) : Prop :=
  ∀ matched later after, after.tasks = tasks →
    Stands setting level later domain none after → after.matched = some matched →
    Realizes setting level below done (.running after) (next matched) later

section
variable {state : State} {domain : Text} {next : Bool → Evaluation β}

theorem realizes_setMatched (matched : Bool)
    (stands : Stands setting level ledger domain none state)
    (continues : MatchContinues setting level below done state.tasks domain next) :
    Realizes setting level below done (setMatched matched state).settle.position (next matched)
      ledger :=
  continues matched ledger { state with matched := some matched } rfl (stands.update _ _ _ _) rfl

/-- A host that no question may ask for does not match; any other is asked for. -/
theorem realizes_askHost {host : Text} {type : Dns.RecordType} {awaiting : Awaiting}
    {answered : Dns.Answer → Evaluation Bool} (clear : Clear state.tasks below)
    (stands : Stands setting level ledger domain none state)
    (continues : MatchContinues setting level below done state.tasks domain next)
    (receives : ∀ answer questions, Realizes setting level below done
      (receive setting.environment answer state awaiting).settle.position
      (answered answer >>= next) { ledger with questions }) :
    Realizes setting level below done (askHost host type awaiting state).settle.position
      ((match Dns.Question.make host type with
        | .error _ => pure false
        | .ok question => ask setting question >>= answered) >>= next) ledger := by
  unfold askHost
  cases Dns.Question.make host type with
  | error failure => exact realizes_setMatched false stands continues
  | ok question =>
      simp only [bind_assoc]
      exact realizes_ask clear.guardExplanation_notMem (receives _ _)

theorem realizes_matchesHost (lengths : PrefixLengths) (host : Text)
    (clear : Clear state.tasks below) (stands : Stands setting level ledger domain none state)
    (continues : MatchContinues setting level below done state.tasks domain next) :
    Realizes setting level below done
      (compareHost setting.client host lengths state).settle.position
      (matchesHost setting lengths host >>= next) ledger := by
  unfold compareHost matchesHost
  split
  · exact realizes_setMatched _ stands continues
  · apply realizes_askHost clear stands continues
    intro answer questions
    simp only [receive, receiveAddresses]
    cases answer with
    | timeout note => exact realizes_fail rfl rfl clear (stands.asked questions).toCarries
    | records records =>
        simp only [stands.client]
        exact realizes_setMatched _ (stands.asked questions) continues

theorem realizes_hasAddress (host : Text) (clear : Clear state.tasks below)
    (stands : Stands setting level ledger domain none state)
    (continues : MatchContinues setting level below done state.tasks domain next) :
    Realizes setting level below done (askHost host .a .existence state).settle.position
      (hasAddress setting host >>= next) ledger := by
  unfold hasAddress
  apply realizes_askHost clear stands continues
  intro answer questions
  simp only [receive, receiveExistence]
  cases answer with
  | timeout note => exact realizes_fail rfl rfl clear (stands.asked questions).toCarries
  | records records => exact realizes_setMatched _ (stands.asked questions) continues

/-! ## Mechanisms that walk through names -/

theorem walks_exchangerAddresses (lengths : PrefixLengths) :
    Walks setting (agreeingExchanger setting lengths)
      (fun matched state => { state with matched := some matched }) false
      (fun _ => .exchangerAddresses lengths) (askExchangerAddresses lengths) where
  begins names state known := by
    unfold askExchangerAddresses
    rw [known]
    rfl
  receives name rest answer state known := by
    simp only [receive, receiveExchangerAddresses]
    cases answer with
    | timeout note => rfl
    | records records =>
        rw [known]
        simp only [agreeingExchanger]
        split <;> rfl

theorem walks_hostAddresses (target : Text) :
    Walks setting (ownedName setting target)
      (fun matched state => { state with matched := some matched }) false
      (.hostAddresses target) (askHostAddresses target) where
  begins names state known := by
    unfold askHostAddresses
    rw [known]
    rfl
  receives name rest answer state known := by
    simp only [receive, receiveHostAddresses]
    cases answer with
    | timeout note => rfl
    | records records =>
        rw [known]
        simp only [ownedName]
        split <;> rfl

theorem realizes_matchesExchanger (lengths : PrefixLengths) (host : Text)
    (clear : Clear state.tasks below) (stands : Stands setting level ledger domain none state)
    (continues : MatchContinues setting level below done state.tasks domain next) :
    Realizes setting level below done
      (askHost host .mx (.exchangers lengths) state).settle.position
      (matchesExchanger setting lengths host >>= next) ledger := by
  unfold matchesExchanger
  apply realizes_askHost clear stands continues
  intro answer questions
  simp only [receive, receiveExchangers]
  cases answer with
  | timeout note => exact realizes_fail rfl rfl clear (stands.asked questions).toCarries
  | records hosts =>
      simp only [recordsOf, pure_bind]
      split
      · exact realizes_fail rfl rfl clear (stands.asked questions).toCarries
      · apply (walks_exchangerAddresses lengths).realizes clear (stands.asked _).toCarries
        intro matched later
        exact realizes_setMatched matched (stands.asked later) continues

theorem realizes_isWithin (target : Text) (clear : Clear state.tasks below)
    (stands : Stands setting level ledger domain none state)
    (continues : MatchContinues setting level below done state.tasks domain next) :
    Realizes setting level below done
      (.waiting state ⟨⟨setting.client.reverseName, .ptr⟩, .hostNames target⟩)
      (isWithin setting target >>= next) ledger := by
  unfold isWithin
  simp only [bind_assoc]
  apply realizes_ask clear.guardExplanation_notMem
  simp only [receive, receiveHostNames]
  cases setting.zone ⟨setting.client.reverseName, .ptr⟩ with
  | timeout note => exact realizes_setMatched _ (stands.asked _) continues
  | records names =>
      apply (walks_hostAddresses target).realizes clear (stands.asked _).toCarries
      intro matched questions
      exact realizes_setMatched matched (stands.asked questions) continues

end

end

end SenderPolicy.Direct
