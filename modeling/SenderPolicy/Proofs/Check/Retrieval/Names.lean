import SenderPolicy.Proofs.Check.Consistency.Runs
import SenderPolicy.Proofs.Check.Forwarder.Rewriting
import SenderPolicy.Proofs.Check.Retrieval.Groups
import SenderPolicy.Proofs.Domain.HostName

/-!
# Under which names records are asked for

The records of a domain are asked for by two stages, and both stand below the initial checks,
which let only fully qualified names pass. `Position.ChecksFirst` is kept by every turn: until
the current domain has passed the checks, no stage above them asks. Since stages stand on top of
the stack, nothing changes the domain between the checks and the questions.

The questions for records are asked of any text, and the name may be too long for a question
about addresses. `isFullyQualified` bounds no length, so both happen together.
-/

namespace SenderPolicy.Check

/-- The task asks for the records of the current domain. -/
def Task.asksRecords : Task → Bool
  | .stage .retrieve | .stage .retrieveStrict => true
  | _ => false

/-- The tasks that are run before the initial checks of the current domain. -/
def State.unchecked (state : State) : List Task :=
  state.tasks.takeWhile fun task => task ≠ .stage .initialChecks

/-- The current domain has passed the initial checks, or no task before them asks for its
records. -/
def State.ChecksFirst (state : State) : Prop :=
  Domain.isFullyQualified state.domain = true
    ∨ ∀ task ∈ state.unchecked, task.asksRecords = false

/-- A question for records is about the current domain, which has passed the initial checks. -/
def State.AsksChecked (state : State) (lookup : Lookup) : Prop :=
  lookup.awaiting.findsRecord = true →
    lookup.question.host = state.domain ∧ Domain.isFullyQualified state.domain = true

/-- The initial checks come before all questions for records. -/
def Position.ChecksFirst : Position → Prop
  | .running state => state.ChecksFirst
  | .waiting state lookup => state.ChecksFirst ∧ state.AsksChecked lookup

/-! ## Where no stage is left -/

/-- Only stages ask for records. -/
theorem State.Unstaged.checksFirst {state : State} (unstaged : state.Unstaged) :
    state.ChecksFirst := by
  refine .inr fun task member => ?_
  have other := unstaged task (List.takeWhile_subset _ member)
  cases task <;> first | rfl | cases other

section
variable {environment : Environment} {state : State}

/-- Records are awaited with stages on the stack. -/
theorem State.AwaitsWith.findsRecord_eq_false {awaiting : Awaiting}
    (awaits : state.AwaitsWith environment awaiting) (unstaged : state.Unstaged) :
    awaiting.findsRecord = false := by
  cases awaits with
  | record finds tasks parses parse fits plain =>
      have member : Task.stage .parseRecord ∈ state.tasks := by
        rw [tasks]
        exact List.mem_append_left _ (List.mem_map_of_mem parse)
      cases unstaged _ member
  | client finds => exact findsRecord_of_findsClient finds
  | other noRecord => exact noRecord

/-- Where something else than records is awaited no stage is left. -/
theorem State.AwaitsWith.unstaged {awaiting : Awaiting}
    (awaits : state.AwaitsWith environment awaiting) (noRecord : awaiting.findsRecord = false) :
    state.Unstaged := by
  have isStage : ∀ {task : Task}, task.IsPlain → task.isStage = false := by
    intro task plain
    have other := plain.record
    cases task <;> first | rfl | cases other
  cases awaits with
  | record finds => exact absurd (noRecord.symm.trans finds) (by decide)
  | @client task below _ _ _ tasks prepared _ _ _ plain =>
      have here : task.isStage = false := by cases task <;> first | rfl | cases prepared
      rw [State.Unstaged, tasks]
      exact List.forall_mem_cons.mpr ⟨here, fun later member => isStage (plain later member)⟩
  | other _ _ plain => exact fun task member => isStage (plain task member)

/-- Where no stage is left, nothing of what is awaited is a record. -/
theorem Position.checksFirst_of_unstaged {position : Position}
    (consistent : position.IsConsistent environment) (unstaged : position.state.Unstaged) :
    position.ChecksFirst := by
  cases position with
  | running state => exact State.Unstaged.checksFirst unstaged
  | waiting state lookup =>
      refine ⟨State.Unstaged.checksFirst unstaged, fun finds => ?_⟩
      have other := consistent.2.findsRecord_eq_false unstaged
      rw [finds] at other
      cases other

/-- After a failure no stage is left. -/
theorem Reaction.checksFirst_settle {reaction : Reaction} (first : reaction.state.StagesFirst)
    (proceeds : ∀ after, reaction = .proceed after → after.ChecksFirst)
    (asks : ∀ after lookup, reaction = .ask after lookup →
      after.ChecksFirst ∧ after.AsksChecked lookup) :
    reaction.settle.position.ChecksFirst := by
  cases reaction with
  | proceed after => exact proceeds after rfl
  | ask after lookup => exact asks after lookup rfl
  | fail after failure => exact (unstaged_unwind failure first).checksFirst

/-! ## Stages and answers -/

/-- A stage that asks asks for records of the current domain. -/
theorem runStage_asks {stage : Stage} {after : State} {lookup : Lookup}
    (asks : runStage environment state stage = .ask after lookup) :
    (Task.stage stage).asksRecords = true ∧ lookup.question.host = state.domain := by
  have useText : ∀ text, useRecordText text state ≠ .ask after lookup := by
    intro text
    unfold useRecordText
    split <;> nofun
  have useLocal : ∀ source, useLocalRecord source state ≠ .ask after lookup := by
    intro source
    unfold useLocalRecord
    split
    · nofun
    · split
      · nofun
      · exact useText _
  have records : ∀ {type awaiting}, askRecords type awaiting state = .ask after lookup →
      lookup.question.host = state.domain := by
    intro type awaiting asks
    unfold askRecords at asks
    split at asks
    · cases asks
    · cases asks
      rfl
  cases stage with
  | retrieve => exact ⟨rfl, records asks⟩
  | retrieveStrict => exact ⟨rfl, records asks⟩
  | override => exact absurd asks (useLocal _)
  | fallback => exact absurd asks (useLocal _)
  | initialChecks =>
      simp only [runStage] at asks
      split at asks
      · cases asks
      · split at asks <;> cases asks
  | bestGuess => cases asks
  | parseRecord =>
      simp only [runStage] at asks
      split at asks
      · exact absurd asks (useText _)
      · cases asks
  | noRecordFound =>
      simp only [runStage] at asks
      split at asks <;> cases asks
  | trustedForwarder =>
      simp only [runStage] at asks
      split at asks <;> cases asks
  | neutralIfUnmatched => cases asks
  | defaultExplanation => cases asks

/-- The initial checks let fully qualified names pass. -/
theorem isFullyQualified_of_initialChecks {after : State}
    (passed : runStage environment state .initialChecks = .proceed after) :
    Domain.isFullyQualified state.domain = true := by
  simp only [runStage] at passed
  split at passed
  · cases passed
  · split at passed
    · assumption
    · cases passed

/-- Below a stage no task asks for records before the checks, if the stage is not the checks
themselves. -/
theorem State.ChecksFirst.pop {stage : Stage} {below : List Task}
    (checks : state.ChecksFirst) (stack : state.tasks = .stage stage :: below)
    (other : stage ≠ .initialChecks) :
    ({ state with tasks := below } : State).ChecksFirst
      ∧ ((Task.stage stage).asksRecords = true → Domain.isFullyQualified state.domain = true) := by
  rcases checks with qualified | above
  · exact ⟨.inl qualified, fun _ => qualified⟩
  · have kept : state.unchecked
        = .stage stage :: ({ state with tasks := below } : State).unchecked := by
      simp [State.unchecked, stack, other]
    rw [kept] at above
    obtain ⟨here, later⟩ := List.forall_mem_cons.mp above
    exact ⟨.inr later, fun asks => absurd (here.symm.trans asks) (by decide)⟩

/-- A stage asks only once the checks have been passed, and they stay in front of the stages
that follow. -/
theorem checksFirst_stage {stage : Stage} {below : List Task}
    (stack : state.tasks = .stage stage :: below) (first : state.StagesFirst)
    (checks : state.ChecksFirst) :
    (runTurn environment state (.stage stage) below).position.ChecksFirst := by
  let base : State := { state with tasks := below }
  have kept : (runStage environment base stage).Keeps True base :=
    runStage_keeps stage (.refl True base)
  have put : base.Puts [] 0 (runStage environment base stage).state := runStage_puts stage base
  have domain := kept.keeps.domain
  have stays : base.ChecksFirst → (runStage environment base stage).state.ChecksFirst := by
    intro base_checks
    simpa only [State.ChecksFirst, State.unchecked, domain, put.tasks, List.nil_append]
      using base_checks
  refine Reaction.checksFirst_settle ?first ?proceeds ?asks
  case first =>
    obtain ⟨pending, rest, tasks, none⟩ := first.pop stack
    exact ⟨pending, rest, put.tasks.trans tasks, none⟩
  case proceeds =>
    intro after proceeds
    change runStage environment base stage = .proceed after at proceeds
    by_cases initial : stage = .initialChecks
    · subst initial
      have qualified := isFullyQualified_of_initialChecks proceeds
      rw [proceeds] at domain
      exact .inl (domain ▸ qualified)
    · have still := stays (checks.pop stack initial).1
      rwa [proceeds] at still
  case asks =>
    intro after lookup asks
    change runStage environment base stage = .ask after lookup at asks
    obtain ⟨retrieves, host⟩ := runStage_asks asks
    have initial : stage ≠ .initialChecks := by
      rintro rfl
      cases retrieves
    obtain ⟨popped, qualified⟩ := checks.pop stack initial
    have still := stays popped
    rw [asks] at still domain
    exact ⟨still, fun _ => ⟨host.trans domain.symm, domain ▸ qualified retrieves⟩⟩

/-- An answer with records leads to no question but for more records of the same domain. -/
theorem receive_asks {answer : Dns.Answer} {awaiting : Awaiting} {after : State} {lookup : Lookup}
    (finds : awaiting.findsRecord = true)
    (asks : receive environment answer state awaiting = .ask after lookup) :
    lookup.question.host = state.domain := by
  have next : ∀ {next : Option Text → Reaction},
      receiveRecords answer state next = .ask after lookup →
      ∃ found, next found = .ask after lookup := by
    intro next asks
    unfold receiveRecords at asks
    split at asks
    · cases asks
    · split at asks
      · cases asks
      · exact ⟨_, asks⟩
  cases awaiting with
  | spfRecords =>
      obtain ⟨found, asks⟩ := next asks
      cases found with
      | some text => cases asks
      | none =>
          simp only [askRecords] at asks
          split at asks
          · cases asks
          · cases asks
            rfl
  | txtRecords =>
      obtain ⟨found, asks⟩ := next asks
      cases asks
  | strictSpfRecords =>
      obtain ⟨found, asks⟩ := next asks
      cases asks
      rfl
  | strictTxtRecords spf =>
      obtain ⟨found, asks⟩ := next asks
      split at asks <;> cases asks
  | _ => cases finds

end

/-! ## Turns and runs -/

section
variable {environment : Environment} {permitted : Dns.Question → Dns.Answer → Prop}

/-- The initial checks come first among the stages of every domain. -/
theorem checksFirst_stages (options : Options) (base : State) (below : List Task) :
    State.ChecksFirst { base with
      tasks := ((stages options).map Task.stage ++ [Task.evaluateRecord]) ++ below } := by
  right
  rw [State.unchecked, stages_eq]
  split <;> simp [Task.asksRecords]

/-- Every turn leaves the initial checks in front of the questions that they are for. -/
theorem Position.Step.checksFirst {position next : Position}
    (turn : Step environment permitted position next) (first : position.StagesFirst)
    (consistent : position.IsConsistent environment) (checks : position.ChecksFirst) :
    next.ChecksFirst := by
  have nextConsistent := turn.isConsistent consistent
  cases turn with
  | @hear state lookup answer allowed =>
      cases finds : lookup.awaiting.findsRecord with
      | true =>
          have other : lookup.awaiting ≠ .explanationTexts := by
            intro explains
            rw [explains] at finds
            cases finds
          have kept : (receive environment answer state lookup.awaiting).Keeps True state :=
            receive_keeps answer fun _ => other
          have put : state.Puts [] 0 (receive environment answer state lookup.awaiting).state :=
            receive_puts_nothing answer other state
          obtain ⟨-, qualified⟩ := checks.2 finds
          have domain := kept.keeps.domain
          refine Reaction.checksFirst_settle ?first ?proceeds ?asks
          case first =>
            obtain ⟨pending, rest, tasks, none⟩ := first.1
            exact ⟨pending, rest, put.tasks.trans tasks, none⟩
          case proceeds =>
            intro after proceeds
            rw [proceeds] at domain
            exact .inl (domain ▸ qualified)
          case asks =>
            intro after more asks
            have host := receive_asks finds asks
            rw [asks] at domain
            exact ⟨.inl (domain ▸ qualified), fun _ => ⟨host.trans domain.symm, domain ▸ qualified⟩⟩
      | false =>
          have unstaged := consistent.2.unstaged finds
          obtain ⟨above, all, put⟩ := @receive_puts environment answer lookup.awaiting state
          have after : (receive environment answer state lookup.awaiting).state.Unstaged := by
            rw [State.Unstaged, put.tasks]
            refine List.forall_mem_append.mpr ⟨fun task member => ?_, unstaged⟩
            have explains := all task member
            cases task <;> first | rfl | cases explains
          exact checksFirst_of_unstaged nextConsistent (unstaged_settle after)
  | @run state task below stack =>
      cases staged : task.isStage with
      | true =>
          cases task with
          | stage stage => exact checksFirst_stage stack first checks
          | _ => cases staged
      | false =>
          have unstaged := (List.forall_mem_cons.mp (first.unstaged stack staged)).2
          have ran := @runTask_unstaged environment { state with tasks := below } task staged unstaged
          rcases ran with left | ⟨rfl, begun⟩
          · exact checksFirst_of_unstaged nextConsistent (unstaged_settle left)
          · rw [runTurn, begun]
            exact checksFirst_stages environment.options _ below

/-- Wherever a check stands the initial checks come before all questions for records. -/
theorem checksFirst_visited (environment : Environment) (resolver : Resolver)
    (identity : Identity) :
    ∀ position ∈ visited environment resolver [] (.running (State.start identity)),
      position.ChecksFirst := by
  have unstaged : (State.start identity).Unstaged := by
    simp [State.Unstaged, State.start, Task.isStage]
  have start : (Position.running (State.start identity)).StagesFirst
      ∧ (Position.running (State.start identity)).IsConsistent environment
      ∧ (Position.running (State.start identity)).ChecksFirst :=
    ⟨unstaged.stagesFirst, isConsistent_start environment identity, unstaged.checksFirst⟩
  have each := @visited_keeps environment
    (fun position => position.StagesFirst ∧ position.IsConsistent environment
      ∧ position.ChecksFirst)
    (fun turn holds => ⟨(turn.pays holds.1).first, turn.isConsistent holds.2.1,
      turn.checksFirst holds.1 holds.2.1 holds.2.2⟩) resolver [] _ start
  exact fun position member => (each.1 position member).2.2

end

/-- Every question for the records of a domain is about a fully qualified name. A fully qualified
name may be asked about in every other question too if its labels have at most 63 bytes and all
of it has at most 253, one dot at its end apart, and only then: otherwise a question about
addresses or mail exchangers fails, without a result, for its invalid host name. -/
theorem qualified_names_asked (environment : Environment) (resolver : Resolver)
    (identity : Identity) :
    (∀ name, Domain.isFullyQualified name = true → ∀ type : Dns.RecordType,
        Dns.Question.make name type =
            (if type.needsHostName = true → Domain.FitsQuestion name then .ok ⟨name, type⟩
            else .error (.notAHostName name))
          ∧ (Failure.notAHostName name).code = .none)
      ∧ ∀ state lookup, .waiting state lookup
          ∈ visited environment resolver [] (.running (State.start identity)) →
        lookup.awaiting.findsRecord = true →
        lookup.question.host = state.domain
          ∧ Domain.isFullyQualified lookup.question.host = true := by
  constructor
  case left =>
    exact fun name qualified type => ⟨Domain.make_of_isFullyQualified qualified type, rfl⟩
  case right =>
    intro state lookup passed finds
    obtain ⟨-, asks⟩ := checksFirst_visited environment resolver identity _ passed
    obtain ⟨host, qualified⟩ := asks finds
    exact ⟨host, host ▸ qualified⟩

/-- A label of 64 letters is part of a fully qualified name, but not of a host name. -/
theorem make_longLabel :
    let name : Text := List.replicate 64 'x' ++ ".com".toList
    Domain.isFullyQualified name = true
      ∧ Dns.Question.make name .a = .error (.notAHostName name)
      ∧ Dns.Question.make name .txt = .ok ⟨name, .txt⟩ := by
  decide

end SenderPolicy.Check
