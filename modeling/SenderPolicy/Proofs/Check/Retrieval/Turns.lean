import SenderPolicy.Proofs.Check.Retrieval.Groups
import SenderPolicy.Proofs.Check.Retrieval.Rules
import SenderPolicy.Proofs.Check.Stack.Shape

/-!
# The stages obtain a record by the rules

Each time a domain is evaluated, its stages ask the questions of `Obtains` and no others. They
hand on the record that it gives to the stages that complete it, or end in its failure. What the
slot held before does not matter, because it is emptied first.
-/

namespace SenderPolicy.Check

/-- What the stages of a domain hand on above the tasks below: a record that is ready to be
completed, or a failure that has been handled there. -/
inductive Position.HandsOn (options : Options) (base : State) :
    Except Failure Record → Position → Prop where
  | record {record : Record} :
      HandsOn options base (.ok record) (.running { base with
        slot := some (.policy ⟨record, []⟩)
        tasks := (completingStages options).map Task.stage ++ .evaluateRecord :: base.tasks })
  | failure {failure : Failure} {slot : Option Slot} :
      HandsOn options base (.error failure)
        (.running (unwind failure { base with slot } base.tasks).2)

/-- The turns from a position ask these questions, and then hand on this outcome. -/
def Position.Yields (environment : Environment) (zone : Dns.Question → Dns.Answer) (base : State)
    (position : Position) (questions : List Dns.Question) (outcome : Except Failure Record) :
    Prop :=
  ∃ left ending, Steps environment (fun question answer => answer = zone question) position left
      ending
    ∧ left.filterMap question? = questions ∧ ending.HandsOn environment.options base outcome

/-- The state in which some stages are still to come before those that complete the record. -/
def State.before (options : Options) (later : List Stage) (slot : Option Slot) (base : State) :
    State :=
  { base with
    slot
    tasks := later.map Task.stage
      ++ ((completingStages options).map Task.stage ++ .evaluateRecord :: base.tasks) }

/-- Handling a failure depends on the stack that is handed over only. -/
theorem unwind_tasks (failure : Failure) (state : State) (other tasks : List Task) :
    unwind failure { state with tasks := other } tasks = unwind failure state tasks := by
  induction tasks with
  | nil => rfl
  | cons task tasks inductionHypothesis =>
      simp only [unwind]
      cases handle failure { state with tasks } task with
      | none => exact inductionHypothesis
      | some handling => cases handling <;> rfl

/-- No stage handles a failure. -/
theorem unwind_stages (failure : Failure) (state : State) (stages : List Stage)
    (tasks : List Task) :
    unwind failure state (stages.map Task.stage ++ tasks) = unwind failure state tasks := by
  induction stages with
  | nil => rfl
  | cons stage stages inductionHypothesis => exact inductionHypothesis

section
variable {environment : Environment} {zone : Dns.Question → Dns.Answer} {base state : State}
  {questions : List Dns.Question} {outcome : Except Failure Record} {slot : Option Slot}
  {later : List Stage}

/-! ## Rules for turns -/

/-- The task on top of the stack is run. -/
theorem yields_run {task : Task} {below : List Task} (stack : state.tasks = task :: below)
    (yields : (runTask environment { state with tasks := below } task).settle.position.Yields
      environment zone base questions outcome) :
    (Position.running state).Yields environment zone base questions outcome := by
  obtain ⟨left, ending, steps, asked, hands⟩ := yields
  exact ⟨.running state :: left, ending, .step (.run stack) steps, asked, hands⟩

/-- A question is asked, and its answer is received. -/
theorem yields_ask {question : Dns.Question} {awaiting : Awaiting}
    (yields : (receive environment (zone question) state awaiting).settle.position.Yields
      environment zone base questions outcome) :
    (Position.waiting state ⟨question, awaiting⟩).Yields environment zone base
      (question :: questions) outcome := by
  obtain ⟨left, ending, steps, asked, hands⟩ := yields
  exact ⟨.waiting state ⟨question, awaiting⟩ :: left, ending, .step (.hear rfl) steps,
    congrArg (question :: ·) asked, hands⟩

/-- A failure passes the stages that are still to come. -/
theorem yields_fail (failure : Failure) :
    (Reaction.fail (base.before environment.options later slot) failure).settle.position.Yields
      environment zone base [] (.error failure) := by
  refine ⟨[], _, .refl, rfl, ?_⟩
  have passes : unwind failure (base.before environment.options later slot)
      (base.before environment.options later slot).tasks
      = unwind failure { base with slot } base.tasks := by
    simp only [State.before, unwind_stages]
    exact unwind_tasks failure { base with slot } _ base.tasks
  simp only [Reaction.settle, passes]
  exact .failure

/-! ## Stages with a record -/

/-- Stages that only supply a record hand on the one at hand. -/
theorem yields_suppliers (record : Record) (suppliers : ∀ stage ∈ later, isSupplier stage) :
    (Position.running (base.before environment.options later
      (some (.policy ⟨record, []⟩)))).Yields environment zone base [] (.ok record) := by
  induction later with
  | nil => exact ⟨[], _, .refl, rfl, .record⟩
  | cons stage later inductionHypothesis =>
      obtain ⟨first, others⟩ := List.forall_mem_cons.mp suppliers
      apply yields_run rfl
      rw [runTask, runStage_supplied environment _ rfl first]
      exact inductionHypothesis others

/-- The record that a text spells is handed on, or the failure to read it. -/
theorem yields_useRecordText (text : Text) (suppliers : ∀ stage ∈ later, isSupplier stage) :
    (useRecordText text (base.before environment.options later slot)).settle.position.Yields
      environment zone base [] (Record.read text) := by
  unfold useRecordText
  cases Record.read text with
  | error failure => exact yields_fail failure
  | ok record => exact yields_suppliers record suppliers

/-! ## Stages without a record -/

/-- The record on which a domain falls back. -/
def fallbackOutcome (options : Options) (domain : Text) : Except Failure Record :=
  match localText options.fallbacks domain with
  | some text => Record.read text
  | none => .error (.noRecordFound domain)

/-- The record of a domain for which this text has been found. -/
def foundOutcome (options : Options) (domain : Text) : Option Text → Except Failure Record
  | some text => Record.read text
  | none =>
      if options.bestGuess then Record.read guessedRecord else fallbackOutcome options domain

theorem useLocalRecord_of_none {options : Options} {source : Option RecordSource}
    (absent : localText source base.domain = none) :
    useLocalRecord source (base.before options later none)
      = .proceed (base.before options later none) := by
  have missing : (source.bind fun records => records (base.before options later none).domain)
      = none := absent
  simp only [useLocalRecord, missing]
  rfl

theorem useLocalRecord_of_some {options : Options} {source : Option RecordSource} {text : Text}
    (present : localText source base.domain = some text) :
    useLocalRecord source (base.before options later none)
      = useRecordText text (base.before options later none) := by
  have found : (source.bind fun records => records (base.before options later none).domain)
      = some text := present
  simp only [useLocalRecord, found]
  rfl

theorem yields_fallback :
    (Position.running (base.before environment.options (fallbackStages environment.options)
      none)).Yields environment zone base []
        (fallbackOutcome environment.options base.domain) := by
  have givenUp : (Position.running (base.before environment.options [.noRecordFound] none)).Yields
      environment zone base [] (.error (.noRecordFound base.domain)) := by
    apply yields_run rfl
    exact @yields_fail environment zone base none [] _
  unfold fallbackStages fallbackOutcome
  cases source : environment.options.fallbacks with
  | none => exact givenUp
  | some records =>
      have begins {outcome : Except Failure Record}
          (yields : (useLocalRecord environment.options.fallbacks (base.before environment.options
            [.noRecordFound] none)).settle.position.Yields environment zone base [] outcome) :
          (Position.running (base.before environment.options [.fallback, .noRecordFound]
            none)).Yields environment zone base [] outcome :=
        yields_run rfl yields
      apply begins
      rw [source]
      cases spare : localText (some records) base.domain with
      | none =>
          rw [useLocalRecord_of_none spare]
          exact givenUp
      | some text =>
          rw [useLocalRecord_of_some spare]
          exact yields_useRecordText text (by simp [isSupplier])

theorem yields_parseRecord (text : Text) :
    (Position.running (base.before environment.options
      (.parseRecord :: fallbackStages environment.options) (some (.text text)))).Yields
        environment zone base [] (Record.read text) := by
  apply yields_run rfl
  exact yields_useRecordText text isSupplier_of_mem_fallbackStages

/-- After the retrieval a text that has been found is read, or a record is found elsewhere. -/
theorem yields_found (found : Option Text) :
    (Position.running (base.before environment.options
      (readingStages environment.options ++ fallbackStages environment.options)
      (found.map Slot.text))).Yields environment zone base []
        (foundOutcome environment.options base.domain found) := by
  unfold readingStages foundOutcome
  cases guesses : environment.options.bestGuess with
  | true =>
      apply yields_run rfl
      cases found with
      | some text => exact yields_parseRecord text
      | none => exact yields_parseRecord guessedRecord
  | false =>
      cases found with
      | some text => exact yields_parseRecord text
      | none =>
          apply yields_run rfl
          exact yields_fallback

/-! ## Questions for records -/

/-- An answer that holds nothing to go on with is a failure. -/
theorem yields_unusable {answer : Dns.Answer} {failure : Failure} {next : Option Text → Reaction}
    (holds : Holds base.domain answer (.error failure)) :
    (receiveRecords answer (base.before environment.options later slot)
      next).settle.position.Yields environment zone base [] (.error failure) := by
  have given := holds_iff.mp holds
  cases answer with
  | timeout note =>
      cases given
      exact yields_fail _
  | records texts =>
      simp only [receiveRecords, ← given]
      exact yields_fail _

theorem yields_usable {answer : Dns.Answer} {found : Option Text} {next : Option Text → Reaction}
    (holds : Holds base.domain answer (.ok found))
    (yields : (next found).settle.position.Yields environment zone base questions outcome) :
    (receiveRecords answer (base.before environment.options later slot)
      next).settle.position.Yields environment zone base questions outcome := by
  have given := holds_iff.mp holds
  cases answer with
  | timeout note => cases given
  | records texts =>
      simp only [receiveRecords, ← given]
      exact yields

/-- A text that has been found is kept for the stages that read it. -/
theorem yields_keepRecordText (found : Option Text) :
    (Position.running (keepRecordText found (base.before environment.options
      (readingStages environment.options ++ fallbackStages environment.options) none))).Yields
        environment zone base [] (foundOutcome environment.options base.domain found) := by
  have same : keepRecordText found (base.before environment.options
        (readingStages environment.options ++ fallbackStages environment.options) none)
      = base.before environment.options
        (readingStages environment.options ++ fallbackStages environment.options)
        (found.map Slot.text) := by
    cases found <;> rfl
  rw [same]
  exact yields_found found

/-- Strictly, both kinds of records are asked for and compared. -/
theorem yields_retrieveStrict :
    ∃ questions found, Searches zone base.domain true questions found
      ∧ (Position.running (base.before environment.options
          (.retrieveStrict
            :: (readingStages environment.options ++ fallbackStages environment.options))
          none)).Yields environment zone base questions
            (found.bind (foundOutcome environment.options base.domain)) := by
  obtain ⟨spf, holdsSpf⟩ := exists_holds base.domain (zone ⟨base.domain, .spf⟩)
  obtain ⟨txt, holdsTxt⟩ := exists_holds base.domain (zone ⟨base.domain, .txt⟩)
  cases spf with
  | error failure =>
      exact ⟨_, _, .unusable holdsSpf, yields_run rfl (yields_ask (yields_unusable holdsSpf))⟩
  | ok one =>
      have asked {outcome : Except Failure Record}
          (yields : (receive environment (zone ⟨base.domain, .txt⟩) (base.before
              environment.options (readingStages environment.options
                ++ fallbackStages environment.options) none)
              (.strictTxtRecords one)).settle.position.Yields environment zone base [] outcome) :
          (Position.running (base.before environment.options
            (.retrieveStrict
              :: (readingStages environment.options ++ fallbackStages environment.options))
            none)).Yields environment zone base [⟨base.domain, .spf⟩, ⟨base.domain, .txt⟩]
              outcome :=
        yields_run rfl (yields_ask (yields_usable holdsSpf (yields_ask yields)))
      cases txt with
      | error failure =>
          exact ⟨_, _, .strictUnusable holdsSpf holdsTxt, asked (yields_unusable holdsTxt)⟩
      | ok other =>
          by_cases agree : one = none ∨ other = none ∨ one = other
          · have passes : (one.isSome && other.isSome && one ≠ other) = false := by
              rcases agree with rfl | rfl | rfl <;> simp
            refine ⟨_, _, .strictAgreeing holdsSpf holdsTxt agree,
              asked (yields_usable holdsTxt ?_)⟩
            simp only [passes]
            exact yields_keepRecordText _
          · simp only [not_or] at agree
            obtain ⟨first, rfl⟩ := Option.ne_none_iff_exists'.mp agree.1
            obtain ⟨second, rfl⟩ := Option.ne_none_iff_exists'.mp agree.2.1
            have differ : first ≠ second := fun same => agree.2.2 (congrArg some same)
            refine ⟨_, _, .strictDiffering holdsSpf holdsTxt differ,
              asked (yields_usable holdsTxt ?_)⟩
            simp only [Option.isSome_some, Bool.and_self, agree.2.2, ne_eq, not_false_eq_true,
              decide_true, if_true]
            exact yields_fail _

/-- Otherwise the second kind of records is asked for only if the first has none. -/
theorem yields_retrieve :
    ∃ questions found, Searches zone base.domain false questions found
      ∧ (Position.running (base.before environment.options
          (.retrieve
            :: (readingStages environment.options ++ fallbackStages environment.options))
          none)).Yields environment zone base questions
            (found.bind (foundOutcome environment.options base.domain)) := by
  obtain ⟨spf, holdsSpf⟩ := exists_holds base.domain (zone ⟨base.domain, .spf⟩)
  obtain ⟨txt, holdsTxt⟩ := exists_holds base.domain (zone ⟨base.domain, .txt⟩)
  cases spf with
  | error failure =>
      exact ⟨_, _, .unusable holdsSpf, yields_run rfl (yields_ask (yields_unusable holdsSpf))⟩
  | ok found =>
      cases found with
      | some text =>
          refine ⟨_, _, .first holdsSpf, yields_run rfl (yields_ask ?_)⟩
          exact yields_usable holdsSpf (yields_keepRecordText (some text))
      | none =>
          refine ⟨_, _, .second holdsSpf holdsTxt,
            yields_run rfl (yields_ask (yields_usable holdsSpf (yields_ask ?_)))⟩
          cases txt with
          | error failure => exact yields_unusable holdsTxt
          | ok found => exact yields_usable holdsTxt (yields_keepRecordText found)

/-! ## All stages -/

/-- A record that is searched for is obtained by the rules. -/
theorem Searches.obtains {options : Options} {domain : Text} {questions : List Dns.Question}
    {found : Except Failure (Option Text)}
    (searches : Searches zone domain options.strict questions found)
    (own : localText options.overrides domain = none)
    (qualified : Domain.isFullyQualified domain = true) :
    Obtains options zone domain questions (found.bind (foundOutcome options domain)) := by
  cases found with
  | error failure => exact .unusable own qualified searches
  | ok found =>
      cases found with
      | some text => exact .published own qualified searches
      | none =>
          change Obtains options zone domain questions (foundOutcome options domain none)
          unfold foundOutcome
          cases guesses : options.bestGuess with
          | true => exact .guess own qualified searches guesses
          | false =>
              simp only [fallbackOutcome]
              cases spare : localText options.fallbacks domain with
              | some text => exact .fallback own qualified searches guesses spare
              | none => exact .nothing own qualified searches guesses spare

/-- The domain must be fully qualified, whether or not it has a record already. -/
theorem yields_unqualified (known : base.identity.client.isSome)
    (short : Domain.isFullyQualified base.domain = false) :
    (Position.running (base.before environment.options (.initialChecks :: later) slot)).Yields
      environment zone base [] (.error (.notFullyQualified base.domain)) := by
  apply yields_run rfl
  simp only [runTask, runStage, State.before, Option.isNone_eq_false_iff.mpr known, short,
    Bool.false_eq_true, if_false]
  exact yields_fail _

theorem yields_qualified (known : base.identity.client.isSome)
    (qualified : Domain.isFullyQualified base.domain = true)
    (yields : (Position.running (base.before environment.options later slot)).Yields environment
      zone base questions outcome) :
    (Position.running (base.before environment.options (.initialChecks :: later) slot)).Yields
      environment zone base questions outcome := by
  apply yields_run rfl
  simp only [runTask, runStage, State.before, Option.isNone_eq_false_iff.mpr known, qualified,
    Bool.false_eq_true, if_false, if_true]
  exact yields

/-- The stages after the overrides, for a domain without a record there. -/
theorem yields_search (known : base.identity.client.isSome)
    (own : localText environment.options.overrides base.domain = none) :
    ∃ questions outcome, Obtains environment.options zone base.domain questions outcome
      ∧ (Position.running (base.before environment.options
          (.initialChecks :: searchingStages environment.options) none)).Yields environment zone
            base questions outcome := by
  cases qualified : Domain.isFullyQualified base.domain with
  | false =>
      refine ⟨_, _, .unqualified (fun text given => ?_) qualified,
        yields_unqualified known qualified⟩
      rw [own] at given
      cases given
  | true =>
      obtain ⟨questions, found, searches, yields⟩ : ∃ questions found,
          Searches zone base.domain environment.options.strict questions found
            ∧ (Position.running (base.before environment.options
                (searchingStages environment.options) none)).Yields environment zone base questions
                  (found.bind (foundOutcome environment.options base.domain)) := by
        unfold searchingStages
        cases environment.options.strict with
        | true => exact yields_retrieveStrict
        | false => exact yields_retrieve
      exact ⟨_, _, searches.obtains own qualified, yields_qualified known qualified yields⟩

/-- The stages after the overrides, for a domain that has a record there. -/
theorem yields_override {text : Text} {record : Record} (known : base.identity.client.isSome)
    (own : localText environment.options.overrides base.domain = some text)
    (reads : Record.read text = .ok record) (suppliers : ∀ stage ∈ later, isSupplier stage) :
    ∃ questions outcome, Obtains environment.options zone base.domain questions outcome
      ∧ (Position.running (base.before environment.options (.initialChecks :: later)
          (some (.policy ⟨record, []⟩)))).Yields environment zone base questions outcome := by
  cases qualified : Domain.isFullyQualified base.domain with
  | false =>
      refine ⟨_, _, .unqualified (fun other given => ?_) qualified,
        yields_unqualified known qualified⟩
      obtain rfl := Option.some.inj (own.symm.trans given)
      exact ⟨record, reads⟩
  | true =>
      exact ⟨_, _, .override own reads qualified,
        yields_qualified known qualified (yields_suppliers record suppliers)⟩

/-- The evaluation of a domain begins with its stages and an empty slot. -/
theorem yields_evaluateDomain (opened : base.isOpen = true)
    (yields : (Position.running (base.before environment.options
      ((if environment.options.overrides.isSome then [.override] else [])
        ++ .initialChecks :: searchingStages environment.options) none)).Yields environment zone
          base questions outcome) :
    (runTask environment base .evaluateDomain).settle.position.Yields environment zone base
      questions outcome := by
  have begins : runTask environment base .evaluateDomain
      = .proceed (base.before environment.options
        ((if environment.options.overrides.isSome then [.override] else [])
          ++ .initialChecks :: searchingStages environment.options) none) := by
    simp only [runTask, opened, if_true, stages_eq, searchingStages, State.before, State.pushAll,
      List.map_append, List.map_cons, List.append_assoc, List.cons_append, List.nil_append]
  exact begins ▸ yields

/-- The evaluation of a domain begins by obtaining its record. -/
theorem exists_yields (known : base.identity.client.isSome) (opened : base.isOpen = true) :
    ∃ questions outcome, Obtains environment.options zone base.domain questions outcome
      ∧ (runTask environment base .evaluateDomain).settle.position.Yields environment zone base
          questions outcome := by
  cases source : environment.options.overrides with
  | none =>
      have own : localText environment.options.overrides base.domain = none := by
        rw [source]
        rfl
      obtain ⟨questions, outcome, obtains, yields⟩ := yields_search known own
      refine ⟨questions, outcome, obtains, yields_evaluateDomain opened ?_⟩
      simpa [source] using yields
  | some records =>
      have begins {questions : List Dns.Question} {outcome : Except Failure Record}
          (yields : (useLocalRecord environment.options.overrides (base.before environment.options
            (.initialChecks :: searchingStages environment.options)
            none)).settle.position.Yields environment zone base questions outcome) :
          (runTask environment base .evaluateDomain).settle.position.Yields environment zone base
            questions outcome := by
        apply yields_evaluateDomain opened
        simp only [source, Option.isSome_some, if_true]
        exact yields_run rfl yields
      cases own : localText environment.options.overrides base.domain with
      | none =>
          obtain ⟨questions, outcome, obtains, yields⟩ := yields_search known own
          refine ⟨questions, outcome, obtains, begins ?_⟩
          rw [useLocalRecord_of_none own]
          exact yields
      | some text =>
          cases reads : Record.read text with
          | error failure =>
              refine ⟨[], .error failure, .unreadable own reads, begins ?_⟩
              rw [useLocalRecord_of_some own]
              simp only [useRecordText, reads]
              exact yields_fail failure
          | ok record =>
              obtain ⟨questions, outcome, obtains, yields⟩ :=
                yields_override known own reads isSupplier_of_mem_searchingStages
              refine ⟨questions, outcome, obtains, begins ?_⟩
              rw [useLocalRecord_of_some own]
              simp only [useRecordText, reads]
              exact yields

end

/-! ## Whole runs -/

/-- A check that is still open knows the client's address. -/
theorem client_of_isOpen {environment : Environment}
    {permitted : Dns.Question → Dns.Answer → Prop} {identity : Identity} {left : List Position}
    {state : State}
    (steps : Position.Steps environment permitted (.running (State.start identity)) left
      (.running state))
    (opened : state.isOpen = true) : state.identity.client.isSome := by
  have same : state.identity = identity :=
    @Position.Steps.keeps _ _ (fun position => position.state.identity = identity)
      (fun turn holds => turn.identity.trans holds) _ _ _ steps rfl
  rw [same]
  cases client : identity.client with
  | some address => rfl
  | none =>
      have decided : (Position.running state).state.result = some .permError :=
        steps.keeps (fun turn decided => turn.result decided) (by
          simp [Position.state, State.start, client])
      change state.result = _ at decided
      simp [State.isOpen, decided] at opened

/-- Each time a domain is evaluated, its stages ask the questions and hand on the outcome that the
rules give, and the rules give one only. -/
theorem stages_obtain_record (environment : Environment) (zone : Dns.Question → Dns.Answer)
    (identity : Identity) :
    let passed := visited environment (fun _ => zone) [] (.running (State.start identity))
    let last := (converse environment (fun _ => zone) [] (.running (State.start identity))).2
    ∀ base before after,
      passed ++ [.running last] = before ++ .running (base.push .evaluateDomain) :: after →
      base.isOpen = true →
      ∃ questions outcome inside ending outside,
        Obtains environment.options zone base.domain questions outcome
          ∧ (∀ others other, Obtains environment.options zone base.domain others other →
            others = questions ∧ other = outcome)
          ∧ after = inside ++ ending :: outside
          ∧ inside.filterMap Position.question? = questions
          ∧ ending.HandsOn environment.options base outcome
          ∧ (Failure.notFullyQualified base.domain).code = .none
          ∧ (Failure.recordUnanswered base.domain).code = .tempError
          ∧ Failure.severalRecords.code = .permError ∧ Failure.recordsDiffer.code = .permError
          ∧ (Failure.noRecordFound base.domain).code = .none := by
  intro passed last base before after row opened
  obtain ⟨steps, finished⟩ := @visited_steps environment (fun _ => zone)
    (fun question answer => answer = zone question) (fun _ _ => rfl) []
    (.running (State.start identity))
  have known : (base.push .evaluateDomain).identity.client.isSome :=
    client_of_isOpen (steps.to_middle row) opened
  obtain ⟨questions, outcome, obtains, inside, ending, turns, asked, hands⟩ :=
    @exists_yields environment zone base known opened
  obtain ⟨outside, parts⟩ := steps.exists_outside finished row (.step (.run rfl) turns)
  exact ⟨questions, outcome, inside, ending, outside, obtains,
    fun others other rules => rules.unique obtains, parts, asked, hands, rfl, rfl, rfl, rfl, rfl⟩

/-- A record of the second kind is handed on after both questions. -/
theorem stages_obtain_record_second :
    let zone : Dns.Question → Dns.Answer := fun question =>
      if question = ⟨"example.com".toList, .txt⟩ then .records ["v=spf1 -all".toList]
      else .records []
    let identity :=
      Identity.read "203.0.113.1".toList "user@example.com".toList "mail.example.net".toList
    let base : State := { State.start identity with tasks := [.conclude] }
    let passed := visited {} (fun _ => zone) [] (.running (State.start identity))
    let last := (converse {} (fun _ => zone) [] (.running (State.start identity))).2
    base.isOpen = true
      ∧ ∃ inside ending outside record,
        passed ++ [.running last]
            = .running (base.push .evaluateDomain) :: (inside ++ ending :: outside)
          ∧ inside.filterMap Position.question?
            = [⟨"example.com".toList, .spf⟩, ⟨"example.com".toList, .txt⟩]
          ∧ Record.read "v=spf1 -all".toList = .ok record
          ∧ ending.HandsOn {} base (.ok record) := by
  intro zone identity base passed last
  have opened : base.isOpen = true := by decide +kernel
  obtain ⟨after, row⟩ := (@visited_steps {} (fun _ => zone) (fun _ _ => True)
    (fun _ _ => trivial) [] (.running (State.start identity))).1.exists_cons
  obtain ⟨questions, outcome, inside, ending, outside, _, only, rfl, asked, hands, _⟩ :=
    stages_obtain_record {} zone identity base [] after row opened
  have rules : Obtains {} zone base.domain
      [⟨"example.com".toList, .spf⟩, ⟨"example.com".toList, .txt⟩]
      (Record.read "v=spf1 -all".toList) :=
    .published rfl (by decide +kernel)
      (.second (.nothing (by decide +kernel)) (.one (by decide +kernel)))
  obtain ⟨sameQuestions, sameOutcome⟩ := only _ _ rules
  obtain ⟨record, reads⟩ : ∃ record, Record.read "v=spf1 -all".toList = .ok record := by
    have readable : (Record.read "v=spf1 -all".toList).isOk = true := by decide +kernel
    cases reads : Record.read "v=spf1 -all".toList with
    | error failure =>
        rw [reads] at readable
        cases readable
    | ok record => exact ⟨record, rfl⟩
  refine ⟨opened, inside, ending, outside, record, row, asked.trans sameQuestions.symm, reads, ?_⟩
  rw [← reads, sameOutcome]
  exact hands

end SenderPolicy.Check
