import Mathlib.Data.List.Chain
import SenderPolicy.Proofs.Check.Steps
import SenderPolicy.Proofs.LocalRecords.Lookup

/-!
# Checks with local records

What a check takes from local records can be read, since nothing else is taken in. So the stages
that use overrides and fallbacks do not fail where these are local records, whatever calls have
been made on them: in the events of a run no failure is caught right after such a stage.
-/

namespace SenderPolicy

namespace Check

/-! ## Stages that do not fail -/

/-- The second event does not catch a failure of the stage that is run in the first one. -/
def Event.Continues (stage : Stage) (first second : Event) : Prop :=
  first = .run (.stage stage) → ∀ task failure, second ≠ .catch task failure

/-- The stage never fails. -/
def Stage.NeverFails (environment : Environment) (stage : Stage) : Prop :=
  ∀ state, ∃ after, runStage environment state stage = .proceed after

section
variable {environment : Environment} {stage : Stage}

theorem isChain_of_no_run {events : List Event} (none : ∀ task, .run task ∉ events) :
    events.IsChain (Event.Continues stage) := by
  induction events with
  | nil => exact .nil
  | cons event events inductionHypothesis =>
      refine List.isChain_cons.mpr ⟨fun _ _ isRun => ?_, inductionHypothesis fun task member => ?_⟩
      · subst isRun
        exact absurd List.mem_cons_self (none _)
      · exact none task (List.mem_cons_of_mem _ member)

theorem run_not_mem_unwind (failure : Failure) (state : State) (tasks : List Task) (task : Task) :
    .run task ∉ (unwind failure state tasks).1 := by
  induction tasks generalizing failure state with
  | nil => simp [unwind]
  | cons top tasks inductionHypothesis =>
      unfold unwind
      split
      · exact inductionHypothesis failure state
      · simp
      · simpa using inductionHypothesis _ _

theorem run_not_mem_settle (reaction : Reaction) (task : Task) :
    .run task ∉ reaction.settle.events := by
  cases reaction with
  | proceed state => exact List.not_mem_nil
  | ask state lookup => exact List.not_mem_nil
  | fail state failure => exact run_not_mem_unwind failure state state.tasks task

/-- What follows at a position does not begin with a failure that is caught. -/
theorem not_catch_head?_converse {resolver : Resolver} {asked : List Dns.Question}
    {position : Position} {event : Event}
    (first : event ∈ (converse environment resolver asked position).1.head?) :
    ∀ task failure, event ≠ .catch task failure := by
  rintro task failure rfl
  cases position with
  | waiting state lookup => simp [converse_waiting] at first
  | running state =>
      cases stack : state.tasks with
      | nil => simp [converse_finished stack] at first
      | cons task below => simp [converse_running stack, runTurn] at first

/-- No failure of the stage is caught in a run. -/
theorem Stage.NeverFails.isChain_converse (never : stage.NeverFails environment)
    (resolver : Resolver) (asked : List Dns.Question) (position : Position) :
    (converse environment resolver asked position).1.IsChain (Event.Continues stage) := by
  have goesOn : ∀ {asked position} (events : List Event), events.IsChain (Event.Continues stage) →
      (converse environment resolver asked position).1.IsChain (Event.Continues stage) →
      (events ++ (converse environment resolver asked position).1).IsChain
        (Event.Continues stage) :=
    fun events before after => List.isChain_append.mpr
      ⟨before, after, fun _ _ _ first _ => not_catch_head?_converse first⟩
  induction position using Position.precedes_wellFounded.induction generalizing asked with
  | h position inductionHypothesis =>
      cases position with
      | waiting state lookup =>
          rw [converse_waiting, List.cons_append]
          refine List.isChain_cons.mpr ⟨fun _ _ isRun => ?_, ?_⟩
          · cases isRun
          · exact goesOn _ (isChain_of_no_run fun task => run_not_mem_settle _ task)
              (inductionHypothesis _ (receiveTurn_precedes ..) _)
      | running state =>
          cases stack : state.tasks with
          | nil =>
              rw [converse_finished stack]
              exact .nil
          | cons task below =>
              rw [converse_running stack]
              refine goesOn _ ?_ (inductionHypothesis _ (runTurn_precedes _ _ _ _ stack) _)
              by_cases isStage : task = .stage stage
              · -- The turn of the stage consists of its run alone.
                subst isStage
                obtain ⟨after, proceeds⟩ := never { state with tasks := below }
                have turn : (runTurn environment state (.stage stage) below).events
                    = [.run (.stage stage)] := by
                  simp only [runTurn, runTask, proceeds, Reaction.settle]
                exact turn ▸ .singleton _
              · refine List.isChain_cons.mpr ⟨fun _ _ isRun => ?_, ?_⟩
                · cases isRun
                  exact absurd rfl isStage
                · exact isChain_of_no_run fun other => run_not_mem_settle _ other

end

/-- A source whose texts can all be read. -/
def IsReadable (source : RecordSource) : Prop :=
  ∀ domain text, source domain = some text → ∃ record, Record.read text = .ok record

theorem useLocalRecord_of_isReadable {source : RecordSource} (readable : IsReadable source)
    (state : State) : ∃ after, useLocalRecord (some source) state = .proceed after := by
  unfold useLocalRecord
  split
  · exact ⟨_, rfl⟩
  · rw [Option.bind_some]
    split
    · exact ⟨_, rfl⟩
    · rename_i text found
      obtain ⟨record, reads⟩ := readable _ text found
      exact ⟨{ state with slot := some (.policy ⟨record, []⟩) }, by rw [useRecordText, reads]⟩

end Check

namespace LocalRecords

theorem isReadable_ofCalls (calls : List Call) : Check.IsReadable (ofCalls calls).source :=
  fun _ _ found => (find?_ofCalls_eq_iff.mp found).reads

/-- Whatever calls have been made on local records, a text that cannot be read is turned down and
changes nothing. A domain is given the text that was accepted last under its own name and not
removed, or else the one for all names inside the smallest domain around it that has one; a text
for all names inside a domain is never given to that domain itself. All that is given back can be
read, so no stage of a check fails that takes its overrides or fallbacks from here. -/
theorem ofCalls_answers (calls : List Call) :
    let records := ofCalls calls
    (∀ host text failure, Record.read text = .error failure →
        records.answer (.add host text) = (records, .rejected failure))
      ∧ (∀ host text record, Record.read text = .ok record →
        (records.answer (.add host text)).2 = .added)
      ∧ (∀ domain found, records.answer (.find domain) = (records, .found found)
        ↔ Finds calls (Domain.normal domain) found)
      ∧ (∀ host kept, (records.answer (.remove host)).2 = .removed (some kept)
        ↔ Stands calls (Domain.normal host) kept)
      ∧ (∀ host domain text, Domain.normal host = wildcard (Domain.normal domain) →
        (ofCalls (calls ++ [.add host text])).find? domain = records.find? domain)
      ∧ (∀ call kept, ((records.answer call).2 = .found (some kept)
          ∨ (records.answer call).2 = .removed (some kept)) →
        ∃ record, Record.read kept = .ok record)
      ∧ (∀ environment : Check.Environment,
        (environment.options.overrides = some records.source →
          Check.Stage.override.NeverFails environment
            ∧ ∀ resolver identity, (Check.run environment resolver identity).events.IsChain
              (Check.Event.Continues .override))
        ∧ (environment.options.fallbacks = some records.source →
          Check.Stage.fallback.NeverFails environment
            ∧ ∀ resolver identity, (Check.run environment resolver identity).events.IsChain
              (Check.Event.Continues .fallback))) := by
  intro records
  have removed : ∀ host kept, (records.answer (.remove host)).2 = .removed (some kept)
      ↔ Stands calls (Domain.normal host) kept := by
    intro host kept
    rw [← get?_ofCalls_iff]
    simp only [answer, remove, Reply.removed.injEq, records]
  refine ⟨?_, ?_, ?_, removed, ?_, ?_, ?_⟩
  · intro host text failure reads
    simp only [answer, add_of_error reads]
  · intro host text record reads
    simp only [answer, add_of_ok reads]
  · intro domain found
    rw [← find?_ofCalls_eq_iff]
    simp [answer, records]
  · intro host domain text around
    rw [ofCalls_concat]
    cases added : (ofCalls calls).add host text with
    | error failure => simp only [answer, added, records]
    | ok after =>
        simp only [answer, added]
        exact find?_add_wildcard around added
  · rintro call kept (found | gone)
    · cases call with
      | find domain => exact isReadable_ofCalls calls domain kept (Reply.found.inj found)
      | add host text =>
          simp only [answer] at found
          split at found <;> cases found
      | remove host => cases found
    · cases call with
      | remove host => exact ((removed host kept).mp gone).reads
      | add host text =>
          simp only [answer] at gone
          split at gone <;> cases gone
      | find domain => cases gone
  · intro environment
    have proceeds := Check.useLocalRecord_of_isReadable (isReadable_ofCalls calls)
    constructor
    · intro overrides
      have never : Check.Stage.override.NeverFails environment := fun state => by
        simpa only [Check.runStage, overrides] using proceeds state
      exact ⟨never, fun resolver _ => never.isChain_converse resolver [] _⟩
    · intro fallbacks
      have never : Check.Stage.fallback.NeverFails environment := fun state => by
        simpa only [Check.runStage, fallbacks] using proceeds state
      exact ⟨never, fun resolver _ => never.isChain_converse resolver [] _⟩

/-- Texts for all names inside two domains, one around the other, and for a domain itself: one is
replaced and one is given up, so what is left answers. -/
theorem ofCalls_answers_overlapping :
    let calls : List Call :=
      [.add "Example.COM.".toList "v=spf1 -all".toList,
        .add "*.example.org".toList " v=spf1 +all ".toList,
        .add "*.mail.example.org".toList "v=spf1 ?all".toList,
        .add "example.com".toList "v=spf1 bogus".toList,
        .add "example.com".toList "v=spf1 ~all".toList, .remove "*.mail.example.org.".toList]
    let records := ofCalls calls
    let environment : Check.Environment :=
      { options := { overrides := some records.source, fallbacks := some records.source } }
    let resolver : Check.Resolver := fun _ _ => .records []
    let identity := Identity.read "192.0.2.1".toList "user@a.mail.example.org".toList
      "mail.example.net".toList
    records.answer (.add "example.org".toList "v=spf1 bogus".toList)
        = (records, .rejected (.notATerm "bogus".toList))
      ∧ (records.answer (.add "example.org".toList "v=spf1 a".toList)).2 = .added
      ∧ Finds calls "a.mail.example.org".toList (some "v=spf1 +all".toList)
      ∧ Finds calls "example.com".toList (some "v=spf1 ~all".toList)
      ∧ Finds calls "example.org".toList none
      ∧ Stands calls "*.example.org".toList "v=spf1 +all".toList
      ∧ (ofCalls (calls ++ [.add "*.example.net".toList "v=spf1 a".toList])).find?
          "example.net".toList = records.find? "example.net".toList
      ∧ (∃ record, Record.read "v=spf1 +all".toList = .ok record)
      ∧ (Check.run environment resolver identity).events.IsChain
          (Check.Event.Continues .override)
      ∧ (Check.run environment resolver identity).events.IsChain
          (Check.Event.Continues .fallback) := by
  intro calls records environment resolver identity
  obtain ⟨rejects, accepts, finds, removes, apart, readable, smooth⟩ := ofCalls_answers calls
  have spelled : Record.read "v=spf1 a".toList
      = .ok ⟨[⟨.pass, .a none ⟨32, 128⟩⟩], []⟩ := by
    decide +kernel
  have given : ∀ {domain text}, records.find? domain = text →
      records.answer (.find domain) = (records, .found text) :=
    fun same => congrArg (fun text => (records, Reply.found text)) same
  have inside := @given "A.mail.example.org".toList (some "v=spf1 +all".toList) (by decide +kernel)
  exact ⟨rejects _ _ _ (by decide +kernel), accepts _ _ _ spelled, (finds _ _).mp inside,
    (finds "example.com.".toList _).mp (given (by decide +kernel)),
    (finds "example.org".toList _).mp (given (by decide +kernel)),
    (removes "*.EXAMPLE.org".toList _).mp (by decide +kernel), apart _ _ _ (by decide +kernel),
    readable _ _ (.inl (congrArg Prod.snd inside)),
    ((smooth environment).1 rfl).2 resolver identity,
    ((smooth environment).2 rfl).2 resolver identity⟩

end LocalRecords

end SenderPolicy
