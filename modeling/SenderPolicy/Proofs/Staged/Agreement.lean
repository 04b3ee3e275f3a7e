import Mathlib.Data.List.Nodup
import SenderPolicy.Proofs.Staged.Faithful
import SenderPolicy.Proofs.Staged.Schedule

/-!
# Agreement of the staged executor with single runs

`Executor.Agrees` ties the tables of the executor to the checks that `Faithful` speaks of.
Every action keeps it, under honest responses, and so does a whole schedule. What a check
asks and what its promise holds are then those of its own run, whatever the order of the
responses and whatever other checks there are.
-/

namespace SenderPolicy.Staged

open SenderPolicy.Check (Environment Outcome Position remainder)

section
variable (environment : Environment) (zone : Dns.Question → Dns.Answer)

/-- What the run of a submitted check has left. -/
def Submission.holding (submission : Submission) : Holding :=
  ⟨submission.check, remainder environment zone (.running submission.state)⟩

/-- What the run of a waiting check has left once the zone has answered. -/
def Entry.holding (entry : Entry) : Holding :=
  ⟨entry.check, remainder environment zone (Check.resume environment entry.state
    entry.lookup.awaiting (zone entry.lookup.question)).2.position⟩

/-- All checks that are kept somewhere. -/
def Executor.holdings (executor : Executor) : List Holding :=
  executor.submissions.map (Submission.holding environment zone)
    ++ (executor.entries ++ executor.worker.entries).map (Entry.holding environment zone)

/-- The tables of the executor agree with one run for each identity, up to checks in hand. -/
structure Executor.Agrees (identities : List Identity) (log : Nat → List Dns.Question)
    (hand : List Holding) (executor : Executor) : Prop where
  setting : executor.environment = environment
  faithful : Faithful environment zone identities log
    (hand ++ executor.holdings environment zone) executor.promises
  distinct : (executor.entries.map Entry.id).Nodup
  fresh : ∀ entry ∈ executor.entries, entry.id < executor.nextId
  answered : ∀ entry answer, executor.worker = .holding entry answer →
    answer = zone entry.lookup.question

end

/-- An item that is found by a key that no other has is the one that filtering removes. -/
theorem perm_cons_filter_of_find? {α : Type} (key : α → Nat) {items : List α} {item : α}
    {wanted : Nat} (distinct : (items.map key).Nodup)
    (found : items.find? (fun other => key other = wanted) = some item) :
    items.Perm (item :: items.filter fun other => key other ≠ wanted) := by
  induction items with
  | nil => cases found
  | cons first items inductionHypothesis =>
      obtain ⟨unique, rest⟩ := List.nodup_cons.mp distinct
      by_cases hit : key first = wanted
      · obtain rfl : first = item := by simpa [hit] using found
        have kept : items.filter (fun other => key other ≠ wanted) = items := by
          apply List.filter_eq_self.mpr
          intro other member
          have different : key other ≠ key first := by
            intro same
            exact unique (same ▸ List.mem_map_of_mem member)
          simp [← hit, different]
        rw [List.filter_cons_of_neg (by simp [hit]), kept]
      · have later : items.find? (fun other => key other = wanted) = some item := by
          simpa [hit] using found
        rw [List.filter_cons_of_pos (by simp [hit])]
        exact ((inductionHypothesis rest later).cons first).trans (.swap ..)

/-- The worker that takes an entry holds it in place of the table. -/
theorem Executor.perm_entries_take {executor : Executor} {entry : Entry} {id : Nat}
    (distinct : (executor.entries.map Entry.id).Nodup) (idle : executor.worker = .idle)
    (found : executor.entries.find? (fun other => other.id = id) = some entry) :
    (executor.entries ++ executor.worker.entries).Perm
      (executor.entries.filter (fun other => other.id ≠ id) ++ [entry]) := by
  have nothing : executor.worker.entries = [] := by rw [idle]; rfl
  rw [nothing, List.append_nil]
  exact (perm_cons_filter_of_find? Entry.id distinct found).trans
    (List.perm_append_singleton _ _).symm

/-- A request gets a number that no other request has, and later ones get later numbers. -/
theorem Executor.ids_settle {executor : Executor} (check : Nat) (state : Check.State)
    (lookup : Check.Lookup) (distinct : (executor.entries.map Entry.id).Nodup)
    (fresh : ∀ entry ∈ executor.entries, entry.id < executor.nextId) :
    let after := (executor.settle check (.waiting state lookup)).1
    (after.entries.map Entry.id).Nodup ∧ ∀ entry ∈ after.entries, entry.id < after.nextId := by
  have unused : executor.nextId ∉ executor.entries.map Entry.id := by
    intro used
    obtain ⟨other, member, numbered⟩ := List.mem_map.mp used
    have earlier := fresh other member
    omega
  constructor
  · simp only [Executor.settle, List.map_append, List.map_cons, List.map_nil]
    exact (List.perm_append_singleton _ _).nodup_iff.mpr (List.nodup_cons.mpr ⟨unused, distinct⟩)
  · intro other member
    simp only [Executor.settle, List.mem_append, List.mem_singleton] at member ⊢
    rcases member with old | rfl
    · have earlier := fresh other old
      omega
    · simp

namespace Executor.Agrees

variable {environment : Environment} {zone : Dns.Question → Dns.Answer}
  {identities : List Identity} {log : Nat → List Dns.Question} {executor : Executor}

/-- The executor agrees before anything happens. -/
theorem empty (environment : Environment) (zone : Dns.Question → Dns.Answer) :
    Agrees environment zone [] (fun _ => []) [] { environment } where
  setting := rfl
  faithful := .empty
  distinct := List.nodup_nil
  fresh := by simp
  answered := by simp

/-- An action without effects adds nothing to the log. -/
theorem quiet {hand : List Holding} (select : Nat → Effect → Option Dns.Question)
    (agrees : executor.Agrees environment zone identities log hand) :
    executor.Agrees environment zone identities
      (fun check => log check ++ ([] : List Effect).filterMap (select check)) hand := by
  have faithful := agrees.faithful.log_congr fun check => List.append_nil (log check)
  exact { agrees with faithful }

/-- The promise of a check in hand. -/
theorem promise_of_hand {check : Nat} {rest : Check.Remainder} {hand : List Holding}
    (agrees : executor.Agrees environment zone identities log (⟨check, rest⟩ :: hand)) :
    ∃ promise, executor.promise? check = some promise := by
  obtain ⟨identity, listed, _⟩ := agrees.faithful.follows ⟨check, rest⟩ List.mem_cons_self
  have bound := (List.getElem?_eq_some_iff.mp listed).1
  rw [← agrees.faithful.length] at bound
  exact ⟨_, List.getElem?_eq_getElem bound⟩

/-- Changing a promise looks nothing up. -/
theorem changePromise {check : Nat} {change : Promise → Promise × Execution}
    {promise : Promise} {hand : List Holding}
    (agrees : executor.Agrees environment zone identities log hand)
    (promised : executor.promise? check = some promise)
    {others : List Holding}
    (faithful : Faithful environment zone identities log
      (others ++ executor.holdings environment zone)
      (executor.promises.set check (change promise).1)) :
    let result := executor.changePromise check change
    result.1.Agrees environment zone identities
      (fun other => log other ++ result.2.filterMap (result.1.lookupOf? other)) others := by
  have silent : ∀ (other : Nat) (after : Executor) (notices : List Notice),
      (notices.map Effect.notice).filterMap (after.lookupOf? other) = [] := by
    intro other after notices
    simp [List.filterMap_map, Function.comp_def, lookupOf?]
  simp only [Executor.changePromise, promised]
  constructor
  case setting => exact agrees.setting
  case faithful =>
    refine faithful.log_congr fun other => ?_
    rw [silent, List.append_nil]
  case distinct => exact agrees.distinct
  case fresh => exact agrees.fresh
  case answered => exact agrees.answered

/-- A check in hand whose run is over is finished. -/
theorem fulfil {check : Nat} {last : Check.State}
    (agrees : executor.Agrees environment zone identities log [⟨check, ⟨[], last⟩⟩]) :
    let result := executor.changePromise check (Promise.fulfil letGo (Outcome.ofState last))
    result.1.Agrees environment zone identities
      (fun other => log other ++ result.2.filterMap (result.1.lookupOf? other)) [] := by
  obtain ⟨promise, promised⟩ := agrees.promise_of_hand
  exact agrees.changePromise promised (agrees.faithful.finish promised)

/-- A request gets a number that no other request has. -/
theorem owner?_settle {hand : List Holding} (check : Nat) (state : Check.State)
    (lookup : Check.Lookup) (agrees : executor.Agrees environment zone identities log hand) :
    (executor.settle check (.waiting state lookup)).1.owner? executor.nextId = some check := by
  have unused : executor.entries.find? (fun other => other.id = executor.nextId) = none := by
    apply List.find?_eq_none.mpr
    intro other member
    have earlier := agrees.fresh other member
    simp only [decide_eq_true_eq]
    omega
  simp only [Executor.settle, owner?]
  rw [List.find?_append, unused, Option.none_or, List.find?_singleton]
  simp

/-- A check in hand that needs an answer waits for it under a new number. -/
theorem await {check : Nat} {state : Check.State} {lookup : Check.Lookup}
    (agrees : executor.Agrees environment zone identities log
      [⟨check, remainder environment zone (.waiting state lookup)⟩]) :
    let result := executor.settle check (.waiting state lookup)
    result.1.Agrees environment zone identities
      (fun other => log other ++ result.2.filterMap (result.1.lookupOf? other)) [] := by
  let entry : Entry := ⟨executor.nextId, check, state, lookup⟩
  have owned := agrees.owner?_settle check state lookup
  have asked := agrees.faithful
  rw [Check.remainder_waiting] at asked
  have later : entry.holding environment zone = ⟨check, remainder environment zone
      (Check.receiveTurn environment state lookup.awaiting (zone lookup.question)).position⟩ := by
    rw [Entry.holding, Check.resume_eq_pause, (Position.remainder_pause _).1]
  have moved : (entry.holding environment zone :: executor.holdings environment zone).Perm
      (executor.submissions.map (Submission.holding environment zone)
        ++ ((executor.entries ++ [entry]) ++ executor.worker.entries).map
          (Entry.holding environment zone)) := by
    simp only [Executor.holdings, List.map_append, List.map_cons, List.append_assoc,
      List.singleton_append]
    rw [← List.append_assoc, ← List.append_assoc]
    exact List.perm_middle.symm
  constructor
  case setting => exact agrees.setting
  case faithful =>
    rw [later] at moved
    refine (asked.ask.perm moved).log_congr fun other => ?_
    have effects : (executor.settle check (.waiting state lookup)).2
        = [.lookup executor.nextId lookup.question] := rfl
    rw [effects, List.filterMap_cons, lookupOf?, owned]
    by_cases same : other = check
    · simp [Faithful.logged, same]
    · simp [Faithful.logged, same, Ne.symm same]
  case distinct => exact (ids_settle check state lookup agrees.distinct agrees.fresh).1
  case fresh => exact (ids_settle check state lookup agrees.distinct agrees.fresh).2
  case answered => exact agrees.answered

/-- A check in hand is settled: it waits under a new number, or its promise is filled in. -/
theorem settle {check : Nat} {position : Position}
    (agrees : executor.Agrees environment zone identities log
      [⟨check, remainder environment zone position⟩]) :
    let result := executor.settle check (position.pause environment)
    result.1.Agrees environment zone identities
      (fun other => log other ++ result.2.filterMap (result.1.lookupOf? other)) [] := by
  obtain ⟨same, ended⟩ := @Position.remainder_pause environment zone position
  rw [← same] at agrees
  generalize position.pause environment = progress at agrees ended
  cases progress with
  | finished last =>
      rw [Check.Progress.position, Check.remainder_finished (ended last rfl)] at agrees
      exact agrees.fulfil
  | waiting state lookup => exact agrees.await

/-! ### Small steps -/

/-- A caller that runs its check takes it in hand. -/
theorem takeSubmission {check : Nat} {submission : Submission}
    (agrees : executor.Agrees environment zone identities log [])
    (found : executor.submissions.find? (fun other => other.check = check) = some submission) :
    { executor with
      submissions := executor.submissions.filter fun other => other.check ≠ check }.Agrees
        environment zone identities log [submission.holding environment zone] := by
  have single := agrees.faithful.single
  have distinct : (executor.submissions.map Submission.check).Nodup := by
    rw [List.nil_append, holdings, List.map_append, List.map_map] at single
    exact (List.nodup_append.mp single).1
  have moved := (perm_cons_filter_of_find? Submission.check distinct found).map
    (Submission.holding environment zone)
  have faithful := agrees.faithful.perm (moved.append_right _)
  exact { agrees with faithful }

/-- A caller runs its check until the first question. -/
theorem submit (check : Nat) (agrees : executor.Agrees environment zone identities log []) :
    let result := executor.submit check
    result.1.Agrees environment zone identities
      (fun other => log other ++ result.2.filterMap (result.1.lookupOf? other)) [] := by
  unfold Executor.submit
  cases found : executor.submissions.find? fun submission => submission.check = check with
  | none => exact agrees.quiet _
  | some submission =>
      have named : submission.check = check := by simpa using List.find?_some found
      have taken := agrees.takeSubmission found
      rw [Submission.holding, named] at taken
      have advanced : (Check.advance executor.environment submission.state).2
          = (Position.running submission.state).pause environment := by
        rw [agrees.setting]
        rfl
      simp only [advanced]
      exact taken.settle

/-- A caller starts a check. -/
theorem start (identity : Identity)
    (agrees : executor.Agrees environment zone identities log []) :
    (executor.start identity).Agrees environment zone (identities ++ [identity]) log [] where
  setting := agrees.setting
  faithful := by
    refine (agrees.faithful.start identity).perm ?_
    simp only [Executor.start, holdings, List.nil_append, List.map_append, List.map_cons,
      List.map_nil, List.append_assoc]
    exact List.perm_middle.symm
  distinct := agrees.distinct
  fresh := agrees.fresh
  answered := agrees.answered

/-- The worker takes an entry and the answer of the zone. -/
theorem take (honest : executor.Answers zone)
    (agrees : executor.Agrees environment zone identities log []) :
    executor.take.Agrees environment zone identities log [] := by
  unfold Executor.take
  split
  case h_2 => exact agrees
  rename_i response queue idle removed
  split
  case h_1 => exact { agrees with }
  rename_i entry found
  have moved := perm_entries_take agrees.distinct idle found
  constructor
  case setting => exact agrees.setting
  case faithful =>
    exact agrees.faithful.perm ((moved.map (Entry.holding environment zone)).append_left _)
  case distinct => exact (List.filter_sublist.map Entry.id).nodup agrees.distinct
  case fresh =>
    intro other member
    exact agrees.fresh other (List.mem_filter.mp member).1
  case answered =>
    intro other answer holding
    cases holding
    have asked : executor.question? response.id = some entry.lookup.question := by
      rw [question?, found, Option.map_some]
    exact honest response queue _ removed asked

/-- The worker goes on with the check that it holds. -/
theorem work (agrees : executor.Agrees environment zone identities log []) :
    let result := executor.work
    result.1.Agrees environment zone identities
      (fun other => log other ++ result.2.filterMap (result.1.lookupOf? other)) [] := by
  unfold Executor.work
  cases held : executor.worker with
  | idle => exact agrees.quiet _
  | settled => exact agrees.quiet _
  | holding entry answer =>
      have inHand : { executor with worker := .settled }.Agrees environment zone identities log
          [entry.holding environment zone] := by
        have moved : (executor.holdings environment zone).Perm (entry.holding environment zone
            :: { executor with worker := .settled }.holdings environment zone) := by
          simp only [holdings, held, Worker.entries, List.map_append, List.map_cons, List.map_nil,
            List.append_nil]
          rw [← List.append_assoc]
          exact List.perm_append_singleton _ _
        constructor
        case setting => exact agrees.setting
        case faithful => exact agrees.faithful.perm moved
        case distinct => exact agrees.distinct
        case fresh => exact agrees.fresh
        case answered => simp
      have answered := agrees.answered entry answer held
      have resumed : (Check.resume executor.environment entry.state entry.lookup.awaiting answer).2
          = (Check.receiveTurn environment entry.state entry.lookup.awaiting
              (zone entry.lookup.question)).position.pause environment := by
        rw [agrees.setting, answered, Check.resume_eq_pause]
      rw [Entry.holding, Check.resume_eq_pause, (Position.remainder_pause _).1] at inHand
      simp only [resumed]
      exact inHand.settle

/-- The worker looks around. -/
theorem finish (agrees : executor.Agrees environment zone identities log []) :
    executor.finish.Agrees environment zone identities log [] := by
  unfold Executor.finish
  cases held : executor.worker with
  | idle => exact agrees
  | holding entry answer => exact agrees
  | settled =>
      have nothing : executor.worker.entries = [] := by rw [held]; rfl
      have faithful : Faithful environment zone identities log
          (({ executor with worker := .idle } : Executor).holdings environment zone)
          executor.promises := by
        have before := agrees.faithful
        rw [List.nil_append, holdings, nothing] at before
        exact before
      have idle : { executor with worker := .idle }.Agrees environment zone identities log [] :=
        ⟨agrees.setting, faithful, agrees.distinct, agrees.fresh, by simp⟩
      dsimp only
      split
      · exact { idle with }
      · exact idle

/-- Stopping disturbs no check. -/
theorem drop (agrees : executor.Agrees environment zone identities log []) :
    executor.drop.Agrees environment zone identities log [] := by
  unfold Executor.drop
  dsimp only
  split
  · exact { agrees with }
  · exact { agrees with }

/-- A listener disturbs no check. -/
theorem listen (check : Nat) (listener : Listener)
    (agrees : executor.Agrees environment zone identities log []) :
    let result := executor.listen check listener
    result.1.Agrees environment zone identities
      (fun other => log other ++ result.2.filterMap (result.1.lookupOf? other)) [] := by
  unfold Executor.listen
  cases promised : executor.promise? check with
  | none =>
      simp only [Executor.changePromise, promised]
      exact agrees.quiet _
  | some promise => exact agrees.changePromise promised (agrees.faithful.listen listener promised)

/-! ### Actions and schedules -/

/-- No check is started. -/
theorem unstarted {hand : List Holding}
    (agrees : executor.Agrees environment zone identities log hand) :
    executor.Agrees environment zone (identities ++ (none : Option Identity).toList) log hand := by
  rw [Option.toList_none, List.append_nil]
  exact agrees

/-- Looking around leaves the requests and those who wait for them. -/
theorem lookupOf?_finish (executor : Executor) :
    executor.finish.lookupOf? = executor.lookupOf? := by
  have entries : executor.finish.entries = executor.entries := by
    unfold Executor.finish
    split
    · dsimp only
      split <;> rfl
    · rfl
  have owners : executor.finish.owner? = executor.owner? := by
    funext id
    rw [owner?, owner?, entries]
  funext check effect
  cases effect with
  | lookup id question => rw [lookupOf?, lookupOf?, owners]
  | notice notice => rfl

/-- A response comes, and the worker uses it. -/
theorem deliver (id : Nat) (answer : Dns.Answer)
    (honest : (executor.respond id answer).Answers zone)
    (agrees : executor.Agrees environment zone identities log []) :
    let result := executor.deliver id answer
    result.1.Agrees environment zone identities
      (fun check => log check ++ result.2.filterMap (result.1.lookupOf? check)) [] := by
  have responded : (executor.respond id answer).Agrees environment zone identities log [] :=
    { agrees with }
  have worked := (responded.take honest).work
  simp only [Executor.deliver, lookupOf?_finish]
  exact worked.finish

/-- An action keeps the agreement and adds what it asks to the log. -/
theorem perform (action : Action) (honest : executor.Permits zone action)
    (agrees : executor.Agrees environment zone identities log []) :
    let result := executor.perform action
    result.1.Agrees environment zone (identities ++ action.identity?.toList)
      (fun check => log check ++ result.2.filterMap (result.1.lookupOf? check)) [] := by
  cases action with
  | start identity => exact (agrees.start identity).quiet _
  | begin identity => exact (agrees.start identity).submit _
  | submit check => exact (agrees.submit check).unstarted
  | respond id answer =>
      have responded : (executor.respond id answer).Agrees environment zone identities log [] :=
        { agrees with }
      exact (responded.quiet _).unstarted
  | take => exact ((agrees.take honest).quiet _).unstarted
  | work => exact agrees.work.unstarted
  | finish => exact (agrees.finish.quiet _).unstarted
  | deliver id answer => exact (agrees.deliver id answer honest).unstarted
  | status check => exact (agrees.quiet _).unstarted
  | listen check listener => exact (agrees.listen check listener).unstarted
  | drop => exact (agrees.drop.quiet _).unstarted

/-- A schedule keeps the agreement. -/
theorem performAll (schedule : List Action) (honest : IsHonest zone schedule executor)
    (agrees : executor.Agrees environment zone identities log []) :
    (executor.performAll schedule).Agrees environment zone (identities ++ started schedule)
      (fun check => log check ++ questionsOf check schedule executor) [] := by
  induction schedule generalizing executor identities log with
  | nil => simpa [started, questionsOf, Executor.performAll] using agrees
  | cons action schedule inductionHypothesis =>
      obtain ⟨permitted, rest⟩ := honest
      have next := inductionHypothesis rest (agrees.perform action permitted)
      have identitiesEqual : identities ++ started (action :: schedule)
          = identities ++ action.identity?.toList ++ started schedule := by
        cases found : action.identity? <;> simp [started, found]
      rw [identitiesEqual]
      simpa only [Executor.performAll, questionsOf, List.append_assoc] using next

end Executor.Agrees

namespace Executor

/-- The checks that are held are those that are not finished. -/
theorem map_check_holdings (environment : Environment) (zone : Dns.Question → Dns.Answer)
    (executor : Executor) :
    (executor.holdings environment zone).map Holding.check = executor.unfinished := by
  rw [holdings, List.map_append, List.map_map, List.map_map]
  rfl

/-- Under honest responses, in whatever order they come and whatever other checks there
are, a check asks the questions of its own run from the front on. While its promise is open
it is kept in one place; when its promise is filled in, all questions have been asked and
the outcome is that of the run. -/
theorem performAll_agrees_run (environment : Environment) (zone : Dns.Question → Dns.Answer)
    (schedule : List Action) (honest : IsHonest zone schedule { environment }) (check : Nat)
    (identity : Identity) (begun : (started schedule)[check]? = some identity) :
    let report := Check.run environment (fun _ => zone) identity
    let executor := performAll schedule { environment }
    let questions := questionsOf check schedule { environment }
    questions <+: report.questions
      ∧ ∃ promise, executor.promise? check = some promise
        ∧ match promise.outcome with
          | none => executor.unfinished.count check = 1
          | some outcome =>
              outcome = report.outcome ∧ questions = report.questions
                ∧ check ∉ executor.unfinished := by
  intro report executor questions
  have agrees := (Agrees.empty environment zone).performAll schedule honest
  have faithful := agrees.faithful
  rw [List.nil_append, List.nil_append] at faithful
  have single := faithful.single
  have openIff := faithful.pending check
  rw [map_check_holdings] at single openIff
  have bound := (List.getElem?_eq_some_iff.mp begun).1
  rw [← faithful.length] at bound
  have promised := List.getElem?_eq_getElem bound
  have unfinishedIff := openIff _ promised
  cases outcome : executor.promises[check].outcome with
  | none =>
      have held := unfinishedIff.mp outcome
      refine ⟨?_, _, promised, ?_⟩
      · rw [← map_check_holdings environment zone] at held
        obtain ⟨holding, isHeld, rfl⟩ := List.mem_map.mp held
        obtain ⟨known, listed, follows⟩ := faithful.follows holding isHeld
        obtain rfl : known = identity := Option.some.inj (listed.symm.trans begun)
        exact follows.isPrefix
      · rw [outcome]
        exact List.nodup_iff_count_eq_one.mp single check held
  | some reported =>
      obtain ⟨sameOutcome, sameQuestions⟩ :=
        faithful.fulfilled check _ identity reported promised begun outcome
      have same : questions = report.questions := sameQuestions
      refine ⟨same ▸ List.prefix_rfl, _, promised, ?_⟩
      rw [outcome]
      refine ⟨sameOutcome, same, ?_⟩
      intro held
      rw [unfinishedIff.mpr held] at outcome
      cases outcome

/-- The sender of one check that waits while others come. -/
def caller (domain : Text) : Identity :=
  Identity.read "192.0.2.1".toList ("x@".toList ++ domain) domain

/-- Two checks that wait at the same time, the later one answered first, and an answer that
nobody waits for. -/
def crossed : List Action :=
  [.deliver 7 (.timeout []), .begin (caller "a.example".toList),
    .begin (caller "b.example".toList), .deliver 1 (.records []), .deliver 0 (.records []),
    .status 1]

theorem performAll_agrees_run_crossed :
    IsHonest (fun _ => .records []) crossed { environment := {} }
      ∧ (started crossed)[1]? = some (caller "b.example".toList)
      ∧ let report := Check.run {} (fun _ _ => .records []) (caller "b.example".toList)
        let executor := performAll crossed { environment := {} }
        let questions := questionsOf 1 crossed { environment := {} }
        questions <+: report.questions
          ∧ ∃ promise, executor.promise? 1 = some promise
            ∧ match promise.outcome with
              | none => executor.unfinished.count 1 = 1
              | some outcome =>
                  outcome = report.outcome ∧ questions = report.questions
                    ∧ 1 ∉ executor.unfinished := by
  have fresh : ({ environment := {} } : Executor).Rests := ⟨rfl, rfl⟩
  have stray := fresh.perform (.deliver 7 (.timeout [])) trivial
  have first := stray.perform (.begin (caller "a.example".toList)) trivial
  have second := first.perform (.begin (caller "b.example".toList)) trivial
  have third := second.perform (.deliver 1 (.records [])) trivial
  have honest : IsHonest (fun _ => .records []) crossed { environment := {} } :=
    ⟨(fresh.permits_deliver ..).mpr (fun _ asked => nomatch asked), trivial, trivial,
      (second.permits_deliver ..).mpr fun _ _ => rfl,
      (third.permits_deliver ..).mpr fun _ _ => rfl, trivial, trivial⟩
  exact ⟨honest, rfl, performAll_agrees_run {} _ crossed honest 1 _ rfl⟩

end Executor

end SenderPolicy.Staged
