import SenderPolicy.Proofs.Check.Settling.Tasks
import SenderPolicy.Proofs.Check.Stack.Placement

/-!
# Which directive a match is for

All directives of a check share one field for whether a mechanism has matched, those of included
records too. The stack tells which of them a match is for: a part of a mechanism stands directly
above the entry that settles its directive, and no other task does. `Position.IsAccounted` says so,
and that there is a match only where the entry on top settles a directive and the turn before has
set it for that directive's own mechanism. Whatever a check does next keeps this.
-/

namespace SenderPolicy.Check

/-! ## Directives under evaluation -/

/-- The tasks that a turn leaves where they are. -/
def Position.pending : Position → List Task
  | .running state => state.tasks.tail
  | .waiting state _ => state.tasks

/-- The directive is under evaluation: the entry that settles it waits above these tasks. -/
def Position.Evaluates (directive : Directive) (below : List Task) (position : Position) : Prop :=
  (.settle directive.qualifier :: below) <:+ position.pending

/-- A directive has been begun above these tasks, and has been under evaluation ever since. -/
def DirectiveBegan (left : List Position) (directive : Directive) (below : List Task) : Prop :=
  ∃ (earlier : List Position) (base : State) (inside : List Position),
    left = earlier ++ .running (base.push (.directive directive)) :: inside
      ∧ base.isOpen = true ∧ base.tasks = below
      ∧ ∀ position ∈ inside, position.Evaluates directive below

/-- The entry on top settles a directive that is under evaluation with this mechanism. -/
def AwaitsMechanism (left : List Position) (mechanism : Mechanism) (tasks : List Task) : Prop :=
  ∃ qualifier below, tasks = .settle qualifier :: below
    ∧ DirectiveBegan left ⟨qualifier, mechanism⟩ below

/-- The task settles a directive. -/
def Task.isSettle : Task → Bool
  | .settle _ => true
  | _ => false

/-- The entry on top settles no directive. -/
def Unsettled (tasks : List Task) : Prop :=
  ∀ task ∈ tasks.head?, task.isSettle = false

/-! ## Turns that set the match -/

/-- The entry of an include handles the failure, by taking it for no match. -/
def Frame.Catches (frame : Frame) (failure : Failure) (state : State) (tasks : List Task) : Prop :=
  let (events, after) := unwind failure state tasks
  (.leaveInclude frame :: after.tasks) <:+ tasks
    ∧ ∃ earlier next, events = earlier ++ [.catch (.leaveInclude frame) next]
      ∧ (next.code = .none ∨ next.code = .neutral)

/-- The turn at a position sets whether the mechanism has matched, and ends in this state. -/
inductive Position.Sets (environment : Environment) :
    Mechanism → Bool → Position → State → Prop where
  /-- The mechanism has nothing to ask. -/
  | atOnce {mechanism : Mechanism} {matched : Bool} {state : State}
      (sets : beginMechanism environment state mechanism = setMatched matched state) :
      Sets environment mechanism matched (.running (state.push (.mechanism mechanism)))
        { state with matched := some matched }
  /-- The host need not or cannot be asked for. -/
  | expanded {mechanism : Mechanism} {matched : Bool} {state : State}
      (sets : continueMechanism environment mechanism state = setMatched matched state) :
      Sets environment mechanism matched (.running (state.push (.expandedMechanism mechanism)))
        { state with matched := some matched }
  /-- This was the last question of the mechanism. -/
  | answered {mechanism : Mechanism} {matched : Bool} {state : State} {lookup : Lookup}
      {answer : Dns.Answer} (isFor : lookup.awaiting.IsFor mechanism)
      (sets : receive environment answer state lookup.awaiting = setMatched matched state) :
      Sets environment mechanism matched (.waiting state lookup)
        { state with matched := some matched }
  /-- The include is left normally. -/
  | left {spec : Text} {frame : Frame} {state : State} :
      Sets environment (.include spec) (state.verdict = some .pass)
        (.running (state.push (.leaveInclude frame))) (leaveInclude frame state)
  /-- The include is left with a failure that it spares the check. -/
  | caught {spec : Text} {frame : Frame} {position : Position} {base : State} {failure : Failure}
      (fails : position.Reacts environment (.fail base failure))
      (catches : frame.Catches failure base base.tasks) :
      Sets environment (.include spec) false position (unwind failure base base.tasks).2

/-! ## Stacks -/

/-- A part of a mechanism stands directly above the entry that settles its directive, and every
other task above no such entry. -/
def Task.Serves (left : List Position) (below : List Task) : Task → Prop
  | .mechanism test => AwaitsMechanism left test below
  | .expandedMechanism test => test.asksDns = true ∧ AwaitsMechanism left test below
  | .leaveInclude _ => ∃ spec, AwaitsMechanism left (.include spec) below
  | _ => Unsettled below

/-- The task is no part of a directive that has been begun. -/
def Task.isApart : Task → Bool
  | .settle _ | .mechanism _ | .expandedMechanism _ | .leaveInclude _ => false
  | _ => true

/-- Either there is no match and no directive is settled next, or the turn before has set the match
for the directive that is. -/
inductive State.IsAccounted (environment : Environment) (left : List Position) (state : State) :
    Prop where
  | nothing (unmatched : state.matched = none) (unsettled : Unsettled state.tasks)
  | settling {before : List Position} {setter : Position} {mechanism : Mechanism} {matched : Bool}
      (last : left = before ++ [setter]) (awaits : AwaitsMechanism left mechanism state.tasks)
      (sets : setter.Sets environment mechanism matched state)
      (set : state.matched = some matched)

/-- Every task stands where it may, and the match is accounted for. No match is known while an
answer is awaited, which is for the mechanism of the directive on top or for no mechanism. -/
def Position.IsAccounted (environment : Environment) (left : List Position) (position : Position) :
    Prop :=
  AllStand (Task.Serves left) position.state.tasks
    ∧ match position with
      | .running state => state.IsAccounted environment left
      | .waiting state lookup => state.matched = none
          ∧ ((lookup.awaiting.isForOther = true ∧ Unsettled state.tasks)
            ∨ ∃ mechanism, lookup.awaiting.IsFor mechanism
              ∧ AwaitsMechanism left mechanism state.tasks)

/-- Whatever becomes of a reaction, the match will be accounted for. -/
def Reaction.IsAccounted (environment : Environment) (left : List Position) : Reaction → Prop
  | .proceed state => (Position.running state).IsAccounted environment left
  | .ask state lookup => (Position.waiting state lookup).IsAccounted environment left
  | .fail state _ => AllStand (Task.Serves left) state.tasks ∧ state.matched = none

section
variable {left : List Position} {position : Position} {task : Task} {tasks below : List Task}

theorem unsettled_nil : Unsettled [] := by
  simp [Unsettled]

@[simp]
theorem unsettled_cons : Unsettled (task :: tasks) ↔ task.isSettle = false := by
  simp [Unsettled]

/-! ## Later positions -/

theorem DirectiveBegan.later {directive : Directive} (began : DirectiveBegan left directive below)
    (evaluates : position.Evaluates directive below) :
    DirectiveBegan (left ++ [position]) directive below := by
  obtain ⟨earlier, base, inside, rfl, opened, same, all⟩ := began
  refine ⟨earlier, base, inside ++ [position], by simp, opened, same, ?_⟩
  exact List.forall_mem_append.mpr ⟨all, List.forall_mem_singleton.mpr evaluates⟩

theorem AwaitsMechanism.later {mechanism : Mechanism}
    (awaits : AwaitsMechanism left mechanism tasks) (lower : tasks <:+ position.pending) :
    AwaitsMechanism (left ++ [position]) mechanism tasks := by
  obtain ⟨qualifier, below, rfl, began⟩ := awaits
  exact ⟨qualifier, below, rfl, began.later lower⟩

theorem Task.Serves.later (serves : task.Serves left below) (lower : below <:+ position.pending) :
    task.Serves (left ++ [position]) below := by
  cases task with
  | mechanism mechanism => exact AwaitsMechanism.later serves lower
  | expandedMechanism mechanism => exact ⟨serves.1, serves.2.later lower⟩
  | leaveInclude frame => exact serves.imp fun spec awaits => awaits.later lower
  | _ => exact serves

/-- What waits still stands where it may after a turn. -/
theorem AllStand.later (all : AllStand (Task.Serves left) tasks)
    (lower : tasks <:+ position.pending) : AllStand (Task.Serves (left ++ [position])) tasks := by
  induction tasks with
  | nil => trivial
  | cons task below inductionHypothesis =>
      have deeper : below <:+ position.pending := (List.suffix_cons task below).trans lower
      exact ⟨all.1.later deeper, inductionHypothesis all.2 deeper⟩

/-! ## Tasks apart from directives -/

theorem isOfMechanism_of_isApart (apart : task.isApart = true) : task.isOfMechanism = false := by
  cases task <;> first | rfl | cases apart

theorem isSettle_of_isApart (apart : task.isApart = true) : task.isSettle = false := by
  cases task <;> first | rfl | cases apart

theorem isApart_of_isOfExplanation (explains : task.isOfExplanation = true) :
    task.isApart = true := by
  cases task <;> first | rfl | cases explains

theorem Task.Serves.unsettled (serves : task.Serves left below)
    (other : task.isOfMechanism = false) : Unsettled below := by
  cases task <;> first | exact serves | cases other

/-- Tasks apart from directives may stand above any task but the entry that settles one. -/
theorem allStand_of_isApart {above : List Task} (apart : ∀ task ∈ above, task.isApart = true)
    (unsettled : Unsettled tasks) (all : AllStand (Task.Serves left) tasks) :
    Unsettled (above ++ tasks) ∧ AllStand (Task.Serves left) (above ++ tasks) := by
  induction above with
  | nil => exact ⟨unsettled, all⟩
  | cons task above inductionHypothesis =>
      obtain ⟨first, others⟩ := List.forall_mem_cons.mp apart
      obtain ⟨lower, stand⟩ := inductionHypothesis others
      refine ⟨unsettled_cons.mpr (isSettle_of_isApart first), ?_, stand⟩
      cases task <;> first | exact lower | cases first

/-- A task apart from directives puts on the stack only others of its kind, unless it begins a
directive. -/
theorem Places.isApart {environment : Environment} {base : State} {above : List Task} {count : Nat}
    (places : Places environment base task above count) (apart : task.isApart = true)
    (other : ∀ directive, task ≠ .directive directive) :
    ∀ task ∈ above, task.isApart = true := by
  cases places with
  | explanation all => exact fun task member => isApart_of_isOfExplanation (all task member)
  | exceeding => simp
  | stages =>
      intro task member
      simp only [List.mem_append, List.mem_map, List.mem_singleton] at member
      rcases member with ⟨_, _, rfl⟩ | rfl <;> rfl
  | policy slot =>
      intro task member
      simp only [policyTasks, List.mem_append, List.mem_map] at member
      rcases member with (⟨_, _, rfl⟩ | ⟨_, _, rfl⟩) | ⟨_, _, rfl⟩ <;> rfl
  | parts => exact absurd rfl (other _)
  | @half _ half begun =>
      refine List.forall_mem_singleton.mpr ?_
      cases task with
      | mechanism mechanism => cases apart
      | modifier modifier =>
          cases modifier <;> cases begun
          rfl
      | _ => cases begun
  | «include» => cases apart
  | redirect => simp [Task.isApart]

end

section
variable {environment : Environment} {left : List Position} {base state : State} {task : Task}
  {tasks : List Task} {mechanism : Mechanism} {reaction : Reaction} {position : Position}

/-! ## Failures -/

/-- A failure that travels on finds the match as it was. -/
theorem matched_of_rethrown {failure next : Failure} {after : State}
    (handled : handle failure state task = some (.rethrown after next)) :
    after.matched = state.matched := by
  cases task with
  | leaveInclude frame =>
      simp only [handle] at handled
      split at handled <;> cases handled
      rfl
  | leaveRedirect =>
      simp only [handle] at handled
      split at handled <;> cases handled <;> rfl
  | _ => cases handled

/-- A failure that has been handled leaves the match as it was, unless the entry of an include has
taken it for no match. -/
theorem matched_of_caught {failure : Failure} {after : State}
    (handled : handle failure state task = some (.caught after)) :
    (after.matched = state.matched ∧ task.isOfMechanism = false)
      ∨ ∃ frame, task = .leaveInclude frame ∧ after.matched = some false
        ∧ (failure.code = .none ∨ failure.code = .neutral) := by
  cases task with
  | conclude | guardExplanation =>
      cases handled
      exact .inl ⟨rfl, rfl⟩
  | leaveInclude frame =>
      simp only [handle] at handled
      split at handled <;> cases handled
      · exact .inr ⟨frame, rfl, rfl, .inl ‹_›⟩
      · exact .inr ⟨frame, rfl, rfl, .inr ‹_›⟩
  | leaveRedirect =>
      simp only [handle] at handled
      split at handled <;> cases handled
      exact .inl ⟨rfl, rfl⟩
  | _ => cases handled

/-- A failure leaves no match and no directive to settle, or the entry of an include has handled it,
which stood directly above what is left. -/
theorem unwind_isAccounted (all : AllStand (Task.Serves left) tasks)
    (unmatched : state.matched = none) (failure : Failure) :
    let after := (unwind failure state tasks).2
    (after.matched = none ∧ Unsettled after.tasks)
      ∨ ∃ frame : Frame, frame.Catches failure state tasks ∧ after.matched = some false := by
  induction tasks generalizing failure state with
  | nil => exact .inl ⟨unmatched, unsettled_nil⟩
  | cons task tasks inductionHypothesis =>
      have later := List.suffix_cons task tasks
      dsimp only [Frame.Catches]
      rw [unwind]
      cases handled : handle failure { state with tasks } task with
      | none =>
          refine (inductionHypothesis all.2 unmatched failure).imp_right ?_
          rintro ⟨frame, ⟨stands, caught⟩, set⟩
          exact ⟨frame, ⟨stands.trans later, caught⟩, set⟩
      | some handling =>
          have stack := (handle_effect handled).1
          cases handling with
          | caught after =>
              change after.tasks = tasks at stack
              rcases matched_of_caught handled with ⟨same, other⟩ | ⟨frame, rfl, set, code⟩
              · exact .inl ⟨same.trans unmatched, stack ▸ all.1.unsettled other⟩
              · exact .inr ⟨frame, ⟨stack ▸ List.suffix_rfl, [], failure, rfl, code⟩, set⟩
          | rethrown after next =>
              have still : after.matched = none := (matched_of_rethrown handled).trans unmatched
              refine (inductionHypothesis all.2 still next).imp_right ?_
              rintro ⟨frame, ⟨stands, earlier, last, events, code⟩, set⟩
              exact ⟨frame, ⟨stands.trans later, .catch task failure :: earlier, last,
                congrArg _ events, code⟩, set⟩

/-- Handling the failure of a reaction keeps the match accounted for. -/
theorem Position.Reacts.isAccounted_settle (reacts : position.Reacts environment reaction)
    (accounted : reaction.IsAccounted environment (left ++ [position])) :
    reaction.settle.position.IsAccounted environment (left ++ [position]) := by
  cases reaction with
  | proceed after => exact accounted
  | ask after lookup => exact accounted
  | fail after failure =>
      obtain ⟨all, unmatched⟩ := accounted
      have lower := all.suffix (unwind_suffix failure after after.tasks)
      refine ⟨lower, ?_⟩
      rcases unwind_isAccounted all unmatched failure
        with ⟨none, unsettled⟩ | ⟨frame, catches, set⟩
      · exact .nothing none unsettled
      · obtain ⟨⟨spec, awaits⟩, _⟩ := all.suffix catches.1
        exact .settling rfl awaits (.caught reacts catches) set

/-! ## Reactions -/

/-- A mechanism that tries its host above the entry that settles its directive. -/
theorem Reaction.Tries.isAccounted (tries : reaction.Tries mechanism base)
    (unmatched : base.matched = none)
    (all : AllStand (Task.Serves (left ++ [position])) base.tasks)
    (awaits : AwaitsMechanism (left ++ [position]) mechanism base.tasks)
    (sets : ∀ matched, reaction = setMatched matched base →
      position.Sets environment mechanism matched { base with matched := some matched }) :
    reaction.IsAccounted environment (left ++ [position]) := by
  cases tries with
  | set matched => exact ⟨all, .settling rfl awaits (sets matched rfl) rfl⟩
  | ask isFor => exact ⟨all, unmatched, .inr ⟨_, isFor, awaits⟩⟩
  | fail failure => exact ⟨all, unmatched⟩

/-- What has no match to give, above tasks that settle nothing. -/
theorem Reaction.IsUnmatched.isAccounted (unmatched : reaction.IsUnmatched)
    (stack : Unsettled reaction.state.tasks ∧ AllStand (Task.Serves left) reaction.state.tasks) :
    reaction.IsAccounted environment left := by
  obtain ⟨unsettled, all⟩ := stack
  cases reaction with
  | proceed after => exact ⟨all, .nothing unmatched unsettled⟩
  | ask after lookup => exact ⟨all, unmatched.1, .inl ⟨unmatched.2, unsettled⟩⟩
  | fail after failure => exact ⟨all, unmatched⟩

/-- A mechanism that asks the DNS leaves its second half above the entry that settles its
directive. -/
theorem beginMechanism_isAccounted (asks : mechanism.asksDns = true)
    (unmatched : base.matched = none) (all : AllStand (Task.Serves left) base.tasks)
    (awaits : AwaitsMechanism left mechanism base.tasks) :
    (beginMechanism environment base mechanism).IsAccounted environment left := by
  have half : Unsettled (.expandedMechanism mechanism :: base.tasks)
      ∧ AllStand (Task.Serves left) (.expandedMechanism mechanism :: base.tasks) :=
    ⟨unsettled_cons.mpr rfl, ⟨asks, awaits⟩, all⟩
  rw [beginMechanism_of_asksDns asks]
  simp only [beginTerm]
  split
  · exact ⟨all, unmatched⟩
  · split
    · exact ⟨half.2, .nothing unmatched half.1⟩
    · rename_i spec _
      have begun : (base.countLookup.push (.expandedMechanism mechanism)).matched = none :=
        unmatched
      refine (prepareExpansion_isUnmatched begun .domain spec).isAccounted ?_
      rw [(prepareExpansion_puts .domain spec (.refl _)).tasks]
      exact half

/-- The second half of a mechanism above the entry that settles its directive. -/
theorem continueMechanism_isAccounted (asks : mechanism.asksDns = true)
    (unmatched : base.matched = none)
    (all : AllStand (Task.Serves (left ++ [position])) base.tasks)
    (awaits : AwaitsMechanism (left ++ [position]) mechanism base.tasks)
    (runs : position = .running (base.push (.expandedMechanism mechanism))) :
    (continueMechanism environment mechanism base).IsAccounted environment
      (left ++ [position]) := by
  by_cases includes : ∃ spec, mechanism = .include spec
  · obtain ⟨spec, rfl⟩ := includes
    rcases continueMechanism_include spec base with ⟨host, enters⟩ | ⟨failure, fails⟩
    · rw [enters]
      exact ⟨⟨unsettled_cons.mpr rfl, ⟨spec, awaits⟩, all⟩,
        .nothing unmatched (unsettled_cons.mpr rfl)⟩
    · rw [fails]
      exact ⟨all, unmatched⟩
  · have tries := @continueMechanism_tries environment mechanism asks
      (fun spec same => includes ⟨spec, same⟩) base
    exact tries.isAccounted unmatched all awaits fun _ sets => runs ▸ .expanded sets

/-- A task that is apart from directives, if it begins none. -/
theorem runTask_isAccounted_of_isApart (apart : task.isApart = true)
    (other : ∀ directive, task ≠ .directive directive) (unmatched : base.matched = none)
    (unsettled : Unsettled base.tasks) (all : AllStand (Task.Serves left) base.tasks) :
    (runTask environment base task).IsAccounted environment left := by
  by_cases concludes : task = .conclude
  · subst concludes
    exact ⟨all, .nothing unmatched unsettled⟩
  · obtain ⟨above, count, places, put⟩ := runTask_places environment concludes base
    refine (runTask_isUnmatched unmatched (isOfMechanism_of_isApart apart)).isAccounted ?_
    rw [put.tasks]
    exact allStand_of_isApart (places.isApart apart other) unsettled all

/-- A task that has been taken from the stack. -/
theorem runTask_isAccounted (all : AllStand (Task.Serves left) (task :: base.tasks))
    (unmatched : task.isSettle = false → base.matched = none) :
    (runTask environment base task).IsAccounted environment
      (left ++ [.running (base.push task)]) := by
  obtain ⟨here, below⟩ := all
  have waits : base.tasks <:+ (Position.running (base.push task)).pending := List.suffix_rfl
  replace below := below.later waits
  replace here := here.later waits
  cases task with
  | settle qualifier =>
      simp only [runTask]
      split <;> exact ⟨below, .nothing rfl here⟩
  | directive directive =>
      replace unmatched := unmatched rfl
      simp only [runTask]
      split
      · rename_i opened
        -- The directive has just been begun, so no position is behind it yet.
        have began : DirectiveBegan (left ++ [.running (base.push (.directive directive))])
            directive base.tasks :=
          ⟨left, base, [], rfl, opened, rfl, List.forall_mem_nil _⟩
        exact ⟨⟨⟨_, _, rfl, began⟩, here, below⟩, .nothing rfl (unsettled_cons.mpr rfl)⟩
      · exact ⟨below, .nothing unmatched here⟩
  | mechanism mechanism =>
      replace unmatched := unmatched rfl
      rw [runTask]
      cases asks : mechanism.asksDns with
      | true => exact beginMechanism_isAccounted asks unmatched below here
      | false =>
          exact (beginMechanism_tries asks base).isAccounted unmatched below here
            fun _ sets => .atOnce sets
  | expandedMechanism mechanism =>
      rw [runTask]
      exact continueMechanism_isAccounted here.1 (unmatched rfl) below here.2 rfl
  | leaveInclude frame =>
      obtain ⟨spec, awaits⟩ := here
      exact ⟨below, .settling rfl awaits .left rfl⟩
  | _ => exact runTask_isAccounted_of_isApart rfl (by simp) (unmatched rfl) here below

/-- What a check does next. -/
theorem Position.Reacts.isAccounted (reacts : position.Reacts environment reaction)
    (accounted : position.IsAccounted environment left) :
    reaction.IsAccounted environment (left ++ [position]) := by
  cases reacts with
  | @hear state lookup answer =>
      obtain ⟨all, unmatched, ⟨other, unsettled⟩ | ⟨mechanism, isFor, awaits⟩⟩ := accounted
      · refine (receive_isUnmatched unmatched answer other).isAccounted ?_
        obtain ⟨above, explains, put⟩ := receive_puts answer lookup.awaiting state
        rw [put.tasks]
        refine allStand_of_isApart ?_ unsettled (all.later List.suffix_rfl)
        exact fun task member => isApart_of_isOfExplanation (explains task member)
      · exact (receive_tries answer isFor state).isAccounted unmatched (all.later List.suffix_rfl)
          (awaits.later List.suffix_rfl) fun _ sets => .answered isFor sets
  | @run state task below stack =>
      obtain ⟨all, here⟩ := accounted
      have whole := push_of_tasks stack
      have ran := @runTask_isAccounted environment left { state with tasks := below } task
        (stack ▸ all) fun other => ?_
      · rwa [whole] at ran
      · cases here with
        | nothing unmatched unsettled => exact unmatched
        | settling last awaits sets set =>
            obtain ⟨qualifier, outer, top, _⟩ := awaits
            obtain ⟨rfl, _⟩ := List.cons.inj (stack.symm.trans top)
            cases other

end

end SenderPolicy.Check
