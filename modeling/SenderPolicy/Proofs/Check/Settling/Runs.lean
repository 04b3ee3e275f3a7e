import SenderPolicy.Proofs.Check.Settling.Stack

/-!
# Directives are settled by their own mechanisms

Wherever a run comes by, a match is known if and only if a directive is settled in the next turn.
It has been set in the turn before, for the mechanism that this directive has put on the stack: by
the evaluation of the mechanism, by the answer to its last question, or by what leaves its include.
So it is never missing, never left over from an earlier directive, and never that of a directive of
the included record.
-/

namespace SenderPolicy.Check

/-- A directive is settled in the next turn. -/
def Position.IsSettling (position : Position) : Prop :=
  ∃ (base : State) (qualifier : Qualifier), position = .running (base.push (.settle qualifier))

/-! ## Rows of turns -/

section
variable {environment : Environment} {permitted : Dns.Question → Dns.Answer → Prop}
  {position next last : Position} {left : List Position}

/-- A turn keeps the match accounted for. -/
theorem Position.IsAccounted.step (accounted : position.IsAccounted environment left)
    (turn : Step environment permitted position next) :
    next.IsAccounted environment (left ++ [position]) := by
  obtain ⟨reaction, reacts, rfl⟩ := turn.reacts
  exact reacts.isAccounted_settle (reacts.isAccounted accounted)

/-- A row of turns keeps the match accounted for. -/
theorem Position.IsAccounted.steps {before : List Position}
    (accounted : position.IsAccounted environment before)
    (steps : Steps environment permitted position left last) :
    last.IsAccounted environment (before ++ left) := by
  induction steps generalizing before with
  | refl => simpa using accounted
  | step turn _ inductionHypothesis => simpa using inductionHypothesis (accounted.step turn)

theorem accounted_start (environment : Environment) (identity : Identity) :
    (Position.running (State.start identity)).IsAccounted environment [] :=
  ⟨⟨unsettled_cons.mpr rfl, unsettled_nil, trivial⟩, .nothing rfl (unsettled_cons.mpr rfl)⟩

/-- A match is known exactly where a directive is settled. -/
theorem Position.IsAccounted.isSome_iff (accounted : position.IsAccounted environment left) :
    position.state.matched.isSome = true ↔ position.IsSettling := by
  cases position with
  | waiting state lookup =>
      obtain ⟨_, unmatched, _⟩ := accounted
      refine iff_of_false ?_ (by rintro ⟨base, qualifier, ⟨⟩⟩)
      simp [Position.state, unmatched]
  | running state =>
      obtain ⟨_, here⟩ := accounted
      cases here with
      | nothing unmatched unsettled =>
          refine iff_of_false (by simp [Position.state, unmatched]) ?_
          rintro ⟨base, qualifier, same⟩
          obtain rfl := Position.running.inj same
          cases unsettled_cons.mp unsettled
      | settling last awaits sets set =>
          obtain ⟨qualifier, below, top, _⟩ := awaits
          refine iff_of_true (by simp [Position.state, set]) ?_
          exact ⟨{ state with tasks := below }, qualifier, congrArg _ (push_of_tasks top).symm⟩

/-- A task that does not fail sets the match in its turn only if it is a part of a mechanism. -/
theorem Position.Sets.isOfMechanism {mechanism : Mechanism} {matched : Bool}
    {base after proceeded : State} {task : Task}
    (sets : Sets environment mechanism matched (.running (base.push task)) after)
    (proceeds : runTask environment base task = .proceed proceeded) :
    task.isOfMechanism = true := by
  generalize ran : Position.running (base.push task) = setter at sets
  cases sets with
  | atOnce sets | expanded sets | left =>
      obtain ⟨rfl, _⟩ := List.cons.inj (congrArg State.tasks (Position.running.inj ran))
      rfl
  | answered isFor sets => cases ran
  | caught fails catches =>
      subst ran
      generalize fail : Reaction.fail _ _ = reaction at fails
      cases fails with
      | run stack =>
          obtain ⟨rfl, rfl⟩ := List.cons.inj stack
          cases fail.trans proceeds

/-- The turn before a directive is settled has set the match for the mechanism of this directive,
which has been under evaluation ever since it was begun. -/
theorem Position.IsAccounted.exists_setter {outer : State} {qualifier : Qualifier}
    (accounted : (Position.running (outer.push (.settle qualifier))).IsAccounted environment left) :
    ∃ mechanism earlier base inside setter matched,
      left = earlier ++ .running (State.push (.directive ⟨qualifier, mechanism⟩) base)
          :: (inside ++ [setter])
        ∧ base.isOpen = true ∧ base.tasks = outer.tasks
        ∧ (∀ position ∈ inside ++ [setter],
          position.Evaluates ⟨qualifier, mechanism⟩ outer.tasks)
        ∧ setter.Sets environment mechanism matched (outer.push (.settle qualifier))
        ∧ outer.matched = some matched := by
  obtain ⟨_, here⟩ := accounted
  cases here with
  | nothing unmatched unsettled => cases unsettled_cons.mp unsettled
  | @settling before setter mechanism matched last awaits sets set =>
      obtain ⟨_, _, top, earlier, base, inside, row, opened, same, all⟩ := awaits
      obtain ⟨⟨⟩, rfl⟩ := List.cons.inj top
      rcases List.eq_nil_or_concat inside with rfl | ⟨passed, final, rfl⟩
      · -- The turn of the directive itself has set no match.
        obtain ⟨_, ⟨⟩⟩ := List.append_inj' (last.symm.trans row) rfl
        cases sets.isOfMechanism (if_pos opened)
      · rw [List.concat_eq_append] at row all
        have ends : before ++ [setter]
            = (earlier ++ .running (base.push (.directive ⟨qualifier, mechanism⟩)) :: passed)
              ++ [final] := by
          rw [← last, row, List.append_assoc, List.cons_append]
        obtain ⟨_, ⟨⟩⟩ := List.append_inj' ends rfl
        exact ⟨mechanism, earlier, base, passed, setter, matched, row, opened, same, all, sets, set⟩

/-- A directive that is wanted puts its mechanism above the entry that settles it. -/
theorem Position.Step.beginsDirective {base : State} {directive : Directive}
    (turn : Step environment permitted (.running (base.push (.directive directive))) next)
    (opened : base.isOpen = true) :
    next = .running (State.pushAll [.mechanism directive.mechanism, .settle directive.qualifier]
      { base with matched := none }) := by
  cases turn with
  | run stack =>
      obtain ⟨rfl, rfl⟩ := List.cons.inj stack
      have below : { base.push (.directive directive) with tasks := base.tasks } = base := rfl
      simp only [runTurn, below, runTask, if_pos opened]
      rfl

/-! ## Whole checks -/

/-- Whether a mechanism has matched is known exactly where a directive is settled in the next turn.
The turn before has set it, and found nothing set: it is the last of the turns that evaluate the
mechanism which the directive has put on the stack, all of them above the entry that settles it. -/
theorem settled_by_own_mechanism (environment : Environment) (resolver : Resolver)
    (identity : Identity) :
    let passed := visited environment resolver [] (.running (State.start identity))
    let last := (converse environment resolver [] (.running (State.start identity))).2
    (∀ position ∈ passed ++ [.running last],
        position.state.matched.isSome = true ↔ position.IsSettling)
      ∧ ∀ outer qualifier before after,
        passed ++ [.running last]
            = before ++ .running (State.push (.settle qualifier) outer) :: after →
        ∃ mechanism earlier base inside setter matched,
          before = earlier ++ .running (State.push (.directive ⟨qualifier, mechanism⟩) base)
              :: (inside ++ [setter])
            ∧ base.isOpen = true ∧ base.tasks = outer.tasks
            ∧ (inside ++ [setter]).head? = some (.running
              (State.pushAll [.mechanism mechanism, .settle qualifier]
                { base with matched := none }))
            ∧ (∀ position ∈ inside ++ [setter],
              position.Evaluates ⟨qualifier, mechanism⟩ outer.tasks)
            ∧ setter.state.matched = none
            ∧ setter.Sets environment mechanism matched (outer.push (.settle qualifier))
            ∧ outer.matched = some matched := by
  intro passed last
  have whole : Position.Steps environment (fun _ _ => True) _ _ _ ∧ _ :=
    visited_steps environment resolver (fun _ _ => trivial) [] (.running (State.start identity))
  have accounted {before after : List Position} {position : Position}
      (row : passed ++ [.running last] = before ++ position :: after) :
      position.IsAccounted environment before :=
    (accounted_start environment identity).steps (whole.1.to_middle row)
  have known : ∀ position ∈ passed ++ [.running last],
      position.state.matched.isSome = true ↔ position.IsSettling := by
    intro position member
    obtain ⟨before, after, row⟩ := List.append_of_mem member
    exact (accounted row).isSome_iff
  refine ⟨known, fun outer qualifier before after row => ?_⟩
  obtain ⟨mechanism, earlier, base, inside, setter, matched, parts, opened, same, all, sets, set⟩ :=
    (accounted row).exists_setter
  refine ⟨mechanism, earlier, base, inside, setter, matched, parts, opened, same, ?pushed, all,
    ?unset, sets, set⟩
  case pushed =>
    have nonempty : inside ++ [setter] ≠ [] := by simp
    obtain ⟨first, rest, starts⟩ := List.exists_cons_of_ne_nil nonempty
    have begun : passed ++ [.running last]
        = earlier ++ .running (base.push (.directive ⟨qualifier, mechanism⟩)) :: first
          :: (rest ++ .running (outer.push (.settle qualifier)) :: after) := by
      rw [row, parts, starts]
      simp
    rw [starts, List.head?_cons, (whole.1.turn_of_row begun).beginsDirective opened]
  case unset =>
    have member : setter ∈ passed ++ [.running last] := by
      rw [row, parts]
      simp
    refine Option.not_isSome_iff_eq_none.mp fun found => ?_
    -- What settles a directive has set no match itself.
    obtain ⟨settled, other, rfl⟩ := (known setter member).mp found
    obtain ⟨proceeded, proceeds⟩ :
        ∃ proceeded, runTask environment settled (.settle other) = .proceed proceeded := by
      simp only [runTask]
      split <;> exact ⟨_, rfl⟩
    cases sets.isOfMechanism proceeds

end

/-- An include has not matched although a directive of the included record has. -/
theorem settled_by_own_mechanism_included :
    let zone : Dns.Question → Dns.Answer := fun question =>
      if question = ⟨"example.com".toList, .txt⟩ then
        .records ["v=spf1 include:example.net -all".toList]
      else if question = ⟨"example.net".toList, .txt⟩ then .records ["v=spf1 ?all".toList]
      else .records []
    let identity :=
      Identity.read "203.0.113.1".toList "user@example.com".toList "mail.example.net".toList
    let includes : Directive := ⟨.pass, .include "example.net".toList⟩
    let below : List Task :=
      [.directive ⟨.fail, .all⟩, .hook .neutralIfUnmatched,
        .hook (.defaultExplanation Options.builtInExplanation), .conclude]
    let passed := visited {} (fun _ => zone) [] (.running (State.start identity))
    let last := (converse {} (fun _ => zone) [] (.running (State.start identity))).2
    (∃ position ∈ passed, position.Evaluates includes below ∧ position.state.matched = some true)
      ∧ ∃ before outer after earlier base inside setter,
        passed ++ [.running last]
            = before ++ .running (State.push (.settle .pass) outer) :: after
          ∧ before = earlier ++ .running (State.push (.directive includes) base)
            :: (inside ++ [setter])
          ∧ base.tasks = below ∧ outer.tasks = below
          ∧ (∀ position ∈ inside ++ [setter], position.Evaluates includes below)
          ∧ setter.Sets {} includes.mechanism false (outer.push (.settle .pass)) := by
  intro zone identity includes below passed last
  obtain ⟨known, settled⟩ := settled_by_own_mechanism {} (fun _ => zone) identity
  have whole : visitedWithin {} zone 60 (.running (State.start identity)) = passed :=
    (visitedWithin_begins {} zone 60 [] _).2 (by decide +kernel)
  have nested : ∃ position ∈ visitedWithin {} zone 60 (.running (State.start identity)),
      (.settle .pass :: below) <:+ position.pending ∧ position.state.matched = some true := by
    decide +kernel
  rw [whole] at nested
  refine ⟨nested, ?_⟩
  obtain ⟨position, member, stack, unmatched⟩ :
      ∃ position ∈ visitedWithin {} zone 60 (.running (State.start identity)),
        position.state.tasks = .settle .pass :: below ∧ position.state.matched = some false := by
    decide +kernel
  replace member : position ∈ passed ++ [.running last] :=
    List.mem_append_left _ (whole ▸ member)
  obtain ⟨outer, qualifier, rfl⟩ := (known position member).mp (by rw [unmatched]; rfl)
  obtain ⟨⟨⟩, same⟩ := List.cons.inj stack
  obtain ⟨before, after, row⟩ := List.append_of_mem member
  obtain ⟨mechanism, earlier, base, inside, setter, matched, parts, _, stands, _, all, _, sets,
      set⟩ :=
    settled outer .pass before after row
  -- No other directive has been begun above these tasks.
  have only : ∀ position ∈ visitedWithin {} zone 60 (.running (State.start identity)),
      position.state.tasks.tail = below →
        position.state.tasks.head? = some (.directive includes)
          ∨ position.state.tasks.head? = some (.settle .pass) := by
    decide +kernel
  have began : .running (State.push (.directive ⟨.pass, mechanism⟩) base)
      ∈ passed ++ [.running last] := by
    rw [row, parts]
    simp
  have own : mechanism = includes.mechanism := by
    rcases List.mem_append.mp began with inside | final
    · rcases only (.running (State.push (.directive ⟨.pass, mechanism⟩) base)) (whole ▸ inside)
        (stands.trans same) with top | top
      · exact congrArg Directive.mechanism (Task.directive.inj (Option.some.inj top))
      · cases top
    · have finished : last.tasks = [] :=
        (@visited_steps {} (fun _ => zone) (fun _ _ => True) (fun _ _ => trivial) [] _).2
      rw [← Position.running.inj (List.mem_singleton.mp final)] at finished
      cases finished
  subst own
  obtain rfl : matched = false := Option.some.inj (set.symm.trans unmatched)
  exact ⟨before, outer, after, earlier, base, inside, setter, row, parts, stands.trans same, same,
    same ▸ all, sets⟩

end SenderPolicy.Check
