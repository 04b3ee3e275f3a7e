import SenderPolicy.Proofs.Check.Stack.Silence

/-!
# The course of an explanation

A guard comes on the stack only with an explanation that is wanted, and while it is there nothing
but the explanation changes: it stays as it was until a text for it has been expanded in full. A
failure goes no further than the guard. So the answers to an explanation's questions have no part
in the result and the header of a check.
-/

namespace SenderPolicy.Check

/-! ## What sets an explanation -/

/-- The next turn sets an explanation, the expansion of a text. -/
def Position.Expands (environment : Environment) (explanation : Text) (position : Position) :
    Prop :=
  ∃ (state : State) (text : Text), position = .running (state.push (.explain text))
    ∧ state.expand environment .explanation text = .ok explanation

section
variable {environment : Environment} {state : State}

theorem prepareExpansion_explanation (mode : Macro.Mode) (text : Text) :
    (state.prepareExpansion environment mode text).state.explanation = state.explanation := by
  unfold State.prepareExpansion
  split
  · rfl
  · rfl
  · split <;> rfl

theorem Reaction.Keeps.explanation_eq {reaction : Reaction} (kept : reaction.Keeps True state) :
    reaction.state.explanation = state.explanation :=
  kept.keeps.explanation trivial

theorem State.Keeps.unguarded {after : State} (kept : state.Keeps True after)
    (absent : .guardExplanation ∉ state.tasks) : .guardExplanation ∉ after.tasks := by
  obtain ⟨above, stack, only⟩ := kept.stack
  rw [stack]
  intro member
  rcases List.mem_append.mp member with new | old
  · cases (only _ new).2 trivial
  · exact absent old

theorem Reaction.Keeps.unguarded {reaction : Reaction} (kept : reaction.Keeps True state)
    (absent : .guardExplanation ∉ state.tasks) : .guardExplanation ∉ reaction.state.tasks :=
  kept.keeps.unguarded absent

/-- A task that begins no explanation puts no guard on the stack, and only one kind of task sets
an explanation. -/
theorem runTask_unexplaining {task : Task}
    (unwanted : task.mayExplain = true → state.wantsExplanation = false)
    (other : ∀ text, task ≠ .explain text) :
    (runTask environment state task).state.explanation = state.explanation
      ∧ (.guardExplanation ∉ state.tasks →
        .guardExplanation ∉ (runTask environment state task).state.tasks) := by
  have plainly (plain : task.changesDomain = false) (quiet : task.isOfExplanation = false) :
      (runTask environment state task).state.explanation = state.explanation
        ∧ (.guardExplanation ∉ state.tasks →
          .guardExplanation ∉ (runTask environment state task).state.tasks) := by
    have kept : (runTask environment state task).Keeps True state :=
      runTask_keeps plain (fun _ => unwanted) fun _ => quiet
    exact ⟨kept.explanation_eq, kept.unguarded⟩
  cases task with
  | explain text => exact absurd rfl (other text)
  | askExplanation spec =>
      simp only [runTask, askExplanation]
      split <;> exact ⟨rfl, id⟩
  | guardExplanation => exact ⟨rfl, id⟩
  | leaveInclude frame => exact ⟨rfl, id⟩
  | followRedirect spec =>
      simp only [runTask, followRedirect]
      split
      · exact ⟨rfl, id⟩
      · exact ⟨rfl, fun absent => by simpa [Reaction.state, State.pushAll] using absent⟩
  | expandedMechanism mechanism =>
      cases mechanism with
      | «include» spec =>
          simp only [runTask, continueMechanism]
          split
          · exact ⟨rfl, id⟩
          · exact ⟨rfl, fun absent => by simpa [Reaction.state, enterInclude] using absent⟩
      | _ => exact plainly rfl rfl
  | _ => exact plainly rfl rfl

/-- An explanation that begins is not set by that. -/
theorem runTask_explanation_of_wanted {task : Task} (may : task.mayExplain = true)
    (wanted : state.wantsExplanation = true) :
    (runTask environment state task).state.explanation = state.explanation := by
  cases task with
  | modifier modifier =>
      cases modifier with
      | exp spec =>
          simp only [runTask, beginModifier, if_pos wanted]
          exact prepareExpansion_explanation _ _
      | _ => cases may
  | hook hook =>
      cases hook with
      | defaultExplanation text =>
          simp only [runTask, runHook, if_pos wanted]
          exact prepareExpansion_explanation _ _
      | neutralIfUnmatched => cases may
  | _ => cases may

/-- Only one kind of task sets an explanation. -/
theorem runTask_explanation {task : Task} (other : ∀ text, task ≠ .explain text) :
    (runTask environment state task).state.explanation = state.explanation := by
  by_cases begins : task.mayExplain = true ∧ state.wantsExplanation = true
  · exact runTask_explanation_of_wanted begins.1 begins.2
  · refine (runTask_unexplaining (fun may => ?_) other).1
    simpa [may] using begins

/-- No answer sets an explanation. -/
theorem receive_explanation (answer : Dns.Answer) (awaiting : Awaiting) :
    (receive environment answer state awaiting).state.explanation = state.explanation := by
  by_cases texts : awaiting = .explanationTexts
  · subst texts
    simp only [receive, receiveExplanationTexts]
    split
    · exact prepareExpansion_explanation _ _
    · rfl
  · exact (receive_keeps answer fun _ => texts).explanation_eq

end

section
variable {environment : Environment} {permitted : Dns.Question → Dns.Answer → Prop}
  {position next last : Position} {left : List Position}

/-- A turn leaves the explanation as it is, or sets it to the expansion of a text. -/
theorem Position.Step.explanation (turn : Step environment permitted position next) :
    next.state.explanation = position.state.explanation
      ∨ ∃ explanation, next.state.explanation = some explanation
        ∧ position.Expands environment explanation := by
  cases turn with
  | hear allowed =>
      exact .inl ((Reaction.outlasts_settle _).explanation.trans (receive_explanation _ _))
  | @run state task below stack =>
      have settled := (Reaction.outlasts_settle
        (runTask environment { state with tasks := below } task)).explanation
      have whole := push_of_tasks stack
      by_cases explains : ∃ text, task = .explain text
      · obtain ⟨text, rfl⟩ := explains
        cases expanded : State.expand environment .explanation text
            { state with tasks := below } with
        | error obstacle =>
            left
            refine settled.trans ?_
            simp only [runTask, explain, expanded]
            cases obstacle <;> rfl
        | ok explanation =>
            right
            refine ⟨explanation, settled.trans ?_, _, text, congrArg _ whole.symm, expanded⟩
            simp only [runTask, explain, expanded]
            rfl
      · refine .inl (settled.trans (runTask_explanation fun text same => explains ⟨text, same⟩))

/-- After a row of turns the explanation is what it was, or the expansion of a text that one of
the turns has made. -/
theorem Position.Steps.explanation (steps : Steps environment permitted position left last) :
    last.state.explanation = position.state.explanation
      ∨ ∃ explanation, last.state.explanation = some explanation
        ∧ ∃ passed ∈ left, passed.Expands environment explanation := by
  induction steps with
  | refl => exact .inl rfl
  | step turn rest inductionHypothesis =>
      rcases inductionHypothesis with same | ⟨explanation, set, passed, member, expands⟩
      · rcases turn.explanation with unset | ⟨explanation, set, expands⟩
        · exact .inl (same.trans unset)
        · exact .inr ⟨explanation, same.trans set, _, List.mem_cons_self .., expands⟩
      · exact .inr ⟨explanation, set, passed, List.mem_cons_of_mem _ member, expands⟩

/-! ## What puts a guard on the stack -/

/-- A task that begins no explanation puts no guard on the stack. -/
theorem runTask_unguarded {state : State} {task : Task} (absent : .guardExplanation ∉ state.tasks)
    (unwanted : task.mayExplain = true → state.wantsExplanation = false) :
    .guardExplanation ∉ (runTask environment state task).state.tasks := by
  by_cases explains : ∃ text, task = .explain text
  · obtain ⟨text, rfl⟩ := explains
    have popped : (runTask environment state (.explain text)).state.tasks = state.tasks :=
      (explain_puts text state).tasks
    rwa [popped]
  · exact (runTask_unexplaining unwanted fun text same => explains ⟨text, same⟩).2 absent

/-- No answer puts a guard on the stack. -/
theorem receive_unguarded {state : State} (answer : Dns.Answer) (awaiting : Awaiting)
    (absent : .guardExplanation ∉ state.tasks) :
    .guardExplanation ∉ (receive environment answer state awaiting).state.tasks := by
  by_cases texts : awaiting = .explanationTexts
  · subst texts
    simp only [receive, receiveExplanationTexts]
    split
    · rename_i text
      have put : state.Puts [.explain text] 0
          (prepareExplanation environment text state).state :=
        prepareExplanation_puts text (.refl state)
      simpa [put.tasks] using absent
    · exact absent
  · exact (receive_keeps answer fun _ => texts).unguarded absent

/-- A reaction without a guard on the stack leads to no explanation. -/
theorem isExplaining_settle {reaction : Reaction}
    (absent : .guardExplanation ∉ reaction.state.tasks) :
    reaction.settle.position.isExplaining = false := by
  refine decide_eq_false ?_
  cases reaction with
  | proceed after => exact absent
  | ask after lookup => exact absent
  | fail after failure => exact fun present => absent ((unwind_suffix _ _ _).subset present)

/-- Once an explanation is over, no guard is left on the stack unless one stood there before. -/
theorem Position.Explained.isExplaining {base : State} {below : List Task}
    (explained : position.Explained base below) (absent : .guardExplanation ∉ below) :
    position.isExplaining = false := by
  cases position with
  | running state =>
      obtain ⟨stack, _⟩ : state.tasks = below ∧ base.Undisturbed state := explained
      exact decide_eq_false (stack ▸ absent)
  | waiting state lookup => exact absurd explained not_false

/-- A guard comes on the stack only with an explanation that is wanted. -/
theorem Position.Step.begins (turn : Step environment permitted position next)
    (unguarded : position.isExplaining = false) (guarded : next.isExplaining = true) :
    ∃ base task, position = .running (base.push task) ∧ task.mayExplain = true
      ∧ base.wantsExplanation = true ∧ .guardExplanation ∉ base.tasks
      ∧ next.Explaining base base.tasks := by
  have absent : Task.guardExplanation ∉ position.state.tasks := of_decide_eq_false unguarded
  cases turn with
  | @hear state lookup answer allowed =>
      have without : (receive environment answer state
          lookup.awaiting).settle.position.isExplaining = false :=
        isExplaining_settle (receive_unguarded answer lookup.awaiting absent)
      exact Bool.noConfusion (guarded.symm.trans without)
  | @run state task below stack =>
      have popped : Task.guardExplanation ∉ below := by
        intro present
        exact absent (stack ▸ List.mem_cons_of_mem task present)
      have whole := (push_of_tasks stack).symm
      by_cases begins : task.mayExplain = true
        ∧ ({ state with tasks := below } : State).wantsExplanation = true
      · obtain ⟨may, wanted⟩ := begins
        refine ⟨_, task, congrArg _ whole, may, wanted, popped, ?_⟩
        refine (@runTask_explaining_of_wanted environment _ _ may wanted).settle.resolve_right
          fun explained => ?_
        exact Bool.noConfusion (guarded.symm.trans (explained.isExplaining popped))
      · have without : (runTask environment { state with tasks := below }
            task).settle.position.isExplaining = false := by
          refine isExplaining_settle (runTask_unguarded popped fun may => ?_)
          simpa [may] using begins
        exact Bool.noConfusion (guarded.symm.trans without)

/-- An explanation under way at a position began at one of those before it, where it was wanted
and none was under way. -/
def Position.HasBegun (left : List Position) (position : Position) : Prop :=
  position.isExplaining = true →
    ∃ (base : State) (task : Task), .running (base.push task) ∈ left ∧ task.mayExplain = true
      ∧ base.wantsExplanation = true ∧ .guardExplanation ∉ base.tasks
      ∧ position.Explaining base base.tasks

theorem Position.HasBegun.step (begun : position.HasBegun left)
    (turn : Step environment permitted position next) : next.HasBegun (left ++ [position]) := by
  intro guarded
  cases before : position.isExplaining with
  | false =>
      obtain ⟨base, task, rfl, may, wanted, absent, explaining⟩ := turn.begins before guarded
      exact ⟨base, task, by simp, may, wanted, absent, explaining⟩
  | true =>
      obtain ⟨base, task, member, may, wanted, absent, explaining⟩ := begun before
      refine ⟨base, task, List.mem_append_left _ member, may, wanted, absent, ?_⟩
      refine (turn.explaining explaining).resolve_right fun explained => ?_
      exact Bool.noConfusion (guarded.symm.trans (explained.isExplaining absent))

theorem Position.HasBegun.steps {more : List Position} (begun : position.HasBegun left)
    (steps : Steps environment permitted position more last) : last.HasBegun (left ++ more) := by
  induction steps generalizing left with
  | refl => simpa using begun
  | step turn _ inductionHypothesis => simpa using inductionHypothesis (begun.step turn)

end

/-! ## From its beginning to its end -/

/-- An explanation that began on the stack of a state has run its course within a row of positions:
nothing else is disturbed up to its ending, and it is what it was until a text is expanded. -/
structure RunsItsCourse (environment : Environment) (base : State) (inside : List Position)
    (ending : Position) : Prop where
  explaining : ∀ position ∈ inside, position.Explaining base base.tasks
  explained : ending.Explained base base.tasks
  expanded : ∀ position ∈ inside ++ [ending], position.state.explanation = base.explanation
    ∨ ∃ explanation, position.state.explanation = some explanation
      ∧ ∃ earlier ∈ inside, earlier.Expands environment explanation

section
variable {environment : Environment} {permitted : Dns.Question → Dns.Answer → Prop}
  {left : List Position}

theorem Position.not_explaining_of_finished {base last : State} {below : List Task}
    (finished : last.tasks = []) : ¬ (Position.running last).Explaining base below := by
  intro explaining
  have guarded := State.Explaining.guarded explaining
  rw [finished] at guarded
  cases guarded

/-- An explanation that is wanted is under way from the next turn on until it is over. -/
theorem Position.Steps.exists_explained {base last : State} {task : Task} {after : List Position}
    (may : task.mayExplain = true) (wanted : base.wantsExplanation = true)
    (steps : Steps environment permitted (.running (base.push task)) left (.running last))
    (finished : last.tasks = [])
    (row : left ++ [.running last] = .running (base.push task) :: after) :
    ∃ inside ending outside, after = inside ++ ending :: outside
      ∧ (∀ position ∈ inside, position.Explaining base base.tasks)
      ∧ ending.Explained base base.tasks := by
  generalize began : Position.running (base.push task) = start at steps
  cases steps with
  | refl =>
      rw [← Position.running.inj began] at finished
      cases finished
  | @step _ next left _ turn rest =>
      subst began
      obtain ⟨_, same⟩ := List.cons.inj row
      have first : next.Explaining base base.tasks ∨ next.Explained base base.tasks := by
        cases turn with
        | run stack =>
            cases stack
            exact (runTask_explaining_of_wanted may wanted).settle
      rcases first with within | outer
      · obtain ⟨inside, ending, outside, parts, _, all, explained⟩ :=
          rest.exists_leaving (·.Explaining base base.tasks) (·.Explained base base.tasks)
            (fun turn inner => turn.explaining inner) within
            (not_explaining_of_finished finished)
        exact ⟨inside, ending, outside, same.symm.trans parts, all, explained⟩
      · obtain ⟨outside, tail⟩ := rest.exists_cons
        exact ⟨[], next, outside, same.symm.trans tail, List.forall_mem_nil _, outer⟩

/-- An explanation that is wanted runs its course before a check is finished. -/
theorem Position.Steps.runsItsCourse {base last : State} {task : Task} {after : List Position}
    (may : task.mayExplain = true) (wanted : base.wantsExplanation = true)
    (steps : Steps environment permitted (.running (base.push task)) left (.running last))
    (finished : last.tasks = [])
    (row : left ++ [.running last] = .running (base.push task) :: after) :
    ∃ inside ending outside, after = inside ++ ending :: outside
      ∧ RunsItsCourse environment base inside ending := by
  obtain ⟨inside, ending, outside, parts, explaining, explained⟩ :=
    steps.exists_explained may wanted finished row
  refine ⟨inside, ending, outside, parts, explaining, explained, fun position member => ?_⟩
  obtain ⟨before, later, split⟩ := List.append_of_mem member
  have whole : left ++ [.running last]
      = (.running (base.push task) :: before) ++ position :: (later ++ outside) := by
    rw [row, parts, List.append_cons, split]
    simp
  rcases (steps.to_middle whole).explanation with same | ⟨explanation, set, passed, among, expands⟩
  · exact .inl same
  refine .inr ⟨explanation, set, passed, ?_, expands⟩
  rcases List.mem_cons.mp among with rfl | earlier
  · -- The task that begins an explanation expands nothing.
    obtain ⟨other, text, same, _⟩ := expands
    obtain ⟨rfl, _⟩ := List.cons.inj (congrArg State.tasks (Position.running.inj same))
    cases may
  · have shorter : before <+: inside := by
      refine List.prefix_of_prefix_length_le ⟨_, split.symm⟩ (List.prefix_append inside [ending]) ?_
      have lengths := congrArg List.length split
      simp only [List.length_append, List.length_cons, List.length_nil] at lengths
      omega
    exact shorter.subset earlier

end

end SenderPolicy.Check
