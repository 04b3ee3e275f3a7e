import SenderPolicy.Proofs.Check.Sparing
import SenderPolicy.Proofs.Check.Stack.Silence

/-!
# Where a fail comes from

The verdict that counts is the one outside all includes, which an include puts aside until it is
left. Nothing but a directive that matches there gives it another value than neutral, and no failure
has the code of a fail. So a check that ends in a fail has settled a directive outside all includes,
and until then it has explained nothing.
-/

namespace SenderPolicy.Check

/-- The domain, the verdict and the muting outside all includes. -/
def State.outerFrame (state : State) : Frame :=
  (framesOf state.tasks).getLast?.getD state.frame

/-- The muting is the same, and the verdict is the same or has become neutral. -/
structure Frame.Softens (base after : Frame) : Prop where
  muted : after.muted = base.muted
  verdict : after.verdict = base.verdict ∨ after.verdict = some .neutral

section
variable {environment : Environment} {base state : State}

theorem Frame.Softens.of_eq {base after : Frame} (muted : after.muted = base.muted)
    (verdict : after.verdict = base.verdict) : base.Softens after :=
  ⟨muted, .inl verdict⟩

theorem Frame.Softens.trans {base middle after : Frame} (first : base.Softens middle)
    (second : middle.Softens after) : base.Softens after := by
  refine ⟨second.muted.trans first.muted, ?_⟩
  rcases second.verdict with same | neutral
  · exact first.verdict.imp same.trans same.trans
  · exact .inr neutral

/-- What an outer include has put aside is the same. -/
theorem Frame.Softens.getD {base after : Frame} (softens : base.Softens after)
    (found : Option Frame) : (found.getD base).Softens (found.getD after) := by
  cases found with
  | none => exact softens
  | some frame => exact .of_eq rfl rfl

theorem outerFrame_cons (state : State) (task : Task) (below : List Task) :
    ({ state with tasks := task :: below } : State).outerFrame
      = (framesOf below).getLast?.getD (task.frame?.getD state.frame) := by
  cases frame : task.frame? with
  | none => simp [State.outerFrame, framesOf, frame, State.frame]
  | some found =>
      have frames : framesOf (task :: below) = found :: framesOf below := by
        simp [framesOf, frame]
      simp only [State.outerFrame, frames, List.getLast?_cons, Option.getD_some]

/-- Where the entries of includes are the same, the outermost counts in both states. -/
theorem softens_of_framesOf_eq (frames : framesOf state.tasks = framesOf base.tasks)
    (softens : base.frame.Softens state.frame) : base.outerFrame.Softens state.outerFrame := by
  rw [State.outerFrame, State.outerFrame, frames]
  exact softens.getD _

/-! ## Failures -/

/-- A catcher puts back a frame, or leaves the verdict, or makes it neutral. -/
theorem handle_softens {failure : Failure} {task : Task} {handling : Handling}
    (handled : handle failure state task = some handling) :
    (task.frame?.getD state.frame).Softens handling.state.frame := by
  cases task with
  | conclude =>
      cases handled
      exact .of_eq rfl rfl
  | leaveInclude frame =>
      simp only [handle] at handled
      split at handled <;> cases handled <;> exact .of_eq rfl rfl
  | leaveRedirect =>
      simp only [handle] at handled
      split at handled <;> cases handled
      · exact .of_eq rfl rfl
      · exact ⟨rfl, .inr rfl⟩
      · exact .of_eq rfl rfl
  | guardExplanation =>
      cases handled
      exact .of_eq rfl rfl
  | _ => cases handled

theorem unwind_softens (failure : Failure) (state : State) (tasks : List Task) :
    ({ state with tasks } : State).outerFrame.Softens
      (unwind failure state tasks).2.outerFrame := by
  induction tasks generalizing failure state with
  | nil => exact .of_eq rfl rfl
  | cons task tasks inductionHypothesis =>
      rw [outerFrame_cons, unwind]
      cases handled : handle failure { state with tasks } task with
      | none =>
          have none : task.frame? = none := by
            cases task with
            | leaveInclude frame =>
                simp only [handle] at handled
                split at handled <;> cases handled
            | _ => rfl
          rw [none]
          exact inductionHypothesis failure state
      | some handling =>
          have same : handling.state.tasks = tasks := (handle_effect handled).1
          have after : ((framesOf tasks).getLast?.getD (task.frame?.getD state.frame)).Softens
              handling.state.outerFrame := by
            rw [State.outerFrame, same]
            exact (handle_softens handled).getD _
          cases handling with
          | caught final => exact after
          | rethrown final next =>
              have whole : ({ final with tasks } : State) = final := by rw [← same]; rfl
              have rest := inductionHypothesis next final
              rw [whole] at rest
              exact after.trans rest

theorem Reaction.softens_settle (reaction : Reaction) :
    reaction.state.outerFrame.Softens reaction.settle.position.state.outerFrame := by
  cases reaction with
  | proceed after => exact .of_eq rfl rfl
  | ask after lookup => exact .of_eq rfl rfl
  | fail after failure => exact unwind_softens failure after after.tasks

/-! ## Turns -/

theorem Reaction.Spares.spares {reaction : Reaction} (spared : reaction.Spares environment base) :
    base.Spares environment reaction.state := by
  cases reaction with
  | proceed after => exact spared
  | ask after lookup => exact spared.1
  | fail after failure => exact spared

/-- What keeps the domain and spares the verdict changes nothing outside all includes. -/
theorem State.Keeps.softens {quiet : Prop} (kept : base.Keeps quiet state)
    (verdict : state.verdict = base.verdict) : base.outerFrame.Softens state.outerFrame :=
  softens_of_framesOf_eq kept.framesOf_eq (.of_eq kept.muted verdict)

/-- A directive is settled outside all includes, and its mechanism has matched. -/
structure State.Settles (base : State) : Prop where
  matched : base.matched = some true
  outside : framesOf base.tasks = []

/-- Only a directive that is settled gives the verdict outside all includes another value than
neutral. -/
theorem runTask_softens (state : State) (task : Task) (below : List Task)
    (other : (∃ qualifier, task = .settle qualifier) →
      ¬ ({ state with tasks := below } : State).Settles) :
    ({ state with tasks := task :: below } : State).outerFrame.Softens
      (runTask environment { state with tasks := below } task).state.outerFrame := by
  rw [outerFrame_cons]
  have plainly (domain : task.changesDomain = false) (verdict : task.changesVerdict = false) :
      ((framesOf below).getLast?.getD (task.frame?.getD state.frame)).Softens
        (runTask environment { state with tasks := below } task).state.outerFrame := by
    have kept : (runTask environment { state with tasks := below } task).Keeps False _ :=
      runTask_keeps domain nofun nofun
    rw [frame?_of_not_changesDomain domain]
    exact kept.keeps.softens (runTask_spares verdict _).spares.verdict
  cases task with
  | settle qualifier =>
      simp only [runTask]
      split
      · rename_i matched
        have inside : framesOf below ≠ [] := fun outside => other ⟨_, rfl⟩ ⟨matched, outside⟩
        obtain ⟨frame, last⟩ : ∃ frame, (framesOf below).getLast? = some frame :=
          ⟨_, List.getLast?_eq_some_getLast inside⟩
        simp only [Reaction.state, State.outerFrame, last]
        exact .of_eq rfl rfl
      · exact .of_eq rfl rfl
  | leaveInclude frame => exact .of_eq rfl rfl
  | followRedirect spec =>
      simp only [runTask, followRedirect]
      split
      · exact .of_eq rfl rfl
      · have popped : framesOf (.evaluateDomain :: .leaveRedirect :: below) = framesOf below := rfl
        refine @softens_of_framesOf_eq { state with tasks := below } _ popped ?_
        exact .of_eq rfl rfl
  | expandedMechanism mechanism =>
      cases mechanism with
      | «include» spec =>
          simp only [runTask, continueMechanism]
          split
          · exact .of_eq rfl rfl
          · rename_i host found
            -- The frame that counted so far stands in the entry of the include.
            have frames : framesOf (enterInclude host { state with tasks := below }).tasks
                = state.frame :: framesOf below := rfl
            rw [Reaction.state, State.outerFrame, frames, List.getLast?_cons]
            exact .of_eq rfl rfl
      | _ => exact plainly rfl rfl
  | hook hook =>
      cases hook with
      | neutralIfUnmatched =>
          refine @softens_of_framesOf_eq { state with tasks := below } _ rfl ⟨rfl, ?_⟩
          show (state.verdict <|> some .neutral) = state.verdict
            ∨ (state.verdict <|> some .neutral) = some .neutral
          cases state.verdict with
          | none => exact .inr rfl
          | some qualifier => exact .inl rfl
      | defaultExplanation text => exact plainly rfl rfl
  | _ => exact plainly rfl rfl

/-- No answer changes the verdict. -/
theorem receive_verdict (answer : Dns.Answer) (awaiting : Awaiting) :
    (receive environment answer state awaiting).state.verdict = state.verdict := by
  have asked (names : List Text) :
      (askClientAddresses names state).state.verdict = state.verdict := by
    unfold askClientAddresses
    split
    · rfl
    · split <;> rfl
  cases finds : awaiting.findsClient with
  | false => exact (receive_spares answer finds state).spares.verdict
  | true =>
      cases awaiting with
      | clientNames =>
          simp only [receive, receiveClientNames]
          split
          · rfl
          · exact asked _
      | clientAddresses candidate pending =>
          simp only [receive, receiveClientAddresses]
          split
          · exact asked _
          · split
            · rfl
            · split
              · rfl
              · exact asked _
      | _ => cases finds

end

section
variable {environment : Environment} {permitted : Dns.Question → Dns.Answer → Prop}
  {position next last : Position} {left : List Position}

/-- A turn softens the verdict outside all includes, or it settles a directive there. -/
theorem Position.Step.softens (turn : Step environment permitted position next) :
    position.state.outerFrame.Softens next.state.outerFrame
      ∨ ∃ (base : State) (qualifier : Qualifier),
        position = .running (base.push (.settle qualifier)) ∧ base.Settles
        ∧ next = .running { base with matched := none, verdict := some qualifier } := by
  cases turn with
  | @hear state lookup answer allowed =>
      left
      have kept : (receive environment answer state lookup.awaiting).Keeps False state :=
        receive_keeps answer nofun
      exact (kept.keeps.softens (receive_verdict answer _)).trans (Reaction.softens_settle _)
  | @run state task below stack =>
      have whole := (push_of_tasks stack).symm
      by_cases settles : (∃ qualifier, task = .settle qualifier)
          ∧ ({ state with tasks := below } : State).Settles
      · right
        obtain ⟨⟨qualifier, rfl⟩, settles⟩ := settles
        refine ⟨_, qualifier, congrArg _ whole, settles, ?_⟩
        have matched : state.matched = some true := settles.matched
        simp only [runTurn, runTask, matched, if_true, Reaction.settle]
      · left
        have ran := @runTask_softens environment state task below fun some settled =>
          settles ⟨some, settled⟩
        have same : ({ state with tasks := task :: below } : State) = state := by rw [← stack]
        rw [same] at ran
        exact ran.trans (Reaction.softens_settle _)

/-- Explanations are muted outside all includes only if they have been from the beginning. -/
theorem Position.Step.outerMuted (turn : Step environment permitted position next) :
    next.state.outerFrame.muted = position.state.outerFrame.muted := by
  rcases turn.softens with softens | ⟨base, qualifier, rfl, settles, rfl⟩
  · exact softens.muted
  · have here : framesOf (base.push (.settle qualifier)).tasks = [] := settles.outside
    simp only [Position.state, State.outerFrame, settles.outside, here]
    rfl

/-- A client that has failed outside all includes has done so from the beginning, or by a directive
that was settled there. -/
theorem Position.Steps.exists_settled (steps : Steps environment permitted position left last)
    (failed : last.state.outerFrame.verdict = some .fail) :
    position.state.outerFrame.verdict = some .fail
      ∨ ∃ (before : List Position) (base : State) (after : List Position),
        left = before ++ .running (base.push (.settle .fail)) :: after ∧ base.Settles := by
  induction steps with
  | refl => exact .inl failed
  | @step position next left last turn rest inductionHypothesis =>
      rcases inductionHypothesis failed with still | ⟨before, base, after, row, settles⟩
      · rcases turn.softens with softens | ⟨base, qualifier, rfl, settles, rfl⟩
        · rcases softens.verdict with same | neutral
          · exact .inl (same.symm.trans still)
          · rw [neutral] at still
            cases still
        · right
          have here : (some qualifier : Option Qualifier) = some .fail := by
            simpa [Position.state, State.outerFrame, settles.outside, State.frame] using still
          cases here
          exact ⟨[], base, left, rfl, settles⟩
      · exact .inr ⟨position :: before, base, after, by rw [row]; rfl, settles⟩

/-! ## Results -/

/-- No failure has the code of a fail. -/
theorem Failure.code_ne_fail (failure : Failure) : failure.code ≠ .fail := by
  cases failure <;> nofun

/-- A result that a turn sets to a fail is the verdict outside all includes. -/
theorem Position.Step.result_fail {before : List Position}
    (turn : Step environment permitted position next) (shaped : position.Shaped before)
    (failed : next.state.result = some .fail) :
    position.state.result = some .fail ∨ position.state.outerFrame.verdict = some .fail := by
  have settled {reaction : Reaction}
      (failed : reaction.settle.position.state.result = some .fail) :
      reaction.state.result = some .fail := by
    rcases (Reaction.outlasts_settle reaction).result with same | ⟨_, other, code⟩
    · exact same.symm.trans failed
    · exact absurd (Option.some.inj (code.symm.trans failed)) (Failure.code_ne_fail other)
  cases turn with
  | @hear state lookup answer allowed =>
      obtain ⟨above, _, put⟩ := receive_puts answer lookup.awaiting state
      exact .inl (put.result.symm.trans (settled failed))
  | @run state task below stack =>
      by_cases concludes : task = .conclude
      · subst concludes
        have empty : below = [] := by
          rcases shaped with ⟨_, shape⟩ | ⟨finished, _⟩
          · obtain ⟨above, bottom, unique⟩ := shape.bottom
            cases above with
            | nil => exact (List.cons.inj (stack.symm.trans bottom)).2
            | cons first above =>
                obtain ⟨rfl, _⟩ := List.cons.inj (stack.symm.trans bottom)
                exact absurd (List.mem_cons_self ..) unique
          · rw [IsFinished, stack] at finished
            cases finished
        have outside : framesOf state.tasks = [] := by rw [stack, empty]; rfl
        have decided : (state.result <|> some ((state.verdict.map Qualifier.result).getD .neutral))
            = some .fail := failed
        simp only [Position.state, State.outerFrame, outside, State.frame]
        cases known : state.result with
        | some code =>
            rw [known] at decided
            exact .inl decided
        | none =>
            rw [known] at decided
            right
            cases verdict : state.verdict with
            | none =>
                rw [verdict] at decided
                cases decided
            | some qualifier =>
                rw [verdict] at decided
                cases qualifier <;> first | rfl | cases decided
      · obtain ⟨above, count, _, put⟩ :=
          runTask_places environment concludes { state with tasks := below }
        exact .inl (put.result.symm.trans (settled failed))

/-- A result that becomes a fail is somewhere on the way the verdict outside all includes. -/
theorem Position.Steps.exists_failing {before : List Position}
    (steps : Steps environment permitted position left last) (shaped : position.Shaped before)
    (failed : last.state.result = some .fail) :
    position.state.result = some .fail
      ∨ ∃ (passed : List Position) (middle : Position) (after : List Position),
        left = passed ++ middle :: after ∧ middle.state.outerFrame.verdict = some .fail := by
  induction steps generalizing before with
  | refl => exact .inl failed
  | @step position next left last turn rest inductionHypothesis =>
      rcases inductionHypothesis (shaped.step turn) failed
        with here | ⟨passed, middle, after, row, fails⟩
      · exact (turn.result_fail shaped here).imp_right fun fails => ⟨[], position, left, rfl, fails⟩
      · exact .inr ⟨position :: passed, middle, after, by rw [row]; rfl, fails⟩

/-! ## Whole checks -/

/-- A client that has failed leaves nothing but endings, and possibly tasks for an explanation. -/
theorem Position.Failing.isEnding {domain : Text} (failing : position.Failing domain) :
    ∀ task ∈ position.state.tasks, task.isEnding = true ∨ task.isOfExplanation = true := by
  obtain ⟨base, fails, _, explaining | explained⟩ := failing
  · have within : position.state.Explaining base base.tasks := by
      cases position with
      | running state => exact explaining
      | waiting state lookup => exact explaining.1
    obtain ⟨above, stack, only⟩ := within.stack
    rw [stack]
    refine List.forall_mem_append.mpr ⟨fun task member => .inr ?_,
      List.forall_mem_cons.mpr ⟨.inr rfl, fun task member => .inl (fails.endings task member)⟩⟩
    have explanatory := only task member
    cases task <;> first | rfl | cases explanatory
  · cases position with
    | running state =>
        have same : state.tasks = base.tasks := explained.1
        exact fun task member => .inl (fails.endings task (same ▸ member))
    | waiting state lookup => exact absurd explained not_false

/-- A client that has failed has done so outside all includes. -/
theorem Position.Failing.framesOf_eq {domain : Text} (failing : position.Failing domain) :
    framesOf position.state.tasks = [] := by
  refine List.filterMap_eq_nil_iff.mpr fun task member => ?_
  cases task with
  | leaveInclude frame => rcases failing.isEnding _ member with ending | explains <;> contradiction
  | _ => rfl

/-- A directive that is settled outside all includes finds nothing explained, and explanations
wanted. -/
structure State.IsDecisive (base : State) : Prop extends base.Settles where
  silent : (base.push (.settle .fail)).Silent
  muted : base.muted = false

/-- Wherever the client has failed outside all includes, a directive that was settled there has
failed it. -/
theorem exists_decisive {identity : Identity} (known : identity.client.isSome)
    (steps : Position.Steps environment permitted (.running (State.start identity)) left last)
    (failed : last.state.outerFrame.verdict = some .fail) :
    ∃ (before : List Position) (base : State) (after : List Position),
      left = before ++ .running (base.push (.settle .fail)) :: after ∧ base.IsDecisive := by
  rcases steps.exists_settled failed with already | ⟨before, base, after, row, settles⟩
  · cases already
  · have here := steps.to_passed row
    refine ⟨before, base, after, row, settles, ?silent, ?muted⟩
    case silent =>
      rcases (silent_start known).steps here with ⟨silent, _⟩ | ⟨_, failing⟩
      · exact silent
      · rcases failing.isEnding _ (List.mem_cons_self ..) with ending | explains
        · cases ending
        · cases explains
    case muted =>
      have outer := @Position.Steps.keeps environment permitted
        (fun position => position.state.outerFrame.muted = false)
        (fun turn loud => turn.outerMuted.trans loud) _ _ _ here rfl
      have outside : framesOf (base.push (.settle .fail)).tasks = [] := settles.outside
      rw [Position.state, State.outerFrame, outside] at outer
      exact outer

/-- A check that ends in a fail has settled a directive outside all includes. -/
theorem exists_decisive_of_result {identity : Identity} {last : State}
    (steps : Position.Steps environment permitted (.running (State.start identity)) left
      (.running last))
    (failed : last.result = some .fail) :
    ∃ (before : List Position) (base : State) (after : List Position),
      left = before ++ .running (base.push (.settle .fail)) :: after ∧ base.IsDecisive := by
  have known : identity.client.isSome := by
    cases client : identity.client with
    | some address => rfl
    | none =>
        have decided : (State.start identity).result = some .permError := by
          simp [State.start, client]
        have kept := @Position.Steps.keeps environment permitted
          (fun position => position.state.result = some .permError)
          (fun turn same => turn.result same) _ _ _ steps decided
        cases kept.symm.trans failed
  rcases steps.exists_failing (shaped_start identity) failed with already | found
  · simp [Position.state, State.start, known] at already
  · obtain ⟨passed, middle, after, row, fails⟩ := found
    obtain ⟨before, base, rest, first, decisive⟩ :=
      exists_decisive known (steps.to_passed row) fails
    refine ⟨before, base, rest ++ middle :: after, ?_, decisive⟩
    rw [row, first]
    simp

end

end SenderPolicy.Check
