import SenderPolicy.Proofs.Check.Keeping
import SenderPolicy.Proofs.Check.Likeness.Answers
import SenderPolicy.Proofs.Check.Steps

/-!
# Runs side by side

Two checks that stand alike take one turn after the other alike, as long as alike questions get
alike answers: they ask the same number of questions, each about names alike, and end in states
alike. The induction is on the first of the two runs; since the turns are alike the second one
ends with it.
-/

namespace SenderPolicy.Check.Likeness

variable {likeness : Likeness} {environment : Environment}

/-! ## Failures -/

/-- What catchers make of failures alike. -/
inductive AlikeHandlings (likeness : Likeness) (environment : Environment) :
    Option Handling → Option Handling → Prop where
  | none : AlikeHandlings likeness environment none none
  | caught {one other} (states : likeness.AlikeStates environment one other) :
      AlikeHandlings likeness environment (some (.caught one)) (some (.caught other))
  | rethrown {one other failure otherFailure}
      (states : likeness.AlikeStates environment one other)
      (code : failure.code = otherFailure.code) :
      AlikeHandlings likeness environment (some (.rethrown one failure))
        (some (.rethrown other otherFailure))

section
variable {one other : State} {failure otherFailure : Failure}
  (code : failure.code = otherFailure.code)
include code

theorem decide_alike (alike : likeness.AlikeStates environment one other) :
    likeness.AlikeStates environment (one.decide failure.code)
      (other.decide otherFailure.code) :=
  { alike with result := by rw [State.decide, State.decide, alike.result, code] }

theorem handle_leaveInclude_alike (alike : likeness.AlikeStates environment one other)
    {domain otherDomain : Text} {verdict : Option Qualifier} {muted : Bool}
    (domains : likeness.names domain otherDomain) :
    AlikeHandlings likeness environment
      (handle failure one (.leaveInclude ⟨domain, verdict, muted⟩))
      (handle otherFailure other (.leaveInclude ⟨otherDomain, verdict, muted⟩)) := by
  have restored : likeness.AlikeStates environment (Frame.restore ⟨domain, verdict, muted⟩ one)
      (Frame.restore ⟨otherDomain, verdict, muted⟩ other) :=
    { alike with domain := domains, verdict := rfl, muted := rfl }
  simp only [handle, code]
  split
  · exact .caught { restored with matched := rfl }
  · exact .caught { restored with matched := rfl }
  · exact .rethrown restored code

theorem handle_alike (holds : likeness.Holds environment)
    (alike : likeness.AlikeStates environment one other) {task otherTask : Task}
    (tasks : likeness.AlikeTasks environment task otherTask) :
    AlikeHandlings likeness environment (handle failure one task)
      (handle otherFailure other otherTask) := by
  cases tasks with
  | leaveInclude domains => exact handle_leaveInclude_alike code alike domains
  | same shared =>
      cases task with
      | conclude => exact .caught (decide_alike code alike)
      | leaveInclude frame => exact handle_leaveInclude_alike code alike (holds.refl _)
      | leaveRedirect =>
          simp only [handle, code]
          split
          · exact .rethrown alike rfl
          · exact .caught { alike with verdict := rfl }
          · exact .rethrown alike code
      | guardExplanation => exact .caught alike
      | _ => exact .none

/-- Failures alike are handled alike. -/
theorem unwind_alike (holds : likeness.Holds environment)
    (alike : likeness.AlikeStates environment one other) {tasks otherTasks : List Task}
    (stack : List.Forall₂ (likeness.AlikeTasks environment) tasks otherTasks) :
    likeness.AlikeStates environment (unwind failure one tasks).2
      (unwind otherFailure other otherTasks).2 := by
  induction stack generalizing failure otherFailure one other with
  | nil =>
      have emptied : likeness.AlikeStates environment { one with tasks := [] }
          { other with tasks := [] } := { alike with tasks := .nil }
      exact decide_alike code emptied
  | @cons task otherTask below otherBelow first rest inductionHypothesis =>
      have taken : likeness.AlikeStates environment { one with tasks := below }
          { other with tasks := otherBelow } := { alike with tasks := rest }
      unfold unwind
      have handled := handle_alike code holds taken first
      generalize handle failure { one with tasks := below } task = handling at handled ⊢
      generalize handle otherFailure { other with tasks := otherBelow } otherTask = otherHandling
        at handled ⊢
      cases handled with
      | none => exact inductionHypothesis code alike
      | caught states => exact states
      | rethrown states code => exact inductionHypothesis code states

end

/-! ## Turns -/

/-- Where two checks stand alike. -/
inductive AlikePositions (likeness : Likeness) (environment : Environment) :
    Position → Position → Prop where
  | running {one other} (states : likeness.AlikeStates environment one other) :
      AlikePositions likeness environment (.running one) (.running other)
  | waiting {one other lookup otherLookup}
      (states : likeness.AlikeStates environment one other)
      (lookups : likeness.AlikeLookups lookup otherLookup) :
      AlikePositions likeness environment (.waiting one lookup) (.waiting other otherLookup)

theorem AlikeReactions.settle (holds : likeness.Holds environment) {one other : Reaction}
    (alike : likeness.AlikeReactions environment one other) :
    AlikePositions likeness environment one.settle.position other.settle.position := by
  cases alike with
  | proceed states => exact .running states
  | ask states lookups => exact .waiting states lookups
  | fail states code => exact .running (unwind_alike code holds states states.tasks)

/-! ## Runs -/

section
variable (holds : likeness.Holds environment) {resolver otherResolver : Resolver}
  (answers : ∀ asked otherAsked question otherQuestion,
    List.Forall₂ likeness.AlikeQuestions asked otherAsked →
      likeness.AlikeQuestions question otherQuestion →
        likeness.AlikeAnswers question.type (resolver asked question)
          (otherResolver otherAsked otherQuestion))
include holds answers

/-- From positions alike two checks ask questions alike and end in states alike. -/
theorem converse_alike {position otherPosition : Position}
    (alike : AlikePositions likeness environment position otherPosition)
    {asked otherAsked : List Dns.Question}
    (history : List.Forall₂ likeness.AlikeQuestions asked otherAsked) :
    likeness.AlikeStates environment (converse environment resolver asked position).2
        (converse environment otherResolver otherAsked otherPosition).2
      ∧ List.Forall₂ likeness.AlikeQuestions
        ((visited environment resolver asked position).filterMap Position.question?)
        ((visited environment otherResolver otherAsked otherPosition).filterMap
          Position.question?) := by
  induction position using Position.precedes_wellFounded.induction
    generalizing otherPosition asked otherAsked with
  | h position inductionHypothesis =>
      cases alike with
      | @waiting one other lookup otherLookup states lookups =>
          have turn : AlikePositions likeness environment
              (receiveTurn environment one lookup.awaiting
                (resolver asked lookup.question)).position
              (receiveTurn environment other otherLookup.awaiting
                (otherResolver otherAsked otherLookup.question)).position :=
            (receive_alike holds states (answers _ _ _ _ history lookups.question)
              lookups.awaiting).settle holds
          obtain ⟨last, questions⟩ := inductionHypothesis _ (receiveTurn_precedes ..) turn
            (List.rel_append history (.cons lookups.question .nil))
          rw [converse_waiting, converse_waiting, visited_waiting, visited_waiting]
          exact ⟨last, .cons lookups.question questions⟩
      | @running one other states =>
          cases stack : one.tasks with
          | nil =>
              have otherStack : other.tasks = [] := by
                have tasks := states.tasks
                rw [stack] at tasks
                exact List.forall₂_nil_left_iff.mp tasks
              rw [converse_finished stack, converse_finished otherStack, visited_finished stack,
                visited_finished otherStack]
              exact ⟨states, .nil⟩
          | cons task below =>
              have tasks := states.tasks
              rw [stack] at tasks
              obtain ⟨otherTask, otherBelow, first, rest, otherStack⟩ :=
                List.forall₂_cons_left_iff.mp tasks
              have taken : likeness.AlikeStates environment { one with tasks := below }
                  { other with tasks := otherBelow } := { states with tasks := rest }
              have turn : AlikePositions likeness environment
                  (runTurn environment one task below).position
                  (runTurn environment other otherTask otherBelow).position :=
                (runTask_alike holds taken first).settle holds
              obtain ⟨last, questions⟩ := inductionHypothesis _
                (runTurn_precedes environment one task below stack) turn history
              rw [converse_running stack, converse_running otherStack, visited_running stack,
                visited_running otherStack]
              exact ⟨last, questions⟩

/-- Checks of identities alike have the same result and explanations alike, and they ask
questions alike. -/
theorem run_alike {identity otherIdentity : Identity}
    (identities : likeness.AlikeIdentities identity otherIdentity) :
    ∃ code explanation otherExplanation domain otherDomain,
      (run environment resolver identity).outcome
          = ⟨code, explanation.getD [], headerValue code identity domain⟩
        ∧ (run environment otherResolver otherIdentity).outcome
          = ⟨code, otherExplanation.getD [], headerValue code otherIdentity otherDomain⟩
        ∧ Option.Rel likeness.words explanation otherExplanation
        ∧ likeness.names domain otherDomain
        ∧ List.Forall₂ likeness.AlikeQuestions (run environment resolver identity).questions
          (run environment otherResolver otherIdentity).questions := by
  have starts : likeness.AlikeStates environment (State.start identity)
      (State.start otherIdentity) :=
    { identity := identities
      domain := identities.domain
      depth := rfl
      verdict := rfl
      result := by simp only [State.start, identities.client]
      explanation := .none
      muted := rfl
      matched := rfl
      slot := rfl
      plain := nofun
      clientDomain := rfl
      receiver := rfl
      tasks := .cons (.same (isShared_of_none rfl nofun))
        (.cons (.same (isShared_of_none rfl nofun)) .nil) }
  obtain ⟨last, questions⟩ := converse_alike holds answers (.running starts) .nil
  refine ⟨(converse environment resolver [] (.running (State.start identity))).2.result.getD
    .permError, _, _, _, _, ?_, ?_, last.explanation, last.domain, ?_⟩
  · simp only [run, Outcome.ofState, identity_converse]
  · simp only [run, Outcome.ofState, identity_converse, last.result]
  · rw [questions_run, questions_run]
    exact questions

end

/-! ## The likeness of equals -/

/-- Only what is equal is alike, and all texts are plain. -/
def exact : Likeness where
  names := Eq
  words := Eq
  plain _ := True

theorem eq_of_alikeValues {values other : Macro.Values} (alike : exact.AlikeValues values other) :
    values = other := by
  cases values
  cases other
  simp only [Macro.Values.mk.injEq]
  exact ⟨alike.sender, alike.localPart, alike.senderDomain, alike.domain, alike.address,
    alike.clientDomain, alike.family, alike.helo, alike.readableAddress, alike.receiver,
    alike.timestamp⟩

/-- No check can tell equals apart. -/
theorem exact_holds (environment : Environment) : exact.Holds environment where
  refl _ := rfl
  isFullyQualified same := congrArg _ same
  isHostName same := congrArg _ same
  readAddress same := congrArg _ same
  isWithin same name := congrArg _ same
  overrides _ _ _ _ same := ⟨congrArg _ same, fun _ _ => trivial⟩
  fallbacks _ _ _ _ same := ⟨congrArg _ same, fun _ _ => trivial⟩
  isSenders _ _ _ _ _ domains senders := by cases domains; cases senders; exact Iff.rfl
  guessed := trivial
  forwarder := trivial
  specs _ _ _ _ := trivial
  domains _ alike one other := by
    rw [eq_of_alikeValues alike, other] at one
    exact (Except.ok.inj one).symm
  explanations alike one other := by
    rw [eq_of_alikeValues alike, other] at one
    exact (Except.ok.inj one).symm

theorem exact_questions_eq {asked otherAsked : List Dns.Question}
    (alike : List.Forall₂ exact.AlikeQuestions asked otherAsked) : asked = otherAsked := by
  induction alike with
  | nil => rfl
  | @cons question otherQuestion _ _ first _ inductionHypothesis =>
      obtain ⟨host, type⟩ := question
      obtain ⟨otherHost, otherType⟩ := otherQuestion
      obtain ⟨hosts, types⟩ := first
      cases hosts
      cases types
      rw [inductionHypothesis]

theorem exact_answers_refl (type : Dns.RecordType) (answer : Dns.Answer) :
    exact.AlikeAnswers type answer answer := by
  cases answer with
  | records records => exact .records (.refl _) (fun _ => rfl) fun _ _ _ => trivial
  | timeout note => exact .timeout note note

/-- Checks of equal values and equal answers come to the same, but for what is only printed. -/
theorem run_exact {environment : Environment} {resolver otherResolver : Resolver}
    (answers : ∀ asked question, exact.AlikeAnswers question.type (resolver asked question)
      (otherResolver asked question))
    {identity otherIdentity : Identity}
    (identities : exact.AlikeIdentities identity otherIdentity) :
    (∃ code explanation domain,
        (run environment resolver identity).outcome
            = ⟨code, explanation, headerValue code identity domain⟩
          ∧ (run environment otherResolver otherIdentity).outcome
            = ⟨code, explanation, headerValue code otherIdentity domain⟩)
      ∧ (run environment resolver identity).questions
        = (run environment otherResolver otherIdentity).questions := by
  have alike : ∀ asked otherAsked question otherQuestion,
      List.Forall₂ exact.AlikeQuestions asked otherAsked →
        exact.AlikeQuestions question otherQuestion →
          exact.AlikeAnswers question.type (resolver asked question)
            (otherResolver otherAsked otherQuestion) := by
    intro asked otherAsked question otherQuestion history same
    obtain rfl := exact_questions_eq history
    obtain rfl : question = otherQuestion :=
      List.singleton_inj.mp (exact_questions_eq (.cons same .nil))
    exact answers asked question
  obtain ⟨code, explanation, otherExplanation, domain, otherDomain, first, second, explanations,
    domains, questions⟩ := run_alike (exact_holds environment) alike identities
  obtain rfl : domain = otherDomain := domains
  obtain rfl : explanation = otherExplanation := by
    cases explanations with
    | none => rfl
    | some same => exact congrArg some same
  exact ⟨⟨_, _, _, first, second⟩, exact_questions_eq questions⟩

end SenderPolicy.Check.Likeness
