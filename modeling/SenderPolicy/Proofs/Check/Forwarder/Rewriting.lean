import SenderPolicy.Proofs.Check.Forwarder.Stages

/-!
# Records that are rewritten for forwarders

The stage that admits forwarders compares the current domain with the sender's and with the
forwarder's host, as texts. So it rewrites no record of another name; but a record that an
include or a redirect comes back to is rewritten each time, and the forwarder's own record is
rewritten if the sender's domain is another spelling of its name.

A rewriting is paid for by the evaluation that it belongs to, so that a check whose evaluation
never comes back to the sender's domain rewrites one record at most, before any term has been
counted.
-/

namespace SenderPolicy.Check

/-- The current domain has the sender's name, which is not spelled like the forwarder's. -/
def State.isOfSender (state : State) : Bool :=
  state.domain = state.identity.domain && state.domain ≠ forwarderHost

/-- The stage that admits forwarders is about to change the record at hand. -/
def Position.rewrites : Position → Bool
  | .waiting _ _ => false
  | .running state =>
      match state.tasks, state.slot with
      | .stage .trustedForwarder :: _, some (.policy policy) =>
          state.isOfSender && endsStrict policy.record
      | _, _ => false

/-- The domain that is about to be evaluated has the sender's name. -/
def Position.evaluatesSender : Position → Bool
  | .waiting _ _ => false
  | .running state =>
      match state.tasks with
      | .evaluateDomain :: _ => state.isOfSender
      | _ => false

/-- The stage that admits forwarders changes the record that it is about to rewrite, and no
other. -/
theorem admitForwarders_record (environment : Environment) {state : State}
    {below : List Task} (stack : state.tasks = .stage .trustedForwarder :: below) :
    (runStage environment { state with tasks := below } .trustedForwarder).state.record?
      = state.record?.map fun record =>
          if (Position.running state).rewrites then record.insertBeforeLast forwarderDirective
          else record := by
  have condition : state.isOfSender = true
      ↔ state.domain = state.identity.domain ∧ state.domain ≠ forwarderHost := by
    simp [State.isOfSender]
  simp only [runStage, Position.rewrites, stack]
  by_cases sender : state.isOfSender = true
  · rw [if_pos (condition.mp sender)]
    rcases slot : state.slot with _ | text | policy
    · simp [Reaction.state, changePolicy, State.record?, slot]
    · simp [Reaction.state, changePolicy, State.record?, slot]
    · cases strict : endsStrict policy.record <;>
        simp [Reaction.state, changePolicy, State.record?, slot, sender, admitForwarder, strict]
  · rw [if_neg (sender ∘ condition.mpr)]
    rcases slot : state.slot with _ | text | policy <;>
      simp [Reaction.state, State.record?, slot, sender]

/-- A position that rewrites a record has the stage that does so on top. -/
theorem Position.stack_of_rewrites {state : State}
    (rewrites : (Position.running state).rewrites = true) :
    state.isOfSender = true ∧ ∃ below, state.tasks = .stage .trustedForwarder :: below := by
  unfold Position.rewrites at rewrites
  dsimp only at rewrites
  split at rewrites
  · rename_i below _ tasks _
    exact ⟨(Bool.and_eq_true_iff.mp rewrites).1, below, tasks⟩
  · cases rewrites

/-- No other task rewrites a record. -/
theorem Position.rewrites_eq_false {state : State} {task : Task} {below : List Task}
    (stack : state.tasks = task :: below) (other : task ≠ .stage .trustedForwarder) :
    (Position.running state).rewrites = false := by
  rw [Bool.eq_false_iff]
  intro rewrites
  obtain ⟨_, _, tasks⟩ := Position.stack_of_rewrites rewrites
  exact other (List.cons.inj (stack.symm.trans tasks)).1

/-- A record that is at hand after a turn was at hand before, and has been changed only if the
turn was to rewrite it; or it has just been read from a text. -/
theorem Position.Step.record {environment : Environment}
    {permitted : Dns.Question → Dns.Answer → Prop} {position next : Position} {record : Record}
    (turn : Step environment permitted position next) (held : next.state.record? = some record) :
    (∃ earlier, position.state.record? = some earlier
        ∧ record = if position.rewrites then earlier.insertBeforeLast forwarderDirective
          else earlier)
      ∨ (position.state.record? = none ∧ ∃ text, Record.read text = .ok record) := by
  cases turn with
  | @hear state lookup answer allowed =>
      have slot : (receiveTurn environment state lookup.awaiting answer).position.state.slot
          = (receive environment answer state lookup.awaiting).state.slot :=
        (Reaction.outlasts_settle _).slot
      rcases receive_keepsSlot answer lookup.awaiting with same | ⟨text, same⟩
      · rw [State.record?, slot, same] at held
        exact .inl ⟨record, held, rfl⟩
      · rw [State.record?, slot, same] at held
        cases held
  | @run state task below stack =>
      have slot : (runTurn environment state task below).position.state.slot
          = (runTask environment { state with tasks := below } task).state.slot :=
        (Reaction.outlasts_settle _).slot
      have after : (runTask environment { state with tasks := below } task).state.record?
          = some record := by
        rw [State.record?, ← slot]
        exact held
      by_cases admits : task = .stage .trustedForwarder
      · subst admits
        rw [runTask, admitForwarders_record environment stack] at after
        obtain ⟨earlier, held, same⟩ := Option.map_eq_some_iff.mp after
        exact .inl ⟨earlier, held, same.symm⟩
      · have quiet := Position.rewrites_eq_false stack admits
        simp only [quiet, Bool.false_eq_true, if_false, exists_eq_right']
        cases staged : task.isStage with
        | true =>
            cases task with
            | stage stage =>
                have other : stage ≠ .trustedForwarder := fun same => admits (congrArg _ same)
                have takes : ({ state with tasks := below } : State).TakesRecord
                    (runStage environment { state with tasks := below } stage).state :=
                  runStage_takesRecord other
                exact takes record after
            | _ => cases staged
        | false =>
            left
            rcases @runTask_slot environment { state with tasks := below } task staged with
              same | same
            · rwa [State.record?, same] at after
            · rw [State.record?, same] at after
              cases after

/-! ## What a turn may lead to -/

/-- The number of rewritings that the stages on the stack may lead to. -/
def State.mayRewrite (state : State) : Nat :=
  if state.isOfSender then state.tasks.count (.stage .trustedForwarder) else 0

theorem mayRewrite_of_unstaged {state : State} (unstaged : state.Unstaged) :
    state.mayRewrite = 0 := by
  unfold State.mayRewrite
  split
  · rw [List.count_eq_zero]
    intro member
    cases unstaged _ member
  · rfl

section
variable {environment : Environment} {base : State}

/-- The stage that admits forwarders stands among the stages at most once. -/
theorem count_trustedForwarder_le (options : Options) (below : List Task)
    (none : ∀ task ∈ below, task.isStage = false) :
    (((stages options).map Task.stage ++ [Task.evaluateRecord]) ++ below).count
      (Task.stage .trustedForwarder) ≤ 1 := by
  have absent : below.count (Task.stage .trustedForwarder) = 0 := by
    rw [List.count_eq_zero]
    intro member
    cases none _ member
  rw [List.count_append, absent]
  unfold stages
  (repeat' split) <;> decide

/-- What a turn does to the rewritings that may still come: a rewriting is one of them, the
evaluation of the sender's domain adds one, and those that may come are of the same depth. -/
structure Pays (position next : Position) : Prop where
  first : next.StagesFirst
  price : next.state.mayRewrite + (if position.rewrites then 1 else 0)
    ≤ position.state.mayRewrite + (if position.evaluatesSender then 1 else 0)
  depth : 0 < next.state.mayRewrite → next.state.depth = position.state.depth

/-- Where no stage is left nothing may be rewritten. -/
theorem Pays.of_unstaged {position next : Position} (first : next.StagesFirst)
    (unstaged : next.state.Unstaged)
    (price : (if position.rewrites then 1 else 0) ≤ position.state.mayRewrite) :
    Pays position next where
  first := first
  price := by
    rw [mayRewrite_of_unstaged unstaged]
    omega
  depth := by
    intro may
    rw [mayRewrite_of_unstaged unstaged] at may
    cases may

/-- Where a record is rewritten the stage on the stack may do so. -/
theorem mayRewrite_pos {position : Position} (rewrites : position.rewrites = true) :
    0 < position.state.mayRewrite := by
  cases position with
  | waiting state lookup => cases rewrites
  | running state =>
      obtain ⟨sender, below, stack⟩ := Position.stack_of_rewrites rewrites
      simp [Position.state, State.mayRewrite, sender, stack]

/-- A stage on top may be the one that rewrites a record. -/
theorem mayRewrite_stage {state : State} {stage : Stage} {below : List Task}
    (stack : state.tasks = .stage stage :: below) :
    (if state.isOfSender then below.count (.stage .trustedForwarder) else 0)
      + (if (Position.running state).rewrites then 1 else 0) ≤ state.mayRewrite := by
  by_cases rewrites : (Position.running state).rewrites = true
  · obtain ⟨sender, _, tasks⟩ := Position.stack_of_rewrites rewrites
    obtain ⟨same, _⟩ := List.cons.inj (stack.symm.trans tasks)
    simp [State.mayRewrite, sender, rewrites, stack, same]
  · rw [State.mayRewrite, if_neg rewrites, stack, List.count_cons]
    split <;> omega

/-- A reaction that puts nothing on the stack leaves the stages that were there, or none. -/
theorem settle_stagesFirst {reaction : Reaction} (kept : reaction.Keeps True base)
    (put : base.Puts [] 0 reaction.state) (first : base.StagesFirst) :
    reaction.settle.position.StagesFirst
      ∧ reaction.settle.position.state.mayRewrite ≤ base.mayRewrite
      ∧ (0 < reaction.settle.position.state.mayRewrite →
        reaction.settle.position.state.depth = base.depth) := by
  have stays : ∀ {after : State}, base.Keeps True after → base.Puts [] 0 after →
      after.StagesFirst ∧ after.mayRewrite ≤ base.mayRewrite ∧ after.depth = base.depth := by
    intro after kept put
    have tasks : after.tasks = base.tasks := put.tasks
    have sender : after.isOfSender = base.isOfSender := by
      simp only [State.isOfSender, kept.domain, kept.identity]
    refine ⟨?_, ?_, put.depth⟩
    · simpa only [State.StagesFirst, tasks] using first
    · exact Nat.le_of_eq (by rw [State.mayRewrite, State.mayRewrite, sender, tasks])
  cases reaction with
  | proceed after =>
      obtain ⟨still, may, depth⟩ := stays kept put
      exact ⟨still, may, fun _ => depth⟩
  | ask after lookup =>
      obtain ⟨still, may, depth⟩ := stays kept.1 put
      exact ⟨⟨still, fun explains => absurd explains (kept.2 trivial)⟩, may, fun _ => depth⟩
  | fail after failure =>
      have left := unstaged_unwind failure (stays kept put).1
      have none := mayRewrite_of_unstaged left
      refine ⟨left.stagesFirst, ?_, ?_⟩
      · exact none ▸ Nat.zero_le _
      · intro may
        exact absurd (none ▸ may : 0 < 0) (Nat.lt_irrefl 0)

/-- A stage uses up at most the one rewriting that it may do itself. -/
theorem pays_stage {state : State} {stage : Stage} {below : List Task}
    (stack : state.tasks = .stage stage :: below) (first : state.StagesFirst) :
    Pays (.running state) (runTurn environment state (.stage stage) below).position := by
  have kept : (runStage environment { state with tasks := below } stage).Keeps True
      { state with tasks := below } := runStage_keeps stage (.refl True _)
  obtain ⟨still, may, depth⟩ := settle_stagesFirst kept (runStage_puts stage _) (first.pop stack)
  have paid := mayRewrite_stage stack
  refine ⟨still, ?_, depth⟩
  change (runTurn environment state (.stage stage) below).position.state.mayRewrite
    ≤ if state.isOfSender then below.count (.stage .trustedForwarder) else 0 at may
  change _ ≤ state.mayRewrite + _
  omega

/-- A task that is no stage leaves nothing to be rewritten, except that the evaluation of the
sender's domain does. -/
theorem pays_other {state : State} {task : Task} {below : List Task}
    (stack : state.tasks = task :: below) (other : task.isStage = false)
    (unstaged : ∀ later ∈ below, later.isStage = false) :
    Pays (.running state) (runTurn environment state task below).position := by
  have free : (if (Position.running state).rewrites then 1 else 0) = 0 := by
    rw [Position.rewrites_eq_false stack (by rintro rfl; cases other)]
    rfl
  rcases @runTask_unstaged environment { state with tasks := below } task other unstaged with
    left | ⟨rfl, begun⟩
  · have settled := unstaged_settle left
    exact .of_unstaged (stagesFirst_of_unstaged settled) settled (by omega)
  · generalize began : ({ { state with tasks := below } with slot := none } : State).pushAll _
      = after at begun
    have turn : (runTurn environment state .evaluateDomain below).position = .running after := by
      rw [runTurn, begun]
      rfl
    have tasks : after.tasks
        = ((stages environment.options).map Task.stage ++ [Task.evaluateRecord]) ++ below := by
      rw [← began]
      rfl
    have sender : after.isOfSender = state.isOfSender := by
      rw [← began]
      rfl
    have once : after.tasks.count (.stage .trustedForwarder) ≤ 1 :=
      tasks ▸ count_trustedForwarder_le environment.options below unstaged
    rw [turn]
    refine ⟨⟨stages environment.options, .evaluateRecord :: below, ?_, ?_⟩, ?_, fun _ => ?_⟩
    · rw [tasks, List.append_assoc]
      rfl
    · exact List.forall_mem_cons.mpr ⟨rfl, unstaged⟩
    · have evaluates : (Position.running state).evaluatesSender = after.isOfSender := by
        simp only [Position.evaluatesSender, stack]
        exact sender.symm
      rw [free, evaluates]
      change after.mayRewrite + 0 ≤ _
      rw [State.mayRewrite]
      split <;> omega
    · rw [← began]
      rfl

end

section
variable {environment : Environment} {permitted : Dns.Question → Dns.Answer → Prop}

/-- A turn rewrites no more than the stages on the stack may lead to. -/
theorem Position.Step.pays {position next : Position}
    (turn : Step environment permitted position next) (first : position.StagesFirst) :
    Pays position next := by
  cases turn with
  | @hear state lookup answer allowed =>
      obtain ⟨stagesFirst, unstaged⟩ := first
      by_cases explanation : lookup.awaiting = .explanationTexts
      · obtain ⟨above, all, put⟩ := @receive_puts environment answer lookup.awaiting state
        have after : (receive environment answer state lookup.awaiting).state.Unstaged := by
          intro task member
          rw [put.tasks] at member
          rcases List.mem_append.mp member with new | old
          · have explains := all task new
            cases task <;> first | rfl | cases explains
          · exact unstaged explanation task old
        have settled := unstaged_settle after
        exact .of_unstaged (stagesFirst_of_unstaged settled) settled (Nat.zero_le _)
      · have kept : (receive environment answer state lookup.awaiting).Keeps True state :=
          receive_keeps answer fun _ => explanation
        obtain ⟨still, may, depth⟩ :=
          settle_stagesFirst kept (receive_puts_nothing answer explanation state) stagesFirst
        exact ⟨still, Nat.le_add_right_of_le may, depth⟩
  | @run state task below stack =>
      cases staged : task.isStage with
      | true =>
          cases task with
          | stage stage => exact pays_stage stack first
          | _ => cases staged
      | false =>
          have unstaged := State.StagesFirst.unstaged first stack staged
          exact pays_other stack staged (List.forall_mem_cons.mp unstaged).2

/-- There are no more rewritings in a row than evaluations of the sender's domain, apart from
those that were still to come at its start. -/
theorem Position.Steps.countP_rewrites_le {position last : Position} {left : List Position}
    (steps : Steps environment permitted position left last) (first : position.StagesFirst) :
    left.countP Position.rewrites + last.state.mayRewrite
      ≤ left.countP Position.evaluatesSender + position.state.mayRewrite := by
  induction steps with
  | refl => simp
  | step turn _ inductionHypothesis =>
      have paid := turn.pays first
      have rest := inductionHypothesis paid.first
      have price := paid.price
      rw [List.countP_cons, List.countP_cons]
      omega

/-- Stages come first, and no term has been counted where a record may be rewritten. -/
structure Position.IsOutermost (position : Position) : Prop where
  first : position.StagesFirst
  depth : 0 < position.state.mayRewrite → position.state.depth = 0

/-- Only the evaluation of the sender's domain leads to a rewriting further down. -/
theorem Position.Step.isOutermost {position next : Position}
    (turn : Step environment permitted position next) (outermost : position.IsOutermost)
    (other : position.evaluatesSender = true → position.state.depth = 0) : next.IsOutermost := by
  have paid := turn.pays outermost.first
  refine ⟨paid.first, ?_⟩
  intro may
  rw [paid.depth may]
  have price := paid.price
  by_cases evaluates : position.evaluatesSender = true
  · exact other evaluates
  · rw [if_neg evaluates] at price
    exact outermost.depth (by omega)

theorem Position.Steps.isOutermost {position last : Position} {left : List Position}
    (steps : Steps environment permitted position left last) (outermost : position.IsOutermost)
    (other : ∀ passed ∈ left, passed.evaluatesSender = true → passed.state.depth = 0) :
    ∀ passed ∈ left, passed.IsOutermost := by
  induction steps with
  | refl =>
      intro passed member
      cases member
  | step turn _ inductionHypothesis =>
      obtain ⟨here, later⟩ := List.forall_mem_cons.mp other
      exact List.forall_mem_cons.mpr
        ⟨outermost, inductionHypothesis (turn.isOutermost outermost here) later⟩

/-- Where no term has been counted the stack holds no entry of an include or a redirect. -/
theorem leavesDomain_of_depth {position : Position} {left : List Position}
    (shaped : position.Shaped left) (uncounted : position.state.depth = 0) :
    ∀ task ∈ position.state.tasks, task.leavesDomain = false := by
  rcases shaped with ⟨_, shape⟩ | ⟨finished, _⟩
  · have none : position.state.tasks.countP Task.isCounted = 0 := by
      have counted := shape.counted
      omega
    intro task member
    have free := List.countP_eq_zero.mp none task member
    cases task <;> first | rfl | exact absurd rfl free
  · cases position with
    | waiting state lookup => cases finished
    | running state =>
        intro task member
        rw [show (Position.running state).state.tasks = [] from finished] at member
        cases member

end

theorem isOutermost_start (identity : Identity) :
    (Position.running (State.start identity)).IsOutermost := by
  have unstaged : (State.start identity).Unstaged := by
    simp [State.Unstaged, State.start, Task.isStage]
  refine ⟨unstaged.stagesFirst, ?_⟩
  exact fun _ => rfl

/-- A record is rewritten only while the current domain is spelled like the sender's and unlike
the forwarder's host, and no more often than such a domain is evaluated. As long as no other
evaluation than the outermost is of that domain, one record is rewritten at most, that of the
sender's domain, outside of all includes and redirects. -/
theorem rewritings_of_run (environment : Environment) (resolver : Resolver)
    (identity : Identity) :
    let passed := visited environment resolver [] (.running (State.start identity))
    (∀ position next record, Position.Step environment (fun _ _ => True) position next →
        next.state.record? = some record →
          (∃ earlier, position.state.record? = some earlier
            ∧ record = if position.rewrites then earlier.insertBeforeLast forwarderDirective
              else earlier)
          ∨ (position.state.record? = none ∧ ∃ text, Record.read text = .ok record))
      ∧ (∀ position ∈ passed, position.rewrites = true →
          position.state.domain = identity.domain ∧ position.state.domain ≠ forwarderHost)
      ∧ passed.countP Position.rewrites ≤ passed.countP Position.evaluatesSender
      ∧ ((∀ position ∈ passed.tail, position.evaluatesSender = false) →
          passed.countP Position.rewrites ≤ 1
          ∧ ∀ position ∈ passed, position.rewrites = true →
            position.state.depth = 0
              ∧ ∀ task ∈ position.state.tasks, task.leavesDomain = false) := by
  dsimp only
  have steps : Position.Steps environment (fun _ _ => True) (.running (State.start identity)) _ _ :=
    (visited_steps environment resolver (fun _ _ => trivial) [] _).1
  generalize visited environment resolver [] (.running (State.start identity)) = passed at steps ⊢
  have outermost := isOutermost_start identity
  have total := steps.countP_rewrites_le outermost.first
  have none : (Position.running (State.start identity)).state.mayRewrite = 0 :=
    mayRewrite_of_unstaged (by simp [State.Unstaged, Position.state, State.start, Task.isStage])
  have bound : passed.countP Position.rewrites ≤ passed.countP Position.evaluatesSender := by
    omega
  refine ⟨fun position next record turn held => turn.record held, ?_, bound, ?_⟩
  · intro position member rewrites
    have same : position.state.identity = identity :=
      @Position.Steps.forall_mem _ _ (fun position => position.state.identity = identity)
        (fun turn holds => turn.identity.trans holds) _ _ _ steps rfl position member
    cases position with
    | waiting state lookup => cases rewrites
    | running state =>
        have sender := (Position.stack_of_rewrites rewrites).1
        rw [State.isOfSender, Bool.and_eq_true_iff, decide_eq_true_iff,
          decide_eq_true_iff] at sender
        exact ⟨sender.1.trans (congrArg _ same), sender.2⟩
  · intro others
    have shaped : ∀ position ∈ passed, ∃ earlier, position.Shaped earlier :=
      @Position.Steps.forall_mem _ _ (fun position => ∃ earlier, position.Shaped earlier)
        (fun turn known => known.elim fun _ shape => ⟨_, shape.step turn⟩) _ _ _ steps
        ⟨[], shaped_start identity⟩
    have uncounted : ∀ position ∈ passed,
        position.evaluatesSender = true → position.state.depth = 0 := by
      intro position member evaluates
      rcases steps.eq_nil_or_cons with rfl | ⟨later, rfl⟩
      · cases member
      · rcases List.mem_cons.mp member with rfl | inner
        · rfl
        · exact absurd evaluates (by simp [others position inner])
    have once : passed.countP Position.evaluatesSender ≤ 1 := by
      rcases steps.eq_nil_or_cons with rfl | ⟨later, rfl⟩
      · simp
      · have rest : later.countP Position.evaluatesSender = 0 :=
          List.countP_eq_zero.mpr fun position member => by simp [others position member]
        rw [List.countP_cons, rest]
        split <;> omega
    refine ⟨Nat.le_trans bound once, ?_⟩
    intro position member rewrites
    have depth : position.state.depth = 0 :=
      (steps.isOutermost outermost uncounted position member).depth (mayRewrite_pos rewrites)
    obtain ⟨earlier, shape⟩ := shaped position member
    exact ⟨depth, leavesDomain_of_depth shape depth⟩

/-! ## Checks of one sender

A sender's record that turns every client away is completed with the forwarder's directive. If
the forwarder's record includes the sender's domain in turn, the sender's record is completed
there as well, and so is the forwarder's own record for senders of its domain in capitals. -/

/-- Senders may relay through well-known forwarders. -/
def forwarding : Environment :=
  { options := { trustedForwarder := true } }

/-- A sender of a domain. -/
def senderOf (domain : Text) : Identity :=
  .read "203.0.113.1".toList ("user@".toList ++ domain) "mail.example.net".toList

/-- The sender's domain and the forwarder publish these records, and nothing else is published. -/
def publishing (sender : Text) (policy forwarders : Text) (question : Dns.Question) : Dns.Answer :=
  if question = ⟨sender, .txt⟩ then .records [policy]
  else if question = ⟨forwarderHost, .txt⟩ then .records [forwarders]
  else .records []

/-- A sender whom the forwarder's record does not include. -/
theorem rewritings_of_run_unincluded :
    let zone := publishing "example.com".toList "v=spf1 -all".toList "v=spf1 -all".toList
    let passed := visited forwarding (fun _ => zone) []
      (.running (State.start (senderOf "example.com".toList)))
    (∀ position ∈ passed.tail, position.evaluatesSender = false)
      ∧ passed.countP Position.rewrites ≤ 1 := by
  intro zone passed
  have whole : visitedWithin forwarding zone 60
      (.running (State.start (senderOf "example.com".toList))) = passed :=
    (visitedWithin_begins forwarding zone 60 [] _).2 (by decide +kernel)
  have others : ∀ position ∈ passed.tail, position.evaluatesSender = false := by
    rw [← whole]
    decide +kernel
  exact ⟨others, ((rewritings_of_run forwarding (fun _ => zone)
    (senderOf "example.com".toList)).2.2.2 others).1⟩

/-- The sender's record is rewritten again within the includes that lead back to it, and the
forwarder's record is rewritten for a sender whose domain is the forwarder's in capitals. -/
theorem rewriting_of_included_record :
    (∃ position ∈ visited forwarding
        (fun _ => publishing "example.com".toList "v=spf1 -all".toList
          "v=spf1 include:example.com -all".toList) []
        (.running (State.start (senderOf "example.com".toList))),
      position.rewrites = true ∧ position.state.depth = 2
        ∧ ∃ task ∈ position.state.tasks, task.leavesDomain = true)
      ∧ ∃ position ∈ visited forwarding
          (fun _ => publishing "SPF.trusted-forwarder.org".toList "v=spf1 -all".toList
            "v=spf1 -all".toList) []
          (.running (State.start (senderOf "SPF.trusted-forwarder.org".toList))),
        position.rewrites = true ∧ position.state.domain.lower = forwarderHost := by
  constructor
  · obtain ⟨position, member, holds⟩ : ∃ position ∈ visitedWithin forwarding
        (publishing "example.com".toList "v=spf1 -all".toList
          "v=spf1 include:example.com -all".toList) 36
        (.running (State.start (senderOf "example.com".toList))),
        position.rewrites = true ∧ position.state.depth = 2
          ∧ ∃ task ∈ position.state.tasks, task.leavesDomain = true := by
      decide +kernel
    exact ⟨position, (visitedWithin_begins _ _ _ [] _).1.subset member, holds⟩
  · obtain ⟨position, member, holds⟩ : ∃ position ∈ visitedWithin forwarding
        (publishing "SPF.trusted-forwarder.org".toList "v=spf1 -all".toList
          "v=spf1 -all".toList) 8
        (.running (State.start (senderOf "SPF.trusted-forwarder.org".toList))),
        position.rewrites = true ∧ position.state.domain.lower = forwarderHost := by
      decide +kernel
    exact ⟨position, (visitedWithin_begins _ _ _ [] _).1.subset member, holds⟩

end SenderPolicy.Check
