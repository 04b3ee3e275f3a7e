import SenderPolicy.Proofs.Check.Explanation.Order
import SenderPolicy.Proofs.Check.Stack.Placement

/-!
# Which explanation a client is told

A client fails by a directive of one record, outside all includes. It is told what an `exp` of this
record publishes, or else the default explanation. Only if neither can be had, an `exp` that stands
behind a redirect on the way to the record is looked up, those of inner redirects first.
-/

namespace SenderPolicy.Check

/-! ## Decisions -/

/-- A directive of a record has failed the client outside all includes, and redirects have led to
the record. -/
structure Decision (environment : Environment) (left : List Position) (base outer : State)
    (record : Record) (specs : List Text) : Prop where
  decisive : base.IsDecisive
  evaluated : Evaluated environment left record outer
  directive : ∃ tried mechanism later, record.directives = tried ++ ⟨.fail, mechanism⟩ :: later
    ∧ base.tasks = later.map .directive
      ++ (restOfRecord environment record record.modifiers ++ outer.tasks)
  redirected : Redirected environment left outer.tasks specs

/-- The explanation that a record leads to: what an explanation of its own publishes, or else the
default one. -/
def recordExplanation (environment : Environment) (zone : Dns.Question → Dns.Answer)
    (values : Macro.Values) (record : Record) : Option Text :=
  ((explanationSpecs record.modifiers).findSome?
      (publishedExplanation environment.localNames zone values)).or
    (Macro.expand environment.localNames .explanation values
      environment.options.explanation).toOption

section
variable {environment : Environment} {zone : Dns.Question → Dns.Answer} {values : Macro.Values}
  {left : List Position} {base outer : State} {record : Record} {specs : List Text}
  {tasks : List Task}

/-! ## Tasks that are left -/

theorem findSome?_modifiers (modifiers : List Modifier) :
    (modifiers.map Task.modifier).findSome? (Task.explanation? environment.localNames zone values)
      = (explanationSpecs modifiers).findSome?
        (publishedExplanation environment.localNames zone values) := by
  rw [explanationSpecs, ← List.head?_filterMap, ← List.head?_filterMap, List.filterMap_map,
    List.filterMap_filterMap]
  congr 2
  funext modifier
  cases modifier <;> rfl

theorem findSome?_hooks (record : Record) :
    ((hooksOf environment record).map Task.hook).findSome?
        (Task.explanation? environment.localNames zone values)
      = (Macro.expand environment.localNames .explanation values
        environment.options.explanation).toOption := by
  have last : [Task.hook (.defaultExplanation environment.options.explanation)].findSome?
      (Task.explanation? environment.localNames zone values)
        = (Macro.expand environment.localNames .explanation values
          environment.options.explanation).toOption := List.findSome?_singleton
  unfold hooksOf
  split <;> exact last

theorem findSome?_restOfRecord (record : Record) (modifiers : List Modifier) :
    (restOfRecord environment record modifiers).findSome?
        (Task.explanation? environment.localNames zone values)
      = ((explanationSpecs modifiers).findSome?
          (publishedExplanation environment.localNames zone values)).or
        (Macro.expand environment.localNames .explanation values
          environment.options.explanation).toOption := by
  rw [restOfRecord, List.findSome?_append, findSome?_modifiers, findSome?_hooks]

theorem findSome?_directives (directives : List Directive) :
    (directives.map Task.directive).findSome?
      (Task.explanation? environment.localNames zone values) = none := by
  simp [Task.explanation?]

/-- Where there is a default explanation, it comes before those behind redirects. -/
theorem Redirected.findSome?_eq (redirected : Redirected environment left tasks specs) :
    (Macro.expand environment.localNames .explanation values
        environment.options.explanation).toOption.or
        (tasks.findSome? (Task.explanation? environment.localNames zone values))
      = (Macro.expand environment.localNames .explanation values
          environment.options.explanation).toOption.or
        (specs.findSome? (publishedExplanation environment.localNames zone values)) := by
  induction redirected with
  | sender => rfl
  | followed _ _ _ below _ inductionHypothesis =>
      have silent : Task.leaveRedirect.explanation? environment.localNames zone values = none := rfl
      rw [List.findSome?_cons, silent, below, List.findSome?_append, findSome?_restOfRecord,
        Option.or_assoc, inductionHypothesis, List.findSome?_append]
      cases (Macro.expand environment.localNames .explanation values
        environment.options.explanation).toOption <;> simp

/-- The explanations of what is left after a decision. -/
theorem Decision.findSome?_eq (decision : Decision environment left base outer record specs) :
    base.tasks.findSome? (Task.explanation? environment.localNames zone values)
      = (recordExplanation environment zone values record).or
        (specs.findSome? (publishedExplanation environment.localNames zone values)) := by
  obtain ⟨_, _, later, _, tasks⟩ := decision.directive
  rw [tasks, List.findSome?_append, findSome?_directives, Option.none_or, List.findSome?_append,
    findSome?_restOfRecord, Option.or_assoc, decision.redirected.findSome?_eq, recordExplanation,
    Option.or_assoc]

theorem isTrailing_restOfRecord (record : Record) (modifiers : List Modifier) :
    ∀ task ∈ restOfRecord environment record modifiers, task.isTrailing = true := by
  intro task member
  simp only [restOfRecord, List.mem_append, List.mem_map] at member
  rcases member with ⟨modifier, _, rfl⟩ | ⟨hook, _, rfl⟩ <;> rfl

theorem Redirected.isTrailing (redirected : Redirected environment left tasks specs) :
    ∀ task ∈ tasks, task.isTrailing = true := by
  induction redirected with
  | sender => simp [Task.isTrailing, Task.isEnding]
  | followed _ _ _ below _ inductionHypothesis =>
      refine List.forall_mem_cons.mpr ⟨rfl, ?_⟩
      rw [below]
      exact List.forall_mem_append.mpr ⟨isTrailing_restOfRecord _ _, inductionHypothesis⟩

theorem Decision.isTrailing (decision : Decision environment left base outer record specs) :
    ∀ task ∈ base.tasks, task.isTrailing = true := by
  obtain ⟨_, _, later, _, tasks⟩ := decision.directive
  have rest : ∀ task ∈ restOfRecord environment record record.modifiers ++ outer.tasks,
      task.isTrailing = true := List.forall_mem_append.mpr
    ⟨isTrailing_restOfRecord _ _, decision.redirected.isTrailing⟩
  rw [tasks]
  refine List.forall_mem_append.mpr ⟨fun task member => ?_, rest⟩
  obtain ⟨directive, _, rfl⟩ := List.mem_map.mp member
  rfl

theorem mem_explanationSpecs {modifiers : List Modifier} {spec : Text}
    (member : .modifier (.exp spec) ∈ restOfRecord environment record modifiers) :
    spec ∈ explanationSpecs modifiers := by
  rcases List.mem_append.mp member with modifier | hook
  · obtain ⟨_, own, same⟩ := List.mem_map.mp modifier
    cases same
    exact List.mem_filterMap.mpr ⟨_, own, rfl⟩
  · obtain ⟨_, _, other⟩ := List.mem_map.mp hook
    cases other

/-- The explanations among what redirects have left are those behind them. -/
theorem Redirected.mem_specs (redirected : Redirected environment left tasks specs) {spec : Text}
    (member : .modifier (.exp spec) ∈ tasks) : spec ∈ specs := by
  induction redirected with
  | sender => simp at member
  | followed _ _ _ below _ inductionHypothesis =>
      have here := (List.mem_cons.mp member).resolve_left nofun
      rw [below] at here
      exact List.mem_append.mpr
        ((List.mem_append.mp here).imp mem_explanationSpecs inductionHypothesis)

/-! ## Reaching a decision -/

/-- The client is told nothing before the directive is settled, and then the first explanation of
what is left. -/
theorem State.IsDecisive.follows {next : Position} (decisive : base.IsDecisive)
    (turn : Position.Step environment (fun question answer => answer = zone question)
      (.running (base.push (.settle .fail))) next) :
    next.Follows environment zone (fullValues environment zone base.identity base.domain)
      base.tasks := by
  cases turn with
  | run stack =>
      obtain ⟨rfl, rfl⟩ := List.cons.inj stack
      have matched : base.matched = some true := decisive.matched
      have told : (runTask environment base (.settle .fail)).settle.position.Told environment zone
          (fullValues environment zone base.identity base.domain) base.tasks none := by
        simp only [runTask, matched, if_true]
        exact ⟨rfl, ⟨rfl, rfl, decisive.muted⟩, rfl, decisive.silent.explanation⟩
      exact ⟨[], base.tasks, rfl, .inl told⟩

end

/-! ## Rows of turns -/

section
variable {environment : Environment} {permitted : Dns.Question → Dns.Answer → Prop}
  {zone : Dns.Question → Dns.Answer} {identity : Identity} {base outer : State} {record : Record}
  {specs : List Text} {before left middle : List Position} {position : Position}

/-- The directive that is decisive is one of a record. -/
theorem State.IsDecisive.exists_decision (decisive : base.IsDecisive)
    (steps : Position.Steps environment permitted (.running (State.start identity)) left
      (.running (base.push (.settle .fail)))) :
    ∃ outer record specs, Decision environment left base outer record specs := by
  have stands : (Position.running (base.push (.settle .fail))).Stands environment ([] ++ left) :=
    steps.stands (completes_start environment identity) (stands_start environment identity)
  obtain ⟨mechanism, record, outer, tried, later, evaluated, directives, below, redirected⟩ :=
    stands.1
  have lower : outer.tasks <:+ base.tasks := by
    rw [below, ← List.append_assoc]
    exact List.suffix_append ..
  obtain ⟨specs, chain⟩ := redirected (framesOf_eq_nil_of_suffix lower decisive.outside)
  exact ⟨outer, record, specs, decisive, evaluated, ⟨tried, mechanism, later, directives, below⟩,
    chain⟩

/-- After a decision the client is told the first explanation of what is left. -/
theorem Decision.follows (decision : Decision environment before base outer record specs)
    (steps : Position.Steps environment (fun question answer => answer = zone question)
      (.running (State.start identity)) left position)
    (row : left = before ++ .running (base.push (.settle .fail)) :: middle) :
    position.Follows environment zone (fullValues environment zone identity base.domain)
      base.tasks := by
  have split : left ++ [position]
      = before ++ .running (base.push (.settle .fail)) :: (middle ++ [position]) := by
    rw [row]
    simp
  have here := steps.to_middle split
  have knows := here.keeps (fun turn knows => turn.knows knows)
    (knows_start environment zone identity)
  have consistent := here.keeps (fun turn consistent => turn.isConsistent consistent)
    (isConsistent_start environment identity)
  have same : base.identity = identity := here.identity
  obtain ⟨right, later, rest⟩ := steps.from_middle split
  cases later with
  | refl => simp at rest
  | step turn later =>
      have follows := decision.decisive.follows turn
      rw [same] at follows
      exact follows.steps decision.isTrailing later (turn.knows knows)
        (turn.isConsistent consistent)

/-- What a check says in the end: the explanation that the deciding record leads to, or the first
that is published behind the redirects on the way to it. -/
theorem Decision.explanation_eq {last : State}
    (decision : Decision environment before base outer record specs)
    (steps : Position.Steps environment (fun question answer => answer = zone question)
      (.running (State.start identity)) left (.running last))
    (finished : last.tasks = [])
    (row : left = before ++ .running (base.push (.settle .fail)) :: middle) :
    last.explanation
      = (recordExplanation environment zone (fullValues environment zone identity base.domain)
          record).or
        (specs.findSome? (publishedExplanation environment.localNames zone
          (fullValues environment zone identity base.domain))) := by
  rw [(decision.follows steps row).explanation_of_finished finished, decision.findSome?_eq]

/-- A check that ends in a fail has come by a decision. -/
theorem exists_decision_of_result {last : State}
    (steps : Position.Steps environment permitted (.running (State.start identity)) left
      (.running last))
    (failed : last.result = some .fail) :
    ∃ before base outer record specs middle,
      left = before ++ .running (base.push (.settle .fail)) :: middle
        ∧ Decision environment before base outer record specs := by
  obtain ⟨before, base, middle, row, decisive⟩ := exists_decisive_of_result steps failed
  obtain ⟨outer, record, specs, decision⟩ := decisive.exists_decision (steps.to_passed row)
  exact ⟨before, base, outer, record, specs, middle, row, decision⟩

/-- Without a client's address only two kinds of tasks are run. -/
theorem isSome_of_run {state : State} {task : Task}
    (steps : Position.Steps environment permitted (.running (State.start identity)) left
      (.running (state.push task)))
    (other : task ≠ .evaluateDomain ∧ task ≠ .conclude) : identity.client.isSome = true := by
  have same : state.identity = identity := steps.identity
  rcases steps.keeps (fun turn consistent => turn.isConsistent consistent)
    (isConsistent_start environment identity) with consistent | decided
  · rw [← same]
    exact consistent.known
  · rcases decided.tasks task (List.mem_cons_self ..) with domain | conclude
    · exact absurd domain other.1
    · exact absurd conclude other.2

/-- An explanation begins outside all includes. -/
theorem outside_of_wanted {state : State} {task : Task} (known : identity.client.isSome = true)
    (steps : Position.Steps environment permitted (.running (State.start identity)) left
      (.running (state.push task)))
    (wanted : state.wantsExplanation = true) :
    (state.push task).outerFrame.verdict = some .fail := by
  obtain ⟨failed, _, loud⟩ := wantsExplanation_iff.mp wanted
  have outside : framesOf (state.push task).tasks = [] := by
    rcases (silent_start known).steps steps with ⟨silent, _⟩ | ⟨_, failing⟩
    · exact State.Silent.loud silent loud
    · exact failing.framesOf_eq
  rw [State.outerFrame, outside]
  exact failed

/-- An explanation begins only after a decision, with one of the tasks that it has left, when none
of those before has had an explanation. -/
theorem exists_decision_of_wanted {state : State} {task : Task}
    (steps : Position.Steps environment (fun question answer => answer = zone question)
      (.running (State.start identity)) left (.running (state.push task)))
    (may : task.mayExplain = true) (wanted : state.wantsExplanation = true) :
    ∃ before base outer record specs middle passed,
      left = before ++ .running (base.push (.settle .fail)) :: middle
        ∧ Decision environment before base outer record specs
        ∧ base.tasks = passed ++ task :: state.tasks
        ∧ passed.findSome? (Task.explanation? environment.localNames zone
          (fullValues environment zone identity base.domain)) = none := by
  have known : identity.client.isSome = true := by
    refine isSome_of_run steps ⟨?_, ?_⟩ <;> rintro rfl <;> cases may
  obtain ⟨before, base, middle, row, decisive⟩ :=
    exists_decisive known steps (outside_of_wanted known steps wanted)
  obtain ⟨outer, record, specs, decision⟩ := decisive.exists_decision (steps.to_passed row)
  obtain ⟨passed, whole, none⟩ := (decision.follows steps row).exists_passed may wanted
  exact ⟨before, base, outer, record, specs, middle, passed, row, decision, whole, none⟩

end

/-! ## Explanations that begin -/

/-- What is left after a decision is the rest of the deciding record, and then what stands behind
the redirects. -/
theorem Decision.stands {environment : Environment} {zone : Dns.Question → Dns.Answer}
    {values : Macro.Values} {left : List Position} {base outer : State} {record : Record}
    {specs : List Text} {passed rest : List Task} {spec : Text}
    (decision : Decision environment left base outer record specs)
    (whole : base.tasks = passed ++ .modifier (.exp spec) :: rest)
    (silent : passed.findSome? (Task.explanation? environment.localNames zone values) = none) :
    (spec ∈ explanationSpecs record.modifiers ∧ outer.tasks <:+ rest)
      ∨ (spec ∈ specs ∧ .modifier (.exp spec) :: rest <:+ outer.tasks
        ∧ recordExplanation environment zone values record = none) := by
  obtain ⟨_, _, later, _, tasks⟩ := decision.directive
  rw [whole, ← List.append_assoc] at tasks
  have behind (more : List Task)
      (split : passed = later.map .directive
        ++ restOfRecord environment record record.modifiers ++ more)
      (remains : outer.tasks = more ++ .modifier (.exp spec) :: rest) :
      spec ∈ specs ∧ .modifier (.exp spec) :: rest <:+ outer.tasks
        ∧ recordExplanation environment zone values record = none := by
    have member : .modifier (.exp spec) ∈ outer.tasks := by
      rw [remains]
      exact List.mem_append_right _ (List.mem_cons_self ..)
    refine ⟨decision.redirected.mem_specs member, ⟨more, remains.symm⟩, ?_⟩
    rw [split, List.findSome?_append, List.findSome?_append, findSome?_directives, Option.none_or,
      findSome?_restOfRecord] at silent
    exact (Option.or_eq_none_iff.mp silent).1
  rcases List.append_eq_append_iff.mp tasks with ⟨own, split, remains⟩ | ⟨more, split, remains⟩
  · cases own with
    | nil => exact .inr (behind [] (by simpa using split.symm) remains.symm)
    | cons first own =>
        obtain ⟨rfl, same⟩ := List.cons.inj remains
        have member : .modifier (.exp spec) ∈ later.map Task.directive
            ++ restOfRecord environment record record.modifiers := by
          rw [split]
          exact List.mem_append_right _ (List.mem_cons_self ..)
        refine .inl ⟨mem_explanationSpecs ((List.mem_append.mp member).resolve_left ?_), own,
          same.symm⟩
        simp
  · exact .inr (behind more split remains)

end SenderPolicy.Check
