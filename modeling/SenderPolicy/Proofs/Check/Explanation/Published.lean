import SenderPolicy.Proofs.Check.ClientName
import SenderPolicy.Proofs.Check.Consistency.Runs

/-!
# Published explanations

An explanation is published where the domain specification of a modifier leads to exactly one text
that can be expanded. `Task.explanation?` is the explanation that a zone has for a task, with all
cells under their values. `Position.Promises` says that a check is about to have such an explanation
or the lack of one: every turn keeps the promise until the guard is gone.
-/

namespace SenderPolicy

/-! ## The built-in explanation -/

namespace Macro

section
variable {localNames : List Text} {mode : Mode} {values : Values}

theorem expandTokens_literals (text : Text) (tokens : List Token) :
    expandTokens localNames mode values (text.map .literal ++ tokens)
      = (expandTokens localNames mode values tokens).map (text ++ ·) := by
  induction text with
  | nil =>
      rw [List.map_nil, List.nil_append]
      cases expandTokens localNames mode values tokens <;> rfl
  | cons c text inductionHypothesis =>
      rw [List.map_cons, List.cons_append, expandTokens, expandToken, inductionHypothesis]
      cases expandTokens localNames mode values tokens <;> rfl

/-- The tokens of the built-in explanation. -/
theorem scan_builtInExplanation : scan Options.builtInExplanation
    = ("http://www.openspf.org/why.html?sender=".toList.map .literal
        ++ .cell ⟨.sender, true, []⟩
        :: ("&ip=".toList.map .literal ++ [.cell ⟨.address, true, []⟩]), []) := by
  decide +kernel

/-- What the built-in explanation says of a sender and a client. -/
def builtInText (values : Values) : Text :=
  "http://www.openspf.org/why.html?sender=".toList ++ values.sender.percentEncode
    ++ "&ip=".toList ++ values.address.percentEncode

theorem builtInText_ne_nil (values : Values) : builtInText values ≠ [] :=
  List.cons_ne_nil _ _

/-- The built-in explanation can be expanded for every sender and every client. -/
theorem expand_builtInExplanation (localNames : List Text) (values : Values) :
    expand localNames .explanation values Options.builtInExplanation
      = .ok (builtInText values) := by
  have oneWord : pieces .explanation Options.builtInExplanation
      = [Options.builtInExplanation] := by decide +kernel
  have cell (letter : Letter) (value : Text)
      (found : values.value? localNames letter = some value) :
      expandToken localNames .explanation values (.cell ⟨letter, true, []⟩)
        = .ok value.percentEncode := by
    simp only [expandToken, expandCell_eq, Mode.allows, found, if_true]
    rfl
  have whole : expandString localNames .explanation values Options.builtInExplanation
      = .ok (builtInText values) := by
    unfold builtInText
    simp only [expandString, scan_builtInExplanation, expandTokens_literals, expandTokens,
      cell .sender _ rfl, cell .address _ rfl, Except.map, if_true, List.append_assoc,
      List.append_nil]
  simp only [expand, oneWord, expandStrings, whole, Except.map]
  rfl

end

end Macro

namespace Check

/-! ## The explanation of a task -/

section
variable (localNames : List Text) (zone : Dns.Question → Dns.Answer) (values : Macro.Values)

/-- The explanation in an answer: the expansion of its text, if there is exactly one. -/
def readExplanation : Dns.Answer → Option Text
  | .records [text] => (Macro.expand localNames .explanation values text).toOption
  | _ => none

/-- The explanation that a zone publishes for a domain specification. -/
def publishedExplanation (spec : Text) : Option Text :=
  match Macro.expand localNames .domain values spec with
  | .ok host => readExplanation localNames values (zone ⟨host, .txt⟩)
  | .error _ => none

/-- The explanation that a zone has for a task. -/
def Task.explanation? : Task → Option Text
  | .modifier (.exp spec) | .askExplanation spec =>
      publishedExplanation localNames zone values spec
  | .hook (.defaultExplanation text) | .explain text =>
      (Macro.expand localNames .explanation values text).toOption
  | _ => none

end

section
variable {localNames : List Text} {zone : Dns.Question → Dns.Answer} {values : Macro.Values}

/-- A text that cannot be expanded leads to no explanation. -/
theorem explanation?_of_error {task : Task} {mode : Macro.Mode} {text : Text}
    {obstacle : Macro.Obstacle} (explanatory : task.isExplanatory = true)
    (expands : task.expansion? = some (mode, text))
    (failed : Macro.expand localNames mode values text = .error obstacle) :
    task.explanation? localNames zone values = none := by
  cases task with
  | askExplanation spec =>
      cases expands
      simp only [Task.explanation?, publishedExplanation, failed]
  | explain spoken =>
      cases expands
      simp only [Task.explanation?, failed]
      rfl
  | _ => cases explanatory

theorem isPrepared_of_isExplanatory {task : Task} (explanatory : task.isExplanatory = true) :
    task.isPrepared = true := by
  cases task <;> first | rfl | cases explanatory

end

/-! ## Promises -/

section
variable (environment : Environment) (zone : Dns.Question → Dns.Answer) (values : Macro.Values)

/-- The client is turned away where an explanation is wanted, and all cells have these values. -/
structure State.TurnsAway (state : State) : Prop where
  values : fullValues environment zone state.identity state.domain = values
  verdict : state.verdict = some .fail
  muted : state.muted = false

/-- The next task expands a text for an explanation, and the zone has it or has none. -/
structure State.Prepares (below : List Task) (promise : Option Text) (state : State) : Prop where
  turnsAway : state.TurnsAway environment zone values
  unset : state.explanation = none
  stack : ∃ task, task.isExplanatory = true ∧ state.tasks = task :: .guardExplanation :: below
    ∧ task.explanation? environment.localNames zone values = promise

/-- An explanation is under way above these tasks, and this is what it will come to. -/
inductive Position.Explains (below : List Task) (promise : Option Text) : Position → Prop where
  | next {state : State} (prepares : state.Prepares environment zone values below promise) :
      Explains below promise (.running state)
  | learns {state : State} {lookup : Lookup} (finds : lookup.awaiting.findsClient = true)
      (prepares : state.Prepares environment zone values below promise) :
      Explains below promise (.waiting state lookup)
  | asks {state : State} {question : Dns.Question}
      (turnsAway : state.TurnsAway environment zone values) (unset : state.explanation = none)
      (stack : state.tasks = .guardExplanation :: below)
      (gives : readExplanation environment.localNames values (zone question) = promise) :
      Explains below promise (.waiting state ⟨question, .explanationTexts⟩)
  | closes {state : State} (turnsAway : state.TurnsAway environment zone values)
      (stack : state.tasks = .guardExplanation :: below) (gives : state.explanation = promise) :
      Explains below promise (.running state)

/-- These tasks are left, and this is what the client has been told so far. -/
structure Position.Told (below : List Task) (explanation : Option Text) (position : Position) :
    Prop where
  running : position = .running position.state
  turnsAway : position.state.TurnsAway environment zone values
  stack : position.state.tasks = below
  explanation : position.state.explanation = explanation

/-- The explanation of the tasks that have been run is this, now or soon. -/
def Position.Promises (below : List Task) (promise : Option Text) (position : Position) : Prop :=
  position.Told environment zone values below promise
    ∨ position.Explains environment zone values below promise

end

section
variable {environment : Environment} {zone : Dns.Question → Dns.Answer} {values : Macro.Values}
  {state : State} {below : List Task} {promise : Option Text}

/-- Other fields may change. -/
theorem State.TurnsAway.change {after : State}
    (turnsAway : state.TurnsAway environment zone values)
    (identity : after.identity = state.identity) (domain : after.domain = state.domain)
    (verdict : after.verdict = state.verdict) (muted : after.muted = state.muted) :
    after.TurnsAway environment zone values where
  values := by rw [identity, domain]; exact turnsAway.values
  verdict := verdict.trans turnsAway.verdict
  muted := muted.trans turnsAway.muted

/-- A text is put off until the client's domain is known, or expanded under the values of all
cells. -/
theorem State.TurnsAway.expand_eq (turnsAway : state.TurnsAway environment zone values)
    (knows : state.Knows environment zone) (known : state.identity.client.isSome = true)
    (mode : Macro.Mode) (text : Text) :
    state.expand environment mode text = .error .clientDomainUnknown
      ∨ state.expand environment mode text
        = Macro.expand environment.localNames mode values text := by
  obtain ⟨client, found⟩ := Option.isSome_iff_exists.mp known
  exact turnsAway.values ▸ knows.expand_eq found mode text

/-- Without an explanation the guard is the end. -/
theorem told_of_fail {task : Task} (explanatory : task.isExplanatory = true)
    (turnsAway : state.TurnsAway environment zone values) (unset : state.explanation = none)
    (stack : state.tasks = .guardExplanation :: below
      ∨ state.tasks = task :: .guardExplanation :: below)
    (failure : Failure) :
    (Reaction.fail state failure).settle.position.Told environment zone values below none := by
  have ended : (unwind failure state state.tasks).2 = { state with tasks := below } := by
    rcases stack with stack | stack <;> rw [stack]
    · rfl
    · have top : ∀ other ∈ [task], other.isOfRecord = true ∨ other.isPrepared = true :=
        List.forall_mem_singleton.mpr (.inr (isPrepared_of_isExplanatory explanatory))
      exact congrArg Prod.snd (unwind_top top failure state (.guardExplanation :: below))
  simp only [Reaction.settle, ended]
  exact ⟨rfl, turnsAway.change rfl rfl rfl rfl, rfl, unset⟩

/-- Preparing a text begins an explanation, or shows that there is none. -/
theorem prepareExpansion_promises {task : Task} {mode : Macro.Mode} {text : Text}
    (turnsAway : state.TurnsAway environment zone values) (unset : state.explanation = none)
    (explanatory : task.isExplanatory = true) (expands : task.expansion? = some (mode, text))
    (stack : state.tasks = task :: .guardExplanation :: below)
    (knows : state.Knows environment zone) (known : state.identity.client.isSome = true) :
    (state.prepareExpansion environment mode text).settle.position.Promises environment zone values
      below (task.explanation? environment.localNames zone values) := by
  have after : (state.afterExpansion environment mode text).TurnsAway environment zone values :=
    turnsAway.change rfl rfl rfl rfl
  have prepares : (state.afterExpansion environment mode text).Prepares environment zone values
      below (task.explanation? environment.localNames zone values) :=
    ⟨after, unset, task, explanatory, stack, rfl⟩
  have expanded := turnsAway.expand_eq knows known mode text
  unfold State.prepareExpansion
  split
  · exact .inr (.next prepares)
  · rename_i failure failed
    rw [failed] at expanded
    have none : task.explanation? environment.localNames zone values = none :=
      explanation?_of_error explanatory expands (expanded.resolve_left nofun).symm
    rw [none]
    exact .inl (told_of_fail explanatory after unset (.inr stack) failure)
  · obtain ⟨client, found⟩ := Option.isSome_iff_exists.mp known
    simp only [found]
    exact .inr (.learns rfl prepares)

/-! ## Turns of an explanation -/

/-- A text that is about to be expanded does not need the client's domain any more. -/
theorem Position.IsConsistent.ready {task : Task} {mode : Macro.Mode} {text : Text}
    (consistent : (Position.running state).IsConsistent environment)
    (stack : state.tasks = task :: below) (prepared : task.isPrepared = true)
    (expands : task.expansion? = some (mode, text)) :
    state.identity.client.isSome = true
      ∧ state.expand environment mode text ≠ .error .clientDomainUnknown := by
  rcases consistent with ⟨known, top, others, tasks, tops, plain⟩ | decided
  · refine ⟨known, ?_⟩
    rw [stack] at tasks
    cases tops with
    | nothing =>
        have here := (List.forall_mem_cons.mp ((List.nil_append _ ▸ tasks) ▸ plain)).1
        cases here.prepared.symm.trans prepared
    | @record remaining parses fits =>
        cases remaining with
        | nil =>
            obtain ⟨rfl, _⟩ := List.cons.inj tasks
            cases prepared
        | cons stage remaining =>
            obtain ⟨rfl, _⟩ := List.cons.inj tasks
            cases prepared
    | prepared other expandable ready =>
        obtain ⟨rfl, _⟩ := List.cons.inj tasks
        exact ready mode text expands
  · rcases decided.tasks task (stack ▸ List.mem_cons_self ..) with rfl | rfl <;> cases prepared

/-- Running a task for an explanation. -/
theorem runTask_explains {task : Task} (explanatory : task.isExplanatory = true)
    (turnsAway : state.TurnsAway environment zone values) (unset : state.explanation = none)
    (stack : state.tasks = .guardExplanation :: below)
    (expanded : ∀ mode text, task.expansion? = some (mode, text) →
      state.expand environment mode text = Macro.expand environment.localNames mode values text
        ∧ state.expand environment mode text ≠ .error .clientDomainUnknown) :
    (runTask environment state task).settle.position.Promises environment zone values below
      (task.explanation? environment.localNames zone values) := by
  cases task with
  | askExplanation spec =>
      obtain ⟨same, ready⟩ := expanded .domain spec rfl
      simp only [runTask, askExplanation, State.targetHost, Task.explanation?,
        publishedExplanation, ← same]
      cases result : state.expand environment .domain spec with
      | ok host => exact .inr (.asks turnsAway unset stack rfl)
      | error obstacle =>
          cases obstacle with
          | failure failure => exact .inl (told_of_fail explanatory turnsAway unset (.inl stack) _)
          | clientDomainUnknown => exact absurd result ready
  | explain text =>
      obtain ⟨same, ready⟩ := expanded .explanation text rfl
      have after : (state.afterExpansion environment .explanation text).TurnsAway environment zone
          values := turnsAway.change rfl rfl rfl rfl
      simp only [runTask, explain, Task.explanation?, ← same]
      cases result : state.expand environment .explanation text with
      | ok explanation => exact .inr (.closes (after.change rfl rfl rfl rfl) stack rfl)
      | error obstacle =>
          cases obstacle with
          | failure failure => exact .inl (told_of_fail explanatory after unset (.inl stack) _)
          | clientDomainUnknown => exact absurd result ready
  | _ => cases explanatory

/-- Receiving an answer for an explanation. -/
theorem receive_explains {lookup : Lookup}
    (explains : (Position.waiting state lookup).Explains environment zone values below promise)
    (knows : state.Knows environment zone) (known : state.identity.client.isSome = true) :
    (receive environment (zone lookup.question) state
      lookup.awaiting).settle.position.Promises environment zone values below promise := by
  cases explains with
  | learns finds prepares =>
      obtain ⟨turnsAway, unset, stack⟩ := prepares
      rcases receive_walks (zone lookup.question) known finds
        with ⟨domain, heard⟩ | ⟨other, more, heard⟩
      · rw [heard]
        exact .inr (.next ⟨turnsAway.change rfl rfl rfl rfl, unset, stack⟩)
      · rw [heard]
        exact .inr (.learns more ⟨turnsAway, unset, stack⟩)
  | @asks _ question turnsAway unset stack gives =>
      simp only [receive, receiveExplanationTexts]
      split
      · rename_i text answered
        rw [answered] at gives
        subst gives
        have pushed : (state.push (.explain text)).TurnsAway environment zone values :=
          turnsAway.change rfl rfl rfl rfl
        have top : (state.push (.explain text)).tasks
            = .explain text :: .guardExplanation :: below :=
          congrArg _ stack
        exact prepareExpansion_promises pushed unset rfl rfl top (knows.change rfl rfl rfl) known
      · rename_i other
        have none : promise = none := by
          rw [← gives]
          unfold readExplanation
          split
          · rename_i text answered
            exact absurd answered (other text)
          · rfl
        exact .inr (.closes turnsAway stack (unset.trans none.symm))

/-- Every turn of an explanation keeps the promise, or redeems it. -/
theorem Position.Explains.step {position next : Position}
    (explains : position.Explains environment zone values below promise)
    (turn : Step environment (fun question answer => answer = zone question) position next)
    (knows : position.Knows environment zone) (consistent : position.IsConsistent environment) :
    next.Promises environment zone values below promise := by
  cases turn with
  | hear allowed =>
      subst allowed
      exact receive_explains explains knows.1 consistent.1
  | @run state task rest stack =>
      cases explains with
      | next prepares =>
          obtain ⟨turnsAway, unset, top, explanatory, tasks, rfl⟩ := prepares
          obtain ⟨rfl, rfl⟩ := List.cons.inj (stack.symm.trans tasks)
          have expanded (mode : Macro.Mode) (text : Text)
              (expands : task.expansion? = some (mode, text)) := by
            obtain ⟨known, ready⟩ :=
              consistent.ready stack (isPrepared_of_isExplanatory explanatory) expands
            exact (⟨(turnsAway.expand_eq knows known mode text).resolve_left ready, ready⟩ :
              _ ∧ _)
          exact runTask_explains explanatory (turnsAway.change rfl rfl rfl rfl) unset rfl expanded
      | closes turnsAway tasks gives =>
          obtain ⟨rfl, rfl⟩ := List.cons.inj (stack.symm.trans tasks)
          exact .inl ⟨rfl, turnsAway.change rfl rfl rfl rfl, rfl, gives⟩

end

end Check

end SenderPolicy
