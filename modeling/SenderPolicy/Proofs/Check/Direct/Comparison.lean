import SenderPolicy.Proofs.Check.Direct.Finding
import SenderPolicy.Proofs.Macro.Values

/-!
# Comparing evaluations

Parts of an evaluation that count no term have the same outcome wherever they stand: they only
ask, and read at most the client's domain, which is the same once it is known. `Steady` says
so. A relation between evaluations is a `Comparison` if it holds of steady parts and is kept by
sequencing, counting, and handling failures; it then holds of records whose nested domains are
related one term later.
-/

namespace SenderPolicy.Direct

open Evaluation

variable {α β : Type}

/-! ## Parts that only ask -/

/-- An evaluation reads nothing of the ledger, and only adds questions to it. -/
def Asks (evaluation : Evaluation α) : Prop :=
  ∃ outcome asked, ∀ ledger, evaluation.runFrom ledger
    = (outcome, { ledger with questions := ledger.questions ++ asked })

namespace Asks

theorem pure (value : α) : Asks (pure value) :=
  ⟨.ok value, [], fun ledger => by rw [runFrom_pure, List.append_nil]⟩

theorem throw (failure : Failure) : Asks (throw failure : Evaluation α) :=
  ⟨.error failure, [], fun ledger => by rw [runFrom_throw, List.append_nil]⟩

theorem ofExcept (outcome : Except Failure α) :
    Asks (MonadExcept.ofExcept outcome : Evaluation α) := by
  cases outcome with
  | ok value => exact .pure value
  | error failure => exact .throw failure

theorem bind {evaluation : Evaluation α} {next : α → Evaluation β} (first : Asks evaluation)
    (later : ∀ value, Asks (next value)) : Asks (evaluation >>= next) := by
  obtain ⟨outcome, asked, runs⟩ := first
  cases outcome with
  | error failure =>
      refine ⟨.error failure, asked, fun ledger => ?_⟩
      rw [runFrom_bind, runs]
  | ok value =>
      obtain ⟨last, more, continues⟩ := later value
      refine ⟨last, asked ++ more, fun ledger => ?_⟩
      rw [runFrom_bind, runs]
      simp only [continues, List.append_assoc]

end Asks

section
variable (setting : Setting)

theorem asks_ask (question : Dns.Question) : Asks (ask setting question) :=
  ⟨.ok (setting.zone question), [question], runFrom_ask setting question⟩

theorem asks_walk (decides : Text → Dns.Answer → Except Failure (Option α)) (otherwise : α)
    (names : List Text) : Asks (walk setting decides otherwise names) := by
  induction names with
  | nil => exact .pure otherwise
  | cons name names inductionHypothesis =>
      unfold walk
      split
      · exact inductionHypothesis
      · refine (asks_ask setting _).bind fun answer => (Asks.ofExcept _).bind fun decided => ?_
        cases decided with
        | none => exact inductionHypothesis
        | some value => exact .pure value

theorem asks_recordsOf (answer : Dns.Answer) : Asks (recordsOf answer) := by
  cases answer with
  | records records => exact .pure records
  | timeout note => exact .throw _

theorem asks_matchesHost (lengths : PrefixLengths) (host : Text) :
    Asks (matchesHost setting lengths host) := by
  unfold matchesHost
  split
  · exact .pure _
  · split
    · exact .pure false
    · exact (asks_ask setting _).bind fun answer => (asks_recordsOf answer).bind fun _ => .pure _

theorem asks_matchesExchanger (lengths : PrefixLengths) (host : Text) :
    Asks (matchesExchanger setting lengths host) := by
  unfold matchesExchanger
  split
  · exact .pure false
  · refine (asks_ask setting _).bind fun answer => (asks_recordsOf answer).bind fun hosts => ?_
    split
    · exact .throw _
    · exact asks_walk ..

theorem asks_isWithin (target : Text) : Asks (isWithin setting target) := by
  refine (asks_ask setting _).bind fun answer => ?_
  cases answer with
  | timeout note => exact .pure false
  | records names => exact asks_walk ..

theorem asks_hasAddress (host : Text) : Asks (hasAddress setting host) := by
  unfold hasAddress
  split
  · exact .pure false
  · exact (asks_ask setting _).bind fun answer => (asks_recordsOf answer).bind fun _ => .pure _

theorem asks_includeMatches (outcome : Except Failure (Option Qualifier)) :
    Asks (includeMatches outcome) := by
  unfold includeMatches
  split
  · exact .pure _
  · split
    · exact .pure false
    · exact .pure false
    · exact .throw _

theorem asks_redirectVerdict (outcome : Except Failure (Option Qualifier)) :
    Asks (redirectVerdict outcome) := by
  unfold redirectVerdict
  split
  · exact .pure _
  · split
    · exact .throw _
    · exact .pure _
    · exact .throw _

theorem asks_localRecord (source : Option RecordSource) (domain : Text) :
    Asks (localRecord source domain) := by
  unfold localRecord
  split
  · exact .pure none
  · exact (Asks.ofExcept _).bind fun _ => .pure _

theorem asks_publishedIn (domain : Text) (answer : Dns.Answer) :
    Asks (publishedIn domain answer) := by
  cases answer with
  | timeout note => exact .throw _
  | records texts => exact .ofExcept _

theorem asks_publishedText (domain : Text) : Asks (publishedText setting domain) := by
  have published (type : Dns.RecordType) :
      Asks (ask setting ⟨domain, type⟩ >>= publishedIn domain) :=
    (asks_ask setting _).bind (asks_publishedIn domain)
  unfold publishedText
  refine (asks_ask setting _).bind fun answer => (asks_publishedIn domain answer).bind fun spf => ?_
  split
  · refine (asks_ask setting _).bind fun other => (asks_publishedIn domain other).bind fun txt => ?_
    split
    · exact .throw _
    · exact .pure _
  · cases spf with
    | some text => exact .pure _
    | none => exact published .txt

theorem asks_foreignRecord (domain : Text) (text : Option Text) :
    Asks (foreignRecord setting domain text) := by
  cases text with
  | some text => exact .ofExcept _
  | none =>
      unfold foreignRecord
      dsimp only
      split
      · exact .ofExcept _
      · refine (asks_localRecord _ domain).bind fun found => ?_
        cases found with
        | some record => exact .pure record
        | none => exact .throw _

theorem asks_obtainRecord (domain : Text) : Asks (obtainRecord setting domain) := by
  refine (asks_localRecord _ domain).bind fun own => ?_
  split
  · cases own with
    | some record => exact .pure record
    | none => exact (asks_publishedText setting domain).bind (asks_foreignRecord setting domain)
  · exact .throw _

/-! ## Parts that may look up the client's domain -/

/-- What is known of the client's domain is what looking it up gives. -/
def Informed (ledger : Ledger) : Prop :=
  ∀ name, ledger.clientDomain = some name →
    ((learnClientDomain setting).runFrom {}).2.clientDomain = some name

/-- An evaluation that counts no term has one outcome wherever it stands. -/
def Steady (evaluation : Evaluation α) : Prop :=
  ∃ outcome, ∀ ledger, Informed setting ledger → ∃ after,
    evaluation.runFrom ledger = (outcome, after) ∧ after.lookups = ledger.lookups
      ∧ Informed setting after

end

section
variable {setting : Setting}

theorem Informed.start : Informed setting {} := by
  rintro _ ⟨⟩

theorem Asks.steady {evaluation : Evaluation α} (asks : Asks evaluation) :
    Steady setting evaluation := by
  obtain ⟨outcome, asked, runs⟩ := asks
  exact ⟨outcome, fun ledger informed => ⟨_, runs ledger, rfl, informed⟩⟩

/-- An evaluation learns one name wherever it stands, or fails everywhere. -/
def Learns (evaluation : Evaluation Unit) : Prop :=
  (∃ name asked, ∀ ledger, evaluation.runFrom ledger
      = (.ok (), { ledger with
          clientDomain := some name, questions := ledger.questions ++ asked }))
    ∨ (∃ failure asked, ∀ ledger, evaluation.runFrom ledger
      = (.error failure, { ledger with questions := ledger.questions ++ asked }))

theorem Asks.learns {named : Evaluation Text} (asks : Asks named) :
    Learns (named >>= fun name =>
      modify fun ledger => { ledger with clientDomain := some name }) := by
  obtain ⟨outcome, asked, runs⟩ := asks
  cases outcome with
  | ok name => exact .inl ⟨name, asked, fun ledger => by rw [runFrom_bind, runs]; rfl⟩
  | error failure => exact .inr ⟨failure, asked, fun ledger => by rw [runFrom_bind, runs]⟩

theorem Asks.bind_learns {evaluation : Evaluation α} {next : α → Evaluation Unit}
    (asks : Asks evaluation) (later : ∀ value, Learns (next value)) :
    Learns (evaluation >>= next) := by
  obtain ⟨outcome, asked, runs⟩ := asks
  cases outcome with
  | error failure => exact .inr ⟨failure, asked, fun ledger => by rw [runFrom_bind, runs]⟩
  | ok value =>
      rcases later value with ⟨name, more, learns⟩ | ⟨failure, more, fails⟩
      · refine .inl ⟨name, asked ++ more, fun ledger => ?_⟩
        rw [runFrom_bind, runs]
        simp only [learns, List.append_assoc]
      · refine .inr ⟨failure, asked ++ more, fun ledger => ?_⟩
        rw [runFrom_bind, runs]
        simp only [fails, List.append_assoc]

/-- The client's domain is one name wherever it is looked up, or looking it up always fails. -/
theorem learns_learnClientDomain (setting : Setting) : Learns (learnClientDomain setting) := by
  refine (asks_ask setting _).bind_learns fun answer => ?_
  cases answer with
  | timeout note => exact (Asks.pure _).learns
  | records names => exact (asks_walk ..).learns

theorem asks_hostOf (spec : Text) (expanded : Except Macro.Obstacle Text) :
    Asks (hostOf spec expanded) := by
  rcases expanded with (failure | _) | host
  · exact .throw failure
  · exact .throw _
  · exact .pure host

/-- The expansion of a domain specification under a client's domain. -/
def expandedUnder (setting : Setting) (domain spec : Text) (clientDomain : Option Text) :
    Except Macro.Obstacle Text :=
  Macro.expand setting.environment.localNames .domain (values setting domain clientDomain) spec

/-- A specification that does not need the client's domain is expanded at once. -/
theorem runFrom_expandSpec {domain spec : Text} {ledger : Ledger}
    (complete : expandedUnder setting domain spec ledger.clientDomain
      ≠ .error .clientDomainUnknown) :
    (expandSpec setting domain spec).runFrom ledger
      = (hostOf spec (expandedUnder setting domain spec ledger.clientDomain)).runFrom ledger := by
  have expands : (expansion setting domain spec).runFrom ledger
      = (.ok (expandedUnder setting domain spec ledger.clientDomain), ledger) := rfl
  unfold expandSpec
  rw [runFrom_bind, expands]
  dsimp only
  split
  · contradiction
  · rfl

/-- Before a specification that needs the client's domain is expanded, it is looked up. -/
theorem runFrom_expandSpec_learning {domain spec : Text} {ledger : Ledger}
    (missing : expandedUnder setting domain spec ledger.clientDomain
      = .error .clientDomainUnknown) :
    (expandSpec setting domain spec).runFrom ledger
      = (learnClientDomain setting >>= fun _ =>
          expansion setting domain spec >>= hostOf spec).runFrom ledger := by
  have expands : (expansion setting domain spec).runFrom ledger
      = (.ok (expandedUnder setting domain spec ledger.clientDomain), ledger) := rfl
  unfold expandSpec
  rw [runFrom_bind, expands]
  dsimp only
  rw [missing]

/-- A specification gives one host wherever it is expanded: either it does not need the client's
domain, or that is one name wherever it is looked up. -/
theorem steady_expandSpec (domain spec : Text) :
    Steady setting (expandSpec setting domain spec) := by
  by_cases needed : expandedUnder setting domain spec none = .error .clientDomainUnknown
  · rcases learns_learnClientDomain setting with ⟨name, asked, runs⟩ | ⟨failure, asked, runs⟩
    · obtain ⟨outcome, hosts⟩ : Steady setting
          (hostOf spec (expandedUnder setting domain spec (some name))) :=
        (asks_hostOf spec _).steady
      have learned (ledger : Ledger) :
          Informed setting { ledger with clientDomain := some name } := by
        rintro _ ⟨⟩
        rw [runs]
      refine ⟨outcome, fun ledger informed => ?_⟩
      by_cases missing : expandedUnder setting domain spec ledger.clientDomain
          = .error .clientDomainUnknown
      · rw [runFrom_expandSpec_learning missing, runFrom_bind, runs]
        exact hosts _ (learned { ledger with questions := ledger.questions ++ asked })
      · rw [runFrom_expandSpec missing]
        cases known : ledger.clientDomain with
        | none => exact absurd (known ▸ needed) missing
        | some other =>
            have same := informed other known
            rw [runs] at same
            cases same
            exact hosts ledger informed
    · refine ⟨.error failure, fun ledger informed => ?_⟩
      have missing : ledger.clientDomain = none := by
        cases known : ledger.clientDomain with
        | none => rfl
        | some other =>
            have same := informed other known
            rw [runs] at same
            cases same
      rw [runFrom_expandSpec_learning (missing ▸ needed), runFrom_bind, runs]
      exact ⟨_, rfl, rfl, informed⟩
  · obtain ⟨outcome, hosts⟩ : Steady setting
        (hostOf spec (expandedUnder setting domain spec none)) :=
      (asks_hostOf spec _).steady
    refine ⟨outcome, fun ledger informed => ?_⟩
    have same : expandedUnder setting domain spec ledger.clientDomain
        = expandedUnder setting domain spec none := by
      cases ledger.clientDomain with
      | none => rfl
      | some name =>
          have unknown : (values setting domain none).clientDomain = none := rfl
          exact (Macro.expand_known name unknown spec).resolve_left needed
    rw [runFrom_expandSpec (same ▸ needed), same]
    exact hosts ledger informed

end

/-! ## Comparisons -/

/-- A relation between evaluations that is kept by what evaluations are made of. It may depend
on how many terms have been counted; a failure that counting causes must not be handled. -/
structure Comparison (setting : Setting)
    (related : Nat → {α : Type} → Evaluation α → Evaluation α → Prop) : Prop where
  steady : ∀ {counted : Nat} {α : Type} {evaluation : Evaluation α},
    Steady setting evaluation → related counted evaluation evaluation
  bind : ∀ {counted : Nat} {α β : Type} {first other : Evaluation α}
    {next next' : α → Evaluation β}, related counted first other →
    (∀ value, related counted (next value) (next' value)) →
    related counted (first >>= next) (other >>= next')
  count : ∀ {counted : Nat} {α : Type} {next next' : Unit → Evaluation α},
    related (counted + 1) (next ()) (next' ()) →
    related counted (Evaluation.count >>= next) (Evaluation.count >>= next')
  handle : ∀ {counted : Nat} {α β : Type} {first other : Evaluation α}
    {next : Except Failure α → Evaluation β}, related counted first other →
    (∀ outcome, Steady setting (next outcome)) →
    (∀ failure, failure.code = .permError → next (.error failure) = throw failure) →
    related counted (first.attempt >>= next) (other.attempt >>= next)

namespace Comparison

variable {setting : Setting}
  {related : Nat → {α : Type} → Evaluation α → Evaluation α → Prop}
  (comparison : Comparison setting related) {counted : Nat}
include comparison

theorem map {first other : Evaluation α} (change : α → β) (same : related counted first other) :
    related counted (change <$> first) (change <$> other) := by
  rw [map_eq_pure_bind, map_eq_pure_bind]
  exact comparison.bind same fun value => comparison.steady (Asks.pure _).steady

/-- What follows the host of a term is related one term later. -/
theorem termHost {domain : Text} {spec : Option Text} {next next' : Text → Evaluation α}
    (later : ∀ host, related (counted + 1) (next host) (next' host)) :
    related counted (Direct.termHost setting domain spec >>= next)
      (Direct.termHost setting domain spec >>= next') := by
  unfold Direct.termHost
  rw [bind_assoc, bind_assoc]
  apply comparison.count
  refine comparison.bind (comparison.steady ?_) later
  cases spec with
  | none => exact (Asks.pure domain).steady
  | some spec => exact steady_expandSpec domain spec

section
variable {nested nested' : Text → Evaluation (Option Qualifier)}
  (deeper : ∀ host, related (counted + 1) (nested host) (nested' host)) (domain : Text)
include deeper

theorem mechanismMatches (mechanism : Mechanism) :
    related counted (Direct.mechanismMatches setting nested domain mechanism)
      (Direct.mechanismMatches setting nested' domain mechanism) := by
  cases mechanism with
  | all => exact comparison.steady (Asks.pure true).steady
  | network network => exact comparison.steady (Asks.pure _).steady
  | «include» spec =>
      apply comparison.termHost
      intro host
      apply comparison.handle (deeper host)
      · exact fun outcome => (asks_includeMatches outcome).steady
      · intro failure permanent
        simp only [includeMatches, permanent]
  | a spec lengths =>
      exact comparison.termHost fun host => comparison.steady (asks_matchesHost ..).steady
  | mx spec lengths =>
      exact comparison.termHost fun host => comparison.steady (asks_matchesExchanger ..).steady
  | ptr spec =>
      exact comparison.termHost fun host => comparison.steady (asks_isWithin ..).steady
  | «exists» spec =>
      exact comparison.termHost fun host => comparison.steady (asks_hasAddress ..).steady

theorem tryDirectives (directives : List Directive) :
    related counted (Direct.tryDirectives setting nested domain directives)
      (Direct.tryDirectives setting nested' domain directives) := by
  induction directives with
  | nil => exact comparison.steady (Asks.pure none).steady
  | cons directive directives inductionHypothesis =>
      refine comparison.bind (comparison.mechanismMatches deeper domain _) fun matched => ?_
      cases matched with
      | true => exact comparison.steady (Asks.pure _).steady
      | false => exact inductionHypothesis

end

section
variable {nested nested' : Text → Evaluation Finding}
  (deeper : ∀ host, related (counted + 1) (nested host) (nested' host)) (domain : Text)
include deeper

theorem findRedirect (spec : Option Text) :
    related counted (Direct.findRedirect setting nested domain spec)
      (Direct.findRedirect setting nested' domain spec) := by
  cases spec with
  | none => exact comparison.steady (Asks.pure _).steady
  | some spec =>
      apply comparison.termHost
      intro host
      apply comparison.handle (deeper host)
      · exact fun outcome => ((asks_redirectVerdict _).bind fun _ => .pure _).steady
      · intro failure permanent
        simp only [Except.map, redirectVerdict, permanent]
        rfl

variable (counted)

/-- Records are related as the domains that they lead to are. -/
theorem findRecord (record : Record) :
    related counted (Direct.findRecord setting nested domain record)
      (Direct.findRecord setting nested' domain record) := by
  refine comparison.bind
    (comparison.tryDirectives (fun host => comparison.map _ (deeper host)) domain _) ?_
  intro verdict
  cases verdict with
  | some qualifier => exact comparison.steady (Asks.pure _).steady
  | none =>
      refine comparison.bind (comparison.findRedirect deeper domain _) fun found => ?_
      exact comparison.steady (Asks.pure _).steady

end

variable (counted) in
/-- Domains are related as their records are once these are completed. -/
theorem findDomain {nested nested' : Text → Evaluation Finding} {domain : Text}
    {complete complete' : Text → Record → Record}
    (each : ∀ record, related counted
      (Direct.findRecord setting nested domain (complete domain record))
      (Direct.findRecord setting nested' domain (complete' domain record))) :
    related counted (Direct.findDomain setting complete nested domain)
      (Direct.findDomain setting complete' nested' domain) :=
  comparison.bind (comparison.steady (asks_obtainRecord setting domain).steady) each

end Comparison

end SenderPolicy.Direct
