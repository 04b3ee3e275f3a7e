import SenderPolicy.Check.Retrieval

/-!
# Groups of stages

The stages of a domain in groups, by what they do about a record: those that look for one of the
domain's own, those that read a text, those that fall back on another, and those that complete the
record. The stages that supply a record do nothing once there is one.
-/

namespace SenderPolicy.Check

/-- The stages that find a record if there is no text to read. -/
def fallbackStages (options : Options) : List Stage :=
  (if options.fallbacks.isSome then [.fallback] else []) ++ [.noRecordFound]

/-- The stages that read a text, which may be a guess. -/
def readingStages (options : Options) : List Stage :=
  (if options.bestGuess then [.bestGuess] else []) ++ [.parseRecord]

/-- The stages that complete a record. -/
def completingStages (options : Options) : List Stage :=
  (if options.trustedForwarder then [.trustedForwarder] else [])
    ++ [.neutralIfUnmatched, .defaultExplanation]

/-- The hooks of a completed record. -/
def hooksOf (environment : Environment) (record : Record) : List Hook :=
  (if record.directives = [] then [] else [.neutralIfUnmatched])
    ++ [.defaultExplanation environment.options.explanation]

theorem stages_eq (options : Options) :
    stages options
      = (if options.overrides.isSome then [.override] else [])
        ++ .initialChecks :: (if options.strict then .retrieveStrict else .retrieve)
        :: (readingStages options ++ (fallbackStages options ++ completingStages options)) := by
  simp only [stages, readingStages, fallbackStages, completingStages, List.append_assoc,
    List.cons_append, List.nil_append]

/-- A stage that has nothing to do once there is a record. -/
def isSupplier : Stage → Bool
  | .override | .retrieve | .retrieveStrict | .bestGuess | .parseRecord | .fallback
  | .noRecordFound => true
  | .initialChecks | .trustedForwarder | .neutralIfUnmatched | .defaultExplanation => false

theorem isSupplier_of_mem_fallbackStages {options : Options} :
    ∀ stage ∈ fallbackStages options, isSupplier stage := by
  unfold fallbackStages
  split <;> simp [isSupplier]

theorem isSupplier_of_mem_readingStages {options : Options} :
    ∀ stage ∈ readingStages options, isSupplier stage := by
  unfold readingStages
  split <;> simp [isSupplier]

/-- The stages that look for a record after the checks of the domain. -/
def searchingStages (options : Options) : List Stage :=
  (if options.strict then .retrieveStrict else .retrieve)
    :: (readingStages options ++ fallbackStages options)

theorem isSupplier_of_mem_searchingStages {options : Options} :
    ∀ stage ∈ searchingStages options, isSupplier stage := by
  intro stage member
  simp only [searchingStages, List.mem_cons, List.mem_append] at member
  rcases member with rfl | reads | falls
  · split <;> rfl
  · exact isSupplier_of_mem_readingStages stage reads
  · exact isSupplier_of_mem_fallbackStages stage falls

theorem runStage_supplied (environment : Environment) (state : State) {policy : Policy}
    (slot : state.slot = some (.policy policy)) {stage : Stage} (supplier : isSupplier stage) :
    runStage environment state stage = .proceed state := by
  obtain ⟨⟩ := state
  subst slot
  cases stage <;> first | rfl | contradiction

end SenderPolicy.Check
