import SenderPolicy.Proofs.Check.Keeping
import SenderPolicy.Proofs.Check.Steps

/-!
# What a check asks for

`Lookup.IsOf` lists the questions that a check of a client can ask, with what their answers are
for: records of domains, addresses and mail exchangers of host names, and the host names of the
client. `runTask_asksOf` and `receive_asksOf` say so of every task and every answer, and
`exists_lookup_of_mem_questions` of all that a run asks.
-/

namespace SenderPolicy.Check

/-- The questions that a check of a client can ask, with what their answers are for. Only host
names are asked for addresses and mail exchangers, and only the client's own name for host
names. -/
inductive Lookup.IsOf (client : Address) : Lookup → Prop where
  | records {domain : Text} {type : Dns.RecordType} {awaiting : Awaiting}
      (texts : type = .spf ∨ type = .txt) : IsOf client ⟨⟨domain, type⟩, awaiting⟩
  | addresses {host : Text} {awaiting : Awaiting} (isHost : Domain.isHostName host = true) :
      IsOf client ⟨⟨host, .ofFamily client.family⟩, awaiting⟩
  | existence {host : Text} (isHost : Domain.isHostName host = true) :
      IsOf client ⟨⟨host, .a⟩, .existence⟩
  | exchangers {host : Text} {lengths : PrefixLengths} (isHost : Domain.isHostName host = true) :
      IsOf client ⟨⟨host, .mx⟩, .exchangers lengths⟩
  | hostNames {target : Text} : IsOf client ⟨⟨client.reverseName, .ptr⟩, .hostNames target⟩
  | clientNames : IsOf client ⟨⟨client.reverseName, .ptr⟩, .clientNames⟩

/-- Whatever asks for host names asks for those of the client. -/
theorem Lookup.IsOf.host_eq {client : Address} {lookup : Lookup} (isOf : lookup.IsOf client)
    (names : lookup.question.type = .ptr) : lookup.question.host = client.reverseName := by
  cases isOf with
  | records texts =>
      rcases texts with rfl | rfl
      · cases names
      · cases names
  | addresses isHost =>
      have other : Dns.RecordType.ofFamily client.family ≠ .ptr := by
        cases client.family <;> decide
      exact absurd names other
  | existence isHost => cases names
  | exchangers isHost => cases names
  | hostNames => rfl
  | clientNames => rfl

/-- If a reaction asks, it asks what a check of this client can. -/
def Reaction.AsksOf (client : Address) : Reaction → Prop
  | .proceed _ => True
  | .ask _ lookup => lookup.IsOf client
  | .fail _ _ => True

theorem question_of_make {host : Text} {type : Dns.RecordType} {question : Dns.Question}
    (needs : type.needsHostName = true) (made : Dns.Question.make host type = .ok question) :
    question = ⟨host, type⟩ ∧ Domain.isHostName host = true := by
  unfold Dns.Question.make at made
  split at made
  · cases made
  · rename_i allowed
    cases made
    simpa [needs] using allowed

theorem question_of_nextQuestion? {type : Dns.RecordType} {names pending : List Text} {name : Text}
    {question : Dns.Question} (needs : type.needsHostName = true)
    (found : nextQuestion? type names = some (name, question, pending)) :
    question = ⟨name, type⟩ ∧ Domain.isHostName name = true := by
  induction names with
  | nil => cases found
  | cons first names inductionHypothesis =>
      unfold nextQuestion? at found
      split at found
      · rename_i made
        cases found
        exact question_of_make needs made
      · exact inductionHypothesis found

section
variable {environment : Environment} {state : State} {client : Address}

theorem askHost_asksOf {host : Text} {type : Dns.RecordType} {awaiting : Awaiting}
    (needs : type.needsHostName = true)
    (isOf : Domain.isHostName host = true → Lookup.IsOf client ⟨⟨host, type⟩, awaiting⟩) :
    (askHost host type awaiting state).AsksOf client := by
  unfold askHost
  split
  · rename_i made
    obtain ⟨rfl, isHost⟩ := question_of_make needs made
    exact isOf isHost
  · trivial

theorem askRecords_asksOf {type : Dns.RecordType} {awaiting : Awaiting}
    (texts : type = .spf ∨ type = .txt) : (askRecords type awaiting state).AsksOf client := by
  unfold askRecords
  split
  · trivial
  · exact .records texts

theorem useRecordText_asksOf (text : Text) : (useRecordText text state).AsksOf client := by
  unfold useRecordText
  split <;> trivial

theorem useLocalRecord_asksOf (source : Option RecordSource) :
    (useLocalRecord source state).AsksOf client := by
  unfold useLocalRecord
  split
  · trivial
  · split
    · trivial
    · exact useRecordText_asksOf _

theorem runStage_asksOf (stage : Stage) : (runStage environment state stage).AsksOf client := by
  cases stage with
  | override => exact useLocalRecord_asksOf _
  | initialChecks =>
      simp only [runStage]
      split
      · trivial
      · split <;> trivial
  | retrieve => exact askRecords_asksOf (.inl rfl)
  | retrieveStrict => exact askRecords_asksOf (.inl rfl)
  | bestGuess => trivial
  | parseRecord =>
      simp only [runStage]
      split
      · exact useRecordText_asksOf _
      · trivial
  | fallback => exact useLocalRecord_asksOf _
  | noRecordFound =>
      simp only [runStage]
      split <;> trivial
  | trustedForwarder =>
      simp only [runStage]
      split <;> trivial
  | neutralIfUnmatched => trivial
  | defaultExplanation => trivial

section
variable (known : state.identity.client = some client)
include known

/-- Walks through host names ask for addresses. -/
theorem askExchangerAddresses_asksOf (lengths : PrefixLengths) (hosts : List Text) :
    (askExchangerAddresses lengths hosts state).AsksOf client := by
  simp only [askExchangerAddresses, known]
  split
  · trivial
  · rename_i found
    obtain ⟨rfl, isHost⟩ := question_of_nextQuestion? (Dns.RecordType.needsHostName_ofFamily _) found
    exact .addresses isHost

theorem askHostAddresses_asksOf (target : Text) (names : List Text) :
    (askHostAddresses target names state).AsksOf client := by
  simp only [askHostAddresses, known]
  split
  · trivial
  · rename_i found
    obtain ⟨rfl, isHost⟩ := question_of_nextQuestion? (Dns.RecordType.needsHostName_ofFamily _) found
    exact .addresses isHost

theorem askClientAddresses_asksOf (names : List Text) :
    (askClientAddresses names state).AsksOf client := by
  simp only [askClientAddresses, known]
  split
  · trivial
  · rename_i found
    obtain ⟨rfl, isHost⟩ := question_of_nextQuestion? (Dns.RecordType.needsHostName_ofFamily _) found
    exact .addresses isHost

/-- The client's domain is looked for under the client's name. -/
theorem prepareExpansion_asksOf (mode : Macro.Mode) (text : Text) :
    (state.prepareExpansion environment mode text).AsksOf client := by
  unfold State.prepareExpansion
  rw [known]
  split
  · trivial
  · trivial
  · exact .clientNames

theorem beginTerm_asksOf (half : Task) (spec : Option Text) :
    (beginTerm environment half spec state).AsksOf client := by
  simp only [beginTerm]
  split
  · trivial
  · split
    · trivial
    · have pushed : (state.countLookup.push half).identity.client = some client := known
      exact prepareExpansion_asksOf pushed _ _

theorem beginMechanism_asksOf (mechanism : Mechanism) :
    (beginMechanism environment state mechanism).AsksOf client := by
  cases asks : mechanism.asksDns with
  | true =>
      rw [beginMechanism_of_asksDns asks]
      exact beginTerm_asksOf known _ _
  | false =>
      cases mechanism with
      | all => trivial
      | network range =>
          simp only [beginMechanism, known]
          trivial
      | _ => cases asks

theorem continueMechanism_asksOf (mechanism : Mechanism) :
    (continueMechanism environment mechanism state).AsksOf client := by
  unfold continueMechanism
  rw [known]
  split
  · trivial
  · cases mechanism with
    | all => trivial
    | network range => trivial
    | «include» spec => trivial
    | a spec lengths =>
        simp only [compareHost]
        split
        · trivial
        · exact askHost_asksOf (Dns.RecordType.needsHostName_ofFamily _) .addresses
    | mx spec lengths => exact askHost_asksOf rfl .exchangers
    | ptr spec => exact .hostNames
    | «exists» spec => exact askHost_asksOf rfl .existence

theorem beginModifier_asksOf (modifier : Modifier) :
    (beginModifier environment state modifier).AsksOf client := by
  cases modifier with
  | redirect spec =>
      by_cases opened : state.isOpen = true
      · rw [beginModifier_redirect opened]
        exact beginTerm_asksOf known _ _
      · rw [beginModifier, if_neg opened]
        trivial
  | exp spec =>
      simp only [beginModifier]
      split
      · have pushed : (state.pushAll [.askExplanation spec, .guardExplanation]).identity.client
            = some client := known
        exact prepareExpansion_asksOf pushed _ _
      · trivial
  | unknown name value => trivial

theorem prepareExplanation_asksOf (text : Text) :
    (prepareExplanation environment text state).AsksOf client := by
  have pushed : (state.push (.explain text)).identity.client = some client := known
  exact prepareExpansion_asksOf pushed _ _

theorem runTask_asksOf (task : Task) : (runTask environment state task).AsksOf client := by
  cases task with
  | stage stage => exact runStage_asksOf stage
  | mechanism mechanism => exact beginMechanism_asksOf known mechanism
  | expandedMechanism mechanism => exact continueMechanism_asksOf known mechanism
  | modifier modifier => exact beginModifier_asksOf known modifier
  | askExplanation spec =>
      simp only [runTask, askExplanation]
      split
      · trivial
      · exact .records (.inr rfl)
  | hook hook =>
      cases hook with
      | neutralIfUnmatched => trivial
      | defaultExplanation text =>
          simp only [runTask, runHook]
          split
          · have pushed : (state.push .guardExplanation).identity.client = some client := known
            exact prepareExplanation_asksOf pushed text
          · trivial
  | conclude => trivial
  | leaveInclude frame => trivial
  | leaveRedirect => trivial
  | guardExplanation => trivial
  | evaluateDomain =>
      simp only [runTask]
      split <;> trivial
  | evaluateRecord =>
      simp only [runTask]
      split <;> trivial
  | directive directive =>
      simp only [runTask]
      split <;> trivial
  | settle qualifier =>
      simp only [runTask]
      split <;> trivial
  | followRedirect spec =>
      simp only [runTask, followRedirect]
      split <;> trivial
  | explain text =>
      simp only [runTask, explain]
      split <;> trivial

/-! ## Answers -/

omit known in
theorem receiveRecords_asksOf {answer : Dns.Answer} {next : Option Text → Reaction}
    (each : ∀ found, (next found).AsksOf client) :
    (receiveRecords answer state next).AsksOf client := by
  unfold receiveRecords
  split
  · trivial
  · split
    · trivial
    · exact each _

theorem receive_asksOf (answer : Dns.Answer) (awaiting : Awaiting) :
    (receive environment answer state awaiting).AsksOf client := by
  cases awaiting with
  | spfRecords =>
      refine receiveRecords_asksOf fun found => ?_
      cases found with
      | none => exact askRecords_asksOf (.inr rfl)
      | some text => trivial
  | txtRecords => exact receiveRecords_asksOf fun _ => trivial
  | strictSpfRecords => exact receiveRecords_asksOf fun _ => .records (.inr rfl)
  | strictTxtRecords spf =>
      refine receiveRecords_asksOf fun found => ?_
      split <;> trivial
  | addresses lengths =>
      simp only [receive, receiveAddresses, known]
      split <;> trivial
  | exchangers lengths =>
      simp only [receive, receiveExchangers]
      split
      · trivial
      · split
        · trivial
        · exact askExchangerAddresses_asksOf known _ _
  | exchangerAddresses lengths pending =>
      simp only [receive, receiveExchangerAddresses, known]
      split
      · trivial
      · split
        · trivial
        · exact askExchangerAddresses_asksOf known _ _
  | hostNames target =>
      simp only [receive, receiveHostNames]
      split
      · trivial
      · exact askHostAddresses_asksOf known _ _
  | hostAddresses target candidate pending =>
      simp only [receive, receiveHostAddresses, known]
      split
      · exact askHostAddresses_asksOf known _ _
      · split
        · trivial
        · exact askHostAddresses_asksOf known _ _
  | existence =>
      simp only [receive, receiveExistence]
      split <;> trivial
  | explanationTexts =>
      simp only [receive, receiveExplanationTexts]
      split
      · exact prepareExplanation_asksOf known _
      · trivial
  | clientNames =>
      simp only [receive, receiveClientNames]
      split
      · trivial
      · exact askClientAddresses_asksOf known _
  | clientAddresses candidate pending =>
      simp only [receive, receiveClientAddresses, known]
      split
      · exact askClientAddresses_asksOf known _
      · split
        · trivial
        · exact askClientAddresses_asksOf known _

end

end

/-! ## Runs -/

/-- The check is about this client, and what it waits for is what such a check can ask. -/
structure Position.IsOf (client : Address) (position : Position) : Prop where
  known : position.state.identity.client = some client
  asks : ∀ state lookup, position = .waiting state lookup → lookup.IsOf client

theorem Reaction.AsksOf.settle {client : Address} {reaction : Reaction}
    (asks : reaction.AsksOf client) :
    ∀ state lookup, reaction.settle.position = .waiting state lookup → lookup.IsOf client := by
  intro state lookup waits
  cases reaction with
  | proceed after => cases waits
  | ask after other =>
      cases waits
      exact asks
  | fail after failure => cases waits

theorem Position.Step.isOf {environment : Environment}
    {permitted : Dns.Question → Dns.Answer → Prop} {client : Address} {position next : Position}
    (turn : Step environment permitted position next) (isOf : position.IsOf client) :
    next.IsOf client := by
  have kept : next.state.identity.client = some client := by
    rw [turn.identity]
    exact isOf.known
  cases turn with
  | @run state task below stack =>
      have popped : ({ state with tasks := below } : State).identity.client = some client :=
        isOf.known
      exact ⟨kept, (runTask_asksOf popped task).settle⟩
  | @hear state lookup answer allowed =>
      exact ⟨kept, (receive_asksOf isOf.known answer lookup.awaiting).settle⟩

/-- All that a run asks is what a check of its client can ask. -/
theorem exists_lookup_of_mem_questions (environment : Environment) (resolver : Resolver)
    {identity : Identity} {client : Address} (known : identity.client = some client)
    {question : Dns.Question} (asked : question ∈ (run environment resolver identity).questions) :
    ∃ awaiting, Lookup.IsOf client ⟨question, awaiting⟩ := by
  have start : (Position.running (State.start identity)).IsOf client := by
    refine ⟨known, ?_⟩
    rintro state lookup ⟨⟩
  rw [questions_run] at asked
  obtain ⟨passed, member, waits⟩ := List.mem_filterMap.mp asked
  have isOf := (visited_keeps Position.Step.isOf resolver [] start).1 passed member
  cases passed with
  | running state => cases waits
  | waiting state lookup =>
      cases waits
      exact ⟨lookup.awaiting, isOf.asks state lookup rfl⟩

end SenderPolicy.Check
