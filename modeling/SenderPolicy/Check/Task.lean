import SenderPolicy.Dns.Question
import SenderPolicy.Options
import SenderPolicy.Record.Term
import SenderPolicy.Text.Quoted

/-!
# Tasks of a check

A check is a stack of tasks. Running the top one ends it, puts other tasks on the stack,
or asks a DNS question; `Awaiting` says what becomes of the answer. Four kinds of tasks
are catchers: a failure removes tasks from the stack until one of them handles it.
-/

namespace SenderPolicy.Check

/-- The steps that obtain and complete the record of a domain. -/
inductive Stage where
  | override
  | initialChecks
  | retrieve
  | retrieveStrict
  | bestGuess
  | parseRecord
  | fallback
  | noRecordFound
  | trustedForwarder
  | neutralIfUnmatched
  | defaultExplanation
deriving DecidableEq, Repr

/-- What is done after a record's own terms. -/
inductive Hook where
  /-- A client that no directive matched is neutral. -/
  | neutralIfUnmatched
  /-- A failing client gets this explanation, unless there is one. -/
  | defaultExplanation (text : Text)
deriving DecidableEq

/-- A record with what is done after its terms. -/
structure Policy where
  record : Record
  hooks : List Hook
deriving DecidableEq

/-- The record at hand: its text or its terms. -/
inductive Slot where
  | text (text : Text)
  | policy (policy : Policy)
deriving DecidableEq

/-- What an include puts back when it is left. -/
structure Frame where
  domain : Text
  verdict : Option Qualifier
  muted : Bool
deriving DecidableEq

/-- The entries of the stack. -/
inductive Task where
  /-- Turns the verdict into the result; a catcher for every failure. -/
  | conclude
  /-- Evaluates the current domain. -/
  | evaluateDomain
  | stage (stage : Stage)
  /-- Evaluates the record at hand. -/
  | evaluateRecord
  | directive (directive : Directive)
  /-- Decides by a qualifier if its mechanism has matched. -/
  | settle (qualifier : Qualifier)
  | mechanism (mechanism : Mechanism)
  /-- A mechanism whose domain specification can be expanded. -/
  | expandedMechanism (mechanism : Mechanism)
  /-- Leaves an include; a catcher for failures within it. -/
  | leaveInclude (frame : Frame)
  | modifier (modifier : Modifier)
  /-- A redirect whose domain specification can be expanded. -/
  | followRedirect (spec : Text)
  /-- Leaves a redirect; a catcher for a target without a record. -/
  | leaveRedirect
  /-- An explanation domain whose specification can be expanded. -/
  | askExplanation (spec : Text)
  /-- Sets an explanation that can be expanded. -/
  | explain (text : Text)
  /-- A catcher that ends failures within an explanation. -/
  | guardExplanation
  | hook (hook : Hook)
deriving DecidableEq

/-- What an outstanding answer is for. -/
inductive Awaiting where
  | spfRecords
  | txtRecords
  | strictSpfRecords
  /-- The second kind of records, with what the first kind gave. -/
  | strictTxtRecords (spf : Option Text)
  | addresses (lengths : PrefixLengths)
  | exchangers (lengths : PrefixLengths)
  | exchangerAddresses (lengths : PrefixLengths) (pending : List Text)
  | hostNames (target : Text)
  | hostAddresses (target candidate : Text) (pending : List Text)
  | existence
  | explanationTexts
  | clientNames
  | clientAddresses (candidate : Text) (pending : List Text)
deriving DecidableEq

/-- A question and what its answer is for. -/
structure Lookup where
  question : Dns.Question
  awaiting : Awaiting
deriving DecidableEq

/-! ## Names in logs -/

/-- The name of a stage. -/
def Stage.name : Stage → Text
  | .override => "Override".toList
  | .initialChecks => "InitialChecks".toList
  | .retrieve => "Retrieve".toList
  | .retrieveStrict => "RetrieveStrict".toList
  | .bestGuess => "BestGuess".toList
  | .parseRecord => "ParseRecord".toList
  | .fallback => "Fallback".toList
  | .noRecordFound => "NoRecordFound".toList
  | .trustedForwarder => "TrustedForwarder".toList
  | .neutralIfUnmatched => "NeutralIfUnmatched".toList
  | .defaultExplanation => "DefaultExplanation".toList

/-- The name of a hook, with its text in quotes. -/
def Hook.name : Hook → Text
  | .neutralIfUnmatched => "NeutralIfUnmatched".toList
  | .defaultExplanation text => "DefaultExplanation(".toList ++ text.quoted ++ [')']

/-- A task in one line. -/
def Task.name : Task → Text
  | .conclude => "default".toList
  | .evaluateDomain => "spf".toList
  | .stage step => "policy:".toList ++ step.name
  | .evaluateRecord => "record".toList
  | .directive term => "directive:".toList ++ term.text
  | .settle qualifier => "directive-result:".toList ++ [qualifier.sign]
  | .mechanism test => "mechanism:".toList ++ test.text
  | .expandedMechanism test => "expanded:".toList ++ test.text
  | .leaveInclude frame => "include-cleanup:".toList ++ frame.domain
  | .modifier term => "modifier:".toList ++ term.text
  | .followRedirect spec => "redirect:".toList ++ spec
  | .leaveRedirect => "redirect-cleanup".toList
  | .askExplanation spec => "exp:".toList ++ spec
  | .explain _ => "explain".toList
  | .guardExplanation => "explanation-guard".toList
  | .hook addition => "hook:".toList ++ addition.name

end SenderPolicy.Check
