import SenderPolicy.Text.Basic

/-!
# Options

Options choose where records come from besides the DNS and how strictly they are read.
-/

namespace SenderPolicy

/-- A local source of records: the text it has for a domain, if any. -/
abbrev RecordSource := Text → Option Text

/-- The choices under which checks run. -/
structure Options where
  /-- Domains without a record are checked against a guessed one. -/
  bestGuess : Bool := false
  /-- Senders may relay through well-known forwarders. -/
  trustedForwarder : Bool := false
  /-- Both kinds of record questions are asked, and their answers must agree. -/
  strict : Bool := false
  /-- The explanation for failing clients of domains that publish none. -/
  defaultExplanation : Option Text := none
  /-- How long the resolver may take, in milliseconds; zero leaves it to the resolver. -/
  timeoutMilliseconds : Nat := 0
  /-- Records that are used instead of published ones. -/
  overrides : Option RecordSource := none
  /-- Records that are used where none are published. -/
  fallbacks : Option RecordSource := none

namespace Options

/-- The built-in explanation for failing clients. -/
def builtInExplanation : Text :=
  "http://www.openspf.org/why.html?sender=%\x7bS\x7d&ip=%\x7bI\x7d".toList

/-- The explanation for failing clients of domains that publish none. -/
def explanation (options : Options) : Text :=
  options.defaultExplanation.getD builtInExplanation

/-- The time a resolver is told to take, if it is told any. -/
def timeout? (options : Options) : Option Nat :=
  if options.timeoutMilliseconds = 0 then none else some options.timeoutMilliseconds

end Options

end SenderPolicy
