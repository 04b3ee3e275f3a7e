import SenderPolicy.Check.Run
import SenderPolicy.CommandLine.Report
import SenderPolicy.LocalRecords

/-!
# The command

The command reads its arguments, takes in the local records among them, checks one
identity and reports the outcome. `prepare` is what happens before the check and `report`
what happens after it; `execute` joins them for a resolver that answers at once.
-/

namespace SenderPolicy.CommandLine

/-- Why the command ends without a report. -/
inductive CommandError where
  | usage (error : UsageError)
  /-- What failed, from the outermost step to the innermost cause. -/
  | failed (chain : List Text)
deriving DecidableEq

/-- Take in local records that are given as `host=record`. -/
def addLocalRecords (records : LocalRecords) : List Text → Except (List Text) LocalRecords
  | [] => .ok records
  | entry :: entries =>
      match Text.splitAtFirst '=' entry with
      | none => .error ["expected host=record, got '".toList ++ entry ++ ['\'']]
      | some (host, record) =>
          match records.add host record with
          | .error failure =>
              .error ["invalid record for ".toList ++ host, failure.line]
          | .ok records => addLocalRecords records entries

/-- The source of local records that a setting gives, if it is given at all. -/
def readSource (setting : Setting) (entries : List Text) :
    Except CommandError (Option RecordSource) :=
  if entries = [] then
    .ok none
  else
    match addLocalRecords {} entries with
    | .error chain => .error (.failed (("--".toList ++ setting.name) :: chain))
    | .ok records => .ok (some records.source)

/-- The options that arguments ask for. -/
def readOptions (arguments : Arguments) : Except CommandError Options := do
  let overrides ← readSource .override arguments.overrides
  let fallbacks ← readSource .fallback arguments.fallbacks
  return {
    bestGuess := arguments.bestGuess
    trustedForwarder := arguments.trustedForwarder
    strict := arguments.strictTxt
    defaultExplanation := arguments.defaultExplanation
    timeoutMilliseconds := arguments.timeoutMilliseconds.getD 0
    overrides
    fallbacks }

/-- The arguments and the options they ask for. -/
def prepare (arguments : List Text) : Except CommandError (Arguments × Options) :=
  match Arguments.read arguments with
  | .error error => .error (.usage error)
  | .ok arguments => (readOptions arguments).map (arguments, ·)

/-- The identity to be checked. -/
def Arguments.identity (arguments : Arguments) : Identity :=
  Identity.read arguments.ip arguments.sender arguments.helo

/-- What the command prints, and its exit code. -/
structure Output where
  text : Text
  exitCode : Nat
deriving DecidableEq

/-- The report of an outcome. -/
def report (arguments : Arguments) (outcome : Check.Outcome) : Except CommandError Output :=
  match (Row.make arguments outcome).write? arguments.format with
  | some text => .ok ⟨text, exitCode outcome.code⟩
  | none => .error (.failed ["unknown --format '".toList ++ arguments.format ++ ['\'']])

/-- The exit code of a command that ends without a report. -/
def CommandError.exitCode : CommandError → Nat
  | .usage .displayHelp => 0
  | .usage _ => 2
  | .failed _ => 1

/-- What is said about a command that ends without a report, the outermost step first. -/
def CommandError.message : CommandError → Text
  | .usage error => error.message
  | .failed chain => Text.join ": ".toList chain

/-- Run the command with a resolver. The environment's own options are not used. The
second part of the result is the time that the resolver is told to take. -/
def execute (environment : Check.Environment) (resolver : Check.Resolver)
    (arguments : List Text) : Except CommandError (Output × Option Nat) := do
  let (arguments, options) ← prepare arguments
  let outcome := (Check.run { environment with options } resolver arguments.identity).outcome
  return (← report arguments outcome, options.timeout?)

end SenderPolicy.CommandLine
