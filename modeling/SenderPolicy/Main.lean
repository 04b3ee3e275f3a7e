import SenderPolicy.CommandLine.Command

/-!
# The program

The program checks the identity that its arguments give. It puts each question on the
error stream and reads the answer from its input: one record a line, up to an empty line.
A line `timeout` says that the question is not answered in time.
-/

namespace SenderPolicy.Program

/-- Read the answer to a question: records up to an empty line or the end of the input. -/
partial def readAnswer (input : IO.FS.Stream) (question : Dns.Question) (records : List Text) :
    IO Dns.Answer := do
  let line := Text.dropEnd (· ∈ ['\n', '\r']) (← input.getLine).toList
  if line = [] then
    return .records records.reverse
  else if line = "timeout".toList then
    return .timeout question.text
  else
    readAnswer input question (line :: records)

/-- Ask the questions of a check until it is finished. -/
partial def askAll (environment : Check.Environment) (input : IO.FS.Stream) :
    Check.Progress → IO Check.State
  | .finished state => return state
  | .waiting state lookup => do
      IO.eprintln (String.ofList lookup.question.text)
      let answer ← readAnswer input lookup.question []
      askAll environment input (Check.resume environment state lookup.awaiting answer).2

/-- Run the command up to its report. -/
def check (arguments : List Text) : IO (Except CommandLine.CommandError CommandLine.Output) := do
  match CommandLine.prepare arguments with
  | .error error => return .error error
  | .ok (arguments, options) =>
      let environment : Check.Environment := { options }
      let start := Check.State.start arguments.identity
      let last ← askAll environment (← IO.getStdin) (Check.advance environment start).2
      return CommandLine.report arguments (Check.Outcome.ofState last)

end SenderPolicy.Program

/-- Check one identity; the exit code tells the result. -/
def main (arguments : List String) : IO UInt32 := do
  match ← SenderPolicy.Program.check (arguments.map String.toList) with
  | .ok output =>
      IO.println (String.ofList output.text)
      return output.exitCode.toUInt32
  | .error error =>
      IO.eprintln (String.ofList error.message)
      return error.exitCode.toUInt32
