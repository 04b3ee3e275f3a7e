import SenderPolicy.Check.Outcome
import SenderPolicy.CommandLine.Arguments

/-!
# Reports of the command line

A report shows an outcome beside the identity as it was given. It is written in lines for
people or as a JSON object, and its exit code tells the results apart.
-/

namespace SenderPolicy.CommandLine

/-- The exit code for a result. -/
def exitCode : ResultCode → Nat
  | .pass => 0
  | .fail => 1
  | .softFail => 2
  | .neutral => 3
  | .tempError => 4
  | .permError => 5
  | .none => 6

/-- An outcome beside the identity as it was given. -/
structure Row where
  ip : Text
  sender : Text
  helo : Text
  outcome : Check.Outcome
deriving DecidableEq

namespace Row

/-- The row of accepted arguments and their outcome. -/
def make (arguments : Arguments) (outcome : Check.Outcome) : Row :=
  ⟨arguments.ip, arguments.sender, arguments.helo, outcome⟩

/-- The indentation of lines after the first. -/
def indentation : Text := "        ".toList

/-- A report for people. -/
def lines (row : Row) : List Text :=
  let first := ['['] ++ row.outcome.code.name.upper ++ "] ip=".toList ++ row.ip
    ++ " sender=".toList ++ row.sender ++ " helo=".toList ++ row.helo
  let explanation :=
    if row.outcome.explanation = [] then
      []
    else
      [indentation ++ "explanation: ".toList ++ row.outcome.explanation]
  [first] ++ explanation ++ [indentation ++ row.outcome.header]

/-- A character of a JSON string: quotes, backslashes and control characters are escaped. -/
def jsonChar (c : Char) : Text :=
  if c = '"' then "\\\"".toList
  else if c = '\\' then "\\\\".toList
  else if c = '\n' then "\\n".toList
  else if c = '\r' then "\\r".toList
  else if c = '\t' then "\\t".toList
  else if c.toNat = 0x08 then "\\b".toList
  else if c.toNat = 0x0C then "\\f".toList
  else if c.toNat < 0x20 then
    "\\u00".toList ++ [Nat.digitChar (c.toNat / 16), Nat.digitChar (c.toNat % 16)]
  else [c]

/-- A JSON string. -/
def jsonString (text : Text) : Text :=
  '"' :: text.flatMap jsonChar ++ ['"']

/-- The fields of a report; an empty explanation is left out. -/
def fields (row : Row) : List (Text × Text) :=
  [("ip".toList, row.ip), ("sender".toList, row.sender), ("helo".toList, row.helo),
    ("result".toList, row.outcome.code.name)]
    ++ (if row.outcome.explanation = [] then []
      else [("explanation".toList, row.outcome.explanation)])
    ++ [("header".toList, row.outcome.header)]

/-- A report as a JSON object, one field a line. -/
def json (row : Row) : Text :=
  let field (entry : Text × Text) : Text :=
    "  ".toList ++ jsonString entry.1 ++ ": ".toList ++ jsonString entry.2
  "\x7b\n".toList ++ Text.join ",\n".toList (row.fields.map field) ++ "\n\x7d".toList

/-- A report in a format, if there is such a format. -/
def write? (row : Row) (format : Text) : Option Text :=
  if format = "human".toList then some (Text.join ['\n'] row.lines)
  else if format = "json".toList then some row.json
  else none

end Row

end SenderPolicy.CommandLine
