import SenderPolicy.Text.Basic

/-!
# Results and qualifiers

A check ends in one of seven results. A qualifier is what a matching directive decides,
so it can lead to the first four of them only.
-/

namespace SenderPolicy

/-- The result of a check. -/
inductive ResultCode where
  | pass
  | fail
  | softFail
  | neutral
  | none
  | permError
  | tempError
deriving DecidableEq, Repr

/-- All results. -/
def ResultCode.all : List ResultCode :=
  [.pass, .fail, .softFail, .neutral, .none, .permError, .tempError]

/-- The name of a result in headers. -/
def ResultCode.name : ResultCode → Text
  | .pass => "pass".toList
  | .fail => "fail".toList
  | .softFail => "softfail".toList
  | .neutral => "neutral".toList
  | .none => "none".toList
  | .permError => "permerror".toList
  | .tempError => "temperror".toList

/-- The result with exactly this name. -/
def ResultCode.ofName? (name : Text) : Option ResultCode :=
  ResultCode.all.find? fun code => code.name = name

/-- The result with this name in any letter case. -/
def ResultCode.read? (text : Text) : Option ResultCode :=
  ResultCode.ofName? text.lower

/-- The wording for text that names no result. -/
def ResultCode.unknownMessage (text : Text) : Text :=
  "unknown SPF result: ".toList ++ text.lower

/-- What a directive decides when it matches. -/
inductive Qualifier where
  | pass
  | fail
  | softFail
  | neutral
deriving DecidableEq, Repr

namespace Qualifier

/-- All qualifiers. -/
def all : List Qualifier :=
  [.pass, .fail, .softFail, .neutral]

/-- The sign in front of a mechanism. -/
def sign : Qualifier → Char
  | .pass => '+'
  | .fail => '-'
  | .softFail => '~'
  | .neutral => '?'

/-- The name of a qualifier. -/
def name : Qualifier → Text
  | .pass => "Pass".toList
  | .fail => "Fail".toList
  | .softFail => "SoftFail".toList
  | .neutral => "Neutral".toList

/-- The qualifier with this sign. -/
def ofSign? (sign : Char) : Option Qualifier :=
  all.find? fun qualifier => qualifier.sign = sign

/-- The qualifier of the text in front of a mechanism; no sign means pass. -/
def read? : Text → Option Qualifier
  | [] => some .pass
  | [sign] => ofSign? sign
  | _ => none

/-- The qualifier with exactly this name. -/
def ofName? (name : Text) : Option Qualifier :=
  all.find? fun qualifier => qualifier.name = name

/-- The result of a check that a directive with this qualifier decides. -/
def result : Qualifier → ResultCode
  | .pass => .pass
  | .fail => .fail
  | .softFail => .softFail
  | .neutral => .neutral

end Qualifier

end SenderPolicy
