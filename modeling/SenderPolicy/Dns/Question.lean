import SenderPolicy.Domain.Name
import SenderPolicy.Failure

/-!
# DNS questions and answers

A question names a host and the type of its records. Questions for addresses and mail
exchangers are asked about host names only; the others are asked about any text.
-/

namespace SenderPolicy.Dns

/-- The types of records that a check asks for. -/
inductive RecordType where
  | a
  | aaaa
  | mx
  | ptr
  | txt
  | spf
deriving DecidableEq, Repr

namespace RecordType

/-- All record types. -/
def all : List RecordType :=
  [.a, .aaaa, .mx, .ptr, .txt, .spf]

/-- The name of a record type. -/
def name : RecordType → Text
  | .a => "A".toList
  | .aaaa => "AAAA".toList
  | .mx => "MX".toList
  | .ptr => "PTR".toList
  | .txt => "TXT".toList
  | .spf => "SPF".toList

/-- The record type with this name. -/
def ofName? (name : Text) : Option RecordType :=
  all.find? fun type => type.name = name

/-- The host of such a question must be a host name. -/
def needsHostName : RecordType → Bool
  | .a | .aaaa | .mx => true
  | .ptr | .txt | .spf => false

/-- The type of the address records of a family. -/
def ofFamily : Family → RecordType
  | .ip4 => .a
  | .ip6 => .aaaa

theorem needsHostName_ofFamily (family : Family) : (ofFamily family).needsHostName = true := by
  cases family <;> rfl

end RecordType

/-- A host and the type of the records asked for. -/
structure Question where
  host : Text
  type : RecordType
deriving DecidableEq

namespace Question

/-- The question about a host, unless no such question may ask for it. -/
def make (host : Text) (type : RecordType) : Except Failure Question :=
  if type.needsHostName && !Domain.isHostName host then
    .error (.notAHostName host)
  else
    .ok ⟨host, type⟩

/-- A question in one word. -/
def text (question : Question) : Text :=
  question.host ++ '#' :: question.type.name

end Question

/-- What a resolver gives back: records, of which there may be none, or no answer in time
with a note on what was asked. -/
inductive Answer where
  | records (records : List Text)
  | timeout (note : Text)
deriving DecidableEq

/-- The reason given for a question that was not answered. -/
def timeoutReason (note : Text) : Text :=
  "DNS lookup timed out: ".toList ++ note

/-- The greatest number of mail exchangers or host names a mechanism asks for, unless the
resolver sets another. -/
def defaultRecordLimit : Nat := 10

end SenderPolicy.Dns
