import SenderPolicy.Options
import SenderPolicy.Record.Parser

/-!
# Local records

Local records are kept by name. An entry for `*.domain` is for every name inside the
domain, but not for the domain itself; of several entries the one for the longest name
counts. Only text that can be read as a record is taken in.
-/

namespace SenderPolicy

/-- Records by the normal form of their names; no name occurs twice. -/
structure LocalRecords where
  entries : List (Text × Text) := []

namespace LocalRecords

/-- Nothing is kept. -/
def isEmpty (records : LocalRecords) : Bool :=
  records.entries.isEmpty

/-- The record kept under a name in normal form. -/
def get? (records : LocalRecords) (name : Text) : Option Text :=
  records.entries.lookup name

/-- The entries without the one for a name in normal form. -/
def erase (records : LocalRecords) (name : Text) : LocalRecords :=
  ⟨records.entries.filter fun entry => entry.1 ≠ name⟩

/-- Keep a record, in place of an earlier one of the same name. -/
def add (host record : Text) (records : LocalRecords) : Except Failure LocalRecords :=
  let name := Domain.normal host
  (Record.read record).map fun _ => ⟨(name, record.trim) :: (records.erase name).entries⟩

/-- Keep records in order, up to the first that cannot be read. -/
def addAll (records : LocalRecords) : List (Text × Text) → Except Failure LocalRecords
  | [] => .ok records
  | (host, record) :: entries =>
      match records.add host record with
      | .error failure => .error failure
      | .ok records => addAll records entries

/-- Give up the record of a name, and return it. -/
def remove (host : Text) (records : LocalRecords) : LocalRecords × Option Text :=
  let name := Domain.normal host
  (records.erase name, records.get? name)

/-- The domains around a name, the smallest first. -/
def enclosing : Text → List Text
  | [] => []
  | c :: rest => if c = '.' then rest :: enclosing rest else enclosing rest

/-- The record for a domain. -/
def find? (records : LocalRecords) (domain : Text) : Option Text :=
  let name := Domain.normal domain
  records.get? name
    <|> (enclosing name).findSome? fun outer => records.get? ("*.".toList ++ outer)

/-- Local records as a source for checks. -/
def source (records : LocalRecords) : RecordSource :=
  records.find?

end LocalRecords

/-- A source that has text for exactly the listed domains. -/
def RecordSource.ofList (texts : List (Text × Text)) : RecordSource :=
  fun domain => texts.lookup domain

end SenderPolicy
