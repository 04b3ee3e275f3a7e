import SenderPolicy.Dns.Question

/-!
# Zones

A zone answers questions from a list of what is known about names, compared in their
normal form. A name that is not listed has no records.
-/

namespace SenderPolicy.Dns

/-- What a zone knows about one name and type. -/
structure Zone.Entry where
  name : Text
  type : RecordType
  /-- The records, or nothing if the question is never answered. -/
  records : Option (List Text)

/-- A list of what is known; later entries count before earlier ones. -/
structure Zone where
  entries : List Zone.Entry

namespace Zone

/-- An entry is about the name and type of a question. -/
def Entry.isAbout (entry : Entry) (question : Question) : Bool :=
  Domain.normal entry.name = Domain.normal question.host && entry.type = question.type

/-- The answer to a question. One unanswered entry is enough to get no answer. -/
def answer (zone : Zone) (question : Question) : Answer :=
  let known := (zone.entries.filter (·.isAbout question)).map Entry.records
  if known.contains none then
    .timeout question.text
  else
    .records ((known.reverse.head?.getD none).getD [])

end Zone

end SenderPolicy.Dns
