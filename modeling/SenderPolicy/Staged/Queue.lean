import SenderPolicy.Dns.Question

/-!
# The queue of responses

Responses leave the queue in the order in which they came. A closed queue still gives out
what it holds; after that its reader stops.
-/

namespace SenderPolicy.Staged

/-- An answer to the request with a number. -/
structure Response where
  id : Nat
  answer : Dns.Answer
deriving DecidableEq

/-- Responses that wait for their reader. -/
structure ResponseQueue where
  responses : List Response := []
  closed : Bool := false
deriving DecidableEq

namespace ResponseQueue

/-- Put a response at the end. -/
def insert (response : Response) (queue : ResponseQueue) : ResponseQueue :=
  { queue with responses := queue.responses ++ [response] }

/-- Take the response at the front, if there is one. -/
def remove? (queue : ResponseQueue) : Option (Response × ResponseQueue) :=
  match queue.responses with
  | [] => none
  | response :: responses => some (response, { queue with responses })

/-- Let the reader stop once nothing is left. -/
def close (queue : ResponseQueue) : ResponseQueue :=
  { queue with closed := true }

end ResponseQueue

end SenderPolicy.Staged
