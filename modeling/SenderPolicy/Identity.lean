import SenderPolicy.Address.Printer
import SenderPolicy.Domain.Ascii

/-!
# Identities

An identity is what a check is about: a client address, an envelope sender and the name
given in the greeting, and the time at which they were given. A sender without a local part
is taken for the postmaster, and an empty sender for the postmaster of the greeting name.
-/

namespace SenderPolicy

/-- The local part of senders that have none. -/
def postmaster : Text := "postmaster".toList

/-- A client address, an envelope sender and a greeting name, read for a check. -/
structure Identity where
  /-- The client address as text; a mapped address in octets. -/
  addressText : Text
  /-- The client address, unless the text denotes none. -/
  client : Option Address
  /-- The envelope sender, or the postmaster of the greeting name. -/
  sender : Text
  localPart : Text
  /-- The domain of the sender in ASCII form. -/
  domain : Text
  helo : Text
  /-- The time of the check, in seconds. -/
  timestamp : Nat
deriving DecidableEq

namespace Identity

/-- The parts of a sender: its text, its local part and its domain. -/
def splitSender (sender helo : Text) : Text × Text × Text :=
  if sender = [] then
    (postmaster ++ '@' :: helo, postmaster, helo)
  else
    match Text.splitAtLast '@' sender with
    | some ([], domain) => (sender, postmaster, domain)
    | some (localPart, domain) => (sender, localPart, domain)
    | none => (sender, postmaster, sender)

/-- The identity of a client address, an envelope sender and a greeting name, blanks at
their ends apart. The sender's domain is brought into ASCII by a conversion. -/
def read (address sender helo : Text) (conversion : Domain.Conversion := Domain.asciiForm?)
    (timestamp : Nat := 0) : Identity :=
  let helo := helo.trim
  let (sender, localPart, domain) := splitSender sender.trim helo
  let clientText := Address.clientText? address
  { addressText := clientText.getD address.trim
    client := clientText.bind Address.read?
    sender
    localPart
    domain := Domain.toAscii conversion domain
    helo
    timestamp }

/-- The zone label of the client's family; that of IPv4 without a client address. -/
def familyLabel (identity : Identity) : Text :=
  ((identity.client.map Address.family).getD .ip4).label

/-- The client address with an IPv6 address in single digits, as names need it. -/
def addressLabels (identity : Identity) : Text :=
  match identity.client with
  | some client => client.dottedLabels
  | none => identity.addressText

/-- The client address in its standard form. -/
def readableAddress (identity : Identity) : Text :=
  Address.standardText identity.addressText

end Identity

end SenderPolicy
