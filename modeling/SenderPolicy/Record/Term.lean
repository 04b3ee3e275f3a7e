import SenderPolicy.Address.Network
import SenderPolicy.Verdict

/-!
# Records

A record is a list of directives, which are tried in order, and a list of modifiers,
which take effect afterwards. A directive is a mechanism, which matches a client or does
not, with the qualifier that a match decides.

`Record.text` writes a record in its standard spelling.
-/

namespace SenderPolicy

/-- The prefix lengths, one for each family, under which address records are compared. -/
structure PrefixLengths where
  ip4 : Nat
  ip6 : Nat
deriving DecidableEq

namespace PrefixLengths

/-- Whole addresses are compared. -/
def full : PrefixLengths := ⟨Family.ip4.width, Family.ip6.width⟩

/-- The length for addresses of a family. -/
def ofFamily (lengths : PrefixLengths) : Family → Nat
  | .ip4 => lengths.ip4
  | .ip6 => lengths.ip6

/-- The lengths as written after a mechanism; full lengths are not written. -/
def text (lengths : PrefixLengths) : Text :=
  (if lengths.ip4 = full.ip4 then [] else '/' :: Text.ofNat lengths.ip4)
    ++ (if lengths.ip6 = full.ip6 then [] else "//".toList ++ Text.ofNat lengths.ip6)

end PrefixLengths

/-- A test that a client passes or not. Domains are specifications still to be expanded;
a mechanism without one means the domain under evaluation. -/
inductive Mechanism where
  /-- Every client. -/
  | all
  /-- The clients that another domain's record lets pass. -/
  | include (domain : Text)
  /-- The clients among the addresses of a domain. -/
  | a (domain : Option Text) (lengths : PrefixLengths)
  /-- The clients among the addresses of a domain's mail exchangers. -/
  | mx (domain : Option Text) (lengths : PrefixLengths)
  /-- The clients with a confirmed host name within a domain. -/
  | ptr (domain : Option Text)
  /-- The clients of a network. -/
  | network (network : Network)
  /-- Every client, if a domain has an IPv4 address. -/
  | exists (domain : Text)
deriving DecidableEq

namespace Mechanism

/-- The name of a mechanism. -/
def name : Mechanism → Text
  | .all => "all".toList
  | .include _ => "include".toList
  | .a _ _ => "a".toList
  | .mx _ _ => "mx".toList
  | .ptr _ => "ptr".toList
  | .network range => range.address.family.title.lower
  | .exists _ => "exists".toList

/-- The domain specification, if there is one. -/
def domain? : Mechanism → Option Text
  | .include domain | .exists domain => some domain
  | .a domain _ | .mx domain _ | .ptr domain => domain
  | .all | .network _ => none

/-- The prefix lengths of a mechanism that compares address records. -/
def lengths? : Mechanism → Option PrefixLengths
  | .a _ lengths | .mx _ lengths => some lengths
  | _ => none

/-- The network of a mechanism that names one. -/
def network? : Mechanism → Option Network
  | .network range => some range
  | _ => none

/-- The mechanism asks the DNS, so it counts against the limit of a check. -/
def asksDns : Mechanism → Bool
  | .all | .network _ => false
  | _ => true

/-- A mechanism in its standard spelling. -/
def text (mechanism : Mechanism) : Text :=
  let domain :=
    match mechanism.domain? with
    | some domain => ':' :: domain
    | none => []
  let lengths := (mechanism.lengths?.map PrefixLengths.text).getD []
  let network :=
    match mechanism.network? with
    | some range => ':' :: range.text
    | none => []
  mechanism.name ++ domain ++ lengths ++ network

end Mechanism

/-- A mechanism and what its match decides. -/
structure Directive where
  qualifier : Qualifier
  mechanism : Mechanism
deriving DecidableEq

/-- A directive in its standard spelling. -/
def Directive.text (directive : Directive) : Text :=
  directive.qualifier.sign :: directive.mechanism.text

/-- A term that takes effect after the directives. -/
inductive Modifier where
  /-- Another domain's record decides, if no directive has. -/
  | redirect (domain : Text)
  /-- A domain publishes an explanation for failing clients. -/
  | exp (domain : Text)
  /-- A modifier without an effect. -/
  | unknown (name value : Text)
deriving DecidableEq

namespace Modifier

/-- The name of a modifier. -/
def name : Modifier → Text
  | .redirect _ => "redirect".toList
  | .exp _ => "exp".toList
  | .unknown name _ => name

/-- What follows the equals sign. -/
def value : Modifier → Text
  | .redirect domain => domain
  | .exp domain => domain
  | .unknown _ value => value

/-- The modifier may occur once in a record. -/
def isSingle : Modifier → Bool
  | .unknown _ _ => false
  | _ => true

/-- Two modifiers that may not stand in one record. -/
def excludes : Modifier → Modifier → Bool
  | .redirect _, .redirect _ => true
  | .exp _, .exp _ => true
  | _, _ => false

/-- A modifier in its standard spelling. -/
def text (modifier : Modifier) : Text :=
  modifier.name ++ '=' :: modifier.value

end Modifier

/-- The directives and modifiers of a policy. -/
structure Record where
  directives : List Directive
  modifiers : List Modifier
deriving DecidableEq

namespace Record

/-- The version that every record starts with. -/
def version : Text := "v=spf1".toList

/-- A record in its standard spelling: directives first, then modifiers. -/
def text (record : Record) : Text :=
  version
    ++ record.directives.flatMap (fun directive => ' ' :: directive.text)
    ++ record.modifiers.flatMap (fun modifier => ' ' :: modifier.text)

/-- The record with one more directive in front of its last one. -/
def insertBeforeLast (record : Record) (directive : Directive) : Record :=
  { record with
    directives := record.directives.dropLast ++ directive :: record.directives.getLast?.toList }

end Record

end SenderPolicy
