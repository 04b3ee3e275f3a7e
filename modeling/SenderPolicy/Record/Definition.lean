import SenderPolicy.Failure
import SenderPolicy.Macro.DomainSpec
import SenderPolicy.Record.Term

/-!
# Kinds of terms

There are three kinds of modifiers and eight kinds of mechanisms. Each kind has a shape,
with groups that capture the parts of a text of this shape (`Kind.capture?`), and makes a
modifier or a mechanism of the captured parts (`Kind.build`). Only then are numbers and
addresses read, so text of the wrong shape and text with a wrong number fail differently.
The shapes of octets and prefix lengths allow any decimal digit, their numbers only ASCII
ones.

Shapes are recognised directly, not by searching for a pattern: a part that takes as much
as it can ends at the last place where the rest still fits.
-/

namespace SenderPolicy.Record

/-- A letter of a name against a character, letter case apart; the long `s` is an `s`. -/
def isLetter (letter c : Char) : Bool :=
  c.toLower == letter || (letter == 's' && c == 'ſ')

/-- What follows a name, if text starts with it in any letter case. -/
def dropName? : Text → Text → Option Text
  | [], text => some text
  | _ :: _, [] => none
  | letter :: name, c :: text => if isLetter letter c then dropName? name text else none

/-- A domain specification after a colon. -/
def readSpec? : Text → Option Text
  | ':' :: spec => if Macro.isDomainSpec spec then some spec else none
  | _ => none

/-- Nothing, or a domain specification after a colon. -/
def readOptionalSpec? (text : Text) : Option (Option Text) :=
  if text = [] then some none else (readSpec? text).map some

/-! ## Shapes of numbers and addresses -/

/-- The shape of a prefix length: a zero, or digits that start with none. -/
def isLengthShape : Text → Bool
  | [] => false
  | ['0'] => true
  | first :: rest => '1' ≤ first && first ≤ '9' && rest.all isDecimalDigit

/-- The shape of an octet: at most 255, without leading zeros. -/
def isOctetShape : Text → Bool
  | [units] => isDecimalDigit units
  | [tens, units] => '1' ≤ tens && tens ≤ '9' && isDecimalDigit units
  | ['1', tens, units] => isDecimalDigit tens && isDecimalDigit units
  | ['2', '5', units] => '0' ≤ units && units ≤ '5'
  | ['2', tens, units] => '0' ≤ tens && tens ≤ '4' && isDecimalDigit units
  | _ => false

/-- The shape of an address literal of a family. -/
def isAddressShape : Family → Text → Bool
  | .ip4, text =>
      let octets := Text.split (· = '.') text
      octets.length = 4 && octets.all isOctetShape
  | .ip6, text =>
      text ≠ [] && text.all fun c => (hexValue? c).isSome || c == ':' || c == '.'

/-- Text before a prefix length at its end, and the prefix length. -/
def splitLength (text : Text) : Text × Option Text :=
  match Text.splitAtLast '/' text with
  | some (before, length) => if isLengthShape length then (before, some length) else (text, none)
  | none => (text, none)

/-- Text before the prefix lengths at its end, and the lengths for both families: one
slash introduces the first of them, two slashes the second. -/
def splitLengths (text : Text) : Text × Option Text × Option Text :=
  match splitLength text with
  | (before, some length) =>
      match Text.splitAtLast '/' before with
      | some (front, []) =>
          let (rest, first) := splitLength front
          (rest, first, some length)
      | _ => (before, some length, none)
  | (_, none) => (text, none, none)

/-- A letter, then letters, digits, hyphens, underscores and dots. -/
def isModifierName : Text → Bool
  | [] => false
  | first :: rest =>
      first.isAlpha && rest.all fun c => c.isAlphanum || c == '-' || c == '_' || c == '.'

/-! ## Kinds and their groups -/

/-- A kind of term. -/
inductive Kind where
  | redirect
  | exp
  /-- A modifier by any other name. -/
  | unknown
  | all
  | «include»
  | a
  | mx
  | ptr
  | ip4
  | ip6
  | «exists»
deriving DecidableEq

/-- The kinds of modifiers, in the order in which they are tried. -/
def modifierKinds : List Kind := [.redirect, .exp, .unknown]

/-- The kinds of mechanisms, in the order in which they are tried. -/
def mechanismKinds : List Kind := [.all, .include, .a, .mx, .ptr, .ip4, .ip6, .exists]

/-- A name and a domain specification, which is captured. -/
def captureSpec? (name text : Text) : Option (List (Option Text)) :=
  ((dropName? name text).bind readSpec?).map fun spec => [some spec]

/-- A name, possibly a domain specification, and possibly prefix lengths. -/
def captureTarget? (name text : Text) : Option (List (Option Text)) :=
  (dropName? name text).bind fun rest =>
    let (front, ip4, ip6) := splitLengths rest
    (readOptionalSpec? front).map fun spec => [spec, ip4, ip6]

/-- The family's name, a colon, an address literal, and possibly a prefix length. -/
def captureNetwork? (family : Family) (text : Text) : Option (List (Option Text)) :=
  (dropName? (family.title.lower ++ [':']) text).bind fun rest =>
    let (address, length) := splitLength rest
    if isAddressShape family address then some [some address, length] else none

/-- A name of a modifier, an equals sign, and a domain specification. -/
def captureValue? (name text : Text) : Option (List (Option Text)) :=
  (Text.splitAtFirst '=' text).bind fun (front, value) =>
    if front.lower = name && Macro.isDomainSpec value then some [some value] else none

/-- Any name of a modifier, an equals sign, and macro text. -/
def captureUnknown? (text : Text) : Option (List (Option Text)) :=
  (Text.splitAtFirst '=' text).bind fun (name, value) =>
    if isModifierName name && Macro.isMacroString value then
      some [some name, some value]
    else
      none

namespace Kind

/-- The number of groups of a kind. -/
def groupCount : Kind → Nat
  | .all => 0
  | .redirect | .exp | .include | .ptr | .exists => 1
  | .unknown | .ip4 | .ip6 => 2
  | .a | .mx => 3

/-- What the groups of a kind capture, if text has the shape of the kind. -/
def capture? : Kind → Text → Option (List (Option Text))
  | .redirect, text => captureValue? "redirect".toList text
  | .exp, text => captureValue? "exp".toList text
  | .unknown, text => captureUnknown? text
  | .all, text => if dropName? "all".toList text = some [] then some [] else none
  | .include, text => captureSpec? "include".toList text
  | .a, text => captureTarget? "a".toList text
  | .mx, text => captureTarget? "mx".toList text
  | .ptr, text =>
      ((dropName? "ptr".toList text).bind readOptionalSpec?).map fun spec => [spec]
  | .ip4, text => captureNetwork? .ip4 text
  | .ip6, text => captureNetwork? .ip6 text
  | .exists, text => captureSpec? "exists".toList text

end Kind

/-! ## What kinds make of their groups -/

/-- What a kind of term makes. -/
inductive Made where
  | mechanism (mechanism : Mechanism)
  | modifier (modifier : Modifier)
deriving DecidableEq

/-- What the group with this number has captured. -/
def group? (groups : List (Option Text)) (number : Nat) : Option Text :=
  groups[number]?.join

/-- What a group has captured that a term cannot do without. -/
def required (groups : List (Option Text)) (number : Nat) (term : Text) : Except Failure Text :=
  match group? groups number with
  | some text => .ok text
  | none => .error (.missingPart term)

/-- The prefix length that text asks for; without text, all bits of the family. -/
def readLength (family : Family) : Option Text → Except Failure Nat
  | none => .ok family.width
  | some text =>
      match Text.toNat? text with
      | some length =>
          if length ≤ family.width then .ok length else .error (.prefixLength family text)
      | none => .error (.prefixLength family text)

/-- The address of a family that text denotes. -/
def readAddress (family : Family) (text : Text) : Except Failure Address :=
  match Address.read text with
  | .error failure => .error failure
  | .ok address =>
      if address.family = family then .ok address else .error (.wrongFamily family text)

/-- The prefix lengths of a mechanism that compares address records. -/
def readLengths (ip4 ip6 : Option Text) : Except Failure PrefixLengths :=
  match readLength .ip4 ip4 with
  | .error failure => .error failure
  | .ok ip4 => (readLength .ip6 ip6).map fun ip6 => ⟨ip4, ip6⟩

/-- The address and the prefix length of a network; the length is read first. -/
def readNetworkParts (family : Family) (address : Text) (length : Option Text) :
    Except Failure Mechanism :=
  match readLength family length with
  | .error failure => .error failure
  | .ok length =>
      (readAddress family address).map fun address => .network (Network.ofAddress address length)

/-- A term that is made of a domain specification alone. -/
def buildSpec (make : Text → Made) (term : Text) (groups : List (Option Text)) :
    Except Failure Made :=
  (required groups 0 term).map make

/-- A mechanism that compares address records. -/
def buildTarget (make : Option Text → PrefixLengths → Mechanism) (groups : List (Option Text)) :
    Except Failure Made :=
  (readLengths (group? groups 1) (group? groups 2)).map fun lengths =>
    .mechanism (make (group? groups 0) lengths)

/-- A network of a family. -/
def buildNetwork (family : Family) (groups : List (Option Text)) : Except Failure Made :=
  match required groups 0 family.title.lower with
  | .error failure => .error failure
  | .ok address => (readNetworkParts family address (group? groups 1)).map .mechanism

/-- The names of the modifiers that have an effect. -/
def reservedNames : List Text :=
  ["redirect".toList, "exp".toList]

/-- A modifier without an effect, unless its name is one of those that have. -/
def buildUnknown (groups : List (Option Text)) : Except Failure Made :=
  match required groups 0 "modifier".toList with
  | .error failure => .error failure
  | .ok name =>
      if reservedNames.contains name.lower then
        .error (.reservedModifier name)
      else
        .ok (.modifier (.unknown name ((group? groups 1).getD [])))

/-- What a kind makes of what its groups have captured. -/
def Kind.build : Kind → List (Option Text) → Except Failure Made
  | .redirect, groups => buildSpec (.modifier <| .redirect ·) "redirect".toList groups
  | .exp, groups => buildSpec (.modifier <| .exp ·) "exp".toList groups
  | .unknown, groups => buildUnknown groups
  | .all, _ => .ok (.mechanism .all)
  | .include, groups => buildSpec (.mechanism <| .include ·) "include".toList groups
  | .a, groups => buildTarget .a groups
  | .mx, groups => buildTarget .mx groups
  | .ptr, groups => .ok (.mechanism (.ptr (group? groups 0)))
  | .ip4, groups => buildNetwork .ip4 groups
  | .ip6, groups => buildNetwork .ip6 groups
  | .exists, groups => buildSpec (.mechanism <| .exists ·) "exists".toList groups

end SenderPolicy.Record
