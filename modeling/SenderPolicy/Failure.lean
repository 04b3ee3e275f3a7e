import SenderPolicy.Address.Basic
import SenderPolicy.Verdict

/-!
# Failures

`Failure` lists every cause for which reading a record, expanding a macro text or running
a check can break off. `Failure.code` says which result a check has when nothing handles
the failure, and `Failure.message` is its wording.
-/

namespace SenderPolicy

/-- A cause for which work on a policy breaks off. -/
inductive Failure where
  /-- The text denotes no address. -/
  | notAnAddress (text : Text)
  /-- The address is of the other family. -/
  | wrongFamily (expected : Family) (text : Text)
  /-- No address question may ask for this name. -/
  | notAHostName (name : Text)
  /-- The text does not announce version 1 of the policy language. -/
  | notARecord (text : Text)
  /-- The record holds nothing but its version. -/
  | emptyRecord
  /-- The text is no term of a record. -/
  | notATerm (text : Text)
  /-- A term was recognised, but no kind of term has captured any of it. -/
  | unknownTerm (text : Text)
  /-- What was recognised as a modifier was made into something else. -/
  | unknownModifier (text : Text)
  /-- What was recognised as a directive was made into something else. -/
  | unknownMechanism (text : Text)
  /-- What stands before a mechanism is no sign of a qualifier. -/
  | invalidQualifier (sign : Text)
  /-- A term was recognised without a part that it cannot do without. -/
  | missingPart (term : Text)
  /-- A reserved modifier name stands before text that is no domain specification. -/
  | reservedModifier (name : Text)
  /-- A modifier that may occur once occurs again. -/
  | repeatedModifier (name : Text)
  /-- The prefix length is no number or exceeds the family's width. -/
  | prefixLength (family : Family) (text : Text)
  /-- The text is no domain specification. -/
  | notADomainSpec (text : Text)
  /-- Characters that start no token stand before others that do. -/
  | unreadableMiddle (before gap after text : Text)
  /-- Characters that start no token stand at the end. -/
  | unreadableEnd (rest : Text)
  /-- There is nothing between the braces of a cell. -/
  | emptyCell
  /-- The letter of a macro has no value in this place. -/
  | letterNotAllowed (cell : Text)
  /-- The letter of a macro may stand in this place, but there is no value for it. -/
  | unknownCommand (letter : Char)
  /-- A macro asks for its last zero parts. -/
  | zeroParts
  /-- A macro asks for more parts than can be counted. -/
  | tooManyParts (digits : Text)
  /-- A domain specification still needs the client's domain. -/
  | unexpandable (spec : Text)
  /-- An explanation still needs the client's domain. -/
  | unexpandableExplanation
  /-- More terms ask the DNS than one check may evaluate. -/
  | tooManyLookups (count : Nat)
  /-- A domain has more mail exchangers than one mechanism may ask for. -/
  | tooManyExchangers (limit : Nat)
  /-- One answer holds several records. -/
  | severalRecords
  /-- The two kinds of record questions have different answers. -/
  | recordsDiffer
  /-- The domain is not fully qualified. -/
  | notFullyQualified (domain : Text)
  /-- No source has a record for the domain. -/
  | noRecordFound (domain : Text)
  /-- The target of a redirect has no record. -/
  | redirectWithoutRecord (cause : Failure)
  /-- A record is to be evaluated before one is at hand. -/
  | recordNotParsed
  /-- The client's address is needed but not known. -/
  | noClientAddress (text : Text)
  /-- A question for a record was not answered. -/
  | recordUnanswered (domain : Text)
  /-- A question of a mechanism was not answered. -/
  | unanswered (reason : Text)
deriving DecidableEq

namespace Failure

/-- The result of a check that ends in this failure. -/
def code : Failure → ResultCode
  | .notAHostName _ => .none
  | .notARecord _ => .none
  | .notFullyQualified _ => .none
  | .noRecordFound _ => .none
  | .emptyRecord => .neutral
  | .recordUnanswered _ => .tempError
  | .unanswered _ => .tempError
  | _ => .permError

/-- The wording of a failure. -/
def message : Failure → Text
  | .notAnAddress text => "Not a valid address: ".toList ++ text
  | .wrongFamily .ip4 text => "Not an IPv4 address: ".toList ++ text
  | .wrongFamily .ip6 text => "Not an IPv6 address: ".toList ++ text
  | .notAHostName name => "Invalid hostname: ".toList ++ name
  | .notARecord text => "No valid SPF Record: ".toList ++ text
  | .emptyRecord => "Empty SPF Record".toList
  | .notATerm text => "Term [".toList ++ text ++ "] is not syntactically valid".toList
  | .unknownTerm text => "Unknown term: ".toList ++ text
  | .unknownModifier text => "Unknown modifier: ".toList ++ text
  | .unknownMechanism text => "Unknown mechanism: ".toList ++ text
  | .invalidQualifier sign => "Invalid qualifier: ".toList ++ sign
  | .missingPart term => "Missing domain for ".toList ++ term
  | .reservedModifier name => "Invalid ".toList ++ name ++ " modifier".toList
  | .repeatedModifier name =>
      "More than one ".toList ++ name ++ " found in SPF-Record".toList
  | .prefixLength family text =>
      "Invalid ".toList ++ family.title ++ " CIDR length: ".toList ++ text
  | .notADomainSpec text => "Invalid DomainSpec: ".toList ++ text
  | .unreadableMiddle before gap after text =>
      "Middle part does not match: ".toList ++ before ++ ">>".toList ++ gap
        ++ "<<".toList ++ after ++ " [".toList ++ text ++ "]".toList
  | .unreadableEnd rest => "End part does not match: ".toList ++ rest
  | .emptyCell => "Empty macro cell".toList
  | .letterNotAllowed cell => "MacroLetter not found: ".toList ++ cell
  | .unknownCommand letter => "Unknown command : ".toList ++ [letter]
  | .zeroParts => "Digit transformer must be non-zero".toList
  | .tooManyParts digits => "Invalid digit transformer: ".toList ++ digits
  | .unexpandable spec => "Unable to expand ".toList ++ spec
  | .unexpandableExplanation => "Unable to expand explanation".toList
  | .tooManyLookups count =>
      "Maximum mechanism/modifiers calls done: ".toList ++ Text.ofNat count
  | .tooManyExchangers limit =>
      "Maximum MX lookups reached (".toList ++ Text.ofNat limit ++ ")".toList
  | .severalRecords => "More than 1 SPF record found".toList
  | .recordsDiffer => "Published SPF records not equals".toList
  | .notFullyQualified domain => "Not a valid domain: ".toList ++ domain
  | .noRecordFound domain => "No SPF record found for host: ".toList ++ domain
  | .redirectWithoutRecord cause =>
      "Redirect target has no SPF record: ".toList ++ cause.message
  | .recordNotParsed => "No parsed SPF record to evaluate".toList
  | .noClientAddress text => "No valid client address: ".toList ++ text
  | .recordUnanswered domain => "Timeout querying dns for ".toList ++ domain
  | .unanswered reason => "Timeout querying dns server for ".toList ++ reason

/-- A failure in one line: its result and its wording. -/
def line (failure : Failure) : Text :=
  failure.code.name ++ ": ".toList ++ failure.message

end Failure

end SenderPolicy
