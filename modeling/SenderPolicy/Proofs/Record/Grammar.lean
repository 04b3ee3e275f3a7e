import Mathlib.Data.List.Forall2
import SenderPolicy.Proofs.Address.Grammar
import SenderPolicy.Proofs.Macro.Grammar
import SenderPolicy.Proofs.Record.Readers

/-!
# The grammar of records

A term is spelled by a name in any letter case and by what may follow it. `SpellsTerm`
derives terms from their texts, part by part, and says nothing about how text is searched or
split. `HoldsTerms` says how the texts of terms stand in the text of a record, and `Spells` puts
the terms together to a record: one term for each text, and no modifier twice that may stand
only once.
-/

namespace SenderPolicy.Record

/-- Nothing, or a domain specification after a colon. -/
inductive SpellsDomain : Text → Option Text → Prop where
  | absent : SpellsDomain [] none
  | present {spec} (domain : Macro.IsDomainText spec) : SpellsDomain (':' :: spec) (some spec)

/-- Nothing, which means all bits of the family, or a prefix length after its marks. -/
inductive SpellsLength (family : Family) (marks : Text) : Text → Nat → Prop where
  | absent : SpellsLength family marks [] family.width
  | present {length} (bounded : length ≤ family.width) :
      SpellsLength family marks (marks ++ Text.ofNat length) length

/-- What may follow the name of a mechanism that compares address records. -/
inductive SpellsTarget : Text → Option Text → PrefixLengths → Prop where
  | intro {domainText ip4Text ip6Text domain ip4 ip6}
      (named : SpellsDomain domainText domain) (first : SpellsLength .ip4 ['/'] ip4Text ip4)
      (second : SpellsLength .ip6 ['/', '/'] ip6Text ip6) :
      SpellsTarget (domainText ++ ip4Text ++ ip6Text) domain ⟨ip4, ip6⟩

/-- A mechanism as it may be written. -/
inductive SpellsMechanism : Text → Mechanism → Prop where
  | all {name} (named : Text.lower name = "all".toList) : SpellsMechanism name .all
  | «include» {name spec} (named : Text.lower name = "include".toList)
      (domain : Macro.IsDomainText spec) : SpellsMechanism (name ++ ':' :: spec) (.include spec)
  | a {name rest domain lengths} (named : Text.lower name = "a".toList)
      (target : SpellsTarget rest domain lengths) :
      SpellsMechanism (name ++ rest) (.a domain lengths)
  | mx {name rest domain lengths} (named : Text.lower name = "mx".toList)
      (target : SpellsTarget rest domain lengths) :
      SpellsMechanism (name ++ rest) (.mx domain lengths)
  | ptr {name rest domain} (named : Text.lower name = "ptr".toList)
      (target : SpellsDomain rest domain) : SpellsMechanism (name ++ rest) (.ptr domain)
  | network {name literal rest address length}
      (named : Text.lower name = address.family.title.lower)
      (denotes : Address.IsLiteral literal address)
      (counts : SpellsLength address.family ['/'] rest length) :
      SpellsMechanism (name ++ ':' :: (literal ++ rest))
        (.network (Network.ofAddress address length))
  | «exists» {name spec} (named : Text.lower name = "exists".toList)
      (domain : Macro.IsDomainText spec) : SpellsMechanism (name ++ ':' :: spec) (.exists spec)

/-- A mechanism, possibly after the sign of a qualifier. -/
inductive SpellsDirective : Text → Directive → Prop where
  | plain {text mechanism} (spelled : SpellsMechanism text mechanism) :
      SpellsDirective text ⟨.pass, mechanism⟩
  | signed {text mechanism} (qualifier : Qualifier) (spelled : SpellsMechanism text mechanism) :
      SpellsDirective (qualifier.sign :: text) ⟨qualifier, mechanism⟩

/-- A name, an equals sign and a value. -/
inductive SpellsModifier : Text → Modifier → Prop where
  | redirect {name spec} (named : Text.lower name = "redirect".toList)
      (domain : Macro.IsDomainText spec) : SpellsModifier (name ++ '=' :: spec) (.redirect spec)
  | exp {name spec} (named : Text.lower name = "exp".toList)
      (domain : Macro.IsDomainText spec) : SpellsModifier (name ++ '=' :: spec) (.exp spec)
  | unknown {name tokens} (named : isModifierName name = true)
      (free : Text.lower name ∉ reservedNames) (plain : Macro.ArePlain tokens) :
      SpellsModifier (name ++ '=' :: Macro.textOf tokens) (.unknown name (Macro.textOf tokens))

/-- A term as it may be written. -/
inductive SpellsTerm : Text → Term → Prop where
  | directive {text directive} (spelled : SpellsDirective text directive) :
      SpellsTerm text (.directive directive)
  | modifier {text modifier} (spelled : SpellsModifier text modifier) :
      SpellsTerm text (.modifier modifier)

/-- The directive that a term is. -/
def Term.directive? : Term → Option Directive
  | .directive found => some found
  | .modifier _ => none

/-- The modifier that a term is. -/
def Term.modifier? : Term → Option Modifier
  | .directive _ => none
  | .modifier found => some found

/-- The record of terms, each kind in the order of the text. -/
def ofTerms (terms : List Term) : Record :=
  ⟨terms.filterMap Term.directive?, terms.filterMap Term.modifier?⟩

/-- A modifier that hands over to another record. -/
def isRedirect : Modifier → Bool
  | .redirect _ => true
  | _ => false

/-- A modifier that explains. -/
def isExp : Modifier → Bool
  | .exp _ => true
  | _ => false

/-- The text of a record holds the texts of its terms: texts without spaces follow the version,
each after a space, and the terms are those of them that are not empty. -/
inductive HoldsTerms : Text → List Text → Prop where
  | intro {name pieces} (named : Text.lower name = version)
      (free : ∀ piece ∈ pieces, ' ' ∉ piece) :
      HoldsTerms (name ++ ' ' :: Text.join [' '] pieces) (pieces.filter (· ≠ []))

/-- Texts spell a record: each of them spells a term, and there is at most one redirect and
at most one explanation. -/
structure Spells (texts : List Text) (record : Record) : Prop where
  terms : ∃ terms, List.Forall₂ SpellsTerm texts terms ∧ record = ofTerms terms
  redirects : record.modifiers.countP isRedirect ≤ 1
  explanations : record.modifiers.countP isExp ≤ 1

end SenderPolicy.Record
