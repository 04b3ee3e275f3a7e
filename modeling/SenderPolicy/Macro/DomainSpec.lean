import SenderPolicy.Domain.Name
import SenderPolicy.Macro.Token

/-!
# Domain specifications

A domain specification is macro text that ends in a way a domain name can end: with an
escape or a cell, or with a last label after a dot and possibly one more dot.
-/

namespace SenderPolicy.Macro

/-- Escapes and cells begin with a percent sign; literals do not. -/
def Token.isExpansion : Token → Bool
  | .literal _ => false
  | _ => true

/-- The text ends in a dot, a last label, and possibly one more dot. -/
def endsInTopLabel (text : Text) : Bool :=
  match Text.splitAtLast '.' (Text.dropEndDot text) with
  | none => false
  | some (_, label) => Domain.isTopLabel label

/-- Macro text that can stand for a domain name. -/
def isDomainSpec (text : Text) : Bool :=
  match tokens? text with
  | none => false
  | some tokens => (tokens.getLast?.map Token.isExpansion).getD false || endsInTopLabel text

/-- Text made up of tokens. -/
def isMacroString (text : Text) : Bool :=
  (tokens? text).isSome

end SenderPolicy.Macro
