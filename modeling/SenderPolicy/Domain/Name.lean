import SenderPolicy.Text.Blank

/-!
# Domain names

Three readings of a name are needed. `isFullyQualified` is the shape a sender domain must
have to be checked at all; `isHostName` is what an address question may ask for; and
`normal` is the form under which names are compared, so that letter case and the dots
at the end of a name do not matter.
-/

namespace SenderPolicy.Domain

/-- Characters inside the last label of a name. -/
def isLabelCharacter (c : Char) : Bool :=
  c.isAlphanum || c == '-'

/-- A last label: letters and digits with at least one letter, or such a label with inner
hyphens, which then may consist of digits. -/
def isTopLabel (label : Text) : Bool :=
  (label.all Char.isAlphanum && label.any Char.isAlpha)
    || (label.all isLabelCharacter && label.any (· == '-')
      && (label.head?.map Char.isAlphanum).getD false
      && (label.getLast?.map Char.isAlphanum).getD false)

/-- The characters at the ends of an inner label. -/
def isEndCharacter (c : Char) : Bool :=
  c.isAlphanum || c == '_'

/-- An inner label: letters, digits, hyphens and underscores, without a hyphen at an end. -/
def isLabel (label : Text) : Bool :=
  label.all (fun c => isEndCharacter c || c == '-')
    && (label.head?.map isEndCharacter).getD false
    && (label.getLast?.map isEndCharacter).getD false

/-- Inner labels followed by one last label. -/
def areQualifiedLabels : List Text → Bool
  | [] => false
  | [_] => false
  | [label, top] => isLabel label && isTopLabel top
  | label :: labels => isLabel label && areQualifiedLabels labels

/-- At least two labels; one dot may follow the last. -/
def isFullyQualified (name : Text) : Bool :=
  areQualifiedLabels (Text.split (· = '.') (Text.dropEndDot name))

/-- Visible ASCII characters. -/
def isGraphic (c : Char) : Bool :=
  0x21 ≤ c.toNat && c.toNat ≤ 0x7E

/-- A label that an address question may hold: 1 to 63 visible ASCII characters. -/
def isHostLabel (label : Text) : Bool :=
  label ≠ [] && label.byteLength ≤ 63 && label.all isGraphic

/-- A name that an address question may ask for: at most 253 bytes, one dot at the end
apart. -/
def isHostName (name : Text) : Bool :=
  let inner := Text.dropEndDot name
  inner ≠ [] && inner.byteLength ≤ 253 && (Text.split (· = '.') inner).all isHostLabel

/-- The form under which names are compared: without blanks around it or dots at its end,
in lower case. -/
def normal (name : Text) : Text :=
  name.trim.dropEndDots.lower

/-- A name is a domain's own name or the name of something inside it. -/
def isWithin (name domain : Text) : Bool :=
  let inner := (Text.dropEndDots name).lower
  let outer := (Text.dropEndDots domain).lower
  inner = outer || ('.' :: outer).isSuffixOf inner

end SenderPolicy.Domain
