import SenderPolicy.Record.Definition

/-!
# Reading records

`Record.read` reads the text of a record. A term is recognised by its shape as a whole, as
one of the kinds of modifiers or, behind a sign, one of the kinds of mechanisms. What the
groups of all kinds have captured is kept in one row, and the first group in it that has
captured something tells which kind the term is made by.
-/

namespace SenderPolicy.Record

/-! ## Recognising terms -/

/-- A group of the grammar after a term has been recognised: the kind it belongs to, and
what it has captured. -/
structure Group where
  owner : Option Kind
  captured : Option Text

/-- The groups of a kind that has captured nothing. Besides the kind's own there is one
around all of them. -/
def Kind.silentGroups (kind : Kind) : List Group :=
  List.replicate (kind.groupCount + 1) ⟨some kind, none⟩

/-- The groups of some kinds, of which at most one has captured anything. -/
def groupsOf (text : Text) (found : Option (Kind × List (Option Text))) (kinds : List Kind) :
    List Group :=
  kinds.flatMap fun kind =>
    match found with
    | some (owner, groups) =>
        if owner = kind then
          ⟨some kind, some text⟩ :: groups.map fun captured => ⟨some kind, captured⟩
        else
          kind.silentGroups
    | none => kind.silentGroups

/-- What the groups of the grammar have captured of a term. -/
structure Captures where
  whole : Text
  /-- The group around all kinds of modifiers. -/
  modifier : Option Text
  modifierGroups : List Group
  /-- The sign in front of a mechanism, which may be no text. -/
  qualifier : Option Text
  /-- The group around all kinds of mechanisms. -/
  mechanism : Option Text
  mechanismGroups : List Group

/-- The groups after the one around all kinds of modifiers. -/
def Captures.afterModifier (captures : Captures) : List Group :=
  captures.modifierGroups ++ ⟨none, captures.qualifier⟩ :: ⟨none, captures.mechanism⟩
    :: captures.mechanismGroups

/-- The first of some kinds whose shape text has, and what its groups capture. -/
def recognize? (kinds : List Kind) (text : Text) : Option (Kind × List (Option Text)) :=
  kinds.findSome? fun kind => (kind.capture? text).map (kind, ·)

/-- The signs of qualifiers. -/
def isSignShape (c : Char) : Bool :=
  c == '+' || c == '-' || c == '~' || c == '?'

/-- A sign, if text starts with one, and what follows. -/
def splitSign : Text → Text × Text
  | [] => ([], [])
  | c :: rest => if isSignShape c then ([c], rest) else ([], c :: rest)

/-- What the groups capture of a modifier. -/
def captureModifier (text : Text) (found : Kind × List (Option Text)) : Captures where
  whole := text
  modifier := some text
  modifierGroups := groupsOf text (some found) modifierKinds
  qualifier := none
  mechanism := none
  mechanismGroups := groupsOf text none mechanismKinds

/-- What the groups capture of a sign and a mechanism. -/
def captureDirective (text : Text) (found : Kind × List (Option Text)) : Captures where
  whole := text
  modifier := none
  modifierGroups := groupsOf text none modifierKinds
  qualifier := some (splitSign text).1
  mechanism := some (splitSign text).2
  mechanismGroups := groupsOf (splitSign text).2 (some found) mechanismKinds

/-- What the groups capture of text that has the shape of a term. -/
def capture? (text : Text) : Option Captures :=
  match recognize? modifierKinds text with
  | some found => some (captureModifier text found)
  | none => (recognize? mechanismKinds (splitSign text).2).map (captureDirective text)

/-! ## Terms -/

/-- A term of a record. -/
inductive Term where
  | directive (directive : Directive)
  | modifier (modifier : Modifier)
deriving DecidableEq

/-- What is made by the kind of the first group that has captured something. -/
def createTerm (whole : Text) : List Group → Except Failure Made
  | [] => .error (.unknownTerm whole)
  | group :: groups =>
      match group.owner, group.captured with
      | some kind, some _ => kind.build ((groups.take kind.groupCount).map Group.captured)
      | _, _ => createTerm whole groups

/-- The modifier of a term that was recognised as one. -/
def createModifier (captures : Captures) : Except Failure Modifier :=
  match createTerm captures.whole captures.afterModifier with
  | .error failure => .error failure
  | .ok (.modifier modifier) => .ok modifier
  | .ok (.mechanism _) => .error (.unknownModifier captures.whole)

/-- The directive of a term that was not recognised as a modifier. -/
def createDirective (captures : Captures) : Except Failure Directive :=
  let sign := captures.qualifier.getD []
  match Qualifier.read? sign with
  | none => .error (.invalidQualifier sign)
  | some qualifier =>
      match createTerm captures.whole captures.mechanismGroups with
      | .error failure => .error failure
      | .ok (.mechanism mechanism) => .ok ⟨qualifier, mechanism⟩
      | .ok (.modifier _) => .error (.unknownMechanism captures.whole)

/-- The term that text spells. -/
def Term.read (text : Text) : Except Failure Term :=
  match capture? text with
  | none => .error (.notATerm text)
  | some captures =>
      if captures.modifier.isSome then
        (createModifier captures).map .modifier
      else
        (createDirective captures).map .directive

/-! ## Records -/

/-- Put a term in front of a record. -/
def addFirst (record : Record) : Term → Record
  | .directive directive => { record with directives := directive :: record.directives }
  | .modifier modifier => { record with modifiers := modifier :: record.modifiers }

/-- The record of a list of terms, given the modifiers that stand before them. -/
def readTerms (earlier : List Modifier) : List Text → Except Failure Record
  | [] => .ok ⟨[], []⟩
  | text :: texts =>
      match Term.read text with
      | .error failure => .error failure
      | .ok (.directive directive) =>
          (readTerms earlier texts).map (addFirst · (.directive directive))
      | .ok (.modifier modifier) =>
          if earlier.any modifier.excludes then
            .error (.repeatedModifier modifier.name)
          else
            (readTerms (modifier :: earlier) texts).map (addFirst · (.modifier modifier))

/-- The version followed by a space. -/
def opening : Text := version ++ [' ']

/-- Text announces the version of the policy language, blanks at its start apart. -/
def announcesVersion (text : Text) : Bool :=
  let lower := text.trimStart.lower
  lower = version || opening.isPrefixOf lower

/-- The terms after the version. -/
def termTexts (text : Text) : List Text :=
  (Text.split (· = ' ') (text.drop version.length)).filter (· ≠ [])

/-- The record that text spells. -/
def read (text : Text) : Except Failure Record :=
  let trimmed := text.trim
  if trimmed.lower = version then
    .error .emptyRecord
  else if opening.isPrefixOf trimmed.lower then
    readTerms [] (termTexts trimmed)
  else
    .error (.notARecord text)

end SenderPolicy.Record
