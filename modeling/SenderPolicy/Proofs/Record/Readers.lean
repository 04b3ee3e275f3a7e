import SenderPolicy.Record.Parser

/-!
# Terms read kind by kind

Recognising a term fills the groups of all kinds, and the term is made by the kind of the
first group that has captured something. Since the groups of one kind only have captured
anything, and as many as the kind has, this is the kind that was recognised, and it finds
every part that it cannot do without. So a term can as well be read by one reader for each
kind, and none of the failures for terms of no kind, of the wrong one or with a part missing
comes up (`Term.read_eq`).
-/

namespace SenderPolicy.Record

/-! ## Readers

Each reader gives nothing for text of another shape, and else a mechanism or a modifier, or
the failure of one of its numbers, addresses or names. -/

/-- The mechanism `all`. -/
def readAll? (text : Text) : Option (Except Failure Mechanism) :=
  if dropName? "all".toList text = some [] then some (.ok .all) else none

/-- A name and a domain specification. -/
def readWithSpec? (name : Text) (make : Text → Mechanism) (text : Text) :
    Option (Except Failure Mechanism) :=
  ((dropName? name text).bind readSpec?).map fun spec => .ok (make spec)

/-- A name, possibly a domain specification, and possibly prefix lengths. -/
def readWithLengths? (name : Text) (make : Option Text → PrefixLengths → Mechanism)
    (text : Text) : Option (Except Failure Mechanism) :=
  (dropName? name text).bind fun rest =>
    let (front, ip4, ip6) := splitLengths rest
    (readOptionalSpec? front).map fun spec => (readLengths ip4 ip6).map (make spec)

/-- The mechanism `ptr`, possibly with a domain specification. -/
def readPtr? (text : Text) : Option (Except Failure Mechanism) :=
  ((dropName? "ptr".toList text).bind readOptionalSpec?).map fun spec => .ok (.ptr spec)

/-- The family's name, a colon, an address literal, and possibly a prefix length. -/
def readNetwork? (family : Family) (text : Text) : Option (Except Failure Mechanism) :=
  (dropName? (family.title.lower ++ [':']) text).bind fun rest =>
    let (address, length) := splitLength rest
    if isAddressShape family address then some (readNetworkParts family address length) else none

/-- The mechanism that text spells. -/
def readMechanism? (text : Text) : Option (Except Failure Mechanism) :=
  readAll? text
    <|> readWithSpec? "include".toList .include text
    <|> readWithLengths? "a".toList .a text
    <|> readWithLengths? "mx".toList .mx text
    <|> readPtr? text
    <|> readNetwork? .ip4 text
    <|> readNetwork? .ip6 text
    <|> readWithSpec? "exists".toList .exists text

/-- The qualifier that text starts with, and what follows it. -/
def readQualifier : Text → Qualifier × Text
  | [] => (.pass, [])
  | c :: rest =>
      match Qualifier.ofSign? c with
      | some qualifier => (qualifier, rest)
      | none => (.pass, c :: rest)

/-- The directive that text spells. -/
def readDirective? (text : Text) : Option (Except Failure Directive) :=
  let (qualifier, rest) := readQualifier text
  (readMechanism? rest).map fun mechanism => mechanism.map (⟨qualifier, ·⟩)

/-- The modifier that text spells. -/
def readModifier? (text : Text) : Option (Except Failure Modifier) :=
  (Text.splitAtFirst '=' text).bind fun (name, value) =>
    if name.lower = "redirect".toList && Macro.isDomainSpec value then
      some (.ok (.redirect value))
    else if name.lower = "exp".toList && Macro.isDomainSpec value then
      some (.ok (.exp value))
    else if isModifierName name && Macro.isMacroString value then
      if reservedNames.contains name.lower then
        some (.error (.reservedModifier name))
      else
        some (.ok (.unknown name value))
    else
      none

/-! ## Groups -/

/-- A kind captures as much as it has groups. -/
theorem Kind.length_of_capture? {kind : Kind} {text : Text} {groups : List (Option Text)}
    (captures : kind.capture? text = some groups) : groups.length = kind.groupCount := by
  have ofSpec : ∀ {name}, captureSpec? name text = some groups → groups.length = 1 := by
    intro name captures
    obtain ⟨spec, _, rfl⟩ := Option.map_eq_some_iff.mp captures
    rfl
  have ofTarget : ∀ {name}, captureTarget? name text = some groups → groups.length = 3 := by
    intro name captures
    obtain ⟨rest, _, found⟩ := Option.bind_eq_some_iff.mp captures
    obtain ⟨spec, _, rfl⟩ := Option.map_eq_some_iff.mp found
    rfl
  have ofNetwork : ∀ {family}, captureNetwork? family text = some groups →
      groups.length = 2 := by
    intro family captures
    obtain ⟨rest, _, found⟩ := Option.bind_eq_some_iff.mp captures
    dsimp only at found
    split at found <;> cases found
    rfl
  have ofValue : ∀ {name}, captureValue? name text = some groups → groups.length = 1 := by
    intro name captures
    obtain ⟨sides, _, found⟩ := Option.bind_eq_some_iff.mp captures
    dsimp only at found
    split at found <;> cases found
    rfl
  cases kind with
  | redirect => exact ofValue captures
  | exp => exact ofValue captures
  | unknown =>
      obtain ⟨sides, _, found⟩ := Option.bind_eq_some_iff.mp captures
      dsimp only at found
      split at found <;> cases found
      rfl
  | all =>
      simp only [capture?] at captures
      split at captures <;> cases captures
      rfl
  | «include» => exact ofSpec captures
  | a => exact ofTarget captures
  | mx => exact ofTarget captures
  | ptr =>
      obtain ⟨spec, _, rfl⟩ := Option.map_eq_some_iff.mp captures
      rfl
  | ip4 => exact ofNetwork captures
  | ip6 => exact ofNetwork captures
  | «exists» => exact ofSpec captures

section
variable (whole : Text) (groups : List Group)

/-- Groups that have captured nothing are passed over. -/
theorem createTerm_silentGroups (kind : Kind) :
    createTerm whole (kind.silentGroups ++ groups) = createTerm whole groups := by
  have each : ∀ count : Nat,
      createTerm whole (List.replicate count ⟨some kind, none⟩ ++ groups)
        = createTerm whole groups := by
    intro count
    induction count with
    | zero => rfl
    | succ count inductionHypothesis =>
        rw [List.replicate_succ, List.cons_append, createTerm, inductionHypothesis]
  exact each _

/-- The kind that was recognised makes the term of what its groups have captured. -/
theorem createTerm_groupsOf (text : Text) {kinds : List Kind} {found : Kind × List (Option Text)}
    (member : found.1 ∈ kinds) (complete : found.2.length = found.1.groupCount) :
    createTerm whole (groupsOf text (some found) kinds ++ groups) = found.1.build found.2 := by
  obtain ⟨owner, captured⟩ := found
  induction kinds with
  | nil => cases member
  | cons kind kinds inductionHypothesis =>
      simp only [groupsOf, List.flatMap_cons, List.append_assoc]
      by_cases same : owner = kind
      · subst same
        rw [if_pos rfl, List.cons_append, createTerm]
        dsimp only
        rw [List.take_left' (by simpa using complete), List.map_map]
        exact congrArg _ (List.map_id _)
      · rw [if_neg same, createTerm_silentGroups]
        exact inductionHypothesis ((List.mem_cons.mp member).resolve_left same)

end

theorem recognize?_eq_some {kinds : List Kind} {text : Text} {found : Kind × List (Option Text)}
    (recognized : recognize? kinds text = some found) :
    found.1 ∈ kinds ∧ found.2.length = found.1.groupCount := by
  obtain ⟨kind, member, matched⟩ := List.exists_of_findSome?_eq_some recognized
  obtain ⟨groups, captures, rfl⟩ := Option.map_eq_some_iff.mp matched
  exact ⟨member, Kind.length_of_capture? captures⟩

/-! ## Kinds and readers -/

/-- What the first kind of some whose shape text has makes of it. -/
def make? (kinds : List Kind) (text : Text) : Option (Except Failure Made) :=
  (recognize? kinds text).map fun found => found.1.build found.2

theorem make?_nil (text : Text) : make? [] text = none :=
  rfl

theorem make?_cons (kind : Kind) (kinds : List Kind) (text : Text) :
    make? (kind :: kinds) text
      = ((kind.capture? text).map kind.build).or (make? kinds text) := by
  simp only [make?, recognize?, List.findSome?_cons]
  cases kind.capture? text <;> rfl

section
variable {kinds : List Kind} {text : Text}

theorem make?_of_recognize? {found : Kind × List (Option Text)}
    (recognized : recognize? kinds text = some found) :
    make? kinds text = some (found.1.build found.2) := by
  rw [make?, recognized, Option.map_some]

theorem make?_eq_none (unrecognized : recognize? kinds text = none) : make? kinds text = none := by
  rw [make?, unrecognized, Option.map_none]

end

section
variable (text : Text)

theorem build_captureSpec? (name : Text) (make : Text → Mechanism) (term : Text) :
    (captureSpec? name text).map (buildSpec (.mechanism <| make ·) term)
      = (readWithSpec? name make text).map (Except.map .mechanism) := by
  simp only [captureSpec?, readWithSpec?, Option.map_map]
  rfl

theorem build_captureTarget? (name : Text) (make : Option Text → PrefixLengths → Mechanism) :
    (captureTarget? name text).map (buildTarget make)
      = (readWithLengths? name make text).map (Except.map .mechanism) := by
  cases dropped : dropName? name text with
  | none => simp [captureTarget?, readWithLengths?, dropped]
  | some rest =>
      simp only [captureTarget?, readWithLengths?, dropped, Option.bind_some, Option.map_map]
      congr 1
      funext spec
      change Except.map _ (readLengths (splitLengths rest).2.1 (splitLengths rest).2.2) = _
      dsimp only
      cases readLengths (splitLengths rest).2.1 (splitLengths rest).2.2 <;> rfl

theorem build_captureNetwork? (family : Family) :
    (captureNetwork? family text).map (buildNetwork family)
      = (readNetwork? family text).map (Except.map .mechanism) := by
  cases dropped : dropName? (family.title.lower ++ [':']) text with
  | none => simp [captureNetwork?, readNetwork?, dropped]
  | some rest =>
      simp only [captureNetwork?, readNetwork?, dropped, Option.bind_some]
      split <;> rfl

/-- The kinds of mechanisms make what the readers of mechanisms read. -/
theorem make?_mechanismKinds :
    make? mechanismKinds text = (readMechanism? text).map (Except.map .mechanism) := by
  have all : (Kind.all.capture? text).map Kind.all.build
      = (readAll? text).map (Except.map .mechanism) := by
    simp only [Kind.capture?, readAll?]
    split <;> rfl
  have ptr : (Kind.ptr.capture? text).map Kind.ptr.build
      = (readPtr? text).map (Except.map .mechanism) := by
    simp only [Kind.capture?, readPtr?, Option.map_map]
    rfl
  have «include» : (Kind.include.capture? text).map Kind.include.build = _ :=
    build_captureSpec? text "include".toList .include "include".toList
  have a : (Kind.a.capture? text).map Kind.a.build = _ := build_captureTarget? text "a".toList .a
  have mx : (Kind.mx.capture? text).map Kind.mx.build = _ :=
    build_captureTarget? text "mx".toList .mx
  have ip4 : (Kind.ip4.capture? text).map Kind.ip4.build = _ := build_captureNetwork? text .ip4
  have ip6 : (Kind.ip6.capture? text).map Kind.ip6.build = _ := build_captureNetwork? text .ip6
  have «exists» : (Kind.exists.capture? text).map Kind.exists.build = _ :=
    build_captureSpec? text "exists".toList .exists "exists".toList
  simp only [mechanismKinds, make?_cons, make?_nil, readMechanism?, Option.orElse_eq_orElse,
    Option.orElse_eq_or, Option.map_or, Option.or_none]
  rw [all, ptr, «include», a, mx, ip4, ip6, «exists»]

/-- The kinds of modifiers make what the reader of modifiers reads. -/
theorem make?_modifierKinds :
    make? modifierKinds text = (readModifier? text).map (Except.map .modifier) := by
  simp only [modifierKinds, make?_cons, make?_nil, Option.or_none, Kind.capture?, captureValue?,
    captureUnknown?, readModifier?]
  cases Text.splitAtFirst '=' text with
  | none => rfl
  | some sides =>
      obtain ⟨name, value⟩ := sides
      simp only [Option.bind_some]
      split
      · rfl
      · split
        · rfl
        · split
          · have named : required [some name, some value] 0 "modifier".toList = .ok name := rfl
            simp only [Option.map_some, Option.map_none, Option.none_or, Kind.build, buildUnknown,
              named]
            split <;> rfl
          · rfl

end

/-! ## Signs -/

theorem isSignShape_eq (c : Char) : isSignShape c = (Qualifier.ofSign? c).isSome := by
  cases found : Qualifier.ofSign? c with
  | some qualifier =>
      have same : qualifier.sign = c := by simpa using List.find?_some found
      subst same
      cases qualifier <;> rfl
  | none =>
      have other : ∀ qualifier : Qualifier, c ≠ qualifier.sign := by
        intro qualifier same
        have absent := List.find?_eq_none.mp found qualifier (by cases qualifier <;> decide)
        simp [same] at absent
      simpa [isSignShape, Qualifier.sign, and_assoc] using
        And.intro (other .pass) ⟨other .fail, other .softFail, other .neutral⟩

/-- The sign in front of a mechanism is one of a qualifier. -/
theorem read?_splitSign (text : Text) :
    Qualifier.read? (splitSign text).1 = some (readQualifier text).1
      ∧ (splitSign text).2 = (readQualifier text).2 := by
  cases text with
  | nil => exact ⟨rfl, rfl⟩
  | cons c rest =>
      simp only [splitSign, readQualifier]
      cases sign : Qualifier.ofSign? c with
      | none => simp [isSignShape_eq, sign, Qualifier.read?]
      | some qualifier => simp [isSignShape_eq, sign, Qualifier.read?]

/-! ## Terms -/

/-- What was recognised as a modifier is made into what its reader reads. -/
theorem createModifier_eq {text : Text} {found : Kind × List (Option Text)}
    (recognized : recognize? modifierKinds text = some found) :
    readModifier? text = some (createModifier (captureModifier text found)) := by
  obtain ⟨member, complete⟩ := recognize?_eq_some recognized
  have made := (make?_modifierKinds text).symm.trans (make?_of_recognize? recognized)
  obtain ⟨outcome, reads, same⟩ := Option.map_eq_some_iff.mp made
  rw [reads, createModifier, Captures.afterModifier, captureModifier]
  rw [createTerm_groupsOf _ _ _ member complete, ← same]
  cases outcome <;> rfl

/-- What was recognised as a mechanism is made into what its reader reads. -/
theorem createDirective_eq {text : Text} {found : Kind × List (Option Text)}
    (recognized : recognize? mechanismKinds (splitSign text).2 = some found) :
    readDirective? text = some (createDirective (captureDirective text found)) := by
  obtain ⟨member, complete⟩ := recognize?_eq_some recognized
  have made :=
    (make?_mechanismKinds (splitSign text).2).symm.trans (make?_of_recognize? recognized)
  obtain ⟨outcome, reads, same⟩ := Option.map_eq_some_iff.mp made
  obtain ⟨signed, rest⟩ := read?_splitSign text
  have created := createTerm_groupsOf text [] (splitSign text).2 member complete
  rw [List.append_nil] at created
  rw [readDirective?, createDirective, captureDirective, Option.getD_some, signed]
  dsimp only
  rw [created, ← same, ← rest, reads]
  cases outcome <;> rfl

/-- A term is a modifier if its text has the shape of one, and else a directive. -/
theorem Term.read_eq (text : Text) :
    Term.read text =
      match readModifier? text with
      | some outcome => outcome.map .modifier
      | none =>
          match readDirective? text with
          | some outcome => outcome.map .directive
          | none => .error (.notATerm text) := by
  unfold read capture?
  cases modifier : recognize? modifierKinds text with
  | some found =>
      rw [createModifier_eq modifier]
      rfl
  | none =>
      have made := (make?_modifierKinds text).symm.trans (make?_eq_none modifier)
      rw [Option.map_eq_none_iff.mp made]
      cases mechanism : recognize? mechanismKinds (splitSign text).2 with
      | some found =>
          rw [createDirective_eq mechanism]
          rfl
      | none =>
          have made :=
            (make?_mechanismKinds (splitSign text).2).symm.trans (make?_eq_none mechanism)
          have unread := Option.map_eq_none_iff.mp made
          rw [(read?_splitSign text).2] at unread
          simp only [readDirective?, unread]
          rfl

end SenderPolicy.Record
