import SenderPolicy.Proofs.Check.Keeping
import SenderPolicy.Proofs.Macro.Grammar
import SenderPolicy.Proofs.Text.Splitting

/-!
# The letters of the sender

The cells `%{s}`, `%{l}` and `%{o}` stand for the sender, its local part and its domain.
`Identity.Reads` says how each spelling of a sender is read: no sender at all, one with a
local part, one that begins with its only `@`, and a bare domain. `read_reads` proves it of
`Identity.read`, and a check keeps the identity that it starts with.

Where the local part is missing the postmaster takes its place in the local part alone. The
sender itself becomes the postmaster's only if it is empty, so that `%{s}` and `%{l}@%{o}`
differ for the last two spellings (`senderLetters_iff`).
-/

namespace SenderPolicy

namespace Identity

/-! ## Spellings of a sender -/

/-- The domain of a sender before it is brought into ASCII form: what follows the last `@`,
or all of it; without a sender, the greeting name. -/
def namedDomain (sender helo : Text) : Text :=
  if sender = [] then helo else ((Text.splitAtLast '@' sender).map Prod.snd).getD sender

/-- Something stands before the last `@` of a sender. -/
def HasLocalPart (sender : Text) : Prop :=
  ∃ localPart domain, localPart ≠ [] ∧ '@' ∉ domain ∧ sender = localPart ++ '@' :: domain

/-- How a sender is spelled, and the text, the local part and the domain that are read. -/
inductive Reads (helo : Text) : Text → Text → Text → Text → Prop where
  | nobody : Reads helo [] (postmaster ++ '@' :: helo) postmaster helo
  | full {localPart domain : Text} (named : localPart ≠ []) (last : '@' ∉ domain) :
      Reads helo (localPart ++ '@' :: domain) (localPart ++ '@' :: domain) localPart domain
  | unnamed {domain : Text} (last : '@' ∉ domain) :
      Reads helo ('@' :: domain) ('@' :: domain) postmaster domain
  | bare {domain : Text} (filled : domain ≠ []) (last : '@' ∉ domain) :
      Reads helo domain domain postmaster domain

/-- Every sender has one of the spellings, and is split accordingly. -/
theorem splitSender_reads (sender helo : Text) :
    Reads helo sender (splitSender sender helo).1 (splitSender sender helo).2.1
        (splitSender sender helo).2.2
      ∧ (splitSender sender helo).2.2 = namedDomain sender helo := by
  unfold splitSender namedDomain
  by_cases empty : sender = []
  · subst empty
    exact ⟨.nobody, rfl⟩
  rw [if_neg empty, if_neg empty]
  cases found : Text.splitAtLast '@' sender with
  | none => exact ⟨.bare empty (Text.splitAtLast_eq_none_iff.mp found), rfl⟩
  | some sides =>
      obtain ⟨localPart, domain⟩ := sides
      obtain ⟨rfl, last⟩ := Text.splitAtLast_eq_some_iff.mp found
      cases localPart with
      | nil => exact ⟨.unnamed last, rfl⟩
      | cons first rest => exact ⟨.full (List.cons_ne_nil first rest) last, rfl⟩

namespace Reads

variable {helo sender text localPart domain : Text}

/-- Some local part is always read. -/
theorem localPart_ne_nil (reads : Reads helo sender text localPart domain) : localPart ≠ [] := by
  cases reads with
  | full named last => exact named
  | nobody | unnamed last | bare filled last => exact List.cons_ne_nil _ _

/-- A sender with a local part is not one of the other spellings. -/
theorem not_hasLocalPart (last : '@' ∉ domain) :
    ¬ HasLocalPart ('@' :: domain) ∧ ¬ HasLocalPart domain := by
  constructor
  · rintro ⟨before, after, named, -, written⟩
    obtain ⟨first, rest, rfl⟩ := List.exists_cons_of_ne_nil named
    obtain ⟨-, rfl⟩ := List.cons_eq_cons.mp written
    exact last (by simp)
  · rintro ⟨before, after, -, -, rfl⟩
    exact last (by simp)

/-- The text is the local part and the domain put together exactly for senders that are empty
or have a local part of their own. -/
theorem text_eq_iff (reads : Reads helo sender text localPart domain) :
    text = localPart ++ '@' :: domain ↔ sender = [] ∨ HasLocalPart sender := by
  cases reads with
  | nobody => exact iff_of_true rfl (.inl rfl)
  | full named last => exact iff_of_true rfl (.inr ⟨_, _, named, last, rfl⟩)
  | unnamed last =>
      have apart : '@' :: domain ≠ postmaster ++ '@' :: domain := fun same =>
        absurd (List.cons_eq_cons.mp same).1 (by decide)
      exact iff_of_false apart
        (not_or.mpr ⟨List.cons_ne_nil _ _, (not_hasLocalPart last).1⟩)
  | bare filled last =>
      have apart : sender ≠ postmaster ++ '@' :: sender := fun same => last (by rw [same]; simp)
      exact iff_of_false apart (not_or.mpr ⟨filled, (not_hasLocalPart last).2⟩)

/-- The other senders are read as they are, with the postmaster for a local part. -/
theorem of_no_localPart (reads : Reads helo sender text localPart domain)
    (other : ¬ (sender = [] ∨ HasLocalPart sender)) :
    localPart = postmaster ∧ text = sender ∧ (text = '@' :: domain ∨ text = domain) := by
  cases reads with
  | nobody => exact absurd (.inl rfl) other
  | full named last => exact absurd (.inr ⟨_, _, named, last, rfl⟩) other
  | unnamed last => exact ⟨rfl, rfl, .inl rfl⟩
  | bare filled last => exact ⟨rfl, rfl, .inr rfl⟩

end Reads

/-- The identity of a sender whose domain is ASCII has the parts that are read. -/
theorem read_reads (address : Text) {sender helo : Text}
    (ascii : (namedDomain sender.trim helo.trim).isAscii = true)
    (conversion : Domain.Conversion) (timestamp : Nat) :
    let identity := read address sender helo conversion timestamp
    Reads helo.trim sender.trim identity.sender identity.localPart identity.domain
      ∧ identity.domain = namedDomain sender.trim helo.trim := by
  obtain ⟨reads, named⟩ := splitSender_reads sender.trim helo.trim
  have kept : (read address sender helo conversion timestamp).domain
      = (splitSender sender.trim helo.trim).2.2 :=
    Domain.toAscii_of_isAscii (named ▸ ascii)
  exact ⟨kept ▸ reads, kept.trans named⟩

end Identity

namespace Macro

/-! ## Cells that only name a letter -/

section
variable {localNames : List Text} {mode : Mode} {values : Values}

/-- A cell without transformers can be written. -/
theorem isPlain_bare (letter : Letter) (encoded : Bool) :
    Token.IsPlain (.cell ⟨letter, encoded, []⟩) :=
  ⟨[], [], [], rfl, by simp, .inl rfl, by simp⟩

/-- A cell without transformers stands for the value of its letter. -/
theorem expandCell_bare {letter : Letter} {value : Text} (allowed : mode.allows letter = true)
    (known : values.value? localNames letter = some value) :
    expandCell localNames mode values ⟨letter, false, []⟩ = .ok value := by
  rw [expandCell_eq, if_pos allowed]
  simp only [known]
  rfl

/-- Text that can be written as tokens stands for what the tokens stand for. -/
theorem expandString_textOf {tokens : List Token} (plain : ArePlain tokens) :
    expandString localNames mode values (textOf tokens)
      = expandTokens localNames mode values tokens := by
  simp only [expandString, scan_textOf plain]
  cases expandTokens localNames mode values tokens <;> rfl

end

end Macro

namespace Check

open Macro (expandString)

/-- The row of tokens for the local part, an `@` and the domain. -/
def partsTokens : List Macro.Token :=
  [.cell ⟨.localPart, false, []⟩, .literal '@', .cell ⟨.senderDomain, false, []⟩]

/-- Wherever a check stands, and in both modes, `%{s}` and `%{l}@%{o}` have the values that the
identity gives them. -/
theorem expandString_identity (localNames : List Text) (mode : Macro.Mode)
    (values : Macro.Values) :
    expandString localNames mode values "%{s}".toList = .ok values.sender
      ∧ expandString localNames mode values "%{l}@%{o}".toList
          = .ok (values.localPart ++ '@' :: values.senderDomain) := by
  have sender : Macro.expandCell localNames mode values ⟨.sender, false, []⟩ = .ok values.sender :=
    Macro.expandCell_bare (by cases mode <;> rfl) rfl
  have localPart :
      Macro.expandCell localNames mode values ⟨.localPart, false, []⟩ = .ok values.localPart :=
    Macro.expandCell_bare (by cases mode <;> rfl) rfl
  have domain :
      Macro.expandCell localNames mode values ⟨.senderDomain, false, []⟩
        = .ok values.senderDomain :=
    Macro.expandCell_bare (by cases mode <;> rfl) rfl
  constructor
  case left =>
    have written : "%{s}".toList = Macro.textOf [.cell ⟨.sender, false, []⟩] := by decide
    have plain := List.forall_mem_singleton.mpr (Macro.isPlain_bare .sender false)
    rw [written, Macro.expandString_textOf plain]
    simp only [Macro.expandTokens, Macro.expandToken, sender]
    simp [Except.map]
  case right =>
    have written : "%{l}@%{o}".toList = Macro.textOf partsTokens := by decide
    have plain : Macro.ArePlain partsTokens :=
      List.forall_mem_cons.mpr ⟨Macro.isPlain_bare .localPart false,
        List.forall_mem_cons.mpr ⟨(by decide : Macro.isLiteral '@' = true),
          List.forall_mem_singleton.mpr (Macro.isPlain_bare .senderDomain false)⟩⟩
    rw [written, Macro.expandString_textOf plain]
    simp only [partsTokens, Macro.expandTokens, Macro.expandToken, localPart, domain]
    simp [Except.map]

/-- For a sender with an ASCII domain (without a sender, an ASCII greeting name), the local
part is never empty, and `%{s}` stands for the same text as `%{l}@%{o}` throughout a check
exactly if the sender is empty or has a local part, blanks at its ends apart. Any other sender
is kept as it is given, and only its local part becomes the postmaster. -/
theorem senderLetters_iff (environment : Environment) (resolver : Resolver)
    (address : Text) {sender helo : Text}
    (ascii : (Identity.namedDomain sender.trim helo.trim).isAscii = true)
    (conversion : Domain.Conversion) (timestamp : Nat) (mode : Macro.Mode) :
    let start := State.start (Identity.read address sender helo conversion timestamp)
    ∀ position ∈ visited environment resolver [] (.running start),
      let values := position.state.values environment
      let expansion := expandString environment.localNames mode values
      values.localPart ≠ []
        ∧ values.senderDomain = Identity.namedDomain sender.trim helo.trim
        ∧ expansion "%{s}".toList = .ok values.sender
        ∧ expansion "%{l}@%{o}".toList = .ok (values.localPart ++ '@' :: values.senderDomain)
        ∧ (values.sender = values.localPart ++ '@' :: values.senderDomain
            ↔ sender.trim = [] ∨ Identity.HasLocalPart sender.trim)
        ∧ (¬ (sender.trim = [] ∨ Identity.HasLocalPart sender.trim) →
            values.localPart = postmaster ∧ values.sender = sender.trim
              ∧ (values.sender = '@' :: values.senderDomain
                  ∨ values.sender = values.senderDomain)) := by
  intro start position passed values expansion
  have same : position.state.identity
      = Identity.read address sender helo conversion timestamp :=
    identity_visited environment resolver _ position passed
  obtain ⟨reads, named⟩ := Identity.read_reads address ascii conversion timestamp
  obtain ⟨whole, parts⟩ := expandString_identity environment.localNames mode values
  rw [← same] at reads named
  exact ⟨reads.localPart_ne_nil, named, whole, parts, reads.text_eq_iff, reads.of_no_localPart⟩

/-- A sender with two `@` is split at the last. -/
theorem senderLetters_iff_twoMarks :
    let sender : Text := " a@b@example.com".toList
    let helo : Text := "mail.example.net".toList
    let start := State.start (Identity.read "192.0.2.1".toList sender helo)
    (Identity.namedDomain sender.trim helo.trim).isAscii = true
      ∧ Identity.HasLocalPart sender.trim
      ∧ (start.values {}).sender
          = (start.values {}).localPart ++ '@' :: (start.values {}).senderDomain := by
  intro sender helo start
  have ascii : (Identity.namedDomain sender.trim helo.trim).isAscii = true := by decide
  have named : Identity.HasLocalPart sender.trim :=
    ⟨"a@b".toList, "example.com".toList, by decide, by decide, by decide⟩
  have begins : Position.running start
      ∈ visited {} (fun _ _ => .records []) [] (.running start) := by
    rw [visited_running (rfl : start.tasks = [.evaluateDomain, .conclude])]
    exact List.mem_cons_self
  obtain ⟨-, -, -, -, agree, -⟩ := senderLetters_iff {} (fun _ _ => .records [])
    "192.0.2.1".toList ascii Domain.asciiForm? 0 .explanation _ begins
  exact ⟨ascii, named, agree.mpr (.inr named)⟩

/-- For a sender that begins with its only `@`, the postmaster is in the local part alone. -/
theorem senderLetters_unnamed :
    let sender : Text := "@example.com".toList
    let helo : Text := "mail.example.net".toList
    let values :=
      (State.start (Identity.read "192.0.2.1".toList sender helo)).values {}
    (Identity.namedDomain sender.trim helo.trim).isAscii = true
      ∧ expandString [] .explanation values "%{s}".toList = .ok "@example.com".toList
      ∧ expandString [] .explanation values "%{l}@%{o}".toList
          = .ok "postmaster@example.com".toList := by
  intro sender helo values
  obtain ⟨whole, parts⟩ := expandString_identity [] .explanation values
  refine ⟨by decide, whole.trans ?sender, parts.trans ?parts⟩
  case sender => exact congrArg Except.ok (by decide)
  case parts => exact congrArg Except.ok (by decide)

end Check

end SenderPolicy
