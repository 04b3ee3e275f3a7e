import SenderPolicy.Dns.Zone
import SenderPolicy.Proofs.Address.Caseless
import SenderPolicy.Proofs.Check.Likeness.Runs
import SenderPolicy.Proofs.Check.Specifications
import SenderPolicy.Proofs.Domain.Caseless
import SenderPolicy.Proofs.Macro.Caseless

/-!
# The letter case of the sender's domain

The domain of a sender is looked up, compared, split and encoded as it is spelled. In an ASCII
zone that does not tell letters of the two cases apart, its spelling shows in the case of the
letters of questions and nowhere else. A local record may hold decimal digits outside ASCII. A
cell with such a digit splits its value at an `r`, and then the spelling decides what is asked.
-/

namespace SenderPolicy

namespace Dns

/-- Neither answer has come in time, or both have the same records. -/
inductive Answer.IsEquivalent : Answer → Answer → Prop where
  | timeout (note other : Text) : IsEquivalent (.timeout note) (.timeout other)
  | records (texts : List Text) : IsEquivalent (.records texts) (.records texts)

/-- Names are compared without their letter case, and all records are ASCII text. -/
structure IsAsciiZone (zone : Question → Answer) : Prop where
  caseless : ∀ {one other : Question}, one.host.lower = other.host.lower →
    one.type = other.type → (zone one).IsEquivalent (zone other)
  ascii : ∀ {question texts}, zone question = .records texts →
    ∀ text ∈ texts, Text.isAscii text = true

namespace Zone

theorem answer_isEquivalent (zone : Zone) {one other : Question}
    (hosts : one.host.lower = other.host.lower) (types : one.type = other.type) :
    (zone.answer one).IsEquivalent (zone.answer other) := by
  have names : Domain.normal one.host = Domain.normal other.host := by
    rw [← Domain.normal_lower, hosts, Domain.normal_lower]
  have about : ∀ entry : Entry, entry.isAbout one = entry.isAbout other := by
    intro entry
    rw [Entry.isAbout, Entry.isAbout, names, types]
  simp only [answer, about]
  split
  · exact .timeout _ _
  · exact .records _

/-- A list of what is known about names makes an ASCII zone if all its records are ASCII text. -/
theorem isAsciiZone {zone : Zone}
    (ascii : ∀ entry ∈ zone.entries, ∀ texts, entry.records = some texts →
      ∀ text ∈ texts, Text.isAscii text = true) : IsAsciiZone zone.answer where
  caseless := zone.answer_isEquivalent
  ascii {question texts} answered text member := by
    simp only [answer] at answered
    split at answered
    · cases answered
    · cases answered
      generalize last : (((zone.entries.filter (·.isAbout question)).map
        Entry.records).reverse.head?.getD none) = found at member
      cases found with
      | none => cases member
      | some texts =>
          obtain isLast | ⟨_, none⟩ := Option.getD_eq_iff.mp last
          · have isRecords := List.mem_reverse.mp (List.mem_of_head? isLast)
            obtain ⟨entry, isEntry, same⟩ := List.mem_map.mp isRecords
            exact ascii entry (List.mem_of_mem_filter isEntry) texts same text member
          · cases none

end Zone

end Dns

/-! ## Local records -/

theorem LocalRecords.exists_of_get? {records : LocalRecords} {name text : Text}
    (found : records.get? name = some text) : (name, text) ∈ records.entries := by
  obtain ⟨before, after, entries, _⟩ := List.lookup_eq_some_iff.mp found
  simp [entries]

/-- What is found for a domain is the text of an entry. -/
theorem LocalRecords.exists_of_find? {records : LocalRecords} {domain text : Text}
    (found : records.find? domain = some text) : ∃ name, (name, text) ∈ records.entries := by
  simp only [find?, Option.orElse_eq_orElse, Option.orElse_eq_or, Option.or_eq_some_iff] at found
  rcases found with own | ⟨_, around⟩
  · exact ⟨_, exists_of_get? own⟩
  · obtain ⟨outer, _, kept⟩ := List.exists_of_findSome?_eq_some around
    exact ⟨_, exists_of_get? kept⟩

/-- A source that is given keeps records by name, and all digits in them are ASCII digits. -/
def RecordSource.IsPlain (source : Option RecordSource) : Prop :=
  ∀ held, source = some held → ∃ records : LocalRecords, held = records.source
    ∧ ∀ entry ∈ records.entries, Text.DigitsAreAscii entry.2

/-! ## Senders -/

namespace Identity

/-- Senders with the same local part, if they have one, and domains that differ in letter case
only. The domains are ASCII. -/
inductive AlikeSenders : Text → Text → Prop where
  | domain {domain other : Text} (same : domain.lower = other.lower)
      (ascii : domain.isAscii = true) (free : '@' ∉ domain) : AlikeSenders domain other
  | address {localPart domain other : Text} (same : domain.lower = other.lower)
      (ascii : domain.isAscii = true) (free : '@' ∉ domain) :
      AlikeSenders (localPart ++ '@' :: domain) (localPart ++ '@' :: other)

theorem toAscii_alike (conversion : Domain.Conversion) {domain other : Text}
    (same : domain.lower = other.lower) (ascii : domain.isAscii = true) :
    (Domain.toAscii conversion domain).lower = (Domain.toAscii conversion other).lower := by
  have otherAscii : other.isAscii = true := by
    rwa [← Text.isAscii_lower, ← same, Text.isAscii_lower]
  rw [Domain.toAscii_of_isAscii ascii, Domain.toAscii_of_isAscii otherAscii, same]

/-- Senders alike have the same local part, and the ASCII forms of their domains are alike. -/
theorem splitSender_alike {sender other : Text} (alike : AlikeSenders sender other) (helo : Text)
    (conversion : Domain.Conversion) :
    (splitSender sender helo).1.lower = (splitSender other helo).1.lower
      ∧ (splitSender sender helo).2.1 = (splitSender other helo).2.1
      ∧ (Domain.toAscii conversion (splitSender sender helo).2.2).lower
        = (Domain.toAscii conversion (splitSender other helo).2.2).lower := by
  have mark : ∀ text : Text, '@' ∈ text.lower ↔ '@' ∈ text := fun _ =>
    Text.mem_lower_iff (by decide) (by decide)
  cases alike with
  | domain same ascii free =>
      have otherFree : '@' ∉ other := by rwa [← mark, ← same, mark]
      have empty : sender = [] ↔ other = [] := by
        rw [← List.map_eq_nil_iff (f := Char.toLower), ← Text.lower, same, Text.lower,
          List.map_eq_nil_iff]
      unfold splitSender
      by_cases nothing : sender = []
      · rw [if_pos nothing, if_pos (empty.mp nothing)]
        exact ⟨rfl, rfl, rfl⟩
      · rw [if_neg nothing, if_neg fun other => nothing (empty.mpr other),
          Text.splitAtLast_eq_none_iff.mpr free, Text.splitAtLast_eq_none_iff.mpr otherFree]
        exact ⟨same, rfl, toAscii_alike conversion same ascii⟩
  | @address localPart domain other same ascii free =>
      have otherFree : '@' ∉ other := by rwa [← mark, ← same, mark]
      have senders : (localPart ++ '@' :: domain).lower = (localPart ++ '@' :: other).lower := by
        simp only [Text.lower, List.map_append, List.map_cons] at same ⊢
        rw [same]
      unfold splitSender
      rw [if_neg (by simp), if_neg (by simp), Text.splitAtLast_append localPart free,
        Text.splitAtLast_append localPart otherFree]
      cases localPart <;> exact ⟨senders, rfl, toAscii_alike conversion same ascii⟩

end Identity

namespace Check

/-! ## The likeness of texts that differ in letter case -/

/-- Names that differ in letter case only are alike, and records are plain if all their digits
are ASCII digits. -/
def Likeness.caseless : Likeness where
  names one other := one.lower = other.lower
  words _ _ := True
  plain := Text.DigitsAreAscii

namespace Likeness

/-- What does not change in lower case is the same for names alike. -/
theorem eq_of_lower {α : Type} {f : Text → α} (lower : ∀ text, f text.lower = f text)
    {one other : Text} (same : one.lower = other.lower) : f one = f other := by
  rw [← lower one, same, lower]

theorem alikeIn_of_caseless {localNames : List Text} {values other : Macro.Values}
    (alike : caseless.AlikeValues values other) : values.AlikeIn localNames other := by
  intro letter
  cases letter with
  | sender => exact congrArg some alike.sender
  | localPart => exact congrArg (fun text => some text.lower) alike.localPart
  | senderDomain => exact congrArg some alike.senderDomain
  | domain => exact congrArg some alike.domain
  | address => exact congrArg (fun text => some text.lower) alike.address
  | clientDomain => exact congrArg (Option.map Text.lower) alike.clientDomain
  | family => exact congrArg (fun text => some text.lower) alike.family
  | helo => exact congrArg (fun text => some text.lower) alike.helo
  | readableAddress => exact congrArg (fun text => some text.lower) alike.readableAddress
  | receiver =>
      exact congrArg (fun known => some (Text.lower
        ((Macro.findReceiver localNames known).getD Macro.unknownName))) alike.receiver
  | timestamp => exact congrArg (fun time => some (Text.lower (Text.ofNat time))) alike.timestamp

/-- Local records are found without regard to letter case. -/
theorem keepsSource_caseless {source : Option RecordSource} (plain : RecordSource.IsPlain source) :
    caseless.KeepsSource source := by
  intro held same one other names
  obtain ⟨records, rfl, digits⟩ := plain held same
  refine ⟨eq_of_lower records.find?_lower names, fun text found => ?_⟩
  obtain ⟨name, entry⟩ := LocalRecords.exists_of_find? found
  exact digits _ entry

theorem caseless_holds {environment : Environment}
    (forwarder : environment.options.trustedForwarder = false)
    (overrides : RecordSource.IsPlain environment.options.overrides)
    (fallbacks : RecordSource.IsPlain environment.options.fallbacks) :
    caseless.Holds environment where
  refl _ := rfl
  isFullyQualified := eq_of_lower Domain.isFullyQualified_lower
  isHostName := eq_of_lower Domain.isHostName_lower
  readAddress := eq_of_lower Address.read?_lower
  isWithin same name := eq_of_lower (Domain.isWithin_lower name) same
  overrides := keepsSource_caseless overrides
  fallbacks := keepsSource_caseless fallbacks
  isSenders on := by
    rw [forwarder] at on
    cases on
  guessed := Text.digitsAreAscii_of_isAscii (by decide)
  forwarder := Text.digitsAreAscii_of_isAscii (by decide)
  specs plain reads spec member c inside :=
    plain c (Record.subset_of_read reads spec member inside)
  domains plain alike expands otherExpands := by
    rcases Macro.expand_domain_alike (alikeIn_of_caseless alike) plain with
      ⟨obstacle, one, two⟩ | ⟨host, otherHost, one, two, same⟩
    · rw [one] at expands
      cases expands
    · rw [one] at expands
      rw [two] at otherExpands
      cases expands
      cases otherExpands
      exact same
  explanations _ _ _ := trivial

theorem caseless_answers {zone : Dns.Question → Dns.Answer} (ascii : Dns.IsAsciiZone zone)
    {question other : Dns.Question} (questions : caseless.AlikeQuestions question other) :
    caseless.AlikeAnswers question.type (zone question) (zone other) := by
  have same := ascii.caseless questions.host questions.type
  generalize answered : zone question = answer at same
  generalize zone other = otherAnswer at same
  cases same with
  | timeout note other => exact .timeout note other
  | records texts =>
      exact .records (.refl _) (fun _ => rfl) fun _ text member =>
        Text.digitsAreAscii_of_isAscii (ascii.ascii answered text member)

theorem caseless_identities {sender other : Text}
    (alike : Identity.AlikeSenders sender.trim other.trim) (address helo : Text)
    (conversion : Domain.Conversion) (timestamp : Nat) :
    caseless.AlikeIdentities (Identity.read address sender helo conversion timestamp)
      (Identity.read address other helo conversion timestamp) := by
  obtain ⟨senders, localParts, domains⟩ := Identity.splitSender_alike alike helo.trim conversion
  exact ⟨rfl, senders, localParts, domains, rfl, rfl, rfl, rfl⟩

end Likeness

/-- The letter case of the sender's domain changes no result, and shows in the questions as letter
case only, if the zone is ASCII text and does not heed it and no local record holds a decimal digit
outside ASCII. -/
theorem run_recased {environment : Environment}
    (forwarder : environment.options.trustedForwarder = false)
    (overrides : RecordSource.IsPlain environment.options.overrides)
    (fallbacks : RecordSource.IsPlain environment.options.fallbacks)
    {zone : Dns.Question → Dns.Answer} (ascii : Dns.IsAsciiZone zone) {sender other : Text}
    (senders : Identity.AlikeSenders sender.trim other.trim) (address helo : Text)
    (conversion : Domain.Conversion) (timestamp : Nat) :
    let report := fun text =>
      run environment (fun _ => zone) (Identity.read address text helo conversion timestamp)
    (report sender).outcome.code = (report other).outcome.code
      ∧ List.Forall₂ (fun one other => one.host.lower = other.host.lower ∧ one.type = other.type)
        (report sender).questions (report other).questions := by
  intro report
  obtain ⟨code, _, _, _, _, told, otherTold, _, _, questions⟩ :=
    Likeness.run_alike (Likeness.caseless_holds forwarder overrides fallbacks)
      (fun _ _ _ _ _ => Likeness.caseless_answers ascii)
      (Likeness.caseless_identities senders address helo conversion timestamp)
  refine ⟨?_, questions.imp fun _ _ alike => ⟨alike.host, alike.type⟩⟩
  simp only [report, told, otherTold]

/-- A local record sends the domain on to a published one, which looks for the sender's name. -/
theorem run_recased_redirect :
    let records : LocalRecords :=
      ⟨[("example.com".toList, "v=spf1 redirect=%\x7bd1r\x7d.example.org".toList)]⟩
    let environment : Environment := { options := { overrides := some records.source } }
    let zone : Dns.Zone :=
      ⟨[⟨"example.example.org".toList, .txt,
          some ["v=spf1 exists:%\x7bl\x7d.%\x7bo2r\x7d.example.net -all".toList]⟩,
        ⟨"user.com.example.example.net".toList, .a, some ["127.0.0.2".toList]⟩]⟩
    let sender : Text := "User@example.com".toList
    let other : Text := "User@Example.COM".toList
    let report := fun text => run environment (fun _ => zone.answer)
      (Identity.read "203.0.113.1".toList text "mail.example.net".toList)
    environment.options.trustedForwarder = false
      ∧ RecordSource.IsPlain environment.options.overrides
      ∧ RecordSource.IsPlain environment.options.fallbacks
      ∧ Dns.IsAsciiZone zone.answer
      ∧ Identity.AlikeSenders sender.trim other.trim
      ∧ (report other).outcome.code = .pass
      ∧ (report sender).questions
        = [⟨"example.example.org".toList, .spf⟩, ⟨"example.example.org".toList, .txt⟩,
          ⟨"User.com.example.example.net".toList, .a⟩]
      ∧ List.Forall₂ (fun one other => one.host.lower = other.host.lower ∧ one.type = other.type)
        (report sender).questions (report other).questions := by
  intro records environment zone sender other report
  have overrides : RecordSource.IsPlain environment.options.overrides := by
    rintro _ ⟨⟩
    refine ⟨records, rfl, List.forall_mem_singleton.mpr ?_⟩
    exact Text.digitsAreAscii_of_isAscii (by decide)
  have fallbacks : RecordSource.IsPlain environment.options.fallbacks := nofun
  have ascii : Dns.IsAsciiZone zone.answer := by
    refine Dns.Zone.isAsciiZone ?_
    simp only [zone, List.forall_mem_cons, Option.some.injEq, List.not_mem_nil, false_implies,
      implies_true, and_true, forall_eq']
    decide
  have senders : Identity.AlikeSenders sender.trim other.trim :=
    @Identity.AlikeSenders.address "User".toList "example.com".toList "Example.COM".toList
      (by decide) (by decide) (by decide)
  obtain ⟨code, questions⟩ := @run_recased environment rfl overrides fallbacks _ ascii _ _ senders
    "203.0.113.1".toList "mail.example.net".toList Domain.asciiForm? 0
  have passes : (report sender).outcome.code = .pass :=
    @code_of_lastWithin environment zone.answer _ 60 _ (by decide +kernel)
  refine ⟨rfl, overrides, fallbacks, ascii, senders, code ▸ passes, ?_, questions⟩
  exact @questions_of_visitedWithin environment zone.answer _ 60 _ (by decide +kernel)

/-- A cell with a digit outside ASCII in a local record splits the domain at an `r` as well. So
the spelling of the sender's domain decides which name is asked about, and with it the result. -/
theorem run_recased_otherDigit :
    let text : Text := "v=spf1 exists:%\x7bd٣r.\x7d.x.example.com -all".toList
    let records : LocalRecords := ⟨[("orange.com".toList, text)]⟩
    let environment : Environment := { options := { overrides := some records.source } }
    let zone : Dns.Zone :=
      ⟨[⟨"orange.com.x.example.com".toList, .a, some ["127.0.0.2".toList]⟩]⟩
    let sender : Text := "user@orange.com".toList
    let other : Text := "user@oRange.com".toList
    let report := fun text => run environment (fun _ => zone.answer)
      (Identity.read "203.0.113.1".toList text "mail.example.net".toList)
    LocalRecords.add "orange.com".toList text {} = .ok records
      ∧ environment.options.trustedForwarder = false
      ∧ Dns.IsAsciiZone zone.answer
      ∧ Identity.AlikeSenders sender.trim other.trim
      ∧ (report sender).outcome.code = .fail
      ∧ (report sender).questions = [⟨"o.ange.com.x.example.com".toList, .a⟩]
      ∧ (report other).outcome.code = .pass
      ∧ (report other).questions = [⟨"oRange.com.x.example.com".toList, .a⟩] := by
  intro text records environment zone sender other report
  have added : LocalRecords.add "orange.com".toList text {} = .ok records := by
    have readable : (Record.read text).toBool = true := by decide +kernel
    unfold LocalRecords.add
    cases read : Record.read text with
    | error failure =>
        rw [read] at readable
        cases readable
    | ok record =>
        have kept : (Domain.normal "orange.com".toList, text.trim)
            = ("orange.com".toList, text) := by
          decide +kernel
        simp only [Except.map, kept]
        rfl
  have ascii : Dns.IsAsciiZone zone.answer := by
    refine Dns.Zone.isAsciiZone ?_
    simp only [zone, List.forall_mem_cons, Option.some.injEq, List.not_mem_nil, false_implies,
      implies_true, and_true, forall_eq']
    decide
  have senders : Identity.AlikeSenders sender.trim other.trim :=
    @Identity.AlikeSenders.address "user".toList "orange.com".toList "oRange.com".toList
      (by decide) (by decide) (by decide)
  have fails : (report sender).outcome.code = .fail :=
    @code_of_lastWithin environment zone.answer _ 40 _ (by decide +kernel)
  have passes : (report other).outcome.code = .pass :=
    @code_of_lastWithin environment zone.answer _ 40 _ (by decide +kernel)
  refine ⟨added, rfl, ascii, senders, fails, ?_, passes, ?_⟩
  · exact @questions_of_visitedWithin environment zone.answer _ 40 _ (by decide +kernel)
  · exact @questions_of_visitedWithin environment zone.answer _ 40 _ (by decide +kernel)

end Check

end SenderPolicy
