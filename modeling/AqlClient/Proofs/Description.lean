import AqlClient.Proofs.Literals
import AqlClient.Proofs.Redaction

/-!
# What descriptions of options show

The description of options tells the names of all headers, and the values of those whose names are
not listed as they are spelled; it tells nothing else of them (`OptionsOverride.describedAs_iff`).
Logs hide more than that: the header of the credentials, and every spelling of a listed name. So a
description hides what logs hide if all these headers are listed as they are spelled
(`OptionsOverride.description_conceals`), and may show the credentials if they are not
(`OptionsOverride.description_of_credentials`).
-/

namespace AqlClient

/-- All headers of a map that are hidden are listed, each as it is spelled. -/
def NameSet.Spells (names : NameSet) (headers : HeaderWishes) : Prop :=
  ∀ entry ∈ headers, names.hides entry.1 = true → entry.1 ∈ names

/-- A header map shows the same as one that differs in secrets alone, if these are listed as they
are spelled. -/
theorem NameSet.Spells.shownHeaders_eq {names : NameSet} {headers headers' : HeaderWishes}
    (hspells : names.Spells headers)
    (h : HeaderWishes.Alike (fun name => names.hides name = true) headers headers') :
    OptionsOverride.shownHeaders names headers' = OptionsOverride.shownHeaders names headers := by
  induction h with
  | nil => rfl
  | @cons entry entry' headers headers' hentry _ ih =>
    obtain ⟨hname, hvalue⟩ := hentry
    refine congrArg₂ List.cons ?_ (ih fun e he => hspells e (List.mem_cons_of_mem _ he))
    show OptionsOverride.shownEntry names entry' = OptionsOverride.shownEntry names entry
    unfold OptionsOverride.shownEntry
    rw [hname]
    obtain hsame | ⟨hsecret, -, -⟩ := hvalue
    · rw [hsame]
    · have hlisted : names.contains entry.1 = true :=
        List.contains_iff_mem.2 (hspells entry List.mem_cons_self hsecret)
      rw [if_pos hlisted, if_pos hlisted]

namespace OptionsOverride

/-- An override with another header map. -/
def withHeaders (o : OptionsOverride) (headers : HeaderWishes) : OptionsOverride :=
  { o with headers := some headers }

/-- The description of settings, behind some text and with a name for the kind of the limits. -/
def describedAs (o : OptionsOverride) (front limits : String) : Except Failure String := do
  return front ++ Value.commas (← o.members limits) ++ ")"

theorem description_eq (o : OptionsOverride) :
    o.description = o.describedAs "APIOptions(" "TimeoutOptions" := rfl

variable (o : OptionsOverride) (front limits : String)

/-- The literal of the headers is one of the members of a description, and the others do not depend
on the headers. A description fails if the credentials cannot be described. -/
theorem describedAs_withHeaders : ∃ before after : Option String → List String, ∀ headers,
    (o.withHeaders headers).describedAs front limits =
      (o.credentials.mapM Credentials.description).map fun credentials =>
        front ++ Value.commas (before credentials ++ ("database_additional_headers=" ++
          headersLiteral (o.redacted.getD []) headers) :: after credentials) ++ ")" := by
  refine ⟨fun _ => [o.callers.map fun callers => "callers=" ++ Caller.literals callers].filterMap id,
    fun credentials => [o.redacted.map fun names => "redacted_header_names=" ++ names.literal,
      credentials.map fun text => "auth=" ++ text,
      o.defaultDatabase.map fun name => "default_database=" ++ name,
      o.timeouts.map fun t => "timeout_options=" ++ limits ++ t.members].filterMap id,
    fun headers => ?_⟩
  have hcredentials : (o.withHeaders headers).credentials = o.credentials := rfl
  unfold describedAs members
  rw [hcredentials]
  cases o.credentials.mapM Credentials.description with
  | error e => rfl
  | ok credentials =>
    unfold withHeaders
    cases o.callers <;> rfl

/-- **A description tells what is shown of the headers, and nothing else of them.** -/
theorem describedAs_iff {headers headers' : HeaderWishes} {text : String}
    (hok : (o.withHeaders headers).describedAs front limits = .ok text) :
    (o.withHeaders headers').describedAs front limits = .ok text ↔
      shownHeaders (o.redacted.getD []) headers' = shownHeaders (o.redacted.getD []) headers := by
  obtain ⟨before, after, hdescribed⟩ := o.describedAs_withHeaders front limits
  rw [hdescribed] at hok
  rw [hdescribed]
  cases hcredentials : o.credentials.mapM Credentials.description with
  | error e =>
    rw [hcredentials] at hok
    cases hok
  | ok credentials =>
    rw [hcredentials] at hok
    cases hok
    show Except.ok _ = Except.ok _ ↔ _
    rw [Except.ok.injEq]
    constructor
    · -- the text around the literal is the same, so that it can be read off
      intro h
      obtain ⟨start, rest, haround⟩ :=
        Value.commas_around (before credentials) (after credentials)
      have hchars := congrArg String.toList h
      simp only [String.toList_append, haround, List.append_assoc] at hchars
      exact headersLiteral_cancel
        (List.append_cancel_left (List.append_cancel_left (List.append_cancel_left hchars)))
    · intro h
      rw [headersLiteral_eq, headersLiteral_eq, h]

/-- **What a description makes of header maps,** where some names are hidden. Maps that differ in
hidden headers alone have the same description, if these headers are listed as they are spelled. And
it is this way only that maps of the same description may differ. -/
structure Conceals (names : NameSet) (describe : HeaderWishes → Except Failure String) : Prop where
  hidden : ∀ headers headers', names.Spells headers →
    HeaderWishes.Alike (fun name => names.hides name = true) headers headers' →
      describe headers' = describe headers
  shown : ∀ headers headers' text, describe headers = .ok text →
    (describe headers' = .ok text ↔ shownHeaders names headers' = shownHeaders names headers)

theorem conceals_describedAs :
    Conceals (o.redacted.getD []) fun headers =>
      (o.withHeaders headers).describedAs front limits where
  hidden headers headers' hspells halike := by
    obtain ⟨before, after, hdescribed⟩ := o.describedAs_withHeaders front limits
    rw [hdescribed, hdescribed, headersLiteral_eq, headersLiteral_eq,
      hspells.shownHeaders_eq halike]
  shown _ _ _ hok := o.describedAs_iff front limits hok

end OptionsOverride

namespace Options

variable {secret : String → Prop} {s s' : Options}

theorem description_eq (s : Options) (headers : HeaderWishes) :
    ({ s with headers := headers } : Options).description =
      (s.asOverride.withHeaders headers).describedAs "FullAPIOptions(" "FullTimeoutOptions" := rfl

/-- Overrides with the same credentials lead to the same credentials. -/
theorem credentials_overriddenByAll {chain chain' : List OptionsOverride}
    (h : List.Forall₂ (fun o o' : OptionsOverride => o'.credentials = o.credentials) chain chain')
    (hs : s'.credentials = s.credentials) :
    (s'.overriddenByAll chain').credentials = (s.overriddenByAll chain).credentials := by
  induction h generalizing s s' with
  | nil => exact hs
  | cons hcredentials _ ih =>
    refine ih ?_
    show Option.getD _ _ = Option.getD _ _
    rw [hcredentials, hs]

/-- Settings that differ in secret headers alone are the same settings with other headers. -/
theorem Sibling.eq (h : s.Sibling secret s') (hcredentials : s'.credentials = s.credentials) :
    s' = { s with headers := s'.headers } := by
  obtain ⟨callers, headers, redacted, credentials, defaultDatabase, timeouts, release⟩ := s'
  obtain ⟨rfl, -, rfl, -, rfl, rfl, rfl⟩ := h
  cases hcredentials
  rfl

end Options

/-- **Descriptions hide what is listed as it is spelled.** The description of an override, or of all
settings, does not depend on the values of headers that logs hide, if the names of these headers are
listed as they are spelled; and whatever is not listed in this way, it shows. The same holds of the
settings behind any chain of overrides that differ in such headers. -/
theorem OptionsOverride.description_conceals (o : OptionsOverride) (s : Options)
    (chain chain' : List OptionsOverride) :
    (Conceals (o.redacted.getD []) fun headers => (o.withHeaders headers).description) ∧
    (Conceals s.redacted fun headers => ({ s with headers := headers } : Options).description) ∧
    let last := s.overriddenByAll chain
    last.redacted.Spells last.headers →
      List.Forall₂ (fun o o' => o.Sibling (fun name => last.redacted.hides name = true) o' ∧
        o'.credentials = o.credentials) chain chain' →
      (s.overriddenByAll chain').description = last.description := by
  have hsettings : ∀ s : Options, Conceals s.redacted fun headers =>
      ({ s with headers := headers } : Options).description :=
    fun s => s.asOverride.conceals_describedAs _ _
  refine ⟨o.conceals_describedAs _ _, hsettings s, ?_⟩
  intro last hspells hchain
  obtain ⟨hsiblings, hcredentials⟩ : _ ∧ _ :=
    ⟨hchain.imp fun _ _ h => h.1, hchain.imp fun _ _ h => h.2⟩
  have hlast := (Options.Sibling.refl s).overriddenByAll hsiblings
  rw [hlast.eq (Options.credentials_overriddenByAll hcredentials rfl)]
  exact (hsettings last).hidden _ _ hspells hlast.headers

/-- The value of a listed header does not show, behind one override or two. -/
theorem OptionsOverride.description_conceals_specimen :
    let o : OptionsOverride := { none with redacted := some ["X-Secret"] }
    let chain : List OptionsOverride := [o.withHeaders [("X-Secret", some "a")], none]
    let chain' : List OptionsOverride := [o.withHeaders [("X-Secret", some "b")], none]
    NameSet.Spells ["X-Secret"] [("X-Secret", some "a")] ∧
      HeaderWishes.Alike (fun name => NameSet.hides ["X-Secret"] name = true)
        [("X-Secret", some "a")] [("X-Secret", some "b")] ∧
      (o.withHeaders [("X-Secret", some "b")]).description =
        (o.withHeaders [("X-Secret", some "a")]).description ∧
      ((Options.standard "1.0").overriddenByAll chain').description =
        ((Options.standard "1.0").overriddenByAll chain).description := by
  intro o chain chain'
  have hspells : NameSet.Spells ["X-Secret"] [("X-Secret", some "a")] := by
    intro entry he _
    rw [List.mem_singleton.1 he]
    exact List.mem_singleton_self _
  have halike : HeaderWishes.Alike (fun name => NameSet.hides ["X-Secret"] name = true)
      [("X-Secret", some "a")] [("X-Secret", some "b")] :=
    .cons ⟨rfl, .inr ⟨NameSet.hides_iff.2 (.inr ⟨_, List.mem_cons_self, rfl⟩), rfl, rfl⟩⟩ .nil
  obtain ⟨hoverride, -, hchains⟩ := description_conceals o (.standard "1.0") chain chain'
  refine ⟨hspells, halike, hoverride.hidden _ _ hspells halike, ?_⟩
  refine hchains hspells (.cons ⟨?_, rfl⟩ (.cons ?_ .nil))
  · exact ⟨rfl, .some halike, rfl, .none, rfl, rfl⟩
  · exact ⟨⟨rfl, .none, rfl, .none, rfl, rfl⟩, rfl⟩

/-- **The credentials may show.** The header that carries them is always hidden in logs, but in a
description only if it is listed. -/
theorem OptionsOverride.description_of_credentials :
    HeaderWishes.Alike (fun name => NameSet.hides [] name = true)
        [("Authorization", some "Bearer a")] [("Authorization", some "Bearer b")] ∧
      (none.withHeaders [("Authorization", some "Bearer b")]).description ≠
        (none.withHeaders [("Authorization", some "Bearer a")]).description := by
  refine ⟨.cons ⟨rfl, .inr ⟨NameSet.hides_credentials, rfl, rfl⟩⟩ .nil, fun h => ?_⟩
  obtain ⟨text, hok⟩ : ∃ text,
      (none.withHeaders [("Authorization", some "Bearer a")]).description = .ok text := ⟨_, rfl⟩
  have hshown := (none.describedAs_iff _ _ hok).1 (h.trans hok)
  exact absurd hshown (by decide)

end AqlClient
