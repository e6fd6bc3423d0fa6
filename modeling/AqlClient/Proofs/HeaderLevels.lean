import AqlClient.Proofs.Overriding
import AqlClient.Proofs.Sessions

/-!
# Headers, level by level

The headers of a session are decided by entries that come one after the other: the standard ones,
the sender, the credentials, and then the further headers of each level of its settings
(`Session.headerEntries`). Whatever maps these entries are put into before a request is sent, each
header has the last of its entries (`Named.last?`), and is left out where that has no value. So a
level without a value for a header removes it, and a later level with a value brings it back
(`Session.headers_decided`).

All requests in a session and its databases, collections and cursors carry these headers.
-/

namespace AqlClient

/-! ### The last entry of a name -/

namespace Named

variable {α : Type} {entries others : Named α} {name : String}

/-- The value in the last entry of a name. -/
def last? (entries : Named α) (name : String) : Option α := get? entries.reverse name

theorem last?_append (entries others : Named α) (name : String) :
    last? (entries ++ others) name = (last? others name).or (last? entries name) := by
  unfold last?
  rw [List.reverse_append, get?_append]

/-- A map in which no name occurs twice has no other entries than the last ones. -/
theorem get?_eq_last? (h : (entries.map Prod.fst).Nodup) (name : String) :
    get? entries name = last? entries name := by
  conv_lhs => rw [← ofPairs_of_nodup h]
  exact get?_ofPairs entries name

/-- **A map that others are laid over** has the last of all entries. -/
theorem get?_merge_last (h : (entries.map Prod.fst).Nodup) (others : Named α) (name : String) :
    (entries.merge others).get? name = last? (entries ++ others) name := by
  rw [merge_eq_ofPairs h, get?_ofPairs]
  rfl

theorem get?_lastValues (entries : Named α) (name : String) :
    get? entries.lastValues name = last? entries name := by
  rw [← ofPairs_eq_lastValues, get?_ofPairs]
  rfl

end Named

/-- No header is sent twice if none is asked for twice. -/
theorem HeaderWishes.nodup_granted {wishes : HeaderWishes} (h : (wishes.map Prod.fst).Nodup) :
    (wishes.granted.map Prod.fst).Nodup := by
  have hsublist : (wishes.granted.map Prod.fst).Sublist (wishes.map Prod.fst) := by
    unfold granted
    induction wishes with
    | nil => exact .slnil
    | cons entry rest ih =>
      obtain ⟨name, wish⟩ := entry
      rw [List.map_cons, List.nodup_cons] at h
      cases wish with
      | none => exact (ih h.2).cons name
      | some value => exact (ih h.2).cons_cons name
  exact hsublist.nodup h

/-! ### The entries that decide -/

/-- **The sender** is named behind all callers that have a name, in their order. -/
theorem Caller.userAgent_client (callers : List Caller) (release : String) :
    userAgent (callers ++ [client release]) =
      some (" ".intercalate ((callers ++ [client release]).filterMap identification)) := by
  obtain ⟨own, hclient⟩ : ∃ own, identification (client release) = some own := ⟨_, rfl⟩
  unfold userAgent
  rw [List.filterMap_append, List.filterMap_cons_some hclient, List.filterMap_nil]
  cases callers.filterMap identification with
  | nil => rfl
  | cons piece pieces => rfl

namespace Session

/-- **The entries that decide on the headers of a session,** the last one of each name. The client
itself is named as the last one of the callers. -/
def headerEntries (callers : List Caller) (own : Option String) (further : List HeaderWishes) :
    HeaderWishes :=
  [("Content-Type", some "application/json"), ("Accept", some "application/json"),
    ("User-Agent", some (" ".intercalate (callers.filterMap Caller.identification))),
    (credentialsHeader, own)] ++ further.flatten

/-- Whom the requests of a session are made by: the callers of its settings, and the client. -/
def senders (session : Session) : List Caller :=
  session.options.callers ++ [Caller.client session.options.release]

/-- **A session carries the headers that some entries decide on:** each header has the value in the
last of its entries, and is left out if there is none. -/
structure Carries (session : Session) (entries : HeaderWishes) : Prop where
  distinct : (session.gateway.fullHeaders.map Prod.fst).Nodup
  value : ∀ name value, session.gateway.fullHeaders.get? name = some value ↔
    Named.last? entries name = some (some value)
  /-- All requests of the session, its databases, its collections and their cursors carry these
  headers, whatever comes back and whatever the others do. -/
  constant : ∀ (β : Type) (p : Program β), session.Uses p → ∀ s,
    p.Sends (fun _ q => q.headers = session.gateway.fullHeaders) s

variable {session : Session}

/-- What a session asks for, before the headers without a value are left out. -/
theorem get?_asked (session : Session) (name : String) :
    Named.get? (session.gateway.standardHeaders.merge session.gateway.headers) name =
      Named.last? (headerEntries session.senders session.credentials.header
        [session.options.headers]) name := by
  have hstandard : session.gateway.standardHeaders =
      [("Content-Type", some "application/json"), ("Accept", some "application/json"),
        ("User-Agent", some (" ".intercalate
          (session.senders.filterMap Caller.identification)))] := by
    unfold Gateway.standardHeaders
    rw [Caller.userAgent_client]
    rfl
  have hfirst : ([(credentialsHeader, session.credentials.header)].map Prod.fst).Nodup :=
    List.nodup_singleton _
  have hown : session.gateway.headers =
      Named.merge [(credentialsHeader, session.credentials.header)] session.options.headers := rfl
  have hnodup : (session.gateway.headers.map Prod.fst).Nodup := hown ▸ Named.nodup_merge hfirst _
  -- two maps are laid over each other, and each of them has the last of its entries
  rw [Named.get?_merge_last session.gateway.standardHeaders_spec.1, Named.last?_append,
    ← Named.get?_eq_last? hnodup, hown, Named.get?_merge_last hfirst, hstandard,
    ← Named.last?_append, headerEntries, List.flatten_singleton]
  rfl

/-- **A header is what the last of its entries says.** -/
theorem get?_fullHeaders (session : Session) (name : String) :
    session.gateway.fullHeaders.get? name = (Named.last? (headerEntries session.senders
      session.credentials.header [session.options.headers]) name).getD none := by
  have hstandard := session.gateway.standardHeaders_spec.1
  unfold Gateway.fullHeaders
  rw [HeaderWishes.get?_granted (Named.nodup_merge hstandard _), get?_asked]

/-- Further headers may be laid over each other before the last of their entries is taken. -/
theorem last?_headerEntries (callers : List Caller) (own : Option String) (entries : HeaderWishes)
    (name : String) : Named.last? (headerEntries callers own [entries.lastValues]) name =
      Named.last? (headerEntries callers own [entries]) name := by
  have hempty : (([] : HeaderWishes).map Prod.fst).Nodup := List.nodup_nil
  have hnodup : (entries.lastValues.map Prod.fst).Nodup := by
    rw [← Named.ofPairs_eq_lastValues]
    exact Named.nodup_merge hempty entries
  unfold headerEntries
  rw [List.flatten_singleton, List.flatten_singleton, Named.last?_append, Named.last?_append,
    ← Named.get?_eq_last? hnodup, Named.get?_lastValues]

/-- **The headers of a session are decided level by level.** They are what the last entries say,
among those of the standard headers, the sender, the credentials, and the further headers of all
levels of its settings. So a further level decides on every header that it has an entry for: without
a value it removes the header, and with one it brings it back. -/
theorem headers_decided {base : Options} (h : (base.headers.map Prod.fst).Nodup)
    {levels : List (Option OptionsOverride)} {session : Session}
    (hoptions : session.options = base.withOverrides levels) :
    session.Carries (headerEntries session.senders session.credentials.header
      (base.headers :: levels.reduceOption.filterMap OptionsOverride.headers)) ∧
    ∀ (session' : Session) (o : OptionsOverride) headers name wish,
      session'.options = session.options.overriddenBy o → o.headers = some headers →
      Named.last? headers name = some wish →
      session'.gateway.fullHeaders.get? name = wish := by
  rw [Options.withOverrides_eq] at hoptions
  have hcomes := Options.overriddenByAll_comesOf h levels.reduceOption
  have hnodup : (session.options.headers.map Prod.fst).Nodup :=
    hoptions ▸ Options.nodup_overriddenByAll h _
  constructor
  · have hentries : ∀ name, Named.last? (headerEntries session.senders
        session.credentials.header [session.options.headers]) name =
          Named.last? (headerEntries session.senders session.credentials.header
            (base.headers :: levels.reduceOption.filterMap OptionsOverride.headers)) name := by
      intro name
      have hheaders : session.options.headers =
          (base.headers ++
            (levels.reduceOption.filterMap OptionsOverride.headers).flatten).lastValues :=
        hoptions ▸ hcomes.headers
      rw [hheaders, last?_headerEntries]
      unfold headerEntries
      rw [List.flatten_singleton, List.flatten_cons]
    refine ⟨?_, fun name value => ?_, fun β p hp s => hp.headers s⟩
    · exact HeaderWishes.nodup_granted (Named.nodup_merge session.gateway.standardHeaders_spec.1 _)
    · rw [get?_fullHeaders, hentries]
      cases Named.last? _ name with
      | none => simp
      | some wish => simp
  · intro session' o headers name wish hlevel hheaders hlast
    have hlaid : session'.options.headers = session.options.headers.merge headers := by
      rw [hlevel]
      show session.options.headers.merge (o.headers.getD []) = _
      rw [hheaders, Option.getD_some]
    -- the entries of the further level come last
    rw [get?_fullHeaders, hlaid, Named.merge_eq_ofPairs hnodup, Named.ofPairs_eq_lastValues,
      last?_headerEntries]
    unfold headerEntries
    rw [List.flatten_singleton, Named.last?_append, Named.last?_append, hlast]
    rfl

/-- A session whose settings remove two of its headers, and bring one of them back. -/
def layered : Session where
  serial := 0
  mode := .blocking
  address := "http://server"
  options := (Options.standard "1.0").withOverrides
    [some { OptionsOverride.none with
        callers := some [⟨some "shop", some "2.1"⟩, ⟨none, some "1"⟩, ⟨some "web", none⟩]
        headers := some [("Accept", none), ("User-Agent", none)] },
      none,
      some { OptionsOverride.none with headers := some [("Accept", some "text/plain")] }]
  credentials := .bearer (.str "abc")
  ownsTransport := false

theorem headers_decided_layered :
    ((Options.standard "1.0").headers.map Prod.fst).Nodup ∧
      layered.gateway.fullHeaders.get? "Accept" = some "text/plain" ∧
      layered.gateway.fullHeaders.get? "User-Agent" = none ∧
      layered.gateway.fullHeaders.get? credentialsHeader = some "Bearer abc" ∧
      ∀ session' : Session, session'.options = layered.options.overriddenBy
          { OptionsOverride.none with headers := some [("User-Agent", some "other")] } →
        session'.gateway.fullHeaders.get? "User-Agent" = some "other" := by
  have hnodup : ((Options.standard "1.0").headers.map Prod.fst).Nodup := List.nodup_nil
  have hlayered : layered.options = (Options.standard "1.0").withOverrides _ := rfl
  obtain ⟨hcarries, hfurther⟩ := headers_decided hnodup hlayered
  refine ⟨hnodup, (hcarries.value _ _).2 (by decide), ?_, (hcarries.value _ _).2 (by decide), ?_⟩
  · cases hvalue : layered.gateway.fullHeaders.get? "User-Agent" with
    | none => rfl
    | some value =>
      have hlast := (hcarries.value _ _).1 hvalue
      cases hlast
  · intro session' hsession'
    exact hfurther session' _ _ "User-Agent" _ hsession' rfl rfl

end Session

end AqlClient
