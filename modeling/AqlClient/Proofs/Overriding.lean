import AqlClient.Proofs.Json
import AqlClient.Proofs.Query.Bindings
import AqlClient.Proofs.Secrecy

/-!
# Settings that override others

Settings are made from levels: each may set some of them, or there may be nothing at that level.
What becomes of the settings is said member by member (`Options.ComesOf`). Callers, credentials, the
default database and each of the two time limits are those of the last level that sets them. Headers
are laid over each other, those without a value included, so that each has the last of its entries.
The names of hidden headers are those of all levels together. All of it follows by an induction over
the levels (`Options.overriddenByAll_comesOf`).

So a level that sets nothing changes nothing, and one that is laid over settings twice in a row
changes nothing the second time. The settings of a session are made from four levels, the last of
which are the credentials that it is made with, and the session keeps them
(`Client.options_of_connect`).
-/

namespace AqlClient

/-! ### Laying maps over each other -/

namespace Named

variable {α : Type} {entries : Named α}

/-- A map in which no name occurs twice may be taken for the first of the entries laid over it. -/
theorem merge_eq_ofPairs (h : (entries.map Prod.fst).Nodup) (others : Named α) :
    entries.merge others = ofPairs (entries ++ others) := by
  rw [ofPairs_append, ofPairs_of_nodup h]

/-- Entries that are given a second time do not matter. -/
theorem lastValues_append_twice (entries others : Named α) :
    (entries ++ others ++ others).lastValues = (entries ++ others).lastValues := by
  have hnames : ((entries ++ others ++ others).map Prod.fst).eraseDups =
      ((entries ++ others).map Prod.fst).eraseDups := by
    have hnone : (others.map Prod.fst).removeAll ((entries ++ others).map Prod.fst) = [] := by
      refine List.filter_eq_nil_iff.2 fun name hname => ?_
      rw [List.map_append]
      simp [List.mem_map.1 hname]
    rw [List.map_append, List.eraseDups_append, hnone, List.eraseDups_nil, List.append_nil]
  have hvalues : ∀ name, get? (entries ++ others ++ others).reverse name =
      get? (entries ++ others).reverse name := by
    intro name
    simp only [List.reverse_append, get?_append]
    cases get? others.reverse name <;> rfl
  unfold lastValues
  simp only [hnames, hvalues]

/-- **Laying a map over another one twice** is laying it over once. -/
theorem merge_merge_self (h : (entries.map Prod.fst).Nodup) (others : Named α) :
    (entries.merge others).merge others = entries.merge others := by
  calc (entries.merge others).merge others
    _ = ofPairs (entries ++ others ++ others) := by
      rw [merge_eq_ofPairs h, ofPairs_append (entries ++ others)]
    _ = ofPairs (entries ++ others) := by
      rw [ofPairs_eq_lastValues, lastValues_append_twice, ← ofPairs_eq_lastValues]
    _ = entries.merge others := (merge_eq_ofPairs h others).symm

end Named

/-- Joining a set of names twice is joining it once. -/
theorem NameSet.union_union_self (names others : NameSet) :
    (names.union others).union others = names.union others := by
  have hnone : (others.filter fun name => !(names.union others).contains name) = [] := by
    refine List.filter_eq_nil_iff.2 fun name hname => ?_
    simp [NameSet.mem_union.2 (.inr hname)]
  rw [union, hnone, List.append_nil]

/-! ### What levels set -/

namespace OptionsOverride

/-- The limit for a single request. -/
def requestLimit (o : OptionsOverride) : Option Value := o.timeouts.bind TimeoutOverride.request

/-- The limit for a method of several requests. -/
def generalLimit (o : OptionsOverride) : Option Value := o.timeouts.bind TimeoutOverride.general

/-- **A level sets nothing:** neither of the members that replace others is there, and those that
add something are missing or empty. -/
structure SetsNothing (o : OptionsOverride) : Prop where
  callers : o.callers = .none
  headers : ∀ headers, o.headers = some headers → headers = []
  redacted : ∀ names, o.redacted = some names → names = []
  credentials : o.credentials = .none
  defaultDatabase : o.defaultDatabase = .none
  request : o.requestLimit = .none
  general : o.generalLimit = .none

end OptionsOverride

/-- **An override is what was given:** the credentials are those that the given ones stand for. -/
structure OptionsChoice.Gives (c : OptionsChoice) (o : OptionsOverride) : Prop where
  callers : o.callers = c.callers
  headers : o.headers = c.headers
  redacted : o.redacted = c.redacted.map NameSet.ofList
  credentials : c.credentials.credentials? = .ok o.credentials
  defaultDatabase : o.defaultDatabase = c.defaultDatabase
  timeouts : o.timeouts = c.timeouts

theorem OptionsChoice.override_ok_iff {c : OptionsChoice} {o : OptionsOverride} :
    c.override = .ok o ↔ c.Gives o := by
  unfold override
  cases hc : c.credentials.credentials? with
  | error e =>
    constructor
    · rintro ⟨⟩
    · intro h
      rw [h.credentials] at hc
      cases hc
  | ok credentials =>
    constructor
    · rintro ⟨⟩
      exact ⟨rfl, rfl, rfl, hc, rfl, rfl⟩
    · intro h
      obtain ⟨callers, headers, redacted, credentials', database, timeouts⟩ := o
      obtain ⟨rfl, rfl, rfl, hcredentials, rfl, rfl⟩ := h
      rw [hc] at hcredentials
      cases hcredentials
      rfl

attribute [ext] TimeoutSettings Options

namespace Options

/-- **Settings that come of levels** laid over some base, one after the other. -/
structure ComesOf (s base : Options) (levels : List OptionsOverride) : Prop where
  callers : s.callers = (levels.filterMap OptionsOverride.callers).getLastD base.callers
  credentials :
    s.credentials = (levels.filterMap OptionsOverride.credentials).getLastD base.credentials
  defaultDatabase : s.defaultDatabase =
    (levels.filterMap OptionsOverride.defaultDatabase).getLastD base.defaultDatabase
  /-- The two limits have nothing to do with each other. -/
  request : s.timeouts.request =
    (levels.filterMap OptionsOverride.requestLimit).getLastD base.timeouts.request
  general : s.timeouts.general =
    (levels.filterMap OptionsOverride.generalLimit).getLastD base.timeouts.general
  /-- Every header has the last of its entries, even if that is one without a value. -/
  headers : s.headers =
    (base.headers ++ (levels.filterMap OptionsOverride.headers).flatten).lastValues
  redacted : ∀ name, name ∈ s.redacted ↔
    name ∈ base.redacted ∨ ∃ names ∈ levels.filterMap OptionsOverride.redacted, name ∈ names
  /-- No level has anything to do with it. -/
  release : s.release = base.release

/-- The settings after some levels, at each of which there may be nothing. -/
def withOverrides (s : Options) (levels : List (Option OptionsOverride)) : Options :=
  levels.foldl withOverride s

variable {base : Options}

theorem withOverrides_eq (s : Options) (levels : List (Option OptionsOverride)) :
    s.withOverrides levels = s.overriddenByAll levels.reduceOption := by
  induction levels generalizing s with
  | nil => rfl
  | cons level levels ih =>
    cases level with
    | none => exact ih s
    | some o => exact ih (s.overriddenBy o)

/-- The last of what is set, where another level comes first. -/
theorem getLastD_filterMap_cons {β γ : Type} (f : β → Option γ) (b : β) (rest : List β) (d : γ) :
    ((b :: rest).filterMap f).getLastD d = (rest.filterMap f).getLastD ((f b).getD d) := by
  cases h : f b with
  | none => rw [List.filterMap_cons_none h, Option.getD_none]
  | some c => rw [List.filterMap_cons_some h, List.getLastD_cons, Option.getD_some]

/-- Each limit is the one of the override, if that sets it. -/
theorem timeouts_overriddenBy (s : Options) (o : OptionsOverride) :
    (s.overriddenBy o).timeouts.request = o.requestLimit.getD s.timeouts.request ∧
      (s.overriddenBy o).timeouts.general = o.generalLimit.getD s.timeouts.general := by
  unfold overriddenBy OptionsOverride.requestLimit OptionsOverride.generalLimit
  cases o.timeouts with
  | none => exact ⟨rfl, rfl⟩
  | some t => exact ⟨rfl, rfl⟩

/-- **Settings come of the levels that are laid over them.** The induction is on the levels: what
the first one makes of the base is a base for the others. -/
theorem overriddenByAll_comesOf (h : (base.headers.map Prod.fst).Nodup)
    (levels : List OptionsOverride) : (base.overriddenByAll levels).ComesOf base levels := by
  induction levels generalizing base with
  | nil =>
    refine ⟨rfl, rfl, rfl, rfl, rfl, ?_, fun name => ?_, rfl⟩
    · show base.headers = (base.headers ++ []).lastValues
      rw [List.append_nil, ← Named.ofPairs_eq_lastValues, Named.ofPairs_of_nodup h]
    · show name ∈ base.redacted ↔ _
      simp
  | cons o rest ih =>
    have hnodup : ((base.overriddenBy o).headers.map Prod.fst).Nodup := Named.nodup_merge h _
    have hrest := ih hnodup
    obtain ⟨hrequest, hgeneral⟩ := base.timeouts_overriddenBy o
    rw [overriddenByAll_cons]
    constructor
    · rw [hrest.callers, getLastD_filterMap_cons]
      rfl
    · rw [hrest.credentials, getLastD_filterMap_cons]
      rfl
    · rw [hrest.defaultDatabase, getLastD_filterMap_cons]
      rfl
    · rw [hrest.request, getLastD_filterMap_cons, hrequest]
    · rw [hrest.general, getLastD_filterMap_cons, hgeneral]
    · have hlaid : (base.overriddenBy o).headers =
          Named.ofPairs (base.headers ++ o.headers.getD []) := Named.merge_eq_ofPairs h _
      rw [hrest.headers, ← Named.ofPairs_eq_lastValues, Named.ofPairs_append,
        Named.ofPairs_of_nodup hnodup, hlaid, ← Named.ofPairs_append, Named.ofPairs_eq_lastValues]
      cases ho : o.headers with
      | none => rw [List.filterMap_cons_none ho, Option.getD_none, List.append_nil]
      | some headers =>
        rw [List.filterMap_cons_some ho, List.flatten_cons, Option.getD_some, List.append_assoc]
    · intro name
      rw [hrest.redacted, redacted_overriddenBy, NameSet.mem_union, or_assoc]
      refine or_congr_right ?_
      cases ho : o.redacted with
      | none => simp [List.filterMap_cons_none ho]
      | some names => simp [List.filterMap_cons_some ho]
    · exact hrest.release

/-- **A level that sets nothing** changes nothing. -/
theorem overriddenBy_setsNothing (s : Options) {o : OptionsOverride} (h : o.SetsNothing) :
    s.overriddenBy o = s := by
  have hheaders : o.headers.getD [] = [] := by
    cases ho : o.headers with
    | none => rfl
    | some headers => exact h.headers headers ho
  have hredacted : o.redacted.getD [] = [] := by
    cases ho : o.redacted with
    | none => rfl
    | some names => exact h.redacted names ho
  obtain ⟨hrequest, hgeneral⟩ := s.timeouts_overriddenBy o
  refine Options.ext ?_ ?_ ?_ ?_ ?_ (TimeoutSettings.ext ?_ ?_) rfl
  · show o.callers.getD _ = _
    rw [h.callers, Option.getD_none]
  · show s.headers.merge (o.headers.getD []) = s.headers
    rw [hheaders]
    rfl
  · show s.redacted.union (o.redacted.getD []) = s.redacted
    rw [hredacted]
    exact List.append_nil _
  · show o.credentials.getD _ = _
    rw [h.credentials, Option.getD_none]
  · show o.defaultDatabase.getD _ = _
    rw [h.defaultDatabase, Option.getD_none]
  · rw [hrequest, h.request, Option.getD_none]
  · rw [hgeneral, h.general, Option.getD_none]

/-- **A level that is laid over settings twice** changes nothing the second time. -/
theorem overriddenBy_twice (h : (base.headers.map Prod.fst).Nodup) (o : OptionsOverride) :
    (base.overriddenBy o).overriddenBy o = base.overriddenBy o := by
  have htwice : ∀ {β : Type} (setting : Option β) (d : β),
      setting.getD (setting.getD d) = setting.getD d := by
    intro β setting d
    cases setting with
    | none => rfl
    | some b => rfl
  obtain ⟨hrequest, hgeneral⟩ := base.timeouts_overriddenBy o
  obtain ⟨hrequest', hgeneral'⟩ := (base.overriddenBy o).timeouts_overriddenBy o
  refine Options.ext (htwice _ _) (Named.merge_merge_self h _) (NameSet.union_union_self _ _)
    (htwice _ _) (htwice _ _) (TimeoutSettings.ext ?_ ?_) rfl
  · rw [hrequest', hrequest, htwice]
  · rw [hgeneral', hgeneral, htwice]

end Options

/-! ### The settings of a session -/

namespace Client

variable {mode : Mode} {address : String} {settings : Options} {ownsTransport : Bool}
  {session : Session} {s s' : Scene}

theorem options_of_establish {deadline : Deadline} {version : ServerVersion}
    (h : (establish mode address settings ownsTransport deadline).run s =
      (.ok (session, version), s')) : session.options = settings := by
  unfold establish at h
  obtain ⟨credentials, s₁, -, h⟩ := Program.run_bind_ok h
  obtain ⟨made, s₂, hmade, h⟩ := Program.run_bind_ok h
  have hoptions : made.options = settings := by
    cases hmade
    rfl
  -- the probe yields a version, and the session is returned as it was made
  obtain ⟨_, s₃, -, h⟩ := Program.run_bind_ok h
  obtain ⟨_, s₄, -, h⟩ := Program.run_bind_ok h
  obtain ⟨_, s₅, -, h⟩ := Program.run_bind_ok h
  obtain ⟨_, s₆, -, h⟩ := Program.run_bind_ok h
  obtain ⟨_, s₇, -, h⟩ := Program.run_bind_ok h
  cases h
  exact hoptions

/-- **A session has the settings that it is made with.** -/
theorem options_of_connect {c : Client} {credentials : Option Credentials}
    {options : Option OptionsOverride}
    (h : (c.connect mode address credentials options ownsTransport).run s = (.ok session, s')) :
    session.options = c.sessionOptions options credentials := by
  unfold connect at h
  obtain ⟨_, s₁, -, h⟩ := Program.run_bind_ok h
  obtain ⟨deadline, s₂, -, h⟩ := Program.run_bind_ok h
  obtain ⟨result, s₃, hresult, h⟩ := Program.run_bind_ok h
  rw [Program.run_attempt] at hresult
  cases result with
  | ok made =>
    obtain ⟨made, version⟩ := made
    have hestablished : ((establish mode address (c.sessionOptions options credentials)
        ownsTransport deadline).run s₂) = (.ok (made, version), s₃) := by
      obtain ⟨hmade, rfl⟩ := Prod.mk.inj hresult
      exact Prod.ext (Except.ok.inj hmade) rfl
    have hmade : made = session := by
      cases h
      rfl
    rw [← hmade, options_of_establish hestablished]
  | error e =>
    -- a failure is thrown again, whether the transport is closed or not
    cases ownsTransport with
    | true => cases h
    | false => cases h

end Client

/-! ### Overriding -/

/-- **What overriding comes to.** Settings with any levels laid over them come of these, member by
member. So nothing at all and a level that sets nothing change nothing, and a level that is laid
over settings twice in a row changes nothing the second time. A level is what the caller gives, and
to give null for the credentials is to set them, to none at all. The settings of a session come of
the standard ones and of the settings of the client, its callers and credentials, the settings for
the session and the credentials for the session, in this order. -/
theorem Options.levels_decide {base : Options} (h : (base.headers.map Prod.fst).Nodup) :
    (∀ levels, (base.withOverrides levels).ComesOf base levels.reduceOption) ∧
    (base.withOverride none = base ∧
      ∀ o : OptionsOverride, o.SetsNothing → base.withOverride (some o) = base) ∧
    (∀ o, (base.withOverride o).withOverride o = base.withOverride o) ∧
    (∀ (c : OptionsChoice) o, c.override = .ok o → c.Gives o ∧
      (c.credentials = .shorthand .null → o.credentials = some .anonymous)) ∧
    ∀ release client callers own options credentials,
      ((Client.make release client callers own).sessionOptions options credentials).ComesOf
        (.standard release) (Client.chain client callers own options credentials) ∧
      ∀ mode address ownsTransport s session s',
        ((Client.make release client callers own).connect mode address credentials options
          ownsTransport).run s = (.ok session, s') →
        session.options =
          (Client.make release client callers own).sessionOptions options credentials := by
  refine ⟨fun levels => ?_, ⟨rfl, fun o ho => base.overriddenBy_setsNothing ho⟩, fun o => ?_,
    fun c o ho => ?_, fun release client callers own options credentials => ⟨?_, ?_⟩⟩
  · rw [withOverrides_eq]
    exact overriddenByAll_comesOf h levels.reduceOption
  · cases o with
    | none => rfl
    | some o => exact overriddenBy_twice h o
  · have hgives := OptionsChoice.override_ok_iff.1 ho
    refine ⟨hgives, fun hnull => ?_⟩
    have hcredentials := hgives.credentials
    rw [hnull] at hcredentials
    exact (Except.ok.inj hcredentials).symm
  · have hstandard : ((Options.standard release).headers.map Prod.fst).Nodup := List.nodup_nil
    rw [Client.sessionOptions_make]
    exact overriddenByAll_comesOf hstandard _
  · intro mode address ownsTransport s session s' hrun
    exact Client.options_of_connect hrun

/-- Three levels, and nothing between the first two of them: a header loses its value and gets
another one, and each of the limits is set by another level. -/
def OptionsOverride.specimens : List (Option OptionsOverride) :=
  [some { OptionsOverride.none with
      headers := some [("x-trace", .none), ("x-tenant", some "a")]
      timeouts := some ⟨some (.int 5), .none⟩ },
    .none,
    some { OptionsOverride.none with
      headers := some [("x-tenant", .none)]
      redacted := some ["x-tenant"]
      credentials := some .anonymous },
    some { OptionsOverride.none with
      headers := some [("x-trace", some "2")]
      timeouts := some ⟨.none, some (.int 7)⟩ }]

theorem Options.levels_decide_specimen :
    ((standard "1.0").headers.map Prod.fst).Nodup ∧
      ((standard "1.0").withOverrides OptionsOverride.specimens).headers =
        [("x-trace", some "2"), ("x-tenant", none)] ∧
      ((standard "1.0").withOverrides OptionsOverride.specimens).timeouts.request = .int 5 ∧
      ((standard "1.0").withOverrides OptionsOverride.specimens).timeouts.general = .int 7 ∧
      ((standard "1.0").withOverrides OptionsOverride.specimens).defaultDatabase = "_system" ∧
      "x-tenant" ∈ ((standard "1.0").withOverrides OptionsOverride.specimens).redacted := by
  have hnodup : ((standard "1.0").headers.map Prod.fst).Nodup := List.nodup_nil
  obtain ⟨hcomes, -⟩ := levels_decide hnodup
  have hlevels := hcomes OptionsOverride.specimens
  refine ⟨hnodup, hlevels.headers, hlevels.request, hlevels.general, hlevels.defaultDatabase, ?_⟩
  exact (hlevels.redacted _).2 (.inr ⟨["x-tenant"], List.mem_cons_self, List.mem_cons_self⟩)

end AqlClient
