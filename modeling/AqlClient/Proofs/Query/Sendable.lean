import AqlClient.Proofs.Doubles
import AqlClient.Proofs.Encoding
import AqlClient.Proofs.Query.NormalForm

/-!
# Queries that can be sent

A query has been checked when it was made, and what is checked is what is sent: a setting in the payload
has passed the check for it, after any number of calls (`Query.passes_of_sent`). So the integers in a
payload are integers, and none of them is too small (`Query.Counted`). A number of seconds is refused
if it is at most zero, or below zero, which leaves the numbers above that, and the infinite one and the
NaNs besides. If it is none of these, it is as it should be (`Query.Measured`).

The encoder refuses exactly these numbers, provided that all that is not checked can be encoded
(`Query.Plain`). A query can therefore be sent just if its seconds are finite (`Query.writable_payload`).
-/

namespace AqlClient

/-! ### What is not checked -/

/-- **A setting that is a flag or an integer,** or left out. -/
def Value.Switch (v : Value) : Prop := v = .unset ∨ (∃ b, v = .bool b) ∨ ∃ i, v = .int i

theorem Value.Switch.writable {v w : Value} (h : v.Switch) (hw : v.supplied? = some w) :
    w.Writable := by
  obtain rfl | ⟨b, rfl⟩ | ⟨i, rfl⟩ := h
  · cases hw
  · obtain rfl := Option.some.inj hw
    exact ⟨_, rfl⟩
  · obtain rfl := Option.some.inj hw
    exact ⟨_, rfl⟩

/-- **Options that have been accepted** with flags or integers for switches and texts for rules. -/
structure QueryOptions.Plain (o : QueryOptions Value) : Prop where
  made : ∃ d, make d = .ok o
  failOnWarning : o.failOnWarning.Switch
  profile : o.profile.Switch
  fullCount : o.fullCount.Switch
  stream : o.stream.Switch
  rules : ∀ rules, o.rules = some rules → ∀ rule ∈ rules, ∃ s, rule = .str s

/-- **A query of which all that is not checked can be encoded.** -/
structure Query.Plain (q : Query) : Prop where
  bindVars : ∀ entry ∈ q.bindVars, entry.2.Encodable
  count : q.count.Switch
  cache : q.cache.Switch
  fullCount : q.fullCount.Switch
  options : ∀ o, q.options = some o → o.Plain

/-- A query whose numbers of seconds, where they are set, are neither infinite nor NaNs. -/
structure Query.Finite (q : Query) : Prop where
  ttl : ∀ n, q.ttl = some n → n.isFinite = true
  maxRuntime : ∀ o n, q.options = some o → o.maxRuntime = some n → n.isFinite = true

/-! ### Entries that are written -/

namespace Value

/-- A number is written if it is finite. -/
theorem writable_toValue {n : Number} : n.toValue.Writable ↔ n.isFinite = true := by
  cases n with
  | int i => exact iff_of_true ⟨_, rfl⟩ rfl
  | float x => exact writable_float

theorem writable_ofNamed {entries : Named Value} :
    (ofNamed entries).Writable ↔ ∀ entry ∈ entries, entry.2.Writable := by
  unfold ofNamed
  rw [writable_dict]
  constructor
  · exact fun h entry hentry => (h _ (List.mem_map_of_mem hentry)).2
  · intro h _ hmem
    obtain ⟨entry, hentry, rfl⟩ := List.mem_map.1 hmem
    exact ⟨⟨_, rfl⟩, h entry hentry⟩

theorem writable_found {entries : Named Value} {name : String} {v : Value}
    (h : (ofNamed entries).Writable) (hv : entries.get? name = some v) : v.Writable := by
  unfold Named.get? at hv
  obtain ⟨entry, hentry, rfl⟩ := Option.map_eq_some_iff.1 hv
  exact writable_ofNamed.1 h entry (List.mem_of_find?_eq_some hentry)

end Value

/-- All entries are written. -/
def Named.Written (entries : Named Value) : Prop := ∀ entry ∈ entries, entry.2.Writable

namespace Named.Written

variable {entries others : Named Value} {name : String}

theorem append (h : Written entries) (h' : Written others) : Written (entries ++ others) := by
  intro entry hentry
  obtain hleft | hright := List.mem_append.1 hentry
  · exact h entry hleft
  · exact h' entry hright

theorem ifSet {o : Option Value} (h : ∀ v, o = some v → v.Writable) :
    Written (QueryOptions.entryIfSet name o) := by
  intro entry hentry
  cases o with
  | none => cases hentry
  | some v =>
    obtain rfl := List.mem_singleton.1 hentry
    exact h v rfl

theorem natural (o : Option Nat) :
    Written (QueryOptions.entryIfSet name (o.map fun (n : Nat) => .int n)) := by
  refine ifSet fun v hv => ?_
  obtain ⟨n, -, rfl⟩ := Option.map_eq_some_iff.1 hv
  exact ⟨_, rfl⟩

theorem seconds {o : Option Number} (h : ∀ n, o = some n → n.isFinite = true) :
    Written (QueryOptions.entryIfSet name (o.map Number.toValue)) := by
  refine ifSet fun v hv => ?_
  obtain ⟨n, hn, rfl⟩ := Option.map_eq_some_iff.1 hv
  exact Value.writable_toValue.2 (h n hn)

theorem put (h : Written entries) {v : Value} (hv : v.Writable) : Written (entries.put name v) := by
  have hmerge : entries.put name v = entries.merge [(name, v)] := rfl
  intro entry hentry
  rw [hmerge] at hentry
  obtain hold | hnew := Named.mem_merge hentry
  · exact h entry hold
  · obtain rfl := List.mem_singleton.1 hnew
    exact hv

end Named.Written

/-! ### Options -/

namespace QueryOptions

variable {o : QueryOptions Value}

/-- The entries of options, one after the other. -/
theorem toEntries_eq (o : QueryOptions Value) : o.toEntries =
    entryIfSet "failOnWarning" o.failOnWarning.supplied? ++
    (entryIfSet "profile" o.profile.supplied? ++
    (entryIfSet "maxWarningCount" (o.maxWarningCount.map fun (n : Nat) => .int n) ++
    (entryIfSet "fullCount" o.fullCount.supplied? ++
    (entryIfSet "maxPlans" (o.maxPlans.map fun (n : Nat) => .int n) ++
    (entryIfSet "maxRuntime" (o.maxRuntime.map Number.toValue) ++
    (entryIfSet "stream" o.stream.supplied? ++
    entryIfSet "optimizer" (o.rules.map fun rules => .dict [(.str "rules", .list rules)]))))))) := by
  unfold toEntries
  simp only [List.append_assoc]
  cases o.maxWarningCount <;> cases o.maxPlans <;> rfl

/-- What is found among the entries of options. -/
theorem get?_toEntries (o : QueryOptions Value) :
    o.toEntries.get? "maxWarningCount" = o.maxWarningCount.map (fun (n : Nat) => .int n) ∧
    o.toEntries.get? "maxPlans" = o.maxPlans.map (fun (n : Nat) => .int n) ∧
    o.toEntries.get? "maxRuntime" = o.maxRuntime.map Number.toValue := by
  rw [toEntries_eq]
  simp [Query.get?_entryIfSet_append, Query.get?_entryIfSet]

/-- **The runtime of options that have been accepted** is not below zero, as far as it is finite. -/
theorem not_below_of_make {d : Draft} (h : make d = .ok o) {n : Number}
    (hn : o.maxRuntime = some n) : n.belowInt 0 = false := by
  unfold make at h
  simp only [bind_eq_ok] at h
  obtain ⟨warnings, -, plans, -, runtime, hruntime, rules, -, ho⟩ := h
  obtain rfl := Except.ok.inj ho
  obtain rfl : runtime = some n := hn
  -- a runtime that is left out is none, and one that is set has passed the filter
  unfold Value.settingOr at hruntime
  split at hruntime
  · cases hruntime
  · split at hruntime
    case h_1 a ha =>
      obtain rfl := Option.some.inj (Except.ok.inj hruntime)
      have hkept := (Option.filter_eq_some_iff.1 ha).2
      simpa using hkept
    case h_2 => cases hruntime

theorem Plain.written (h : o.Plain) (hfinite : ∀ n, o.maxRuntime = some n → n.isFinite = true) :
    Named.Written o.toEntries := by
  have hrules : Named.Written (entryIfSet "optimizer"
      (o.rules.map fun rules => .dict [(.str "rules", .list rules)])) := by
    refine .ifSet fun v hv => ?_
    obtain ⟨rules, hrules, rfl⟩ := Option.map_eq_some_iff.1 hv
    refine Value.writable_dict.2 (List.forall_mem_singleton.2 ⟨⟨_, rfl⟩, ?_⟩)
    refine Value.writable_list.2 fun rule hrule => ?_
    obtain ⟨s, rfl⟩ := h.rules rules hrules rule hrule
    exact ⟨_, rfl⟩
  rw [toEntries_eq]
  exact (Named.Written.ifSet fun _ => h.failOnWarning.writable).append <|
    (Named.Written.ifSet fun _ => h.profile.writable).append <| (Named.Written.natural _).append <|
    (Named.Written.ifSet fun _ => h.fullCount.writable).append <| (Named.Written.natural _).append <|
    (Named.Written.seconds hfinite).append <|
    (Named.Written.ifSet fun _ => h.stream.writable).append hrules

end QueryOptions

namespace Query

variable {q q' : Query} {calls : List Change}

/-! ### What has been checked -/

/-- **What calls preserve:** a query can be made again from the draft that it gives back. -/
theorem again_foldlM (h : q.draft.Makes q) (hq : calls.foldlM changed q = .ok q') :
    q'.draft.Makes q' := by
  induction calls generalizing q with
  | nil =>
    obtain rfl := Except.ok.inj hq
    exact h
  | cons c rest ih =>
    rw [List.foldlM_cons] at hq
    obtain ⟨q₁, hchanged, hrest⟩ := bind_eq_ok.1 hq
    exact ih ((changed_eq_ok h).1 hchanged).2.2 hrest

/-- **A setting that is sent has passed the check for it.** -/
theorem passes_of_sent (h : q.draft.Makes q) {k : Setting} {name : String} {v : Value}
    (hname : k.wireName? = some name) (hv : q.payload.get? name = some v) : k.passes v = true := by
  rw [get?_payload_setting q hname] at hv
  have haccepted := h.accepted k
  cases hcase : q.draft.get k with
  | unset =>
    rw [hcase] at hv
    cases hv
  | _ =>
    rw [hcase] at hv haccepted
    obtain rfl := Option.some.inj hv
    exact haccepted.resolve_left fun habsurd => by cases habsurd

theorem positive_of_passes {v : Value} (h : Setting.batchSize.passes v = true) :
    ∃ i, v = .int i ∧ 0 < i := by
  obtain ⟨n, hn⟩ := Option.isSome_iff_exists.1 h
  obtain rfl := of_int? (fun _ => Int.le_of_lt) hn
  refine ⟨n, rfl, ?_⟩
  obtain ⟨i, hi, hpos⟩ := Option.bind_eq_some_iff.1 hn
  obtain rfl := Option.some.inj hi
  exact (Option.ite_none_right_eq_some.1 hpos).1

theorem natural_of_passes {v : Value} (h : Setting.memoryLimit.passes v = true) :
    ∃ i, v = .int i ∧ 0 ≤ i := by
  obtain ⟨n, hn⟩ := Option.isSome_iff_exists.1 h
  obtain rfl := of_int? (fun _ => id) hn
  exact ⟨n, rfl, Int.natCast_nonneg n⟩

theorem lifetime_of_passes {v : Value} (h : Setting.ttl.passes v = true) :
    ∃ n : Number, v = n.toValue ∧ n.atMostInt 0 = false := by
  obtain ⟨n, hn⟩ := Option.isSome_iff_exists.1 h
  have hkept := (Option.filter_eq_some_iff.1 hn).2
  exact ⟨n, (of_lifetime? hn).symm, by simpa using hkept⟩

/-! ### What is sent -/

/-- The options that are sent are those of the query, with its own setting laid over them. -/
theorem entries_of_sent {entries : Named Value}
    (h : q.payload.get? "options" = some (Value.ofNamed entries)) : entries = q.optionEntries := by
  obtain ⟨-, -, -, -, -, -, -, hoptions⟩ := get?_payload q
  rw [hoptions] at h
  exact ofNamed_inj (dictIfAny_eq_some.1 h).1

theorem get?_optionEntries_of_ne {name : String} (hname : "fullCount" ≠ name) (q : Query) :
    q.optionEntries.get? name = q.options.bind fun o => o.toEntries.get? name := by
  have hown : ((q.options.map QueryOptions.toEntries).getD []).get? name =
      q.options.bind fun o => o.toEntries.get? name := by
    cases q.options with
    | none => rfl
    | some o => rfl
  unfold optionEntries
  dsimp only
  cases q.fullCount.supplied? with
  | none => exact hown
  | some v => exact (Named.get?_put_of_ne hname _ _).trans hown

/-- **The integers in a payload** are integers, and none of them is a flag or too small. -/
structure Counted (payload : Named Value) : Prop where
  batchSize : ∀ v, payload.get? "batchSize" = some v → ∃ i, v = .int i ∧ 0 < i
  memoryLimit : ∀ v, payload.get? "memoryLimit" = some v → ∃ i, v = .int i ∧ 0 ≤ i
  options : ∀ (entries : Named Value) name v, payload.get? "options" = some (Value.ofNamed entries) →
    name ∈ ["maxWarningCount", "maxPlans"] → entries.get? name = some v → ∃ i, v = .int i ∧ 0 ≤ i

/-- **The numbers of seconds in a payload** are finite numbers, and none of them is a flag or too
small. -/
structure Measured (payload : Named Value) : Prop where
  ttl : ∀ v, payload.get? "ttl" = some v →
    ∃ n : Number, v = n.toValue ∧ n.isFinite = true ∧ n.Positive
  maxRuntime : ∀ (entries : Named Value) v, payload.get? "options" = some (Value.ofNamed entries) →
    entries.get? "maxRuntime" = some v →
      ∃ n : Number, v = n.toValue ∧ n.isFinite = true ∧ n.NotNegative

theorem counted_payload (h : q.draft.Makes q) : Counted q.payload := by
  refine ⟨fun v hv => positive_of_passes (passes_of_sent h (k := .batchSize) rfl hv),
    fun v hv => natural_of_passes (passes_of_sent h (k := .memoryLimit) rfl hv), ?_⟩
  intro entries name v hentries hname hv
  obtain rfl := entries_of_sent hentries
  have hnatural : ∀ count : Option Nat, count.map (fun (n : Nat) => Value.int n) = some v →
      ∃ i, v = .int i ∧ 0 ≤ i := by
    intro count hcount
    obtain ⟨n, -, rfl⟩ := Option.map_eq_some_iff.1 hcount
    exact ⟨n, rfl, Int.natCast_nonneg n⟩
  -- the setting of the query that is laid over the options is none of the counts
  have hne : "fullCount" ≠ name := by
    rintro rfl
    revert hname
    decide
  rw [get?_optionEntries_of_ne hne] at hv
  obtain ⟨o, -, hv⟩ := Option.bind_eq_some_iff.1 hv
  obtain ⟨hwarnings, hplans, -⟩ := QueryOptions.get?_toEntries o
  rw [List.mem_cons, List.mem_singleton] at hname
  obtain rfl | rfl := hname
  · exact hnatural _ (hwarnings.symm.trans hv)
  · exact hnatural _ (hplans.symm.trans hv)

/-- Finite numbers of seconds that have been accepted are not too small. -/
theorem measured_payload (h : q.draft.Makes q) (hplain : q.Plain) (hfinite : q.Finite) :
    Measured q.payload := by
  obtain ⟨-, -, -, -, -, -, httl, -⟩ := get?_payload q
  refine ⟨fun v hv => ?_, fun entries v hentries hv => ?_⟩
  · obtain ⟨n, rfl, hn⟩ := lifetime_of_passes (passes_of_sent h (k := .ttl) rfl hv)
    rw [httl] at hv
    obtain ⟨m, hm, hmn⟩ := Option.map_eq_some_iff.1 hv
    obtain rfl := toValue_inj hmn
    exact ⟨m, rfl, hfinite.ttl m hm, Number.positive_of_not_atMost (hfinite.ttl m hm) hn⟩
  · obtain rfl := entries_of_sent hentries
    rw [get?_optionEntries_of_ne (by decide)] at hv
    obtain ⟨o, ho, hv⟩ := Option.bind_eq_some_iff.1 hv
    obtain ⟨-, -, hruntime⟩ := QueryOptions.get?_toEntries o
    rw [hruntime] at hv
    obtain ⟨n, hn, rfl⟩ := Option.map_eq_some_iff.1 hv
    obtain ⟨d, hd⟩ := (hplain.options o ho).made
    have hnumber := hfinite.maxRuntime o n ho hn
    exact ⟨n, rfl, hnumber,
      Number.notNegative_of_not_below hnumber (QueryOptions.not_below_of_make hd hn)⟩

/-! ### What is written -/

theorem written_optionEntries (hplain : q.Plain) (hfinite : q.Finite) :
    Named.Written q.optionEntries := by
  have hown : Named.Written ((q.options.map QueryOptions.toEntries).getD []) := by
    cases ho : q.options with
    | none => exact fun _ h => by cases h
    | some o => exact (hplain.options o ho).written fun n hn => hfinite.maxRuntime o n ho hn
  unfold optionEntries
  dsimp only
  cases hfull : q.fullCount.supplied? with
  | none => exact hown
  | some v => exact hown.put (hplain.fullCount.writable hfull)

/-- **The payload of a query is written just if its seconds are finite.** All that is sent besides
them can be written. -/
theorem writable_payload (hplain : q.Plain) : (Value.ofNamed q.payload).Writable ↔ q.Finite := by
  obtain ⟨-, -, -, -, -, -, httl, hoptions⟩ := get?_payload q
  constructor
  · -- what is found in a payload that can be written can be written itself
    intro h
    refine ⟨fun n hn => ?_, fun o n ho hn => ?_⟩
    · rw [hn] at httl
      exact Value.writable_toValue.1 (Value.writable_found h httl)
    · obtain ⟨-, -, hruntime⟩ := QueryOptions.get?_toEntries o
      have hfound : q.optionEntries.get? "maxRuntime" = some n.toValue := by
        rw [get?_optionEntries_of_ne (by decide), ho, Option.bind_some, hruntime, hn]
        rfl
      have hsent : q.payload.get? "options" = some (Value.ofNamed q.optionEntries) := by
        refine hoptions.trans (dictIfAny_eq_some.2 ⟨rfl, fun hempty => ?_⟩)
        rw [hempty] at hfound
        cases hfound
      exact Value.writable_toValue.1 (Value.writable_found (Value.writable_found h hsent) hfound)
  · -- entry by entry: only the seconds depend on the hypothesis
    intro hfinite
    have hdict : ∀ {name entries}, Named.Written entries →
        Named.Written (QueryOptions.entryIfSet name (dictIfAny entries)) := by
      intro name entries hentries
      refine .ifSet fun v hv => ?_
      obtain ⟨rfl, -⟩ := dictIfAny_eq_some.1 hv
      exact Value.writable_ofNamed.2 hentries
    have hvars : Named.Written q.bindVars := fun entry hentry =>
      (hplain.bindVars entry hentry).writable
    rw [Value.writable_ofNamed, payload_eq]
    refine List.forall_mem_cons.2 ⟨⟨_, rfl⟩, ?_⟩
    exact (hdict hvars).append <| (Named.Written.ifSet fun _ => hplain.count.writable).append <|
      (Named.Written.natural _).append <| (Named.Written.ifSet fun _ => hplain.cache.writable).append <|
      (Named.Written.natural _).append <| (Named.Written.seconds hfinite.ttl).append <|
      hdict (written_optionEntries hplain hfinite)

/-- **Accepted queries can be sent** if their numbers of seconds are finite. A query that has been made
and changed by any number of calls, and of which all that is not checked can be encoded, has a payload
that can be encoded if its seconds are neither infinite nor NaNs, and only then; they are as large as
they have to be then. The integers in the payload are as they have to be in any case. -/
theorem accepted_encodes {d : Draft} {q₀ : Query} (hmake : make d = .ok q₀)
    (hcalls : calls.foldlM changed q₀ = .ok q) (hplain : q.Plain) :
    (q.Finite → (∃ body, (Value.ofNamed q.payload).encodePayload = .ok body) ∧
      Measured q.payload) ∧
    (¬ q.Finite → ∃ reason,
      (Value.ofNamed q.payload).encodePayload = .error (.malformed (.unencodable reason))) ∧
    Counted q.payload := by
  have hmakes := again_foldlM (make_eq_ok.1 hmake).again hcalls
  have hwritable := (writable_payload hplain).symm.trans Value.writable_iff
  refine ⟨fun hfinite => ⟨Value.encodePayload_ok_iff.2 (hwritable.1 hfinite),
    measured_payload hmakes hplain hfinite⟩, fun hfinite => ?_, counted_payload hmakes⟩
  obtain ⟨hencodable, -⟩ | ⟨-, reason, hreason⟩ := (Value.ofNamed q.payload).encodePayload_cases
  · exact absurd (hwritable.2 hencodable) hfinite
  · exact ⟨reason, hreason⟩

/-- Options with a runtime of a second and a half, and a rule. -/
def runtimeDraft : QueryOptions.Draft :=
  { QueryOptions.Draft.empty with
    maxRuntime := .float ⟨0x3FF8000000000000⟩, stream := .bool true, rules := .list [.str "-all"] }

/-- Those options. -/
def runtimeOptions : QueryOptions Value where
  failOnWarning := .unset
  profile := .unset
  maxWarningCount := none
  fullCount := .unset
  maxPlans := none
  rules := some [.str "-all"]
  maxRuntime := some (.float ⟨0x3FF8000000000000⟩)
  stream := .bool true

/-- A query with those options, before it is given a lifetime. -/
def runtimeQuery : Query where
  text := "RETURN @n"
  bindVars := [("n", .int 3)]
  batchSize := some 2
  count := .bool true
  cache := .unset
  memoryLimit := none
  ttl := none
  fullCount := .unset
  options := some runtimeOptions

theorem accepted_encodes_specimen :
    make { Draft.ofText (.str "RETURN @n") with
      bindVars := .dict [(.str "n", .int 3)], batchSize := .int 2, count := .bool true,
      options := .options runtimeOptions } = .ok runtimeQuery ∧
    [Change.ttl (.int 60)].foldlM changed runtimeQuery =
      .ok { runtimeQuery with ttl := some (.int 60) } ∧
    ∃ body, (Value.ofNamed { runtimeQuery with ttl := some (.int 60) }.payload).encodePayload =
      .ok body := by
  have hmake : make { Draft.ofText (.str "RETURN @n") with
      bindVars := .dict [(.str "n", .int 3)], batchSize := .int 2, count := .bool true,
      options := .options runtimeOptions } = .ok runtimeQuery := rfl
  have hcalls : [Change.ttl (.int 60)].foldlM changed runtimeQuery =
      .ok { runtimeQuery with ttl := some (.int 60) } := rfl
  have hoptions : runtimeOptions.Plain := by
    refine ⟨⟨runtimeDraft, rfl⟩, .inl rfl, .inl rfl, .inl rfl, .inr (.inl ⟨true, rfl⟩), ?_⟩
    rintro _ ⟨⟩
    exact List.forall_mem_singleton.2 ⟨"-all", rfl⟩
  have hplain : ({ runtimeQuery with ttl := some (.int 60) } : Query).Plain := by
    refine ⟨?_, .inr (.inl ⟨true, rfl⟩), .inl rfl, .inl rfl, ?_⟩
    · exact List.forall_mem_singleton.2 (Value.Writable.encodable ⟨_, rfl⟩)
    · rintro _ ⟨⟩
      exact hoptions
  have hfinite : ({ runtimeQuery with ttl := some (.int 60) } : Query).Finite := by
    refine ⟨?_, ?_⟩
    · rintro _ ⟨⟩
      rfl
    · rintro _ _ ⟨⟩ ⟨⟩
      decide
  exact ⟨hmake, hcalls, ((accepted_encodes hmake hcalls hplain).1 hfinite).1⟩

/-! ### A lifetime that is not a number -/

/-- A query whose lifetime is not a number. -/
def unendingQuery : Query :=
  ⟨"RETURN 1", [], none, .unset, .unset, none, some (.float Binary64.nan), .unset, none⟩

/-- **A NaN is accepted for a lifetime,** since it is not at most zero, and such a query cannot be
sent. -/
theorem lifetime_not_a_number :
    make { Draft.ofText (.str "RETURN 1") with ttl := .float Binary64.nan } = .ok unendingQuery ∧
      unendingQuery.Plain ∧ ¬ unendingQuery.Finite ∧
      (Value.ofNamed unendingQuery.payload).encodePayload =
        .error (.malformed (.unencodable .outOfRange)) := by
  have hplain : unendingQuery.Plain := by
    have hvars : ∀ entry ∈ unendingQuery.bindVars, entry.2.Encodable := List.forall_mem_nil _
    refine ⟨hvars, .inl rfl, .inl rfl, .inl rfl, ?_⟩
    rintro _ ⟨⟩
  have hnan : Binary64.nan.isFinite = false := by decide
  have hfinite : ¬ unendingQuery.Finite := by
    intro h
    have hfalse := h.ttl (.float Binary64.nan) rfl
    exact Bool.false_ne_true (hnan.symm.trans hfalse)
  refine ⟨?_, hplain, hfinite, ?_⟩
  · rfl
  · rfl

end Query

end AqlClient
