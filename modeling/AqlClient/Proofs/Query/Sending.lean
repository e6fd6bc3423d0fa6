import AqlClient.Proofs.Query.Builder

/-!
# What is sent of a query

The payload of a query has its fields in a fixed order (`Query.order_payload`), and has those that are
set and no others (`Query.supplied_payload`). A setting is sent as it was given. The full count can be
set in two places, of which the query itself goes before the options; both end up among the options,
where the entry is put in its place if there is one already. `Query.sentAs_payload` says all of this of
the draft that a query gives back.
-/

namespace AqlClient

namespace Query

variable {α : Type}

/-- The name under which a setting is sent that is sent by itself. -/
def Setting.wireName? : Setting → Option String
  | .batchSize => some "batchSize"
  | .count => some "count"
  | .cache => some "cache"
  | .memoryLimit => some "memoryLimit"
  | .ttl => some "ttl"
  | .fullCount => none
  | .options => none

/-- The order of the fields of a payload. -/
def wireOrder : List String :=
  ["query", "bindVars", "count", "batchSize", "cache", "memoryLimit", "ttl", "options"]

/-- All entries are set. -/
def Supplied (entries : Named Value) : Prop := ∀ entry ∈ entries, entry.2 ≠ .unset

/-- **What a payload says of a query:** the fields are in order; a setting is sent as it was given,
or not at all; there are no empty objects; and the setting of the query itself decides about the
full count. -/
structure Draft.SentAs (d : Draft) (vars : Named Value) (payload : Named Value) : Prop where
  order : (payload.map Prod.fst).Sublist wireOrder
  text : payload.get? "query" = some d.text
  bindVars : payload.get? "bindVars" = if vars = [] then none else some (Value.ofNamed vars)
  settings : ∀ k name, k.wireName? = some name → payload.get? name = (d.get k).supplied?
  supplied : Supplied payload
  filled : ∀ name v, name = "bindVars" ∨ name = "options" → payload.get? name = some v →
    ∃ entries : Named Value, v = Value.ofNamed entries ∧ entries ≠ [] ∧
      (name = "options" → Supplied entries)
  overridden : ∀ v, d.fullCount.supplied? = some v →
    ∃ entries : Named Value, payload.get? "options" = some (Value.ofNamed entries) ∧
      entries.get? "fullCount" = some v
  inherited : d.fullCount = .unset → ∀ o, d.options = .options o →
    payload.get? "options" = dictIfAny o.toEntries
  absent : d.fullCount = .unset → d.options = .unset → payload.get? "options" = none

/-- An entry that may be left out is found under its name. -/
theorem get?_entryIfSet_append (name key : String) (v : Option Value) (rest : Named Value) :
    Named.get? (QueryOptions.entryIfSet key v ++ rest) name =
      if key = name then v.or (Named.get? rest name) else Named.get? rest name := by
  unfold QueryOptions.entryIfSet
  rw [Named.get?_append]
  cases v with
  | none => simp [Named.get?]
  | some w =>
    rw [Option.map_some, Option.toList_some, Named.get?_cons]
    split
    case isTrue => rfl
    case isFalse => rfl

theorem get?_entryIfSet (name key : String) (v : Option Value) :
    Named.get? (QueryOptions.entryIfSet key v) name = if key = name then v else none := by
  have happend := get?_entryIfSet_append name key v []
  rw [List.append_nil] at happend
  rw [happend]
  exact if_congr Iff.rfl Option.or_none rfl

/-- The entries of a payload, one after the other. -/
theorem payload_eq (q : Query) : q.payload = ("query", .str q.text) ::
    (QueryOptions.entryIfSet "bindVars" (dictIfAny q.bindVars) ++
    (QueryOptions.entryIfSet "count" q.count.supplied? ++
    (QueryOptions.entryIfSet "batchSize" (q.batchSize.map fun (n : Nat) => .int n) ++
    (QueryOptions.entryIfSet "cache" q.cache.supplied? ++
    (QueryOptions.entryIfSet "memoryLimit" (q.memoryLimit.map fun (n : Nat) => .int n) ++
    (QueryOptions.entryIfSet "ttl" (q.ttl.map Number.toValue) ++
    QueryOptions.entryIfSet "options" (dictIfAny q.optionEntries))))))) := by
  unfold payload
  simp only [List.append_assoc, List.singleton_append]
  cases q.batchSize <;> cases q.memoryLimit <;> rfl

/-- **What is found in a payload.** -/
theorem get?_payload (q : Query) :
    q.payload.get? "query" = some (.str q.text) ∧
    q.payload.get? "bindVars" = dictIfAny q.bindVars ∧
    q.payload.get? "count" = q.count.supplied? ∧
    q.payload.get? "batchSize" = q.batchSize.map (fun (n : Nat) => .int n) ∧
    q.payload.get? "cache" = q.cache.supplied? ∧
    q.payload.get? "memoryLimit" = q.memoryLimit.map (fun (n : Nat) => .int n) ∧
    q.payload.get? "ttl" = q.ttl.map Number.toValue ∧
    q.payload.get? "options" = dictIfAny q.optionEntries := by
  rw [payload_eq]
  simp [Named.get?_cons, get?_entryIfSet_append, get?_entryIfSet]

theorem dictIfAny_eq_some {entries : Named Value} {v : Value} :
    dictIfAny entries = some v ↔ v = Value.ofNamed entries ∧ entries ≠ [] := by
  unfold dictIfAny
  cases entries with
  | nil =>
    constructor
    · intro h
      cases h
    · exact fun h => absurd rfl h.2
  | cons entry rest =>
    constructor
    · intro h
      exact ⟨(Option.some.inj h).symm, List.cons_ne_nil _ _⟩
    · rintro ⟨rfl, -⟩
      rfl

theorem supplied?_ne_unset {v w : Value} (h : v.supplied? = some w) : w ≠ .unset := by
  cases v with
  | unset => cases h
  | _ =>
    obtain rfl := Option.some.inj h
    exact fun hunset => by cases hunset

theorem supplied_append {entries others : Named Value} (h : Supplied entries)
    (h' : Supplied others) : Supplied (entries ++ others) := by
  intro entry hentry
  obtain hleft | hright := List.mem_append.1 hentry
  · exact h entry hleft
  · exact h' entry hright

theorem supplied_entryIfSet {name : String} {o : Option Value} (h : ∀ v, o = some v → v ≠ .unset) :
    Supplied (QueryOptions.entryIfSet name o) := by
  intro entry hentry
  cases o with
  | none => cases hentry
  | some v =>
    obtain rfl := List.mem_singleton.1 hentry
    exact h v rfl

/-- What has another form than it was given in is set. -/
theorem supplied_map {name : String} {o : Option α} {f : α → Value} (hf : ∀ a, f a ≠ .unset) :
    Supplied (QueryOptions.entryIfSet name (o.map f)) := by
  refine supplied_entryIfSet fun v hv => ?_
  obtain ⟨a, -, rfl⟩ := Option.map_eq_some_iff.1 hv
  exact hf a

theorem supplied_put {entries : Named Value} (h : Supplied entries) {v : Value} (hv : v ≠ .unset)
    (name : String) : Supplied (entries.put name v) := by
  have hmerge : entries.put name v = entries.merge [(name, v)] := rfl
  intro entry hentry
  rw [hmerge] at hentry
  obtain hold | hnew := Named.mem_merge hentry
  · exact h entry hold
  · obtain rfl := List.mem_singleton.1 hnew
    exact hv

theorem supplied_toEntries (o : QueryOptions Value) : Supplied o.toEntries := by
  have hint : ∀ n : Nat, Value.int n ≠ .unset := fun n h => by cases h
  have hnumber : ∀ n : Number, n.toValue ≠ .unset := fun n h => by cases n <;> cases h
  have hrules : ∀ rules : List Value, Value.dict [(.str "rules", .list rules)] ≠ .unset :=
    fun rules h => by cases h
  -- numbers are sent as integers, which are never the marker of what is unset
  have hwarnings : Supplied (QueryOptions.entryIfSet "maxWarningCount"
      (o.maxWarningCount.map fun n => .int n)) := by
    cases o.maxWarningCount with
    | none => exact fun _ h => by cases h
    | some n => exact supplied_entryIfSet fun v hv => Option.some.inj hv ▸ hint n
  have hplans : Supplied (QueryOptions.entryIfSet "maxPlans" (o.maxPlans.map fun n => .int n)) := by
    cases o.maxPlans with
    | none => exact fun _ h => by cases h
    | some n => exact supplied_entryIfSet fun v hv => Option.some.inj hv ▸ hint n
  unfold QueryOptions.toEntries
  refine supplied_append (supplied_append (supplied_append (supplied_append (supplied_append
    (supplied_append (supplied_append ?_ ?_) hwarnings) ?_) hplans) ?_) ?_) ?_
  · exact supplied_entryIfSet fun _ => supplied?_ne_unset
  · exact supplied_entryIfSet fun _ => supplied?_ne_unset
  · exact supplied_entryIfSet fun _ => supplied?_ne_unset
  · exact supplied_map hnumber
  · exact supplied_entryIfSet fun _ => supplied?_ne_unset
  · exact supplied_map hrules

/-- **No option is sent that is not set.** -/
theorem supplied_optionEntries (q : Query) : Supplied q.optionEntries := by
  have hown : Supplied ((q.options.map QueryOptions.toEntries).getD []) := by
    cases q.options with
    | none => exact fun _ h => by cases h
    | some o => exact supplied_toEntries o
  unfold optionEntries
  dsimp only
  cases hfull : q.fullCount.supplied? with
  | none => exact hown
  | some v => exact supplied_put hown (supplied?_ne_unset hfull) "fullCount"

/-- **No field is sent that is not set.** -/
theorem supplied_payload (q : Query) : Supplied q.payload := by
  have hdict : ∀ (entries : Named Value) v, dictIfAny entries = some v → v ≠ .unset := by
    intro entries v hv
    unfold dictIfAny at hv
    split at hv
    · cases hv
    · obtain rfl := Option.some.inj hv
      exact fun h => by cases h
  have hnumber : ∀ n : Number, n.toValue ≠ .unset := fun n h => by cases n <;> cases h
  have htext : Value.str q.text ≠ .unset := fun h => by cases h
  rw [payload_eq]
  refine List.forall_mem_cons.2 ⟨htext, ?_⟩
  refine supplied_append (supplied_entryIfSet (hdict _)) ?_
  refine supplied_append (supplied_entryIfSet fun _ => supplied?_ne_unset) ?_
  refine supplied_append (supplied_map fun n h => by cases h) ?_
  refine supplied_append (supplied_entryIfSet fun _ => supplied?_ne_unset) ?_
  refine supplied_append (supplied_map fun n h => by cases h) ?_
  exact supplied_append (supplied_map hnumber) (supplied_entryIfSet (hdict _))

/-- **The fields of a payload are in order.** -/
theorem order_payload (q : Query) : (q.payload.map Prod.fst).Sublist wireOrder := by
  have hone : ∀ name (o : Option Value),
      ((QueryOptions.entryIfSet name o).map Prod.fst).Sublist [name] := by
    intro name o
    cases o with
    | none => exact List.nil_sublist _
    | some v => exact List.Sublist.refl _
  have hfields : wireOrder = "query" :: (["bindVars"] ++ (["count"] ++ (["batchSize"] ++ (["cache"] ++
    (["memoryLimit"] ++ (["ttl"] ++ ["options"])))))) := rfl
  rw [payload_eq, hfields]
  simp only [List.map_cons, List.map_append]
  exact ((hone _ _).append ((hone _ _).append ((hone _ _).append ((hone _ _).append
    ((hone _ _).append ((hone _ _).append (hone _ _))))))).cons_cons _

/-- What may be left out is given again as it is sent. -/
theorem supplied?_orUnset {f : α → Value} (hf : ∀ a, f a ≠ .unset) (o : Option α) :
    (orUnset (o.map f)).supplied? = o.map f := by
  cases o with
  | none => rfl
  | some a =>
    show (f a).supplied? = some (f a)
    cases hfa : f a with
    | unset => exact absurd hfa (hf a)
    | _ => rfl

/-- **A setting is sent as it is given again.** -/
theorem get?_payload_setting (q : Query) {k : Setting} {name : String}
    (hname : k.wireName? = some name) : q.payload.get? name = (q.draft.get k).supplied? := by
  obtain ⟨-, -, hcount, hbatch, hcache, hmemory, httl, -⟩ := get?_payload q
  obtain ⟨hbatchGiven, hmemoryGiven⟩ := draft_integers q
  cases k with
  | fullCount => cases hname
  | options => cases hname
  | batchSize =>
    obtain rfl := Option.some.inj hname
    show _ = q.draft.batchSize.supplied?
    rw [hbatch, hbatchGiven]
    exact (supplied?_orUnset (fun n h => by cases h) _).symm
  | memoryLimit =>
    obtain rfl := Option.some.inj hname
    show _ = q.draft.memoryLimit.supplied?
    rw [hmemory, hmemoryGiven]
    exact (supplied?_orUnset (fun n h => by cases h) _).symm
  | ttl =>
    obtain rfl := Option.some.inj hname
    rw [httl]
    exact (supplied?_orUnset (fun n h => by cases n <;> cases h) _).symm
  | count =>
    obtain rfl := Option.some.inj hname
    exact hcount
  | cache =>
    obtain rfl := Option.some.inj hname
    exact hcache

/-- The query itself decides about the full count. -/
theorem get?_optionEntries {q : Query} {v : Value} (h : q.fullCount.supplied? = some v) :
    q.optionEntries.get? "fullCount" = some v := by
  unfold optionEntries
  rw [h]
  exact Named.get?_put_self _ _ _

/-- If it does not, the options are sent as they are. -/
theorem optionEntries_of_unset {q : Query} (h : q.fullCount = .unset) :
    q.optionEntries = (q.options.map QueryOptions.toEntries).getD [] := by
  have hnone : q.fullCount.supplied? = none := by
    rw [h]
    rfl
  unfold optionEntries
  rw [hnone]

theorem options_of_draft {q : Query} {o : QueryOptions Value} (h : q.draft.options = .options o) :
    q.options = some o := by
  have hdraft : orUnset (q.options.map .options) = .options o := h
  cases hq : q.options with
  | none =>
    rw [hq] at hdraft
    cases hdraft
  | some o' =>
    rw [hq] at hdraft
    obtain rfl := Value.options.inj hdraft
    rfl

theorem options_of_draft_unset {q : Query} (h : q.draft.options = .unset) : q.options = none := by
  have hdraft : orUnset (q.options.map .options) = .unset := h
  cases hq : q.options with
  | none => rfl
  | some o =>
    rw [hq] at hdraft
    cases hdraft

/-- **What is sent of a query** is what it is given again. -/
theorem sentAs_payload (q : Query) : q.draft.SentAs q.bindVars q.payload := by
  obtain ⟨htext, hvars, -, -, -, -, -, hoptions⟩ := get?_payload q
  refine ⟨order_payload q, htext, ?_, fun k name => get?_payload_setting q, supplied_payload q, ?_,
    ?_, ?_, ?_⟩
  · rw [hvars]
    unfold dictIfAny
    exact if_congr List.isEmpty_iff rfl rfl
  · rintro name v (rfl | rfl) hv
    · rw [hvars] at hv
      obtain ⟨rfl, hne⟩ := dictIfAny_eq_some.1 hv
      exact ⟨q.bindVars, rfl, hne, fun h => absurd h (by decide)⟩
    · rw [hoptions] at hv
      obtain ⟨rfl, hne⟩ := dictIfAny_eq_some.1 hv
      exact ⟨q.optionEntries, rfl, hne, fun _ => supplied_optionEntries q⟩
  · -- an entry for the full count keeps the options from being empty
    intro v hv
    have hfull := get?_optionEntries hv
    refine ⟨q.optionEntries, ?_, hfull⟩
    rw [hoptions]
    refine dictIfAny_eq_some.2 ⟨rfl, fun hempty => ?_⟩
    rw [hempty] at hfull
    cases hfull
  · intro hfull o ho
    rw [hoptions, optionEntries_of_unset hfull, options_of_draft ho]
    rfl
  · intro hfull ho
    rw [hoptions, optionEntries_of_unset hfull, options_of_draft_unset ho]
    rfl

end Query

end AqlClient
