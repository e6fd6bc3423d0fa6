import AqlClient.Proofs.Query.Sending

/-!
# The normal form of a query

A query comes of a draft by any number of calls, and it is the same as if everything had been given at
once: for each setting the value that it was given last, and the bind variables in the order in which
they were first bound, with their last values (`Query.Draft.settled`). What carries this through the
calls is `Query.Built`, which says of a query what the draft and the calls so far have to do with it:
it holds of a query that has just been made (`Query.Built.of_make`), a further call preserves it
(`Query.Built.changed`), and so do any number of them (`Query.Built.foldlM`).

Two lists of calls come to the same if they give the same values and names and are accepted together
(`Query.foldlM_congr`). So calls about different fields commute (`Query.changed_comm`), and binding a
dictionary is binding its entries (`Query.changed_bindVars`). All of this is put together in
`Query.normal_form`.
-/

namespace AqlClient

namespace Query

variable {α : Type} {d : Draft} {q q₀ q' : Query} {c c' : Change} {calls calls' : List Change}

/-! ### What is given, one after the other -/

/-- The bind variables that a query is made with, one after the other. -/
def Draft.given (d : Draft) : Named Value :=
  match d.bindVars with
  | .dict entries => Entries.named entries
  | v => (pairsOf 0 ((v.elements?.getD []).filterMap Value.str?)).toOption.getD []

/-- A dictionary that a query is made with has each name once. -/
def Draft.Distinct (d : Draft) : Prop :=
  ∀ entries, d.bindVars = .dict entries → ((Entries.named entries).map Prod.fst).Nodup

/-- The value that a setting was given last. -/
def lastSet? (calls : List Change) (k : Setting) : Option Value :=
  ((calls.filterMap Change.setting?).reverse.find? fun s => s.1 == k).map Prod.snd

/-- The bind variables that are given in calls, one after the other. -/
def bound (calls : List Change) : Named Value := calls.flatMap fun c => Entries.named c.entries

/-- **Everything at once:** for each setting the value that it was given last, and for the bind
variables the names in the order in which they were first bound, with their last values. -/
def Draft.settled (d : Draft) (calls : List Change) : Draft where
  text := d.text
  bindVars := Value.ofNamed (d.given ++ bound calls).lastValues
  batchSize := (lastSet? calls .batchSize).getD d.batchSize
  count := (lastSet? calls .count).getD d.count
  cache := (lastSet? calls .cache).getD d.cache
  memoryLimit := (lastSet? calls .memoryLimit).getD d.memoryLimit
  ttl := (lastSet? calls .ttl).getD d.ttl
  fullCount := (lastSet? calls .fullCount).getD d.fullCount
  options := (lastSet? calls .options).getD d.options

theorem Draft.get_settled (d : Draft) (calls : List Change) (k : Setting) :
    (d.settled calls).get k = (lastSet? calls k).getD (d.get k) := by
  cases k <;> rfl

/-- A further call decides about the setting that it is about. -/
theorem lastSet?_concat {k : Setting} {v : Value} (hc : c.setting? = some (k, v))
    (calls : List Change) (k' : Setting) :
    lastSet? (calls ++ [c]) k' = if k' = k then some v else lastSet? calls k' := by
  unfold lastSet?
  rw [List.filterMap_append, List.filterMap_cons_some hc, List.filterMap_nil, List.reverse_append,
    List.reverse_singleton, List.singleton_append, List.find?_cons]
  by_cases hk : k' = k
  · rw [if_pos hk, hk, beq_self_eq_true]
    rfl
  · rw [if_neg hk, beq_false_of_ne (Ne.symm hk)]

/-- It leaves all settings alone if it is about bind variables. -/
theorem lastSet?_concat_of_none (hc : c.setting? = none) (calls : List Change) (k : Setting) :
    lastSet? (calls ++ [c]) k = lastSet? calls k := by
  unfold lastSet?
  rw [List.filterMap_append, List.filterMap_cons_none hc, List.filterMap_nil, List.append_nil]

/-- What is no dictionary is gone through for pairs of names and values. -/
theorem bindVarsOf_pairs {v : Value} {vars : Named Value} (hv : ∀ entries, v ≠ .dict entries)
    (h : bindVarsOf v = .ok vars) : vars = Named.ofPairs
      ((pairsOf 0 ((v.elements?.getD []).filterMap Value.str?)).toOption.getD []) := by
  unfold bindVarsOf at h
  split at h
  case h_1 => cases h
  case h_2 names hnames =>
  rw [hnames, Option.getD_some]
  split at h
  case h_2 => cases h
  case h_1 =>
  split at h
  case h_1 entries => exact absurd rfl (hv entries)
  case h_2 =>
  cases hpairs : pairsOf 0 (names.filterMap Value.str?) with
  | ok pairs =>
    rw [hpairs] at h
    exact (Except.ok.inj h).symm
  | error e =>
    rw [hpairs] at h
    cases h

/-- The names that a query is made with keep the order of their first entries. -/
theorem Draft.Makes.bindVars_eq (h : d.Makes q) (hd : d.Distinct) :
    q.bindVars = Named.ofPairs d.given := by
  have hvars := h.bindVars
  unfold Draft.given
  cases hb : d.bindVars with
  | dict entries =>
    rw [hb] at hvars
    obtain ⟨-, hnamed⟩ := bindVarsOf_dict.1 hvars
    rw [hnamed]
    exact (Named.ofPairs_of_nodup (hd entries hb)).symm
  | _ =>
    rw [hb] at hvars
    exact bindVarsOf_pairs (fun _ h => by cases h) hvars

/-! ### Calls one after the other -/

theorem ofNamed_inj {vars vars' : Named Value} (h : Value.ofNamed vars = Value.ofNamed vars') :
    vars = vars' := by
  have hvars := bindVarsOf_ofNamed vars
  rw [h, bindVarsOf_ofNamed] at hvars
  exact (Except.ok.inj hvars).symm

/-- **A query that has come of calls,** one after the other. -/
structure Built (d : Draft) (calls : List Change) (q : Query) : Prop where
  again : q.draft.Makes q
  text : q.draft.text = d.text
  bindVars : q.bindVars = Named.ofPairs (d.given ++ bound calls)
  settings : ∀ k, q.draft.get k = (lastSet? calls k).getD (d.get k)

namespace Built

/-- It begins with a query that was made at once. -/
theorem of_make (hd : d.Distinct) (h : make d = .ok q) : Built d [] q := by
  have hmakes := make_eq_ok.1 h
  refine ⟨hmakes.again, hmakes.text.symm, ?_, fun k => (hmakes.settings k).symm⟩
  have hnone : d.given ++ bound [] = d.given := List.append_nil _
  rw [hnone]
  exact hmakes.bindVars_eq hd

/-- **What a further call preserves.** -/
theorem changed (h : Built d calls q) (hq : q.changed c = .ok q') : Built d (calls ++ [c]) q' := by
  -- the query is made again from what it gives back with one thing altered
  obtain ⟨-, hdraft, hmakes⟩ := (changed_eq_ok h.again).1 hq
  have hbound : bound (calls ++ [c]) = bound calls ++ Entries.named c.entries := by
    unfold bound
    rw [List.flatMap_append, List.flatMap_singleton]
  have hvars : Value.ofNamed q'.bindVars = (q.draftAfter c).bindVars := congrArg Draft.bindVars hdraft
  refine ⟨hmakes, ?_, ?_, fun k => ?_⟩
  · rw [hdraft, ← h.text]
    unfold draftAfter
    cases c.setting? with
    | some s => exact q.draft.put_text s.1 s.2
    | none => rfl
  · rw [hbound, ← List.append_assoc, Named.ofPairs_append, ← h.bindVars]
    unfold draftAfter at hvars
    cases hc : c.setting? with
    | some s =>
      rw [hc] at hvars
      dsimp only at hvars
      rw [Draft.put_bindVars] at hvars
      rw [(Change.bindsTexts_of_setting? hc).2]
      exact ofNamed_inj hvars
    | none =>
      rw [hc] at hvars
      exact ofNamed_inj hvars
  · rw [hdraft]
    unfold draftAfter
    cases hc : c.setting? with
    | some s =>
      dsimp only
      rw [Draft.get_put, h.settings k, lastSet?_concat hc]
      by_cases hk : k = s.1
      · rw [if_pos hk, if_pos hk]
        rfl
      · rw [if_neg hk, if_neg hk]
    | none =>
      rw [lastSet?_concat_of_none hc]
      exact h.settings k

/-- **What any number of calls come to.** -/
theorem foldlM (h : Built d calls q) {more : List Change}
    (hq : more.foldlM Query.changed q = .ok q') : Built d (calls ++ more) q' := by
  induction more generalizing calls q with
  | nil =>
    obtain rfl := Except.ok.inj hq
    rw [List.append_nil]
    exact h
  | cons c rest ih =>
    rw [List.foldlM_cons] at hq
    obtain ⟨q₁, hchanged, hrest⟩ := bind_eq_ok.1 hq
    have hbuilt := ih (h.changed hchanged) hrest
    rwa [List.append_assoc, List.singleton_append] at hbuilt

/-- The names are in the order in which they were first bound. -/
theorem bindVars_eq (h : Built d calls q) : q.bindVars = (d.given ++ bound calls).lastValues := by
  rw [h.bindVars, Named.ofPairs_eq_lastValues]

/-- **The same comes of giving everything at once.** -/
theorem settled_eq (h : Built d calls q) : d.settled calls = q.draft := by
  refine Draft.ext_settings h.text.symm ?_ fun k => ?_
  · show Value.ofNamed (d.given ++ bound calls).lastValues = Value.ofNamed q.bindVars
    rw [h.bindVars_eq]
  · rw [Draft.get_settled, h.settings k]

/-- What has come of the same values and names is the same. -/
theorem unique (h : Built d calls q) (h' : Built d calls' q')
    (hset : ∀ k, lastSet? calls' k = lastSet? calls k) (hbound : bound calls' = bound calls) :
    q' = q := by
  refine eq_of_draft h.again h'.again (Draft.ext_settings (h'.text.trans h.text.symm) ?_ fun k => ?_)
  · show Value.ofNamed q'.bindVars = Value.ofNamed q.bindVars
    rw [h'.bindVars, h.bindVars, hbound]
  · rw [h'.settings, h.settings, hset]

end Built

/-! ### Calls that are refused -/

/-- **The query after some calls,** each of which is made on what has come of the ones before. One
that is refused leaves the query as it is. -/
def afterAll (q : Query) (calls : List Change) : Query :=
  calls.foldl (fun q c => (q.changed c).toOption.getD q) q

/-- The calls that are not refused. -/
def accepted (q : Query) : List Change → List Change
  | [] => []
  | c :: rest =>
    match q.changed c with
    | .ok q' => c :: q'.accepted rest
    | .error _ => q.accepted rest

/-- **Refused calls leave no trace.** -/
theorem foldlM_accepted (q : Query) (calls : List Change) :
    (q.accepted calls).foldlM changed q = .ok (q.afterAll calls) := by
  induction calls generalizing q with
  | nil => rfl
  | cons c rest ih =>
    unfold accepted afterAll
    rw [List.foldl_cons]
    cases hc : q.changed c with
    | ok q' =>
      dsimp only
      rw [List.foldlM_cons, hc]
      exact ih q'
    | error e => exact ih q

/-- Whether calls are accepted, each after the ones before, does not depend on their order. -/
theorem exists_foldlM (h : q.draft.Makes q) :
    (∃ q', calls.foldlM changed q = .ok q') ↔ ∀ c ∈ calls, c.Admissible := by
  induction calls generalizing q with
  | nil =>
    constructor
    · exact fun _ c hc => by cases hc
    · exact fun _ => ⟨q, rfl⟩
  | cons c rest ih =>
    rw [List.forall_mem_cons, ← exists_changed h]
    constructor
    · rintro ⟨q', hq'⟩
      rw [List.foldlM_cons] at hq'
      obtain ⟨q₁, hchanged, hrest⟩ := bind_eq_ok.1 hq'
      have hagain := ((changed_eq_ok h).1 hchanged).2.2
      exact ⟨⟨q₁, hchanged⟩, (ih hagain).1 ⟨q', hrest⟩⟩
    · rintro ⟨⟨q₁, hchanged⟩, hrest⟩
      have hagain := ((changed_eq_ok h).1 hchanged).2.2
      obtain ⟨q', hq'⟩ := (ih hagain).2 hrest
      refine ⟨q', ?_⟩
      rw [List.foldlM_cons]
      exact bind_eq_ok.2 ⟨q₁, hchanged, hq'⟩

/-- **Calls come to the same** if they are accepted together, and give the same values and names. -/
theorem foldlM_congr (h : q.draft.Makes q) (hnodup : (q.bindVars.map Prod.fst).Nodup)
    (hadmissible : (∀ c ∈ calls', c.Admissible) ↔ ∀ c ∈ calls, c.Admissible)
    (hset : ∀ k, lastSet? calls' k = lastSet? calls k) (hbound : bound calls' = bound calls) :
    (calls'.foldlM changed q).toOption = (calls.foldlM changed q).toOption := by
  -- both lists of calls start from the same query, as if it had just been made
  have hdistinct : q.draft.Distinct := by
    intro entries hentries
    obtain rfl : Entries.ofNamed q.bindVars = entries := Value.dict.inj hentries
    rw [Entries.named_ofNamed]
    exact hnodup
  have hstart : Built q.draft [] q := .of_make hdistinct (make_eq_ok.2 h)
  rw [← exists_foldlM h, ← exists_foldlM h] at hadmissible
  cases hq : calls.foldlM changed q with
  | ok q₁ =>
    obtain ⟨q₂, hq'⟩ := hadmissible.2 ⟨q₁, hq⟩
    rw [hq', (hstart.foldlM hq).unique (hstart.foldlM hq') hset hbound]
  | error e =>
    cases hq' : calls'.foldlM changed q with
    | ok q₂ =>
      obtain ⟨q₁, hq₁⟩ := hadmissible.1 ⟨q₂, hq'⟩
      rw [hq] at hq₁
      cases hq₁
    | error e' => rfl

/-- The value of a setting that a single call gives. -/
theorem lastSet?_singleton {k : Setting} {v : Value} (hc : c.setting? = some (k, v)) (k' : Setting) :
    lastSet? [c] k' = if k' = k then some v else none :=
  lastSet?_concat hc [] k'

/-- What gives bind variables gives no setting. -/
theorem lastSet?_of_none (h : ∀ c ∈ calls, c.setting? = none) (k : Setting) :
    lastSet? calls k = none := by
  have hnone : calls.filterMap Change.setting? = [] := List.filterMap_eq_nil_iff.2 h
  unfold lastSet?
  rw [hnone]
  rfl

theorem bound_pair (c c' : Change) :
    bound [c, c'] = Entries.named c.entries ++ Entries.named c'.entries := by
  unfold bound
  rw [List.flatMap_cons, List.flatMap_singleton]

/-- At most one of two calls about different fields binds variables. -/
theorem bound_swap (hfield : c.field ≠ c'.field) : bound [c', c] = bound [c, c'] := by
  rw [bound_pair, bound_pair]
  cases hc : c.setting? with
  | some s =>
    rw [(Change.bindsTexts_of_setting? hc).2]
    exact List.append_nil _
  | none =>
    cases hc' : c'.setting? with
    | some s' =>
      rw [(Change.bindsTexts_of_setting? hc').2]
      exact (List.append_nil _).symm
    | none =>
      unfold Change.field at hfield
      rw [hc, hc'] at hfield
      exact absurd rfl hfield

/-- At most one of them is about a setting. -/
theorem lastSet?_swap (hfield : c.field ≠ c'.field) (k : Setting) :
    lastSet? [c', c] k = lastSet? [c, c'] k := by
  have hsplit : ∀ a b : Change, [a, b] = [a] ++ [b] := fun a b => rfl
  rw [hsplit, hsplit]
  cases hc : c.setting? with
  | none =>
    have hnone : ∀ c₁ ∈ [c], c₁.setting? = none := by simpa using hc
    rw [lastSet?_concat_of_none hc]
    cases hc' : c'.setting? with
    | none =>
      unfold Change.field at hfield
      rw [hc, hc'] at hfield
      exact absurd rfl hfield
    | some s' => rw [lastSet?_concat hc', lastSet?_singleton hc', lastSet?_of_none hnone]
  | some s =>
    rw [lastSet?_concat hc]
    cases hc' : c'.setting? with
    | none =>
      have hnone : ∀ c₁ ∈ [c'], c₁.setting? = none := by simpa using hc'
      rw [lastSet?_concat_of_none hc', lastSet?_singleton hc, lastSet?_of_none hnone]
    | some s' =>
      have hne : s.1 ≠ s'.1 := by
        intro heq
        apply hfield
        unfold Change.field
        rw [hc, hc', Option.map_some, Option.map_some, heq]
      rw [lastSet?_concat hc', lastSet?_singleton hc, lastSet?_singleton hc']
      by_cases hk : k = s.1
      · rw [if_pos hk, if_neg fun hk' => hne (hk.symm.trans hk'), if_pos hk]
      · rw [if_neg hk, if_neg hk]

/-- **Calls about different fields commute.** -/
theorem changed_comm (h : q.draft.Makes q) (hnodup : (q.bindVars.map Prod.fst).Nodup)
    (hfield : c.field ≠ c'.field) :
    ([c', c].foldlM changed q).toOption = ([c, c'].foldlM changed q).toOption := by
  refine foldlM_congr h hnodup ?_ (lastSet?_swap hfield) (bound_swap hfield)
  rw [List.forall_mem_cons, List.forall_mem_singleton, List.forall_mem_cons,
    List.forall_mem_singleton, and_comm]

/-- **Binding a dictionary** is binding its entries one after the other. -/
theorem changed_bindVars (h : q.draft.Makes q) (hnodup : (q.bindVars.map Prod.fst).Nodup)
    (entries : Entries) :
    (q.changed (.bindVars (.dict entries))).toOption =
      ((entries.map fun entry => .bindVar entry.1 entry.2).foldlM changed q).toOption := by
  have hsingle : q.changed (.bindVars (.dict entries)) =
      [Change.bindVars (.dict entries)].foldlM changed q := by
    rw [List.foldlM_cons]
    cases q.changed (.bindVars (.dict entries)) <;> rfl
  rw [hsingle]
  refine foldlM_congr h hnodup ?_ (fun k => ?_) ?_
  · rw [List.forall_mem_singleton, List.forall_mem_map, Change.admissible_of_none rfl]
    refine forall_congr' fun entry => forall_congr' fun _ => Iff.symm ?_
    exact Change.admissible_of_none rfl
  · have hone : ∀ c ∈ [Change.bindVars (.dict entries)], c.setting? = none := by
      intro c hc
      obtain rfl := List.mem_singleton.1 hc
      rfl
    have heach : ∀ c ∈ entries.map fun entry => Change.bindVar entry.1 entry.2,
        c.setting? = none := by
      intro c hc
      obtain ⟨entry, -, rfl⟩ := List.mem_map.1 hc
      rfl
    rw [lastSet?_of_none hone, lastSet?_of_none heach]
  · unfold bound
    rw [List.flatMap_singleton, List.flatMap_map]
    show entries.filterMap _ = _
    rw [List.filterMap_eq_flatMap_toList]
    refine List.flatMap_congr fun entry _ => ?_
    cases hname : entry.1.str? with
    | none => simp [Change.entries, Entries.named, hname]
    | some name => simp [Change.entries, Entries.named, hname]

/-! ### The normal form -/

/-- **The normal form of a query.** However a query has come of calls that were accepted, it is the
query that is made at once from the last values of its settings, and from its bind variables in the
order in which they were first bound, with their last values. So what is sent of it is what is sent
of that one, in the same order: its fields are in a fixed order, there are those that are set and no
others, and the full count is what the query itself says. Further calls about different fields
commute, and a dictionary is bound like its entries one after the other. Calls that are refused leave
no trace, wherever they are made. -/
theorem normal_form (hd : d.Distinct) (h₀ : make d = .ok q₀) :
    (∀ calls q, calls.foldlM changed q₀ = .ok q →
      make (d.settled calls) = .ok q ∧
      (d.settled calls).SentAs (d.given ++ bound calls).lastValues q.payload ∧
      (∀ c c' : Change, c.field ≠ c'.field →
        ([c', c].foldlM changed q).toOption = ([c, c'].foldlM changed q).toOption) ∧
      ∀ entries : Entries, (q.changed (.bindVars (.dict entries))).toOption =
        ((entries.map fun entry => .bindVar entry.1 entry.2).foldlM changed q).toOption) ∧
    ∀ calls, (q₀.accepted calls).foldlM changed q₀ = .ok (q₀.afterAll calls) := by
  refine ⟨fun calls q hq => ?_, q₀.foldlM_accepted⟩
  have hbuilt : Built d calls q := (Built.of_make hd h₀).foldlM hq
  have hempty : (([] : Named Value).map Prod.fst).Nodup := List.nodup_nil
  have hnodup : (q.bindVars.map Prod.fst).Nodup := by
    rw [hbuilt.bindVars]
    exact Named.nodup_merge hempty _
  rw [hbuilt.settled_eq, ← hbuilt.bindVars_eq]
  refine ⟨make_eq_ok.2 hbuilt.again, sentAs_payload q, fun c c' hfield => ?_, fun entries => ?_⟩
  · exact changed_comm hbuilt.again hnodup hfield
  · exact changed_bindVars hbuilt.again hnodup entries

theorem ok_of_toOption {x : Except Failure α} {a : α} (h : x.toOption = some a) : x = .ok a := by
  cases x with
  | ok b => exact congrArg Except.ok (Option.some.inj h)
  | error e => cases h

/-- A query with a bind variable. -/
def Draft.specimen : Draft :=
  { Draft.ofText (.str "RETURN @a + @b") with bindVars := .dict [(.str "a", .int 1)] }

/-- Settings and bind variables, some of which are given twice. -/
def Change.specimens : List Change :=
  [.fullCount (.bool true), .bindVar (.str "b") (.int 2), .batchSize (.int 10),
    .bindVars (.dict [(.str "a", .int 3)]), .batchSize (.int 5),
    .options (.options ⟨.unset, .unset, none, .bool false, some 4, none, none, .unset⟩)]

/-- Two values are given for one name, for the size of the batches and for the full count. -/
theorem normal_form_specimen : Draft.specimen.Distinct ∧ ∃ q₀ q, make Draft.specimen = .ok q₀ ∧
    Change.specimens.foldlM changed q₀ = .ok q ∧
    make (Draft.specimen.settled Change.specimens) = .ok q ∧
    (Value.ofNamed q.payload).encodePayload.toOption =
      some (some ("\x7b\"query\":\"RETURN @a + @b\",\"bindVars\":\x7b\"a\":3,\"b\":2\x7d," ++
        "\"batchSize\":5,\"options\":\x7b\"fullCount\":true,\"maxPlans\":4\x7d\x7d")) := by
  have hdistinct : Draft.specimen.Distinct := by
    intro entries hentries
    obtain rfl : [(Value.str "a", Value.int 1)] = entries := Value.dict.inj hentries
    exact List.nodup_singleton _
  have hsent : ((make Draft.specimen).toOption.bind fun q₀ =>
      (Change.specimens.foldlM changed q₀).toOption.bind fun q =>
        (Value.ofNamed q.payload).encodePayload.toOption) =
      some (some ("\x7b\"query\":\"RETURN @a + @b\",\"bindVars\":\x7b\"a\":3,\"b\":2\x7d," ++
        "\"batchSize\":5,\"options\":\x7b\"fullCount\":true,\"maxPlans\":4\x7d\x7d")) := by
    decide +kernel
  obtain ⟨q₀, hmade, hsent⟩ := Option.bind_eq_some_iff.1 hsent
  obtain ⟨q, hchanged, hsent⟩ := Option.bind_eq_some_iff.1 hsent
  have h₀ : make Draft.specimen = .ok q₀ := ok_of_toOption hmade
  have hq : Change.specimens.foldlM changed q₀ = .ok q := ok_of_toOption hchanged
  exact ⟨hdistinct, q₀, q, h₀, hq, ((normal_form hdistinct h₀).1 _ q hq).1, hsent⟩

end Query

end AqlClient
