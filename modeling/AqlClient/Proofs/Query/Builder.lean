import AqlClient.Proofs.Query.Bindings

/-!
# Building queries step by step

A draft makes a query if its values are accepted, and the query keeps them as they are
(`Query.Draft.Makes`): this is the same as saying that making it succeeds (`Query.make_eq_ok`), and a
query can be made again from the draft that it gives back (`Query.Draft.Makes.again`). So a query is
known by its draft (`Query.eq_of_draft`).

Every change makes a query from such a draft with one thing altered (`Query.draftAfter`). All fields are
checked again, but those that were accepted before are accepted still. What a change comes to therefore
depends on what it gives alone (`Query.changed_eq_ok`), and so does whether it is accepted
(`Query.Change.Admissible`, `Query.exists_changed`).
-/

namespace AqlClient

variable {α β : Type}

/-- Two steps come to a value if the first one does and the second one does with that. -/
theorem bind_eq_ok {x : Except Failure α} {f : α → Except Failure β} {b : β} :
    (x >>= f) = .ok b ↔ ∃ a, x = .ok a ∧ f a = .ok b := by
  constructor
  · intro h
    cases x with
    | ok a => exact ⟨a, rfl, h⟩
    | error e => cases h
  · rintro ⟨a, rfl, h⟩
    exact h

namespace Query

/-! ### Settings -/

/-- The settings that are given by a single value. -/
inductive Setting where
  | batchSize
  | count
  | cache
  | memoryLimit
  | ttl
  | fullCount
  | options
  deriving DecidableEq

/-- Whether a value may be given for a setting. -/
def Setting.passes : Setting → Value → Bool
  | .batchSize, v => (positive? v).isSome
  | .memoryLimit, v => v.natural?.isSome
  | .ttl, v => (lifetime? v).isSome
  | .options, v => (options? v).isSome
  | .count, _ => true
  | .cache, _ => true
  | .fullCount, _ => true

/-- A setting may be left out, too. -/
def Setting.Accepts (k : Setting) (v : Value) : Prop := v = .unset ∨ k.passes v = true

namespace Draft

/-- What is given for a setting. -/
def get (d : Draft) : Setting → Value
  | .batchSize => d.batchSize
  | .count => d.count
  | .cache => d.cache
  | .memoryLimit => d.memoryLimit
  | .ttl => d.ttl
  | .fullCount => d.fullCount
  | .options => d.options

/-- A draft with another value for a setting. -/
def put (d : Draft) (k : Setting) (v : Value) : Draft :=
  match k with
  | .batchSize => { d with batchSize := v }
  | .count => { d with count := v }
  | .cache => { d with cache := v }
  | .memoryLimit => { d with memoryLimit := v }
  | .ttl => { d with ttl := v }
  | .fullCount => { d with fullCount := v }
  | .options => { d with options := v }

variable (d : Draft) (k : Setting) (v : Value)

@[simp] theorem put_text : (d.put k v).text = d.text := by cases k <;> rfl

@[simp] theorem put_bindVars : (d.put k v).bindVars = d.bindVars := by cases k <;> rfl

theorem get_put (k' : Setting) : (d.put k v).get k' = if k' = k then v else d.get k' := by
  cases k <;> cases k' <;> rfl

/-- A draft is its text, its bind variables and its settings. -/
theorem ext_settings {d d' : Draft} (htext : d.text = d'.text) (hbind : d.bindVars = d'.bindVars)
    (hsettings : ∀ k, d.get k = d'.get k) : d = d' := by
  obtain ⟨text, bindVars, batchSize, count, cache, memoryLimit, ttl, fullCount, options⟩ := d
  obtain ⟨text', bindVars', batchSize', count', cache', memoryLimit', ttl', fullCount',
    options'⟩ := d'
  obtain rfl : text = text' := htext
  obtain rfl : bindVars = bindVars' := hbind
  obtain rfl : batchSize = batchSize' := hsettings .batchSize
  obtain rfl : count = count' := hsettings .count
  obtain rfl : cache = cache' := hsettings .cache
  obtain rfl : memoryLimit = memoryLimit' := hsettings .memoryLimit
  obtain rfl : ttl = ttl' := hsettings .ttl
  obtain rfl : fullCount = fullCount' := hsettings .fullCount
  obtain rfl : options = options' := hsettings .options
  rfl

end Draft

/-! ### What a query is made of -/

/-- A checked setting is the value that was given, which was accepted. -/
theorem settingOr_eq_ok {check : Value → Option α} {back : α → Value}
    (hback : ∀ {v a}, check v = some a → back a = v) (hinj : ∀ {a b}, back a = back b → a = b)
    (hset : ∀ a, back a ≠ .unset) {v : Value} {refusal : Refusal} {o : Option α} :
    v.settingOr refusal check = .ok o ↔
      v = orUnset (o.map back) ∧ (v = .unset ∨ (check v).isSome) := by
  by_cases hv : v = .unset
  · subst hv
    have hnone : Value.settingOr .unset refusal check = .ok none := rfl
    rw [hnone]
    cases o with
    | none => exact ⟨fun _ => ⟨rfl, .inl rfl⟩, fun _ => rfl⟩
    | some a =>
      constructor
      · intro h
        cases h
      · rintro ⟨h, -⟩
        exact absurd h.symm (hset a)
  · have hsupplied : v.supplied? = some v := by
      cases v with
      | unset => exact absurd rfl hv
      | _ => rfl
    unfold Value.settingOr
    rw [hsupplied]
    dsimp only
    cases hcheck : check v with
    | none =>
      constructor
      · intro h
        cases h
      · rintro ⟨-, h | h⟩
        · exact absurd h hv
        · cases h
    | some a =>
      constructor
      · intro h
        obtain rfl := Except.ok.inj h
        exact ⟨(hback hcheck).symm, .inr rfl⟩
      · rintro ⟨h, -⟩
        cases o with
        | none => exact absurd h hv
        | some b =>
          have hsame : back a = back b := (hback hcheck).trans h
          rw [hinj hsame]

/-- **What a query is made from:** the text, the bind variables, and for each setting the value that
the query has to be given again, which is accepted. -/
structure Draft.Makes (d : Draft) (q : Query) : Prop where
  text : d.text = .str q.text
  bindVars : bindVarsOf d.bindVars = .ok q.bindVars
  settings : ∀ k : Setting, d.get k = q.draft.get k
  accepted : ∀ k : Setting, k.Accepts (d.get k)

/-- An integer that is not negative is what it was given as. -/
theorem of_int? {v : Value} {P : Int → Prop} [DecidablePred P] (hP : ∀ i, P i → 0 ≤ i) {n : Nat}
    (h : (v.int?.bind fun i => if P i then some i.toNat else none) = some n) : Value.int n = v := by
  obtain ⟨i, hi, hn⟩ := Option.bind_eq_some_iff.1 h
  split at hn
  case isTrue hpos =>
    obtain rfl := Option.some.inj hn
    cases v with
    | int j =>
      obtain rfl := Option.some.inj hi
      rw [Int.toNat_of_nonneg (hP _ hpos)]
    | _ => cases hi
  case isFalse => cases hn

/-- So is a number above zero. -/
theorem of_lifetime? {v : Value} {n : Number} (h : lifetime? v = some n) : n.toValue = v := by
  obtain ⟨hn, -⟩ := Option.filter_eq_some_iff.1 h
  cases v with
  | int i =>
    obtain rfl := Option.some.inj hn
    rfl
  | float x =>
    obtain rfl := Option.some.inj hn
    rfl
  | _ => cases hn

theorem toValue_inj {m n : Number} (h : m.toValue = n.toValue) : m = n := by
  cases m with
  | int i =>
    cases n with
    | int j => exact congrArg Number.int (Value.int.inj h)
    | float y => cases h
  | float x =>
    cases n with
    | int j => cases h
    | float y => exact congrArg Number.float (Value.float.inj h)

theorem of_options? {v : Value} {o : QueryOptions Value} (h : options? v = some o) :
    Value.options o = v := by
  cases v with
  | options o' =>
    obtain rfl := Option.some.inj h
    rfl
  | _ => cases h

/-- Integers are given again as integers. -/
theorem draft_integers (q : Query) :
    q.draft.batchSize = orUnset (q.batchSize.map fun (n : Nat) => .int n) ∧
      q.draft.memoryLimit = orUnset (q.memoryLimit.map fun (n : Nat) => .int n) := by
  unfold draft
  constructor
  · cases q.batchSize <;> rfl
  · cases q.memoryLimit <;> rfl

/-- What a query is made of is what it is given again. -/
theorem get_eq_draft {d : Draft} {s : String} {vars : Named Value} {batch memory : Option Nat}
    {ttl : Option Number} {options : Option (QueryOptions Value)}
    (hbatch : d.batchSize = orUnset (batch.map fun (n : Nat) => .int n))
    (hmemory : d.memoryLimit = orUnset (memory.map fun (n : Nat) => .int n))
    (httl : d.ttl = orUnset (ttl.map Number.toValue))
    (hoptions : d.options = orUnset (options.map .options)) (k : Setting) :
    d.get k = (⟨s, vars, batch, d.count, d.cache, memory, ttl, d.fullCount, options⟩ :
      Query).draft.get k := by
  have hintegers := draft_integers
    ⟨s, vars, batch, d.count, d.cache, memory, ttl, d.fullCount, options⟩
  cases k with
  | batchSize => exact hbatch.trans hintegers.1.symm
  | memoryLimit => exact hmemory.trans hintegers.2.symm
  | ttl => exact httl
  | options => exact hoptions
  | _ => rfl

section Checks

variable {v : Value}

theorem batchSize_eq_ok {o : Option Nat} : v.settingOr .batchSize positive? = .ok o ↔
    v = orUnset (o.map fun (n : Nat) => .int n) ∧ Setting.Accepts .batchSize v :=
  settingOr_eq_ok (of_int? fun _ => Int.le_of_lt) (fun h => Int.ofNat.inj (Value.int.inj h))
    fun _ h => by cases h

theorem memoryLimit_eq_ok {o : Option Nat} : v.settingOr .memoryLimit Value.natural? = .ok o ↔
    v = orUnset (o.map fun (n : Nat) => .int n) ∧ Setting.Accepts .memoryLimit v :=
  settingOr_eq_ok (of_int? fun _ => id) (fun h => Int.ofNat.inj (Value.int.inj h))
    fun _ h => by cases h

theorem ttl_eq_ok {o : Option Number} : v.settingOr .ttl lifetime? = .ok o ↔
    v = orUnset (o.map Number.toValue) ∧ Setting.Accepts .ttl v :=
  settingOr_eq_ok of_lifetime? toValue_inj fun n h => by cases n <;> cases h

theorem options_eq_ok {o : Option (QueryOptions Value)} : v.settingOr .options options? = .ok o ↔
    v = orUnset (o.map .options) ∧ Setting.Accepts .options v :=
  settingOr_eq_ok of_options? Value.options.inj fun _ h => by cases h

end Checks

/-- **A query is made exactly if everything that is given is accepted.** -/
theorem make_eq_ok {d : Draft} {q : Query} : make d = .ok q ↔ d.Makes q := by
  constructor
  · intro h
    unfold make at h
    split at h
    case h_2 => cases h
    case h_1 s htext =>
    simp only [bind_eq_ok] at h
    obtain ⟨_, hs, vars, hvars, batch, hbatch, memory, hmemory, ttl, httl, options, hoptions, hq⟩ := h
    obtain rfl := Except.ok.inj hs
    obtain rfl := Except.ok.inj hq
    obtain ⟨hbatch, hbatchOk⟩ := batchSize_eq_ok.1 hbatch
    obtain ⟨hmemory, hmemoryOk⟩ := memoryLimit_eq_ok.1 hmemory
    obtain ⟨httl, httlOk⟩ := ttl_eq_ok.1 httl
    obtain ⟨hoptions, hoptionsOk⟩ := options_eq_ok.1 hoptions
    refine ⟨htext, hvars, get_eq_draft hbatch hmemory httl hoptions, fun k => ?_⟩
    cases k with
    | batchSize => exact hbatchOk
    | memoryLimit => exact hmemoryOk
    | ttl => exact httlOk
    | options => exact hoptionsOk
    | _ => exact .inr rfl
  · intro h
    unfold make
    rw [h.text]
    simp only [bind_eq_ok]
    refine ⟨q.text, rfl, q.bindVars, h.bindVars, q.batchSize, ?_, q.memoryLimit, ?_, q.ttl, ?_,
      q.options, ?_, ?_⟩
    · exact batchSize_eq_ok.2
        ⟨(h.settings .batchSize).trans (draft_integers q).1, h.accepted .batchSize⟩
    · exact memoryLimit_eq_ok.2
        ⟨(h.settings .memoryLimit).trans (draft_integers q).2, h.accepted .memoryLimit⟩
    · exact ttl_eq_ok.2 ⟨h.settings .ttl, h.accepted .ttl⟩
    · exact options_eq_ok.2 ⟨h.settings .options, h.accepted .options⟩
    · have hcount : d.count = q.count := h.settings .count
      have hcache : d.cache = q.cache := h.settings .cache
      have hfull : d.fullCount = q.fullCount := h.settings .fullCount
      rw [hcount, hcache, hfull]
      rfl

variable {d : Draft} {q q' : Query} {c : Change}

/-- A query is given again as it was given, but for the form of its bind variables. -/
theorem Draft.Makes.draft_eq (h : d.Makes q) :
    q.draft = { d with bindVars := Value.ofNamed q.bindVars } :=
  Draft.ext_settings h.text.symm rfl fun k => by
    rw [← h.settings k]
    cases k <;> rfl

/-- **A query that has been made can be made again.** -/
theorem Draft.Makes.again (h : d.Makes q) : q.draft.Makes q where
  text := rfl
  bindVars := bindVarsOf_ofNamed q.bindVars
  settings _ := rfl
  accepted k := h.settings k ▸ h.accepted k

/-- Queries that are given again in the same way are the same. -/
theorem eq_of_draft (h : q.draft.Makes q) (h' : q'.draft.Makes q') (hdraft : q'.draft = q.draft) :
    q' = q := by
  have hmake : make q.draft = .ok q' := hdraft ▸ make_eq_ok.2 h'
  rw [make_eq_ok.2 h] at hmake
  exact (Except.ok.inj hmake).symm

/-! ### Changes -/

namespace Change

/-- The setting that is given again in a change, and its value. -/
def setting? : Change → Option (Setting × Value)
  | .batchSize v => some (.batchSize, v)
  | .count v => some (.count, v)
  | .cache v => some (.cache, v)
  | .memoryLimit v => some (.memoryLimit, v)
  | .ttl v => some (.ttl, v)
  | .fullCount v => some (.fullCount, v)
  | .options v => some (.options, v)
  | .bindVar .. => none
  | .bindVars _ => none

/-- The field that is changed: a setting, or else the bind variables. -/
def field (c : Change) : Option Setting := c.setting?.map Prod.fst

/-- The bind variables that are given in a change. -/
def entries : Change → Entries
  | .bindVar name value => [(name, value)]
  | .bindVars (.dict entries) => entries
  | _ => []

/-- Bind variables are given under texts. -/
def BindsTexts : Change → Prop
  | .bindVar name _ => name.str?.isSome
  | .bindVars (.dict entries) => Entries.Texts entries
  | .bindVars _ => False
  | _ => True

/-- **What is accepted as a change** does not depend on the query: values for settings that pass, and
bind variables under texts. -/
def Admissible (c : Change) : Prop :=
  c.BindsTexts ∧ ∀ k v, c.setting? = some (k, v) → k.Accepts v

/-- What gives a setting again gives no bind variables. -/
theorem bindsTexts_of_setting? {s : Setting × Value} (h : c.setting? = some s) :
    c.BindsTexts ∧ c.entries = [] := by
  cases c with
  | bindVar name value => cases h
  | bindVars v => cases h
  | _ => exact ⟨trivial, rfl⟩

/-- A setting is given, and nothing else. -/
theorem admissible_of_setting? {k : Setting} {v : Value} (h : c.setting? = some (k, v)) :
    c.Admissible ↔ k.Accepts v := by
  constructor
  · exact fun hadmissible => hadmissible.2 k v h
  · intro haccepts
    refine ⟨(bindsTexts_of_setting? h).1, fun k' v' h' => ?_⟩
    rw [h] at h'
    obtain ⟨rfl, rfl⟩ := Prod.mk.inj (Option.some.inj h')
    exact haccepts

/-- No setting is given. -/
theorem admissible_of_none (h : c.setting? = none) : c.Admissible ↔ c.BindsTexts := by
  refine and_iff_left fun k v h' => ?_
  rw [h] at h'
  cases h'

end Change

/-- What is given for a query after a change that is accepted. -/
def draftAfter (q : Query) (c : Change) : Draft :=
  match c.setting? with
  | some (k, v) => q.draft.put k v
  | none => { q.draft with bindVars := Value.ofNamed (q.bindVars.merge c.entries.named) }

/-- A setting is given again. -/
theorem make_put (h : q.draft.Makes q) {k : Setting} {v : Value} :
    make (q.draft.put k v) = .ok q' ↔
      k.Accepts v ∧ q'.draft = q.draft.put k v ∧ q'.draft.Makes q' := by
  constructor
  · intro hmake
    have hmakes := make_eq_ok.1 hmake
    -- the bind variables are checked again, and are what they were
    have hvars : q'.bindVars = q.bindVars := by
      have hsame := hmakes.bindVars
      rw [Draft.put_bindVars, h.bindVars] at hsame
      exact (Except.ok.inj hsame).symm
    have haccepts := hmakes.accepted k
    rw [Draft.get_put, if_pos rfl] at haccepts
    refine ⟨haccepts, ?_, hmakes.again⟩
    rw [hmakes.draft_eq, hvars]
    exact Draft.ext_settings rfl (q.draft.put_bindVars k v).symm fun k' => by cases k' <;> rfl
  · rintro ⟨-, hdraft, hmakes⟩
    rw [← hdraft]
    exact make_eq_ok.2 hmakes

/-- Bind variables are laid over those of a query. -/
theorem make_binding {entries : Entries} :
    make (q.draft.binding q.bindVars entries) = .ok q' ↔
      entries.Texts ∧
      q'.draft = { q.draft with bindVars := Value.ofNamed (q.bindVars.merge entries.named) } ∧
      q'.draft.Makes q' := by
  constructor
  · intro hmake
    have hmakes := make_eq_ok.1 hmake
    obtain ⟨htexts, hvars⟩ := bindVarsOf_laid.1 hmakes.bindVars
    refine ⟨htexts, ?_, hmakes.again⟩
    rw [hmakes.draft_eq, hvars]
    rfl
  · rintro ⟨htexts, hdraft, hmakes⟩
    have hvars : q'.bindVars = q.bindVars.merge entries.named := by
      have hsame := hmakes.bindVars
      rw [hdraft] at hsame
      exact (Except.ok.inj ((bindVarsOf_ofNamed _).symm.trans hsame)).symm
    have hget : ∀ k : Setting, (q.draft.binding q.bindVars entries).get k = q'.draft.get k := by
      intro k
      rw [hdraft]
      cases k <;> rfl
    refine make_eq_ok.2 ⟨?_, bindVarsOf_laid.2 ⟨htexts, hvars⟩, hget, fun k => ?_⟩
    · have htext : q'.draft.text = q.draft.text := by rw [hdraft]
      exact htext.symm
    · rw [hget k]
      exact hmakes.accepted k

/-- A single variable is bound. What cannot be a key is no text. -/
theorem changed_bindVar {name value : Value} :
    q.changed (.bindVar name value) = .ok q' ↔
      name.str?.isSome ∧
      q'.draft = { q.draft with
        bindVars := Value.ofNamed (q.bindVars.merge (Entries.named [(name, value)])) } ∧
      q'.draft.Makes q' := by
  have htexts : Entries.Texts [(name, value)] ↔ name.str?.isSome := List.forall_mem_singleton
  have hdraft : q.changedDraft (.bindVar name value) = if name.isKey then
      .ok (q.draft.binding q.bindVars [(name, value)]) else .error .wrongType := rfl
  unfold changed
  rw [hdraft]
  by_cases hkey : name.isKey = true
  · rw [if_pos hkey, ← htexts]
    exact make_binding
  · rw [if_neg hkey]
    constructor
    · intro h
      cases h
    · -- every text can be a key
      rintro ⟨htext, -⟩
      cases name with
      | str s => exact absurd rfl hkey
      | _ => cases htext

/-- **A change is accepted** if it is admissible, and then it is all that changes. -/
theorem changed_eq_ok (h : q.draft.Makes q) :
    q.changed c = .ok q' ↔ c.Admissible ∧ q'.draft = q.draftAfter c ∧ q'.draft.Makes q' := by
  unfold draftAfter
  cases hc : c.setting? with
  | some s =>
    have hchanged : q.changed c = make (q.draft.put s.1 s.2) := by
      cases c <;> cases hc <;> rfl
    rw [hchanged, Change.admissible_of_setting? hc]
    exact make_put h
  | none =>
    rw [Change.admissible_of_none hc]
    cases c with
    | bindVar name value => exact changed_bindVar
    | bindVars v =>
      cases v with
      | dict entries => exact make_binding
      | _ =>
        constructor
        · intro h
          cases h
        · intro h
          exact h.1.elim
    | _ => cases hc

/-- A setting that is accepted is one that a query can hold. -/
theorem exists_orUnset {check : Value → Option α} {back : α → Value}
    (hback : ∀ {v a}, check v = some a → back a = v) {v : Value}
    (h : v = .unset ∨ (check v).isSome) : ∃ o : Option α, v = orUnset (o.map back) := by
  obtain rfl | hsome := h
  · exact ⟨none, rfl⟩
  · obtain ⟨a, ha⟩ := Option.isSome_iff_exists.1 hsome
    exact ⟨some a, (hback ha).symm⟩

/-- **What is accepted piece by piece makes a query.** -/
theorem exists_makes {s : String} {vars : Named Value} (htext : d.text = .str s)
    (hvars : bindVarsOf d.bindVars = .ok vars) (haccepted : ∀ k : Setting, k.Accepts (d.get k)) :
    ∃ q, d.Makes q := by
  obtain ⟨batch, hbatch⟩ : ∃ o : Option Nat, d.batchSize = orUnset (o.map fun (n : Nat) => .int n) :=
    exists_orUnset (of_int? fun _ => Int.le_of_lt) (haccepted .batchSize)
  obtain ⟨memory, hmemory⟩ :
      ∃ o : Option Nat, d.memoryLimit = orUnset (o.map fun (n : Nat) => .int n) :=
    exists_orUnset (of_int? fun _ => id) (haccepted .memoryLimit)
  obtain ⟨ttl, httl⟩ := exists_orUnset of_lifetime? (haccepted .ttl)
  obtain ⟨options, hoptions⟩ := exists_orUnset of_options? (haccepted .options)
  exact ⟨⟨s, vars, batch, d.count, d.cache, memory, ttl, d.fullCount, options⟩, htext, hvars,
    get_eq_draft hbatch hmemory httl hoptions, haccepted⟩

/-- **A query accepts exactly the admissible changes.** -/
theorem exists_changed (h : q.draft.Makes q) : (∃ q', q.changed c = .ok q') ↔ c.Admissible := by
  constructor
  · rintro ⟨q', hq'⟩
    exact ((changed_eq_ok h).1 hq').1
  · intro hadmissible
    have hafter : ∃ vars, (q.draftAfter c).bindVars = Value.ofNamed vars := by
      unfold draftAfter
      cases c.setting? with
      | some s => exact ⟨q.bindVars, q.draft.put_bindVars s.1 s.2⟩
      | none => exact ⟨_, rfl⟩
    have htext : (q.draftAfter c).text = .str q.text := by
      unfold draftAfter
      cases c.setting? with
      | some s => exact q.draft.put_text s.1 s.2
      | none => rfl
    have haccepted : ∀ k : Setting, k.Accepts ((q.draftAfter c).get k) := by
      intro k
      unfold draftAfter
      cases hc : c.setting? with
      | some s =>
        dsimp only
        rw [Draft.get_put]
        split
        case isTrue hk =>
          rw [hk]
          exact hadmissible.2 s.1 s.2 hc
        case isFalse => exact h.accepted k
      | none => exact h.accepted k
    obtain ⟨vars, hvars⟩ := hafter
    have hbind : bindVarsOf (q.draftAfter c).bindVars = .ok vars := hvars ▸ bindVarsOf_ofNamed vars
    obtain ⟨q', hq'⟩ := exists_makes htext hbind haccepted
    obtain rfl : q'.bindVars = vars := Except.ok.inj (hq'.bindVars.symm.trans hbind)
    refine ⟨q', (changed_eq_ok h).2 ⟨hadmissible, ?_, hq'.again⟩⟩
    rw [hq'.draft_eq, ← hvars]

end Query

end AqlClient
