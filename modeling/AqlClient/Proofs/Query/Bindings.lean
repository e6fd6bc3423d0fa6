import AqlClient.Proofs.Authorization
import AqlClient.Query.Basic
import Mathlib.Data.List.Induction

/-!
# Bind variables

What is bound one after the other ends up with the names in the order in which they were first
bound, each with the value that it was last bound to (`Named.lastValues`): this is what a map is that
others were laid over (`Named.ofPairs_eq_lastValues`).

Bind variables are given as dictionaries whose keys may be anything. One is accepted exactly if all
keys are texts (`Query.bindVarsOf_dict`), and laying a dictionary over such a one is accepted exactly
if this one has texts for its keys too (`Query.bindVarsOf_laid`): a key that is no text cannot
disappear again, since it is never equal to a text.
-/

namespace AqlClient

/-! ### First names, last values -/

namespace Named

variable {α : Type}

/-- **The names in the order of their first entries,** each with the value of its last one. -/
def lastValues (pairs : Named α) : Named α :=
  (pairs.map Prod.fst).eraseDups.filterMap fun name =>
    (get? pairs.reverse name).map fun value => (name, value)

/-- A map in which no name occurs twice consists of the values of its names. -/
theorem eq_filterMap_names {entries : Named α} (h : (entries.map Prod.fst).Nodup) :
    entries = (entries.map Prod.fst).filterMap fun name =>
      (entries.get? name).map fun value => (name, value) := by
  induction entries with
  | nil => rfl
  | cons entry rest ih =>
    rw [List.map_cons, List.nodup_cons] at h
    have hrest : ∀ name ∈ rest.map Prod.fst,
        ((get? (entry :: rest) name).map fun value => (name, value)) =
          (get? rest name).map fun value => (name, value) := by
      intro name hname
      have hne : entry.1 ≠ name := fun heq => h.1 (heq ▸ hname)
      rw [get?_cons, if_neg hne]
    rw [List.map_cons, List.filterMap_cons, get?_cons, if_pos rfl, List.filterMap_congr hrest,
      ← ih h.2]
    rfl

theorem ofPairs_append (pairs others : Named α) :
    ofPairs (pairs ++ others) = (ofPairs pairs).merge others :=
  List.foldl_append

theorem names_ofPairs (pairs : Named α) :
    (ofPairs pairs).map Prod.fst = (pairs.map Prod.fst).eraseDups := by
  induction pairs using List.reverseRecOn with
  | nil => rfl
  | append_singleton pairs entry ih =>
    have hmem : entry.1 ∈ (pairs.map Prod.fst).eraseDups ↔ entry.1 ∈ pairs.map Prod.fst :=
      List.mem_eraseDups
    have hput : ofPairs (pairs ++ [entry]) = (ofPairs pairs).put entry.1 entry.2 :=
      ofPairs_append pairs [entry]
    rw [hput, names_put, ih, List.map_append, List.eraseDups_append]
    by_cases h : entry.1 ∈ pairs.map Prod.fst
    · rw [if_pos (hmem.2 h)]
      simp [List.removeAll, h]
    · rw [if_neg fun hold => h (hmem.1 hold)]
      simp [List.removeAll, h, List.eraseDups_cons]

theorem get?_ofPairs (pairs : Named α) (name : String) :
    (ofPairs pairs).get? name = get? pairs.reverse name := by
  induction pairs using List.reverseRecOn with
  | nil => rfl
  | append_singleton pairs entry ih =>
    have hput : ofPairs (pairs ++ [entry]) = (ofPairs pairs).put entry.1 entry.2 :=
      ofPairs_append pairs [entry]
    rw [hput, List.reverse_append, List.reverse_singleton, List.singleton_append, get?_cons]
    by_cases h : entry.1 = name
    · rw [if_pos h, ← h, get?_put_self]
    · rw [if_neg h, get?_put_of_ne h, ih]

/-- **Entries that are laid over each other** keep the order of the first names and the last
values. -/
theorem ofPairs_eq_lastValues (pairs : Named α) : ofPairs pairs = pairs.lastValues := by
  have hempty : (([] : Named α).map Prod.fst).Nodup := List.nodup_nil
  have hnodup : ((ofPairs pairs).map Prod.fst).Nodup := nodup_merge hempty pairs
  rw [eq_filterMap_names hnodup, names_ofPairs]
  unfold lastValues
  simp only [get?_ofPairs]

end Named

/-! ### Keys -/

namespace Entries

/-- The entries of a dictionary whose keys are texts, by name. -/
def named (entries : Entries) : Named Value :=
  entries.filterMap fun entry => entry.1.str?.map fun name => (name, entry.2)

/-- Entries by name as those of a dictionary. -/
def ofNamed (entries : Named Value) : Entries := entries.map fun entry => (.str entry.1, entry.2)

/-- All keys of a dictionary are texts. -/
def Texts (entries : Entries) : Prop := ∀ entry ∈ entries, entry.1.str?.isSome

theorem texts_ofNamed (entries : Named Value) : (ofNamed entries).Texts := by
  intro entry hentry
  obtain ⟨old, -, rfl⟩ := List.mem_map.1 hentry
  rfl

theorem named_ofNamed (entries : Named Value) : (ofNamed entries).named = entries := by
  unfold named ofNamed
  rw [List.filterMap_map]
  exact List.filterMap_some

/-- A dictionary whose keys are texts is one of entries by name. -/
theorem Texts.eq_ofNamed {entries : Entries} (h : entries.Texts) :
    entries = ofNamed entries.named := by
  induction entries with
  | nil => rfl
  | cons entry rest ih =>
    obtain ⟨key, value⟩ := entry
    have hkey : key.str?.isSome := h _ List.mem_cons_self
    have hrest : Texts rest := fun other hother => h other (List.mem_cons_of_mem _ hother)
    cases key with
    | str name => exact congrArg (List.cons (Value.str name, value)) (ih hrest)
    | _ => cases hkey

/-- Texts are the same keys if they are the same texts. -/
theorem equal_str (a b : String) : Value.equal false (.str a) (.str b) = (a == b) := by
  rw [Value.equal]

/-- A text is never equal to anything else. -/
theorem str?_of_equal {key other : Value} (h : Value.equal false key other = true) :
    key.str?.isSome = other.str?.isSome := by
  cases key with
  | str a =>
    cases other with
    | str b => rfl
    | _ => simp [Value.equal, Value.numeric?] at h
  | _ =>
    cases other with
    | str b => simp [Value.equal, Value.numeric?] at h
    | _ => rfl

/-- Setting the value of a text is setting the value of a name. -/
theorem insert_ofNamed (entries : Named Value) (name : String) (value : Value) :
    (ofNamed entries).insert (.str name) value = ofNamed (entries.put name value) := by
  unfold insert Named.put Named.has ofNamed
  simp only [List.any_map, Function.comp_def, equal_str]
  split
  · rw [List.map_map, List.map_map]
    refine List.map_congr_left fun entry _ => ?_
    by_cases h : entry.1 = name
    · simp [h, equal_str]
    · simp [h, equal_str]
  · rw [List.map_append]
    rfl

/-- **A key that is no text stays one.** -/
theorem texts_insert (entries : Entries) (key value : Value) :
    (entries.insert key value).Texts ↔ entries.Texts ∧ key.str?.isSome := by
  unfold insert
  split
  case isTrue hany =>
    -- an entry with an equal key keeps its key
    obtain ⟨old, hold, hequal⟩ := List.any_eq_true.1 hany
    have hkey := str?_of_equal hequal
    constructor
    · intro h
      have htexts : entries.Texts := by
        intro entry hentry
        have hnew := h _ (List.mem_map_of_mem hentry)
        split at hnew
        · exact hnew
        · exact hnew
      exact ⟨htexts, hkey ▸ htexts old hold⟩
    · rintro ⟨h, -⟩ entry hentry
      obtain ⟨before, hbefore, rfl⟩ := List.mem_map.1 hentry
      split
      · exact h before hbefore
      · exact h before hbefore
  case isFalse =>
    constructor
    · intro h
      exact ⟨fun entry hentry => h entry (List.mem_append_left _ hentry),
        h (key, value) (List.mem_append_right _ (List.mem_singleton.2 rfl))⟩
    · rintro ⟨h, hkey⟩ entry hentry
      obtain hold | hnew := List.mem_append.1 hentry
      · exact h entry hold
      · obtain rfl := List.mem_singleton.1 hnew
        exact hkey

/-- Entries laid over those of a dictionary, one after the other. -/
def laid (entries others : Entries) : Entries :=
  others.foldl (fun acc entry => acc.insert entry.1 entry.2) entries

theorem texts_laid (entries others : Entries) :
    (entries.laid others).Texts ↔ entries.Texts ∧ others.Texts := by
  induction others generalizing entries with
  | nil => exact ⟨fun h => ⟨h, fun _ hentry => by cases hentry⟩, fun h => h.1⟩
  | cons other rest ih =>
    have hcons : Texts (other :: rest) ↔ other.1.str?.isSome ∧ Texts rest := List.forall_mem_cons
    show ((entries.insert other.1 other.2).laid rest).Texts ↔ _
    rw [ih, texts_insert, hcons, and_assoc]

/-- **Laying texts over texts** is laying names over names. -/
theorem laid_ofNamed (entries others : Named Value) :
    (ofNamed entries).laid (ofNamed others) = ofNamed (entries.merge others) := by
  induction others generalizing entries with
  | nil => rfl
  | cons other rest ih =>
    show ((ofNamed entries).insert (.str other.1) other.2).laid (ofNamed rest) = _
    rw [insert_ofNamed, ih]
    rfl

end Entries

/-! ### What is accepted as bind variables -/

namespace Query

/-- **A dictionary is accepted** if all of its keys are texts. -/
theorem bindVarsOf_dict {entries : Entries} {vars : Named Value} :
    bindVarsOf (.dict entries) = .ok vars ↔ entries.Texts ∧ vars = entries.named := by
  have helements : (Value.dict entries).elements? = some (entries.map Prod.fst) := rfl
  unfold bindVarsOf
  rw [helements]
  dsimp only
  have htexts : entries.Texts ↔
      (entries.map Prod.fst).filter (fun name => name.str?.isNone) = [] := by
    rw [List.filter_eq_nil_iff, List.forall_mem_map]
    refine forall_congr' fun entry => forall_congr' fun _ => ?_
    rw [Option.isNone_iff_eq_none, Option.isSome_iff_ne_none]
  rw [htexts]
  split
  case h_1 hbad =>
    rw [hbad]
    constructor
    · intro h
      exact ⟨rfl, (Except.ok.inj h).symm⟩
    · rintro ⟨-, rfl⟩
      rfl
  case h_2 bad hbad =>
    constructor
    · intro h
      cases h
    · rintro ⟨hnil, -⟩
      exact absurd hnil hbad

/-- Bind variables that were accepted are accepted again. -/
theorem bindVarsOf_ofNamed (vars : Named Value) : bindVarsOf (Value.ofNamed vars) = .ok vars :=
  bindVarsOf_dict.2 ⟨Entries.texts_ofNamed vars, (Entries.named_ofNamed vars).symm⟩

/-- **A dictionary that is laid over bind variables** is accepted if all of its keys are texts. -/
theorem bindVarsOf_laid {vars vars' : Named Value} {entries : Entries} :
    bindVarsOf (.dict ((Entries.ofNamed vars).laid entries)) = .ok vars' ↔
      entries.Texts ∧ vars' = vars.merge entries.named := by
  rw [bindVarsOf_dict, Entries.texts_laid]
  constructor
  · rintro ⟨⟨-, h⟩, rfl⟩
    refine ⟨h, ?_⟩
    rw [h.eq_ofNamed, Entries.laid_ofNamed, Entries.named_ofNamed, Entries.named_ofNamed]
  · rintro ⟨h, rfl⟩
    refine ⟨⟨Entries.texts_ofNamed vars, h⟩, ?_⟩
    rw [h.eq_ofNamed, Entries.laid_ofNamed, Entries.named_ofNamed, Entries.named_ofNamed]

end Query

end AqlClient
