import AqlClient.Client
import AqlClient.Proofs.Json
import Mathlib.Data.List.Nodup

/-!
# The header that carries the credentials

A map that is laid over another one decides wherever it has an entry (`Named.get?_merge`). So the
header of the credentials is what the further headers of a session say, and what the credentials say
where those are silent (`Headers.Authorize`, `Gateway.toServer_authorize`). Another spelling of its
name is another header, which only the further headers can bring along.
-/

namespace AqlClient

/-! ### Entries of maps -/

namespace Named

variable {α : Type} {entries others : Named α} {name key : String} {value : α}

theorem get?_cons (entry : String × α) (rest : Named α) (name : String) :
    get? (entry :: rest) name = if entry.1 = name then some entry.2 else get? rest name := by
  unfold get?
  rw [List.find?_cons]
  by_cases h : entry.1 = name
  · rw [if_pos h, beq_iff_eq.2 h]
    rfl
  · rw [if_neg h, beq_false_of_ne h]

theorem get?_eq_none (h : name ∉ entries.map Prod.fst) : get? entries name = none := by
  induction entries with
  | nil => rfl
  | cons entry rest ih =>
    rw [List.map_cons, List.mem_cons, not_or] at h
    rw [get?_cons, if_neg (Ne.symm h.1), ih h.2]

theorem get?_append (entries others : Named α) (name : String) :
    get? (entries ++ others) name = (entries.get? name).or (others.get? name) := by
  unfold get?
  rw [List.find?_append, Option.map_or]

theorem get?_put_self (entries : Named α) (key : String) (value : α) :
    (entries.put key value).get? key = some value := by
  unfold put
  split
  case isTrue hhas =>
    rw [has_iff] at hhas
    induction entries with
    | nil => cases hhas
    | cons entry rest ih =>
      rw [List.map_cons, get?_cons]
      by_cases hentry : entry.1 = key
      · rw [beq_iff_eq.2 hentry, if_pos rfl, if_pos rfl]
      · rw [beq_false_of_ne hentry, if_neg Bool.false_ne_true, if_neg hentry]
        exact ih ((List.mem_cons.1 hhas).resolve_left (Ne.symm hentry))
  case isFalse hhas =>
    rw [has_iff] at hhas
    rw [get?_append, get?_eq_none hhas, get?_cons, if_pos rfl]
    rfl

theorem get?_put_of_ne (h : key ≠ name) (entries : Named α) (value : α) :
    (entries.put key value).get? name = entries.get? name := by
  unfold put
  split
  · clear * - h
    induction entries with
    | nil => rfl
    | cons entry rest ih =>
      rw [List.map_cons, get?_cons, get?_cons, ih]
      by_cases hentry : entry.1 = key
      · rw [beq_iff_eq.2 hentry, if_pos rfl, if_neg h, hentry, if_neg h]
      · rw [beq_false_of_ne hentry, if_neg Bool.false_ne_true]
  · rw [get?_append, get?_cons, if_neg h]
    exact Option.or_none

theorem names_put (entries : Named α) (key : String) (value : α) :
    (entries.put key value).map Prod.fst =
      if key ∈ entries.map Prod.fst then entries.map Prod.fst
      else entries.map Prod.fst ++ [key] := by
  unfold put
  by_cases hhas : key ∈ entries.map Prod.fst
  · rw [if_pos (has_iff.2 hhas), if_pos hhas, List.map_map]
    refine List.map_congr_left fun entry _ => ?_
    show (if (entry.1 == key) = true then (key, value) else entry).1 = entry.1
    split
    case isTrue hentry => exact (beq_iff_eq.1 hentry).symm
    case isFalse => rfl
  · rw [if_neg fun h => hhas (has_iff.1 h), if_neg hhas, List.map_append]
    rfl

/-- No name occurs twice in a map that other entries are laid over. -/
theorem nodup_merge (h : (entries.map Prod.fst).Nodup) (others : Named α) :
    ((entries.merge others).map Prod.fst).Nodup := by
  unfold merge
  induction others generalizing entries with
  | nil => exact h
  | cons other rest ih =>
    refine ih ?_
    rw [names_put]
    split
    case isTrue => exact h
    case isFalse hnew =>
      exact List.nodup_append.2 ⟨h, List.nodup_singleton _, fun a ha b hb hab =>
        hnew (List.mem_singleton.1 hb ▸ hab ▸ ha)⟩

/-- **What is laid over a map decides** wherever it has an entry. -/
theorem get?_merge (entries : Named α) (h : (others.map Prod.fst).Nodup) (name : String) :
    (entries.merge others).get? name = (others.get? name).or (entries.get? name) := by
  unfold merge
  induction others generalizing entries with
  | nil => rfl
  | cons other rest ih =>
    rw [List.map_cons, List.nodup_cons] at h
    rw [List.foldl_cons, ih _ h.2, get?_cons]
    by_cases hname : other.1 = name
    · rw [if_pos hname, ← hname, get?_eq_none h.1, get?_put_self]
      rfl
    · rw [if_neg hname, get?_put_of_ne hname]

theorem mem_merge {κ : Type} [BEq κ] {entries others : Named α κ} {entry : κ × α}
    (h : entry ∈ entries.merge others) :
    entry ∈ entries ∨ entry ∈ others := by
  unfold merge at h
  induction others generalizing entries with
  | nil => exact .inl h
  | cons other rest ih =>
    obtain (hput : entry ∈ entries.put other.1 other.2) | hrest := ih h
    · unfold put at hput
      split at hput
      · obtain ⟨old, hold, rfl⟩ := List.mem_map.1 hput
        split
        · exact .inr List.mem_cons_self
        · exact .inl hold
      · refine (List.mem_append.1 hput).imp_right fun hnew => ?_
        exact List.mem_singleton.1 hnew ▸ List.mem_cons_self
    · exact .inr (List.mem_cons_of_mem _ hrest)

end Named

namespace HeaderWishes

variable {wishes : HeaderWishes} {name value : String}

theorem mem_granted : (name, value) ∈ wishes.granted ↔ (name, some value) ∈ wishes := by
  unfold granted
  rw [List.mem_filterMap]
  constructor
  · rintro ⟨⟨key, value?⟩, hmem, hvalue⟩
    cases value? with
    | none => cases hvalue
    | some v =>
      cases hvalue
      exact hmem
  · exact fun h => ⟨_, h, rfl⟩

/-- A header that is asked for without a value is left out. -/
theorem get?_granted (h : (wishes.map Prod.fst).Nodup) (name : String) :
    wishes.granted.get? name = (Named.get? wishes name).getD none := by
  induction wishes with
  | nil => rfl
  | cons entry rest ih =>
    rw [List.map_cons, List.nodup_cons] at h
    obtain ⟨key, value?⟩ := entry
    rw [Named.get?_cons]
    cases value? with
    | none =>
      show Named.get? (granted rest) name = _
      rw [ih h.2]
      by_cases hname : key = name
      · rw [if_pos hname, Named.get?_eq_none (hname ▸ h.1)]
        rfl
      · rw [if_neg hname]
    | some value =>
      show Named.get? ((key, value) :: granted rest) name = _
      rw [Named.get?_cons, ih h.2]
      by_cases hname : key = name
      · rw [if_pos hname, if_pos hname]
        rfl
      · rw [if_neg hname, if_neg hname]

end HeaderWishes

/-! ### Settings -/

/-- No header is set twice by what is made of settings in which none is. -/
theorem Options.nodup_overriddenByAll {s : Options} (h : (s.headers.map Prod.fst).Nodup)
    (chain : List OptionsOverride) : ((s.overriddenByAll chain).headers.map Prod.fst).Nodup := by
  induction chain generalizing s with
  | nil => exact h
  | cons o chain ih => exact ih (Named.nodup_merge h _)

/-- The settings of a session never set a header twice. -/
theorem Client.nodup_sessionOptions (release : String) (base : Option OptionsOverride)
    (callers : Option (List Caller)) (own credentials : Option Credentials)
    (options : Option OptionsOverride) :
    (((make release base callers own).sessionOptions options credentials).headers.map
      Prod.fst).Nodup := by
  have hstandard : ((Options.standard release).headers.map Prod.fst).Nodup := List.nodup_nil
  exact Options.nodup_overriddenByAll (Options.nodup_overriddenByAll hstandard _) _

/-! ### The header of the credentials -/

/-- **Headers authorize** with what the credentials make of it, unless further headers say something
else. -/
structure Headers.Authorize (headers : Headers) (further : HeaderWishes) (own : Option String) :
    Prop where
  header : headers.get? credentialsHeader = (Named.get? further credentialsHeader).getD own
  /-- Another spelling of the name is brought along by the further headers alone. -/
  spellings : ∀ name value, (name, value) ∈ headers → name ≠ credentialsHeader →
    LetterCase.upper name = LetterCase.upper credentialsHeader → (name, some value) ∈ further

namespace Gateway

/-- The names of the standard headers have nothing to do with that of the credentials. -/
theorem standardHeaders_spec (g : Gateway) : (g.standardHeaders.map Prod.fst).Nodup ∧
    ∀ name ∈ g.standardHeaders.map Prod.fst,
      LetterCase.upper name ≠ LetterCase.upper credentialsHeader := by
  unfold standardHeaders
  cases Caller.userAgent (g.callers ++ [Caller.client g.release]) with
  | none =>
    show ["Content-Type", "Accept"].Nodup ∧ ∀ name ∈ ["Content-Type", "Accept"], _
    decide +kernel
  | some sender =>
    show ["Content-Type", "Accept", "User-Agent"].Nodup ∧
      ∀ name ∈ ["Content-Type", "Accept", "User-Agent"], _
    decide +kernel

/-- **A session authorizes itself** with its credentials, unless its settings have further headers
that say something else. -/
theorem toServer_authorize {s : Options} (h : (s.headers.map Prod.fst).Nodup) (mode : Mode)
    (address : String) (c : Credentials) :
    (toServer mode address s c).fullHeaders.Authorize s.headers c.header := by
  obtain ⟨hnodup, hstandard⟩ := (toServer mode address s c).standardHeaders_spec
  have hown : (toServer mode address s c).headers =
      Named.merge [(credentialsHeader, c.header)] s.headers := rfl
  constructor
  · have hownNodup : ((toServer mode address s c).headers.map Prod.fst).Nodup := by
      have hfirst : ([(credentialsHeader, c.header)].map Prod.fst).Nodup := List.nodup_singleton _
      rw [hown]
      exact Named.nodup_merge hfirst _
    unfold fullHeaders
    rw [HeaderWishes.get?_granted (Named.nodup_merge hnodup _), Named.get?_merge _ hownNodup, hown,
      Named.get?_merge _ h, Named.get?_cons, if_pos rfl]
    cases Named.get? s.headers credentialsHeader with
    | none => rfl
    | some wish => rfl
  · intro name value hmem hname hupper
    obtain hmem | hmem := Named.mem_merge (HeaderWishes.mem_granted.1 hmem)
    · exact absurd hupper (hstandard _ (List.mem_map_of_mem hmem))
    · rw [hown] at hmem
      obtain hmem | hmem := Named.mem_merge hmem
      · exact absurd (congrArg Prod.fst (List.mem_singleton.1 hmem)) hname
      · exact hmem

end Gateway

end AqlClient
