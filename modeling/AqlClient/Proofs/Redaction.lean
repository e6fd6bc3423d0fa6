import AqlClient.Session
import Mathlib.Data.List.Forall2

/-!
# What is hidden of headers

A header is hidden in logs if its name, in capital letters, is that of the credentials or of a name
that is listed (`NameSet.hides`). Overrides only ever add to the list, so that a name that is listed
at one level stays hidden whatever is laid over it (`Options.hides_overriddenByAll`).

Two header maps are alike but for secrets if they have the same names in the same order, and the
same values but for those of secret names (`HeaderWishes.Alike`). This survives laying maps over
each other, and with it all that is made of options: settings, overrides and gateways may have
siblings that differ in secrets alone. All headers may be logged but for the values of the hidden
ones (`Gateway.shows_loggableHeaders`), so that they are the same of sibling gateways
(`Gateway.Sibling.loggableHeaders`).
-/

namespace AqlClient

/-! ### Hidden names -/

namespace NameSet

/-- Whether the value of a header must not be shown where the names of a set are hidden. -/
def hides (names : NameSet) (name : String) : Bool :=
  (names ++ [credentialsHeader]).any fun hidden => LetterCase.upper hidden == LetterCase.upper name

variable {names others : NameSet} {name : String}

theorem hides_iff : names.hides name = true ↔
    LetterCase.upper name = LetterCase.upper credentialsHeader ∨
      ∃ hidden ∈ names, LetterCase.upper name = LetterCase.upper hidden := by
  simp only [hides, List.any_append, List.any_cons, List.any_nil, Bool.or_false, Bool.or_eq_true,
    List.any_eq_true, beq_iff_eq]
  rw [or_comm, eq_comm]
  exact or_congr_right (exists_congr fun hidden => and_congr_right fun _ => eq_comm)

/-- The header of the credentials is always hidden. -/
theorem hides_credentials : names.hides credentialsHeader = true := hides_iff.2 (.inl rfl)

theorem mem_union : name ∈ names.union others ↔ name ∈ names ∨ name ∈ others := by
  simp only [union, List.mem_append, List.mem_filter, Bool.not_eq_true', List.contains_eq_mem,
    decide_eq_false_iff_not]
  by_cases h : name ∈ names
  · exact ⟨fun _ => .inl h, fun _ => .inl h⟩
  · exact or_congr_right ⟨fun h => h.1, fun hother => ⟨hother, h⟩⟩

/-- What is hidden by one of two sets is hidden by both together, and nothing else is. -/
theorem hides_union : (names.union others).hides name = true ↔
    names.hides name = true ∨ others.hides name = true := by
  simp only [hides_iff, mem_union, or_and_right, exists_or]
  exact or_or_distrib_left

end NameSet

theorem Gateway.hides_eq (g : Gateway) (name : String) : g.hides name = g.redacted.hides name := rfl

/-- **A header is secret in a chain of overrides:** its name, in capital letters, is that of the
credentials, or one that is listed at any level. -/
def OptionsOverride.Secret (chain : List OptionsOverride) (name : String) : Prop :=
  LetterCase.upper name = LetterCase.upper credentialsHeader ∨
    ∃ o ∈ chain, ∃ names, o.redacted = some names ∧
      ∃ hidden ∈ names, LetterCase.upper name = LetterCase.upper hidden

/-- What is secret in two chains is secret in both together, and nothing else is. -/
theorem OptionsOverride.secret_append {chain later : List OptionsOverride} {name : String} :
    Secret (chain ++ later) name ↔ Secret chain name ∨ Secret later name := by
  unfold Secret
  simp only [List.mem_append, or_and_right, exists_or]
  exact or_or_distrib_left

theorem Options.overriddenByAll_cons (s : Options) (o : OptionsOverride)
    (chain : List OptionsOverride) :
    s.overriddenByAll (o :: chain) = (s.overriddenBy o).overriddenByAll chain := rfl

theorem Options.redacted_overriddenBy (s : Options) (o : OptionsOverride) :
    (s.overriddenBy o).redacted = s.redacted.union (o.redacted.getD []) := rfl

/-- **Names stay hidden.** Behind a chain of overrides the names are hidden that were before, and
those that are secret in the chain. -/
theorem Options.hides_overriddenByAll (s : Options) (chain : List OptionsOverride) (name : String) :
    (s.overriddenByAll chain).redacted.hides name = true ↔
      s.redacted.hides name = true ∨ OptionsOverride.Secret chain name := by
  induction chain generalizing s with
  | nil =>
    refine ⟨.inl, ?_⟩
    rintro (h | h | ⟨o, ho, -⟩)
    · exact h
    · exact NameSet.hides_iff.2 (.inl h)
    · cases ho
  | cons o chain ih =>
    have hlevel : (o.redacted.getD []).hides name = true ↔
        LetterCase.upper name = LetterCase.upper credentialsHeader ∨
          ∃ names, o.redacted = some names ∧
            ∃ hidden ∈ names, LetterCase.upper name = LetterCase.upper hidden := by
      rw [NameSet.hides_iff]
      cases o.redacted <;> simp
    rw [overriddenByAll_cons, ih, redacted_overriddenBy, NameSet.hides_union, hlevel, or_assoc]
    refine or_congr_right ?_
    unfold OptionsOverride.Secret
    simp only [List.mem_cons, exists_eq_or_imp]
    exact or_or_distrib_left.symm

/-! ### Header maps -/

namespace HeaderWishes

/-- Two entries are alike but for secrets: they have the same name and the same value, or the name
is secret and both have a value. -/
def EntryAlike (secret : String → Prop) (entry entry' : String × Option String) : Prop :=
  entry'.1 = entry.1 ∧
    (entry'.2 = entry.2 ∨ secret entry.1 ∧ entry.2.isSome = true ∧ entry'.2.isSome = true)

/-- **Header maps that are alike but for secrets:** their entries are, one by one. -/
def Alike (secret : String → Prop) (headers headers' : HeaderWishes) : Prop :=
  List.Forall₂ (EntryAlike secret) headers headers'

namespace Alike

variable {secret : String → Prop} {headers headers' others others' : HeaderWishes}

theorem refl (headers : HeaderWishes) : Alike secret headers headers :=
  List.forall₂_same.2 fun _ _ => ⟨rfl, .inl rfl⟩

/-- The more is secret, the more maps are alike. -/
theorem mono {secret' : String → Prop} (h : Alike secret headers headers')
    (hsecret : ∀ name, secret name → secret' name) : Alike secret' headers headers' :=
  List.Forall₂.imp (fun _ _ hentry => ⟨hentry.1, hentry.2.imp_right (.imp_left (hsecret _))⟩) h

theorem has (h : Alike secret headers headers') (name : String) :
    Named.has headers' name = Named.has headers name := by
  induction h with
  | nil => rfl
  | cons hentry _ ih =>
    show (_ == name || Named.has _ name) = (_ == name || Named.has _ name)
    rw [hentry.1, ih]

/-- Entries that are alike may be put into maps that are alike. -/
theorem put (h : Alike secret headers headers') {name : String} {value value' : Option String}
    (hvalue : EntryAlike secret (name, value) (name, value')) :
    Alike secret (Named.put headers name value) (Named.put headers' name value') := by
  unfold Named.put
  rw [h.has name]
  split
  case isTrue =>
    refine List.forall₂_map_left_iff.2 (List.forall₂_map_right_iff.2 ?_)
    refine h.imp fun entry entry' he => ?_
    rw [he.1]
    split
    · exact hvalue
    · exact he
  case isFalse => exact List.rel_append h (.cons hvalue .nil)

/-- **Laying maps over each other** keeps them alike. -/
theorem merge (h : Alike secret headers headers') (hothers : Alike secret others others') :
    Alike secret (Named.merge headers others) (Named.merge headers' others') := by
  unfold Named.merge
  induction hothers generalizing headers headers' with
  | nil => exact h
  | @cons entry entry' _ _ hentry _ ih =>
    refine ih ?_
    show Alike secret (Named.put headers entry.1 entry.2) (Named.put headers' entry'.1 entry'.2)
    rw [hentry.1]
    exact h.put ⟨rfl, hentry.2⟩

/-- What does not depend on the values of secret headers is the same of both maps. -/
theorem granted_map {γ : Type} {f : String × String → γ} (h : Alike secret headers headers')
    (hf : ∀ name value value', secret name → f (name, value') = f (name, value)) :
    headers'.granted.map f = headers.granted.map f := by
  induction h with
  | nil => rfl
  | @cons entry entry' headers headers' hentry _ ih =>
    obtain ⟨name, value⟩ := entry
    obtain ⟨name', value'⟩ := entry'
    obtain ⟨rfl : name' = name, hvalue⟩ := hentry
    cases value with
    | none =>
      obtain rfl | ⟨-, hsome, -⟩ := hvalue
      · exact ih
      · cases hsome
    | some v =>
      cases value' with
      | none =>
        obtain hnone | ⟨-, -, hsome⟩ := hvalue
        · cases hnone
        · cases hsome
      | some v' =>
        refine congrArg₂ List.cons ?_ ih
        obtain hsame | ⟨hsecret, -, -⟩ := hvalue
        · cases hsame
          rfl
        · exact hf _ _ _ hsecret

end Alike

end HeaderWishes

/-! ### Options -/

/-- **Credentials that may take each other's place:** the same ones, or any two names with a
password, or any two tokens. -/
inductive Credentials.Kin : Credentials → Credentials → Prop
  | same (c : Credentials) : Kin c c
  | basic (username password username' password' : Value) :
      Kin (.basic username password) (.basic username' password')
  | bearer (token token' : Value) : Kin (.bearer token) (.bearer token')

/-- **Overrides that differ in secrets alone:** in values of secret headers, and in credentials. -/
structure OptionsOverride.Sibling (secret : String → Prop) (o o' : OptionsOverride) : Prop where
  callers : o'.callers = o.callers
  headers : Option.Rel (HeaderWishes.Alike secret) o.headers o'.headers
  redacted : o'.redacted = o.redacted
  credentials : Option.Rel Credentials.Kin o.credentials o'.credentials
  defaultDatabase : o'.defaultDatabase = o.defaultDatabase
  timeouts : o'.timeouts = o.timeouts

/-- **Settings that differ in secrets alone.** -/
structure Options.Sibling (secret : String → Prop) (s s' : Options) : Prop where
  callers : s'.callers = s.callers
  headers : HeaderWishes.Alike secret s.headers s'.headers
  redacted : s'.redacted = s.redacted
  credentials : s.credentials.Kin s'.credentials
  defaultDatabase : s'.defaultDatabase = s.defaultDatabase
  timeouts : s'.timeouts = s.timeouts
  release : s'.release = s.release

namespace Options

variable {secret : String → Prop} {s s' : Options}

/-- What is related where it is set is related after all, if the values that stand in for it are. -/
theorem rel_getD {β : Type} {r : β → β → Prop} {a? b? : Option β} {a b : β}
    (h : Option.Rel r a? b?) (hdefault : r a b) : r (a?.getD a) (b?.getD b) := by
  cases h with
  | some h => exact h
  | none => exact hdefault

theorem Sibling.refl (s : Options) : s.Sibling secret s :=
  ⟨rfl, .refl _, rfl, .same _, rfl, rfl, rfl⟩

theorem Sibling.overriddenBy {o o' : OptionsOverride} (h : s.Sibling secret s')
    (ho : o.Sibling secret o') :
    (s.overriddenBy o).Sibling secret (s'.overriddenBy o') where
  callers := by
    show o'.callers.getD s'.callers = o.callers.getD s.callers
    rw [ho.callers, h.callers]
  headers := h.headers.merge (rel_getD ho.headers (.refl []))
  redacted := by
    show s'.redacted.union (o'.redacted.getD []) = s.redacted.union (o.redacted.getD [])
    rw [ho.redacted, h.redacted]
  credentials := rel_getD ho.credentials h.credentials
  defaultDatabase := by
    show o'.defaultDatabase.getD s'.defaultDatabase = o.defaultDatabase.getD s.defaultDatabase
    rw [ho.defaultDatabase, h.defaultDatabase]
  timeouts := by
    show (o'.timeouts.map s'.timeouts.overriddenBy).getD s'.timeouts =
      (o.timeouts.map s.timeouts.overriddenBy).getD s.timeouts
    rw [ho.timeouts, h.timeouts]
  release := h.release

/-- **Chains of overrides that differ in secrets alone** lead to such settings. -/
theorem Sibling.overriddenByAll {chain chain' : List OptionsOverride} (h : s.Sibling secret s')
    (hchain : List.Forall₂ (OptionsOverride.Sibling secret) chain chain') :
    (s.overriddenByAll chain).Sibling secret (s'.overriddenByAll chain') := by
  induction hchain generalizing s s' with
  | nil => exact h
  | cons ho _ ih => exact ih (h.overriddenBy ho)

end Options

/-! ### Gateways -/

/-- What is shown of headers: all of them, in their order, but for the values of secret ones. -/
def Headers.Shows (secret : String → Prop) (headers shown : Headers) : Prop :=
  List.Forall₂ (fun entry entry' : String × String => entry'.1 = entry.1 ∧
    (secret entry.1 → entry'.2 = redactedValue) ∧ (¬ secret entry.1 → entry'.2 = entry.2))
    headers shown

namespace Gateway

variable {g g' : Gateway}

/-- **All headers of a request may be logged, but for the values of the hidden ones.** -/
theorem shows_loggableHeaders (g : Gateway) {secret : String → Prop}
    (h : ∀ name, g.hides name = true ↔ secret name) :
    g.fullHeaders.Shows secret g.loggableHeaders := by
  refine List.forall₂_map_right_iff.2 (List.forall₂_same.2 fun entry _ => ⟨rfl, ?_, ?_⟩)
  · intro hsecret
    exact if_pos ((h entry.1).2 hsecret)
  · intro hplain
    exact if_neg fun hhides => hplain ((h entry.1).1 hhides)

/-- **Gateways that differ in hidden headers alone.** -/
structure Sibling (g g' : Gateway) : Prop where
  address : g'.address = g.address
  path : g'.path = g.path
  headers : HeaderWishes.Alike (fun name => g.hides name = true) g.headers g'.headers
  callers : g'.callers = g.callers
  redacted : g'.redacted = g.redacted
  channel : g'.channel = g.channel
  release : g'.release = g.release

namespace Sibling

theorem withPath (h : g.Sibling g') (path : String) :
    (g.withPath path).Sibling (g'.withPath path) where
  address := congrArg Url.trimEnd h.address
  path := rfl
  headers := h.headers
  callers := h.callers
  redacted := h.redacted
  channel := h.channel
  release := h.release

theorem urlFor (h : g.Sibling g') (path : Option String) : g'.urlFor path = g.urlFor path := by
  show Url.extended (Url.base g'.address g'.path) path =
    Url.extended (Url.base g.address g.path) path
  rw [h.address, h.path]

theorem callDescription (h : g.Sibling g') (c : Call) :
    g'.callDescription c = g.callDescription c := by
  show c.method ++ " " ++ g'.urlFor c.path = c.method ++ " " ++ g.urlFor c.path
  rw [h.urlFor]

theorem description (h : g.Sibling g') : g'.description = g.description := by
  show "APICommander(" ++ Value.commas ["api_endpoint=" ++ g'.address, "path=" ++ g'.path,
    "callers=" ++ Caller.literals g'.callers] ++ ")" = _
  rw [h.address, h.path, h.callers]
  rfl

/-- **The same headers may be logged** of gateways that differ in hidden headers alone. -/
theorem loggableHeaders (h : g.Sibling g') : g'.loggableHeaders = g.loggableHeaders := by
  have hstandard : g'.standardHeaders = g.standardHeaders := by
    show [_, _] ++ (Caller.userAgent (g'.callers ++ [Caller.client g'.release])).toList.map _ = _
    rw [h.callers, h.release]
    rfl
  have hsame : ∀ name, g'.hides name = g.hides name := fun name => by
    rw [hides_eq, hides_eq, h.redacted]
  unfold Gateway.loggableHeaders fullHeaders
  rw [hstandard]
  simp only [hsame]
  refine HeaderWishes.Alike.granted_map ((HeaderWishes.Alike.refl _).merge h.headers) ?_
  intro name value value' hsecret
  show (name, if g.hides name then redactedValue else value') =
    (name, if g.hides name then redactedValue else value)
  rw [if_pos hsecret, if_pos hsecret]

end Sibling

/-- The gateways to a server under settings that differ in secrets alone. The header of the
credentials is one of those that are hidden. -/
theorem toServer_sibling {s s' : Options} {c c' : Credentials}
    (h : s.Sibling (fun name => s.redacted.hides name = true) s') (hc : c.Kin c') (mode : Mode)
    (address : String) : (toServer mode address s c).Sibling (toServer mode address s' c') where
  address := rfl
  path := rfl
  headers := by
    refine HeaderWishes.Alike.merge (.cons ⟨rfl, ?_⟩ .nil) h.headers
    cases hc with
    | same => exact .inl rfl
    | basic => exact .inr ⟨NameSet.hides_credentials, rfl, rfl⟩
    | bearer => exact .inr ⟨NameSet.hides_credentials, rfl, rfl⟩
  callers := h.callers
  redacted := h.redacted
  channel := rfl
  release := h.release

end Gateway

end AqlClient
