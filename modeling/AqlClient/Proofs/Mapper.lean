import AqlClient.Mapper

/-!
# What becomes of items

A batch of items is converted item by item (`Mapper.convert_ok_iff`), so that there is something for
each of them if the mapper accepts them all (`Mapper.convert_of_accepts`). Otherwise the conversion
fails with the fault of the first one that is not accepted, and in no other way
(`Mapper.convert_error`).

What the caller hears of that item is `Mapper.Blames`. It is named by its position, counted from
the first item of all that stand in front of it, of which a batch holds the last ones only.
-/

namespace AqlClient

variable {α : Type}

namespace Mapper

/-- A mapper accepts all of some items. -/
def Accepts (mapper : Mapper α) (items : List Value) : Prop :=
  ∀ item ∈ items, ∃ a, mapper item = .ok a

/-- **What the caller hears of an item** that stands behind some others and is not accepted: if the
mapper rejects it, a failure that names it by its position and carries it; if the mapper aborts, that
and nothing else. -/
inductive Blames (mapper : Mapper α) (before : List Value) (item : Value) : Failure → Prop
  | rejected {reason : String} {m : Malformed} (fault : mapper item = .error (.rejected reason))
      (field : m.field = some (Malformed.resultName before.length)) (answer : m.answer = item) :
      Blames mapper before item (.malformed m)
  | aborted {reason : String} (fault : mapper item = .error (.aborted reason)) :
      Blames mapper before item (.aborted reason)

/-- **A failure is that of the first of some items** that is not accepted. -/
def Rejects (mapper : Mapper α) (items : List Value) (e : Failure) : Prop :=
  ∃ before item after, items = before ++ item :: after ∧ mapper.Accepts before ∧
    mapper.Blames before item e

/-- A mapper that accepts every item, as the one does that makes nothing of them. -/
def Total (mapper : Mapper α) : Prop := ∀ item, ∃ a, mapper item = .ok a

theorem total_raw : raw.Total := fun item => ⟨item, rfl⟩

variable {mapper : Mapper α} {offset : Int} {raw : List Value}

theorem Accepts.append {raw more : List Value} (h : mapper.Accepts raw) (h' : mapper.Accepts more) :
    mapper.Accepts (raw ++ more) :=
  List.forall_mem_append.2 ⟨h, h'⟩

theorem blames_failureAt {before : List Value} {item : Value} {fault : MapperFault}
    (h : mapper item = .error fault) :
    mapper.Blames before item (failureAt before.length item fault) := by
  cases fault with
  | rejected reason => exact .rejected h rfl rfl
  | aborted reason => exact .aborted h

theorem Total.accepts (h : mapper.Total) (items : List Value) : mapper.Accepts items :=
  fun item _ => h item

theorem convert_cons_ok {item : Value} {a : α} (h : mapper item = .ok a) (offset : Int)
    (raw : List Value) :
    mapper.convert offset (item :: raw) = (mapper.convert (offset + 1) raw).map (a :: ·) := by
  rw [convert, h]

theorem convert_cons_error {item : Value} {fault : MapperFault} (h : mapper item = .error fault)
    (offset : Int) (raw : List Value) :
    mapper.convert offset (item :: raw) = .error (failureAt offset item fault) := by
  rw [convert, h]

/-- **Items are converted one by one,** wherever they begin. -/
theorem convert_ok_iff {items : List α} :
    mapper.convert offset raw = .ok items ↔ raw.map mapper = items.map .ok := by
  induction raw generalizing offset items with
  | nil =>
    rw [List.map_nil, eq_comm (b := items.map _), List.map_eq_nil_iff]
    exact ⟨fun h => (Except.ok.inj h).symm, fun h => congrArg Except.ok h.symm⟩
  | cons item rest ih =>
    rw [List.map_cons]
    cases hitem : mapper item with
    | error fault =>
      rw [convert_cons_error hitem]
      refine ⟨fun h => ?_, fun h => ?_⟩
      · cases h
      · -- the first of the items has not been accepted
        cases items with
        | nil => cases h
        | cons a items => cases (List.cons.inj h).1
    | ok a =>
      rw [convert_cons_ok hitem]
      constructor
      · intro h
        cases hrest : mapper.convert (offset + 1) rest with
        | error e =>
          rw [hrest] at h
          cases h
        | ok tail =>
          rw [hrest] at h
          cases h
          rw [List.map_cons, ih.1 hrest]
      · intro h
        cases items with
        | nil => cases h
        | cons a' tail =>
          rw [List.map_cons, List.cons.injEq] at h
          cases h.1
          rw [ih.2 h.2]
          rfl

/-- **A conversion fails at the first item that is not accepted.** -/
theorem convert_error {offset : Int} {raw : List Value} {e : Failure}
    (h : mapper.convert offset raw = .error e) :
    ∃ before item after fault, raw = before ++ item :: after ∧ mapper.Accepts before ∧
      mapper item = .error fault ∧ e = failureAt (offset + before.length) item fault := by
  induction raw generalizing offset with
  | nil => cases h
  | cons item rest ih =>
    cases hitem : mapper item with
    | error fault =>
      rw [convert_cons_error hitem] at h
      cases h
      refine ⟨[], item, rest, fault, rfl, List.forall_mem_nil _, hitem, ?_⟩
      rw [List.length_nil, Int.natCast_zero, Int.add_zero]
    | ok a =>
      rw [convert_cons_ok hitem] at h
      cases hrest : mapper.convert (offset + 1) rest with
      | ok items =>
        rw [hrest] at h
        cases h
      | error e' =>
        rw [hrest] at h
        cases h
        obtain ⟨before, item', after, fault, rfl, hbefore, hfault, rfl⟩ := ih hrest
        refine ⟨item :: before, item', after, fault, rfl,
          List.forall_mem_cons.2 ⟨⟨a, hitem⟩, hbefore⟩, hfault, ?_⟩
        congr 1
        rw [List.length_cons]
        omega

/-- **Whatever goes wrong is the fault of an item.** -/
theorem fault_of_convert {e : Failure} (h : mapper.convert offset raw = .error e) :
    ∃ index item fault, e = failureAt index item fault := by
  obtain ⟨before, item, after, fault, -, -, -, rfl⟩ := convert_error h
  exact ⟨_, item, fault, rfl⟩

/-- A mapper that makes something of each item converts them all. -/
theorem convert_of_forall {f : Value → α} (h : ∀ item ∈ raw, mapper item = .ok (f item))
    (offset : Int) : mapper.convert offset raw = .ok (raw.map f) := by
  rw [convert_ok_iff, List.map_map]
  exact List.map_congr_left h

/-- What can be converted has been accepted. -/
theorem accepts_of_convert {items : List α} (h : mapper.convert offset raw = .ok items) :
    mapper.Accepts raw := by
  intro item hitem
  have hmem : mapper item ∈ items.map Except.ok := by
    rw [← convert_ok_iff.1 h]
    exact List.mem_map_of_mem hitem
  obtain ⟨a, -, ha⟩ := List.mem_map.1 hmem
  exact ⟨a, ha.symm⟩

/-- Items that are accepted are converted. -/
theorem convert_of_accepts (offset : Int) (h : mapper.Accepts raw) :
    ∃ items, mapper.convert offset raw = .ok items := by
  induction raw generalizing offset with
  | nil => exact ⟨[], rfl⟩
  | cons item rest ih =>
    obtain ⟨a, ha⟩ := h item List.mem_cons_self
    obtain ⟨items, hitems⟩ := ih (offset + 1) fun v hv => h v (List.mem_cons_of_mem item hv)
    refine ⟨a :: items, ?_⟩
    rw [convert_cons_ok ha, hitems]
    rfl

/-- Items are converted from front to back. -/
theorem convert_append (offset : Int) (raw more : List Value) :
    mapper.convert offset (raw ++ more) = (mapper.convert offset raw).bind fun items =>
      (mapper.convert (offset + raw.length) more).map (items ++ ·) := by
  -- on the items in front, each of which moves the position of all behind it
  induction raw generalizing offset with
  | nil =>
    show mapper.convert offset more = (mapper.convert (offset + (0 : Nat)) more).map ([] ++ ·)
    rw [Int.natCast_zero, Int.add_zero]
    cases mapper.convert offset more with
    | ok items => rfl
    | error e => rfl
  | cons item raw ih =>
    rw [List.cons_append]
    cases hitem : mapper item with
    | error fault => rw [convert_cons_error hitem, convert_cons_error hitem]; rfl
    | ok a =>
      have hoffset : offset + 1 + (raw.length : Int) = offset + ((item :: raw).length : Nat) := by
        rw [List.length_cons]
        omega
      rw [convert_cons_ok hitem, convert_cons_ok hitem, ih, hoffset]
      cases mapper.convert (offset + 1) raw with
      | error e => rfl
      | ok items => cases mapper.convert (offset + ((item :: raw).length : Nat)) more <;> rfl

end Mapper

end AqlClient
