import AqlClient.Batch
import AqlClient.Proofs.Digits
import AqlClient.Proofs.Judgement

/-!
# The grammar of batches

What an object has to be like to carry a batch is a list of rules (`Batch.rules`), each of which
names the field to blame if it is broken (`Rule`). Most of them ask for a field that stands for
something (`Rule.required`, `Rule.optional`); one is about two fields. Reading a batch checks them in
order: `Checks envelope rules P x` says of a reader's outcome `x` that it is a value with the property
`P` if all rules are kept, and a failure that blames the first broken rule otherwise.

There is one lemma for each way of taking a field (`Checks.required`, `Checks.optional`) and one for
readers one after the other (`Checks.bind`); `Batch.checks_ofEnvelope` puts them together, and
`Batch.grammar` says what comes of it.
-/

namespace AqlClient

variable {α β : Type}

/-! ### Rules -/

/-- Something that is asked of an answer, and the field to blame if it does not hold. -/
structure Rule where
  field : String
  holds : Prop

namespace Rule

/-- All rules hold. -/
def Kept (rules : List Rule) : Prop := ∀ rule ∈ rules, rule.holds

/-- **The field to blame** is that of the first rule that does not hold. -/
inductive Blames : List Rule → String → Prop where
  | first {rule : Rule} {rest : List Rule} (h : ¬ rule.holds) : Blames (rule :: rest) rule.field
  | later {rule : Rule} {rest : List Rule} {name : String} (h : rule.holds)
      (hrest : Blames rest name) : Blames (rule :: rest) name

variable {rules rules' : List Rule} {name name' : String}

/-- Rules that follow change nothing about the first broken one. -/
theorem Blames.append_right (h : Blames rules name) (rules' : List Rule) :
    Blames (rules ++ rules') name := by
  induction h with
  | first h => exact .first h
  | later h _ ih => exact .later h ih

theorem Blames.append_left (hkept : Kept rules) (h : Blames rules' name) :
    Blames (rules ++ rules') name := by
  induction rules with
  | nil => exact h
  | cons rule rest ih =>
    obtain ⟨hrule, hrest⟩ := List.forall_mem_cons.1 hkept
    exact .later hrule (ih hrest)

/-- Nobody is to blame if all rules hold. -/
theorem Blames.not_kept (h : Blames rules name) : ¬ Kept rules := by
  intro hkept
  induction h with
  | first h => exact h (hkept _ List.mem_cons_self)
  | later _ _ ih => exact ih (List.forall_mem_cons.1 hkept).2

theorem Blames.unique (h : Blames rules name) (h' : Blames rules name') : name' = name := by
  induction h with
  | first h =>
    cases h' with
    | first => rfl
    | later h' => exact absurd h' h
  | later h _ ih =>
    cases h' with
    | first h' => exact absurd h h'
    | later _ hrest' => exact ih hrest'

end Rule

open Rule

/-! ### Readers that check rules -/

/-- **What comes of checking rules in order:** a value with a property if all of them hold, else a
failure that shows the answer and blames the field of the first one that does not. -/
structure Checks (envelope : Entries) (rules : List Rule) (P : α → Prop) (x : Except Failure α) :
    Prop where
  ok : ∀ a, x = .ok a → Kept rules ∧ P a
  error : ∀ e, x = .error e → ∃ m name, e = .malformed m ∧ m.answer = .dict envelope ∧
    m.field = some name ∧ Blames rules name

namespace Checks

variable {envelope : Entries} {rules rules' : List Rule} {P : α → Prop} {Q : β → Prop}
  {x : Except Failure α}

theorem pure {a : α} (h : P a) : Checks envelope [] P (.ok a) where
  ok a' ha' := by
    obtain rfl := Except.ok.inj ha'
    refine ⟨fun rule hrule => ?_, h⟩
    cases hrule
  error e he := by cases he

/-- A failure blames the field of a single rule. -/
theorem broken {rule : Rule} {m : Malformed} (h : ¬ rule.holds)
    (hanswer : m.answer = .dict envelope) (hfield : m.field = some rule.field) :
    Checks envelope [rule] P (.error (.malformed m)) where
  ok a ha := by cases ha
  error e he := by
    obtain rfl := Except.error.inj he
    exact ⟨m, rule.field, rfl, hanswer, hfield, .first h⟩

theorem kept {rule : Rule} {a : α} (h : rule.holds) (ha : P a) :
    Checks envelope [rule] P (.ok a) where
  ok a' ha' := by
    obtain rfl := Except.ok.inj ha'
    exact ⟨List.forall_mem_singleton.2 h, ha⟩
  error e he := by cases he

/-- **Readers one after the other check their rules one after the other.** -/
theorem bind {f : α → Except Failure β} (hx : Checks envelope rules P x)
    (hf : ∀ a, P a → Checks envelope rules' Q (f a)) :
    Checks envelope (rules ++ rules') Q (x >>= f) := by
  cases hcase : x with
  | error e =>
    -- the second reader is not asked, so its rules cannot be to blame
    refine ⟨fun b hb => ?_, fun e' he' => ?_⟩
    · cases hb
    · obtain rfl : e = e' := Except.error.inj he'
      obtain ⟨m, name, hm, hanswer, hfield, hblames⟩ := hx.error e hcase
      exact ⟨m, name, hm, hanswer, hfield, hblames.append_right rules'⟩
  | ok a =>
    obtain ⟨hkept, ha⟩ := hx.ok a hcase
    refine ⟨fun b hb => ?_, fun e he => ?_⟩
    · obtain ⟨hkept', hb⟩ := (hf a ha).ok b hb
      exact ⟨List.forall_mem_append.2 ⟨hkept, hkept'⟩, hb⟩
    · obtain ⟨m, name, hm, hanswer, hfield, hblames⟩ := (hf a ha).error e he
      exact ⟨m, name, hm, hanswer, hfield, hblames.append_left hkept⟩

/-- There is a value just if all rules hold. -/
theorem exists_ok (h : Checks envelope rules P x) : (∃ a, x = .ok a) ↔ Kept rules := by
  constructor
  · rintro ⟨a, ha⟩
    exact (h.ok a ha).1
  · intro hkept
    cases hcase : x with
    | ok a => exact ⟨a, rfl⟩
    | error e =>
      obtain ⟨m, name, -, -, -, hblames⟩ := h.error e hcase
      exact absurd hkept hblames.not_kept

/-- A field is blamed just if its rule is the first broken one. -/
theorem exists_error (h : Checks envelope rules P x) (name : String) :
    (∃ m, x = .error (.malformed m) ∧ m.field = some name) ↔ Blames rules name := by
  constructor
  · rintro ⟨m, hm, hfield⟩
    obtain ⟨m', name', hm', -, hfield', hblames⟩ := h.error _ hm
    obtain rfl := Failure.malformed.inj hm'
    obtain rfl := Option.some.inj (hfield.symm.trans hfield')
    exact hblames
  · intro hblames
    cases hcase : x with
    | ok a => exact absurd (h.ok a hcase).1 hblames.not_kept
    | error e =>
      obtain ⟨m, name', rfl, -, hfield, hblames'⟩ := h.error e hcase
      obtain rfl := hblames.unique hblames'
      exact ⟨m, rfl, hfield⟩

end Checks

/-! ### Fields -/

namespace Json

/-- A field is absent, or null. -/
def Missing (field : Option Json) : Prop := field = none ∨ field = some .null

/-- A field stands for something. -/
def Gives (field : Option Json) (stands : Json → α → Prop) (a : α) : Prop :=
  ∃ j, field = some j ∧ stands j a

/-- A field stands for something, or for nothing if it is absent or null. -/
inductive MayGive (field : Option Json) (stands : Json → α → Prop) : Option α → Prop where
  | none (h : Missing field) : MayGive field stands none
  | some {a : α} (h : Gives field stands a) : MayGive field stands (some a)

/-- An array stands for its items. -/
inductive IsItems : Json → List Value → Prop where
  | arr (items : List Json) : IsItems (.arr items) (Value.ofJsonItems items)

/-- A flag. -/
inductive IsFlag : Json → Bool → Prop where
  | bool (b : Bool) : IsFlag (.bool b) b

/-- An integer; a flag is none. -/
inductive IsInteger : Json → Int → Prop where
  | int (i : Int) : IsInteger (.int i) i

/-- The name of a cursor is a text, as it is shown, or an integer that stands for its decimal
text. -/
inductive IsName : Json → String → Prop where
  | str (t : Text) : IsName (.str t) t.shown
  | int (i : Int) : IsName (.int i) (Numeral.ofInt i)

/-- An object stands for its fields. -/
inductive IsFields : Json → Entries → Prop where
  | obj (fields : Fields) : IsFields (.obj fields) (Value.ofJsonFields fields)

end Json

open Json

/-- A reader of values that looks for what JSON values stand for; null stands for nothing. -/
structure Reads (view : Value → Option α) (stands : Json → α → Prop) : Prop where
  null : view .null = none
  iff : ∀ {j a}, view (Value.ofJson j) = some a ↔ stands j a

namespace Reads

theorem list? : Reads Value.list? IsItems where
  null := rfl
  iff {j items} := by
    constructor
    · intro h
      cases j with
      | arr js =>
        obtain rfl := Option.some.inj h
        exact .arr js
      | _ => cases h
    · rintro ⟨js⟩
      rfl

theorem bool? : Reads Value.bool? IsFlag where
  null := rfl
  iff {j b} := by
    constructor
    · intro h
      cases j with
      | bool b =>
        obtain rfl := Option.some.inj h
        exact .bool b
      | _ => cases h
    · rintro ⟨b⟩
      rfl

theorem int? : Reads Value.int? IsInteger where
  null := rfl
  iff {j i} := by
    constructor
    · intro h
      cases j with
      | int i =>
        obtain rfl := Option.some.inj h
        exact .int i
      | _ => cases h
    · rintro ⟨i⟩
      rfl

theorem idText? : Reads Batch.idText? IsName where
  null := rfl
  iff {j name} := by
    constructor
    · intro h
      cases j with
      | str t =>
        obtain rfl := Option.some.inj h
        exact .str t
      | int i =>
        obtain rfl := Option.some.inj h
        exact .int i
      | _ => cases h
    · intro h
      cases h with
      | str => rfl
      | int => rfl

theorem dict? : Reads Value.dict? IsFields where
  null := rfl
  iff {j entries} := by
    constructor
    · intro h
      cases j with
      | obj fields =>
        obtain rfl := Option.some.inj h
        exact .obj fields
      | _ => cases h
    · rintro ⟨fields⟩
      rfl

variable {view : Value → Option α} {stands : Json → α → Prop} {field : Option Json}

/-- No field is missing and stands for something. -/
theorem not_missing (h : Reads view stands) {a : α} (hgives : Gives field stands a) :
    ¬ Missing field := by
  obtain ⟨j, hj, hstands⟩ := hgives
  rintro (hnone | hnull)
  · rw [hnone] at hj
    cases hj
  · rw [hnull] at hj
    obtain rfl := Option.some.inj hj
    have hview : view .null = some a := h.iff.2 hstands
    rw [h.null] at hview
    cases hview

/-- A field stands for nothing just if it is missing. -/
theorem isNone_iff (h : Reads view stands) {o : Option α} (ho : MayGive field stands o) :
    o.isNone = true ↔ Missing field := by
  cases ho with
  | none hmissing => exact iff_of_true rfl hmissing
  | some hgives => exact iff_of_false Bool.false_ne_true (h.not_missing hgives)

theorem gives_unique (h : Reads view stands) {a a' : α} (ha : Gives field stands a)
    (ha' : Gives field stands a') : a' = a := by
  obtain ⟨j, hj, hstands⟩ := ha
  obtain ⟨j', hj', hstands'⟩ := ha'
  obtain rfl := Option.some.inj (hj.symm.trans hj')
  exact Option.some.inj ((h.iff.2 hstands').symm.trans (h.iff.2 hstands))

/-- A field stands for one thing at most. -/
theorem mayGive_unique (h : Reads view stands) {o o' : Option α} (ho : MayGive field stands o)
    (ho' : MayGive field stands o') : o' = o := by
  cases ho with
  | none hmissing =>
    cases ho' with
    | none => rfl
    | some hgives' => exact absurd hmissing (h.not_missing hgives')
  | some hgives =>
    cases ho' with
    | none hmissing' => exact absurd hmissing' (h.not_missing hgives)
    | some hgives' => rw [h.gives_unique hgives hgives']

end Reads

/-- A field has to be there and to stand for something. -/
def Rule.required (fields : Fields) (name : String) (stands : Json → α → Prop) : Rule where
  field := name
  holds := ∃ a, Gives (fields.get? name) stands a

/-- A field has to stand for something, unless it is absent or null. -/
def Rule.optional (fields : Fields) (name : String) (stands : Json → α → Prop) : Rule where
  field := name
  holds := ∃ o, MayGive (fields.get? name) stands o

namespace Checks

variable {view : Value → Option α} {stands : Json → α → Prop} {name : String} (fields : Fields)

/-- **A field that may be missing.** -/
theorem optional (hname : '\uFFFD' ∉ name.toList) (kinds : List Kind) (h : Reads view stands) :
    Checks (Value.ofJsonFields fields) [.optional fields name stands]
      (MayGive (fields.get? name) stands)
      (Entries.optional (Value.ofJsonFields fields) name kinds view) := by
  unfold Entries.optional
  rw [Entries.get?_ofJsonFields fields hname]
  cases hfield : fields.get? name with
  | none =>
    have hgives : MayGive none stands none := .none (.inl rfl)
    exact .kept ⟨none, hfield ▸ hgives⟩ hgives
  | some j =>
    rw [Option.map_some, Option.getD_some]
    split
    case h_1 hnull =>
      -- null counts as absent
      have hj : j = .null := by
        cases j with
        | null => rfl
        | _ => cases hnull
      have hgives : MayGive (some j) stands none := .none (.inr (congrArg some hj))
      exact .kept ⟨none, hfield ▸ hgives⟩ hgives
    case h_2 hpresent =>
      split
      case h_1 a ha =>
        have hgives : MayGive (some j) stands (some a) := .some ⟨j, rfl, h.iff.1 ha⟩
        exact .kept ⟨some a, hfield ▸ hgives⟩ hgives
      case h_2 hnone =>
        -- the field is there, so it would have to stand for what the reader did not find in it
        refine .broken ?_ rfl rfl
        rintro ⟨o, hgives⟩
        rw [hfield] at hgives
        cases hgives with
        | none hmissing =>
          obtain hmissing | hnull := hmissing
          · cases hmissing
          · obtain rfl := Option.some.inj hnull
            exact hpresent rfl
        | some hgives =>
          obtain ⟨j', hj', hstands⟩ := hgives
          obtain rfl := Option.some.inj hj'
          rw [h.iff.2 hstands] at hnone
          cases hnone

/-- **A field that has to be there.** -/
theorem required (hname : '\uFFFD' ∉ name.toList) (kinds : List Kind) (h : Reads view stands) :
    Checks (Value.ofJsonFields fields) [.required fields name stands]
      (Gives (fields.get? name) stands)
      (Entries.required (Value.ofJsonFields fields) name kinds view) := by
  have hoptional := Checks.optional fields hname kinds h
  unfold Entries.required
  split
  case h_1 a ha =>
    obtain ⟨-, hgives⟩ := hoptional.ok _ ha
    cases hgives with
    | some hgives => exact .kept ⟨a, hgives⟩ hgives
  case h_2 hnone =>
    obtain ⟨-, hgives⟩ := hoptional.ok _ hnone
    refine .broken ?_ rfl rfl
    rintro ⟨a, ha⟩
    cases hgives with
    | none hmissing => exact h.not_missing ha hmissing
  case h_3 e he =>
    obtain ⟨m, name', rfl, hanswer, hfield, hblames⟩ := hoptional.error e he
    cases hblames with
    | first hbroken =>
      refine .broken ?_ hanswer hfield
      rintro ⟨a, hgives⟩
      exact hbroken ⟨some a, .some hgives⟩
    | later _ hrest => cases hrest

/-- A rule about what has been read already. -/
theorem ite {c : Prop} [Decidable c] {rule : Rule} {rules : List Rule} {m : Malformed}
    (hc : rule.holds ↔ ¬ c) (hanswer : m.answer = .dict envelope)
    (hfield : m.field = some rule.field) (hx : ¬ c → Checks envelope rules P x) :
    Checks envelope (rule :: rules) P (if c then .error (.malformed m) else x) := by
  by_cases hcase : c
  · have hbroken : Checks envelope [rule] (fun _ : Unit => ¬ c) (.error (.malformed m)) :=
      .broken (fun hholds => hc.1 hholds hcase) hanswer hfield
    rw [if_pos hcase]
    exact hbroken.bind fun _ => hx
  · have hkept : Checks envelope [rule] (fun _ : Unit => ¬ c) (.ok ()) := .kept (hc.2 hcase) hcase
    rw [if_neg hcase]
    exact hkept.bind fun _ => hx

end Checks

namespace Batch

/-- **What an object has to be like to carry a batch,** in the order in which it is checked. -/
def rules (fields : Fields) : List Rule :=
  [.required fields "result" IsItems,
    .required fields "hasMore" IsFlag,
    .optional fields "id" IsName,
    -- what announces more has to name the cursor
    ⟨"id", fields.get? "hasMore" = some (.bool true) → ¬ Missing (fields.get? "id")⟩,
    .optional fields "count" IsInteger,
    .optional fields "extra" IsFields,
    .optional fields "cached" IsFlag]

/-- **A batch that holds what an object says.** -/
@[mk_iff]
structure Holds (fields : Fields) (b : Batch) : Prop where
  results : Gives (fields.get? "result") IsItems b.results
  hasMore : Gives (fields.get? "hasMore") IsFlag b.hasMore
  cursorId : MayGive (fields.get? "id") IsName b.cursorId
  count : MayGive (fields.get? "count") IsInteger b.count
  extra : MayGive (fields.get? "extra") IsFields b.extra
  cached : MayGive (fields.get? "cached") IsFlag b.cached

theorem Holds.unique {fields : Fields} {b b' : Batch} (h : Holds fields b) (h' : Holds fields b') :
    b' = b := by
  cases b
  cases b'
  rw [mk.injEq]
  exact ⟨Reads.list?.gives_unique h.results h'.results, Reads.bool?.gives_unique h.hasMore h'.hasMore,
    Reads.idText?.mayGive_unique h.cursorId h'.cursorId, Reads.int?.mayGive_unique h.count h'.count,
    Reads.dict?.mayGive_unique h.extra h'.extra, Reads.bool?.mayGive_unique h.cached h'.cached⟩

/-- The rule about two fields, once they have been read. -/
theorem named_iff {fields : Fields} {more : Bool} {name : Option String}
    (hmore : Gives (fields.get? "hasMore") IsFlag more)
    (hname : MayGive (fields.get? "id") IsName name) :
    (fields.get? "hasMore" = some (.bool true) → ¬ Missing (fields.get? "id")) ↔
      ¬ (more && name.isNone) = true := by
  obtain ⟨j, hflag, hj⟩ := hmore
  cases hj
  rw [hflag, Option.some.injEq, Json.bool.injEq, Bool.and_eq_true, Reads.idText?.isNone_iff hname,
    not_and]

/-- **Reading a batch checks the rules in order.** -/
theorem checks_ofEnvelope (fields : Fields) :
    Checks (Value.ofJsonFields fields) (rules fields) (Holds fields)
      (ofEnvelope (Value.ofJsonFields fields)) := by
  unfold ofEnvelope
  refine (Checks.required fields (by decide) _ Reads.list?).bind fun results hresults => ?_
  refine (Checks.required fields (by decide) _ Reads.bool?).bind fun more hmore => ?_
  refine (Checks.optional fields (by decide) _ Reads.idText?).bind fun name hname => ?_
  dsimp only
  -- the rule about two fields stands between them and the rest
  refine .ite ?_ rfl rfl fun hnamed => ?_
  · exact named_iff hmore hname
  refine (Checks.optional fields (by decide) _ Reads.int?).bind fun count hcount => ?_
  refine (Checks.optional fields (by decide) _ Reads.dict?).bind fun extra hextra => ?_
  refine (Checks.optional fields (by decide) _ Reads.bool?).bind fun cached hcached => ?_
  exact .pure ⟨hresults, hmore, hname, hcount, hextra, hcached⟩

/-- A batch is read just if the rules are kept, and it is the one that holds what is said. -/
theorem ofEnvelope_eq_ok {fields : Fields} {b : Batch} :
    ofEnvelope (Value.ofJsonFields fields) = .ok b ↔ Kept (rules fields) ∧ Holds fields b := by
  have hchecks := checks_ofEnvelope fields
  constructor
  · exact hchecks.ok b
  · rintro ⟨hkept, hb⟩
    obtain ⟨b', hb'⟩ := hchecks.exists_ok.2 hkept
    rw [hb', (hchecks.ok b' hb').2.unique hb]

/-- The fields that are about a batch. -/
def fieldNames : List String := ["result", "hasMore", "id", "count", "extra", "cached"]

/-- The rules, and what a batch has to hold, are about these fields only. -/
theorem rules_congr {fields fields' : Fields}
    (h : ∀ name ∈ fieldNames, fields'.get? name = fields.get? name) :
    rules fields' = rules fields ∧ ∀ b, Holds fields' b ↔ Holds fields b := by
  have hresult := h "result" (by decide)
  have hmore := h "hasMore" (by decide)
  have hid := h "id" (by decide)
  have hcount := h "count" (by decide)
  have hextra := h "extra" (by decide)
  have hcached := h "cached" (by decide)
  refine ⟨?_, fun b => ?_⟩
  · unfold rules Rule.required Rule.optional
    rw [hresult, hmore, hid, hcount, hextra, hcached]
  · rw [holds_iff, holds_iff, hresult, hmore, hid, hcount, hextra, hcached]

/-- **The grammar of batches.** An object carries a batch just if it keeps the rules, and the batch
holds what the object says. Otherwise the failure shows the object and blames the field of the first
rule that is broken; there is no other one. Other fields make no difference. An integer that names a
cursor can be turned into a text, if the object has been read from a document. -/
theorem grammar (fields : Fields) :
    ((∃ b, ofEnvelope (Value.ofJsonFields fields) = .ok b) ↔ Kept (rules fields)) ∧
    (∀ b, ofEnvelope (Value.ofJsonFields fields) = .ok b ↔ Kept (rules fields) ∧ Holds fields b) ∧
    (∀ e, ofEnvelope (Value.ofJsonFields fields) = .error e →
      ∃ m, e = .malformed m ∧ m.answer = .dict (Value.ofJsonFields fields)) ∧
    (∀ name, (∃ m, ofEnvelope (Value.ofJsonFields fields) = .error (.malformed m) ∧
      m.field = some name) ↔ Blames (rules fields) name) ∧
    (∀ others : Fields, (∀ name ∈ fieldNames, others.get? name = fields.get? name) →
      (∀ b, ofEnvelope (Value.ofJsonFields others) = .ok b ↔
        ofEnvelope (Value.ofJsonFields fields) = .ok b) ∧
      ∀ name, Blames (rules others) name ↔ Blames (rules fields) name) ∧
    ∀ bytes i, Document.parse? bytes = some (.obj fields) → fields.get? "id" = some (.int i) →
      (Numeral.digits i.natAbs).length ≤ Reader.maxDigits := by
  have hchecks := checks_ofEnvelope fields
  refine ⟨hchecks.exists_ok, fun b => ofEnvelope_eq_ok, fun e he => ?_, hchecks.exists_error,
    fun others h => ?_, fun bytes i hparse hi => ?_⟩
  · obtain ⟨m, name, hm, hanswer, -, -⟩ := hchecks.error e he
    exact ⟨m, hm, hanswer⟩
  · obtain ⟨hrules, hholds⟩ := rules_congr h
    refine ⟨fun b => ?_, fun name => by rw [hrules]⟩
    rw [ofEnvelope_eq_ok, ofEnvelope_eq_ok, hrules, hholds]
  · have hshort := (Document.short_of_parse hparse).get? hi
    cases hshort with
    | int hdigits => exact hdigits

/-- An integer in the place of a name is used as its decimal text. -/
example : ((ofEnvelope (Value.ofJsonFields
      [("result", .arr []), ("hasMore", .bool true), ("id", .int 12345)])).toOption.bind cursorId) =
    some "12345" := by
  decide +kernel

end Batch

end AqlClient
