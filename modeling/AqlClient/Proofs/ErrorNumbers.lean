import AqlClient.Proofs.Judgement

/-!
# The numbers of refusals

What a refusal tells is taken from its envelope (`Envelope.Told`): the number, the text, and the code
if there is one that passes for an integer. The number and the code are looked at by a view of their
own, `Envelope.errorNumber?`, which lets a flag pass for an integer. So they are integers if the
envelope has no flag in their places (`Envelope.Unflagged`), and only then: an envelope with a flag
for a number is not refused as malformed (`Envelope.incomplete_iff`).

The fields of every other answer are taken by `Entries.required` and `Entries.optional`. Their views
make something of values of the expected kinds only (`Value.Views`), and a flag is of no kind but its
own, so that they refuse one wherever an integer is expected (`Entries.required_flag`).
-/

namespace AqlClient

variable {α : Type}

/-! ### Flags for integers -/

/-- The values that pass for an integer: the integers, and the flags. -/
def Value.Counts (v : Value) : Prop := (∃ i, v = .int i) ∨ ∃ b, v = .bool b

theorem Value.counts_ofJson {j : Json} : (ofJson j).Counts ↔ j.counts = true := by
  cases j <;> simp [ofJson, Value.Counts, Json.counts]

/-- An integer, and not a flag that passes for one. -/
def Value.Genuine (v : Value) : Prop := ∃ i, v = .int i

theorem Value.Genuine.counts {v : Value} (h : v.Genuine) : v.Counts := .inl h

theorem Value.not_genuine_bool (b : Bool) : ¬ (Value.bool b).Genuine := by
  rintro ⟨i, hi⟩
  cases hi

/-- What passes for an integer is one, unless it is a flag. -/
theorem Value.Counts.genuine {v : Value} (h : v.Counts) (hflag : ∀ b, v ≠ .bool b) :
    v.Genuine := by
  rcases h with hint | ⟨b, hb⟩
  · exact hint
  · exact absurd hb (hflag b)

/-! ### Fields of an expected kind -/

/-- A view that makes something of values of some kinds only. -/
def Value.Views (kinds : List Kind) (view : Value → Option α) : Prop :=
  ∀ v a, view v = some a → v.kind ∈ kinds

theorem Value.views_int? : Views [.int] int? := by
  intro v a h
  cases v with
  | int i => exact List.mem_singleton_self _
  | _ => cases h

namespace Entries

variable {entries : Entries} {name : String} {kinds : List Kind} {view : Value → Option α} {b : Bool}

theorem optional_flag (hview : Value.Views kinds view) (hkinds : Kind.bool ∉ kinds)
    (hflag : entries.get? name = some (.bool b)) :
    entries.optional name kinds view = .error (.malformed (.fieldType name .bool kinds entries)) := by
  have hnone : view (.bool b) = none := by
    cases hcase : view (.bool b) with
    | none => rfl
    | some a => exact absurd (hview _ a hcase) hkinds
  unfold optional
  rw [hflag, Option.getD_some]
  dsimp only
  rw [hnone]
  rfl

/-- **A flag is refused where no flag is expected,** whatever is made of the field. -/
theorem required_flag (hview : Value.Views kinds view) (hkinds : Kind.bool ∉ kinds)
    (hflag : entries.get? name = some (.bool b)) :
    entries.required name kinds view = .error (.malformed (.fieldType name .bool kinds entries)) := by
  unfold required
  rw [optional_flag hview hkinds hflag]

end Entries

namespace Envelope

variable {r : Response} {request : Option String} {envelope : Entries}

/-! ### What a refusal tells -/

/-- An envelope that has no flag in the place of a field. -/
def Unflagged (envelope : Entries) (name : String) : Prop :=
  ∀ b, envelope.get? name ≠ some (.bool b)

/-- The code of a refusal: that of its envelope if it is an integer, else the status. -/
def HasGenuineCode (envelope : Entries) (status : Int) (code : Value) : Prop :=
  (envelope.get? "code" = some code ∧ code.Genuine) ∨
    (code = .int status ∧ ∀ own, envelope.get? "code" = some own → ¬ own.Genuine)

/-- **What a refusal tells of its envelope.** The number and the text are those of the envelope, and
the number is an integer unless it is a flag. The code is an integer of the envelope, else the
status, unless the envelope has a flag there, which is the code then. -/
structure Told (envelope : Entries) (status : Int) (e : ServerError) : Prop where
  answer : e.answer = .dict envelope
  number : envelope.get? "errorNum" = some e.number
  message : ∃ text, envelope.get? "errorMessage" = some (.str text) ∧ e.errorMessage = .str text
  genuine : Unflagged envelope "errorNum" ↔ e.number.Genuine
  code : Unflagged envelope "code" → HasGenuineCode envelope status e.code
  flagged : ∀ b, envelope.get? "code" = some (.bool b) → e.code = .bool b

/-- What passes for an integer in the place of a field is one unless a flag stands there. -/
theorem unflagged_iff {name : String} {v : Value} (hget : envelope.get? name = some v)
    (hcounts : v.Counts) : Unflagged envelope name ↔ v.Genuine := by
  constructor
  · intro hflag
    refine hcounts.genuine ?_
    rintro b rfl
    exact hflag b hget
  · rintro ⟨i, rfl⟩ b hb
    cases hget.symm.trans hb

/-- The fields that a refusal is told by have names that no other name is shown by. -/
theorem get?_shown {fields : Fields} {name : String} {j : Json} (hget : fields.get? name = some j)
    (hname : '\uFFFD' ∉ name.toList) :
    Entries.get? (Value.ofJsonFields fields) name = some (Value.ofJson j) := by
  rw [Entries.get?_ofJsonFields fields hname, hget, Option.map_some]

theorem of_get?_shown {fields : Fields} {name : String} {v : Value}
    (hget : Entries.get? (Value.ofJsonFields fields) name = some v)
    (hname : '\uFFFD' ∉ name.toList) : ∃ j, fields.get? name = some j ∧ Value.ofJson j = v := by
  rw [Entries.get?_ofJsonFields fields hname] at hget
  exact Option.map_eq_some_iff.1 hget

/-- The code of a refusal, by the envelope as it is shown. -/
theorem HasCode.shown {fields : Fields} {status : Int} {code : Value}
    (h : HasCode fields status code) :
    (Entries.get? (Value.ofJsonFields fields) "code" = some code ∧ code.Counts) ∨
      (code = .int status ∧
        ∀ own, Entries.get? (Value.ofJsonFields fields) "code" = some own → ¬ own.Counts) := by
  rcases h with ⟨own, hown, hcounts, rfl⟩ | ⟨rfl, hnone⟩
  · exact .inl ⟨get?_shown hown (by decide), Value.counts_ofJson.2 hcounts⟩
  · refine .inr ⟨rfl, fun own hown hcounts => ?_⟩
    obtain ⟨j, hj, rfl⟩ := of_get?_shown hown (by decide)
    rw [Value.counts_ofJson, hnone j hj] at hcounts
    cases hcounts

/-- **What an envelope with a refusal tells.** -/
theorem told_of_complains {fields : Fields} {number : Json} {message : Text} {status : Int}
    {code : Value} (h : Complains fields number message) (hcode : HasCode fields status code) :
    Told (Value.ofJsonFields fields) status (.reported code (Value.ofJson number)
      (.str message.shown) (Value.ofJsonFields fields) request) := by
  have hnumbered := get?_shown h.numbered (by decide)
  have hcounts : (Value.ofJson number).Counts := Value.counts_ofJson.2 h.counts
  refine ⟨rfl, hnumbered, ⟨_, get?_shown h.message (by decide), rfl⟩,
    unflagged_iff hnumbered hcounts, fun hflag => ?_, fun b hb => ?_⟩
  · rcases hcode.shown with ⟨hown, hcounts⟩ | ⟨rfl, hnone⟩
    · exact .inl ⟨hown, (unflagged_iff hown hcounts).1 hflag⟩
    · exact .inr ⟨rfl, fun own hown hgenuine => hnone own hown hgenuine.counts⟩
  · rcases hcode.shown with ⟨hown, -⟩ | ⟨-, hnone⟩
    · exact Option.some.inj (hown.symm.trans hb)
    · exact absurd (.inr ⟨b, rfl⟩) (hnone _ hb)

/-- A refusal by the answer to a request tells of the envelope in the body, unless the body is
blank. -/
theorem told_of_read {e : ServerError} (hblank : Document.isBlank r.body = false)
    (h : read r request = .error (.server e)) :
    ∃ envelope, held? r.body = some (.dict envelope) ∧ Told envelope r.status e := by
  rcases read_server_iff.1 h with ⟨⟨hblank', -⟩, -⟩ |
    ⟨number, message, fields, code, ⟨hparse, hcomplains⟩, hcode, rfl⟩
  · -- a refusal without an envelope is told of blank bodies only
    rw [hblank] at hblank'
    cases hblank'
  · exact ⟨_, held?_eq_dict_iff.2 ⟨fields, hparse, rfl⟩, told_of_complains hcomplains hcode⟩

/-! ### Refusals without a number -/

/-- An envelope with a set flag is looked at for a refusal. -/
theorem find_flagged {fields : Fields} (hparse : Document.parse? r.body = some (.obj fields))
    (hflag : fields.get? "error" = some (.bool true)) : find r = findRefusal fields := by
  rw [find_of_not_bare (not_bare_of_parse hparse), hparse, findIn, judge, hflag]
  rfl

/-- Behind a number that passes for an integer, the text is looked at, and blamed by its own name. -/
theorem findRefusal_of_counts {fields : Fields} {number : Json}
    (hget : fields.get? "errorNum" = some number) (hcounts : number.counts = true) :
    (∃ message, findRefusal fields = .refused number message fields) ∨
      findRefusal fields = .incomplete "errorMessage" fields := by
  unfold findRefusal
  rw [hget, Option.filter_some, if_pos hcounts]
  dsimp only
  split
  · exact .inl ⟨_, rfl⟩
  · exact .inr rfl

theorem findRefusal_of_not_counts {fields : Fields}
    (h : ∀ number, fields.get? "errorNum" = some number → number.counts = false) :
    findRefusal fields = .incomplete "errorNum" fields := by
  unfold findRefusal
  cases hnumber : (fields.get? "errorNum").filter Json.counts with
  | none => rfl
  | some number =>
    obtain ⟨hget, hcounts⟩ := Option.filter_eq_some_iff.1 hnumber
    rw [h number hget] at hcounts
    cases hcounts

/-- **The number of a refusal is missed** if there is nothing in its place that passes for an
integer, and only then. -/
theorem incomplete_iff (hheld : held? r.body = some (.dict envelope))
    (hflag : envelope.get? "error" = some (.bool true)) :
    read r request = .error (.malformed (.incompleteError r.status request "errorNum" envelope)) ↔
      ∀ number, envelope.get? "errorNum" = some number → ¬ number.Counts := by
  obtain ⟨fields, hparse, rfl⟩ := held?_eq_dict_iff.1 hheld
  have hset : fields.get? "error" = some (.bool true) := by
    obtain ⟨j, hj, hshown⟩ := of_get?_shown hflag (by decide)
    cases j with
    | bool b => rw [hj, Value.bool.inj hshown]
    | _ => cases hshown
  unfold read
  rw [find_flagged hparse hset]
  constructor
  · -- behind a number the text can be blamed, but never the number any more
    intro h number hget hcounts
    obtain ⟨j, hj, rfl⟩ := of_get?_shown hget (by decide)
    rcases findRefusal_of_counts hj (Value.counts_ofJson.1 hcounts) with ⟨message, hfind⟩ | hfind
    · simp [hfind, report] at h
    · simp [hfind, report] at h
  · intro h
    rw [findRefusal_of_not_counts fun j hj => ?_]
    · rfl
    · exact Bool.eq_false_iff.2 fun hcounts =>
        h _ (get?_shown hj (by decide)) (Value.counts_ofJson.2 hcounts)

/-- **The numbers of refusals.** A refusal by an answer with a body tells of the envelope in it: the
number and the code are integers if no flag stands in their places. An envelope whose error flag is
set is malformed for want of a number if nothing in its place passes for an integer, and only then; if
no flag stands there, that means that there is no integer. Every other field that is not expected to
be a flag is refused if it is one. -/
theorem refusal_numbers (r : Response) (request : Option String)
    (hblank : Document.isBlank r.body = false) :
    (∀ e, read r request = .error (.server e) →
      ∃ envelope, held? r.body = some (.dict envelope) ∧ Told envelope r.status e) ∧
    (∀ envelope : Entries, held? r.body = some (.dict envelope) →
      envelope.get? "error" = some (.bool true) →
      (read r request =
          .error (.malformed (.incompleteError r.status request "errorNum" envelope)) ↔
        ∀ number, envelope.get? "errorNum" = some number → ¬ number.Counts) ∧
      (Unflagged envelope "errorNum" →
        (read r request =
            .error (.malformed (.incompleteError r.status request "errorNum" envelope)) ↔
          ∀ number, envelope.get? "errorNum" = some number → ¬ number.Genuine))) ∧
    ∀ (α : Type) (entries : Entries) (name : String) (kinds : List Kind) (view : Value → Option α)
      (b : Bool), Value.Views kinds view → Kind.bool ∉ kinds →
      entries.get? name = some (.bool b) →
      entries.required name kinds view =
          .error (.malformed (.fieldType name .bool kinds entries)) ∧
        entries.optional name kinds view =
          .error (.malformed (.fieldType name .bool kinds entries)) := by
  refine ⟨fun e => told_of_read hblank, fun envelope hheld hflag => ?_, ?_⟩
  · refine ⟨incomplete_iff hheld hflag, fun hunflagged => ?_⟩
    rw [incomplete_iff hheld hflag]
    refine forall₂_congr fun number hget => not_congr ⟨fun hcounts => ?_, Value.Genuine.counts⟩
    refine hcounts.genuine ?_
    rintro b rfl
    exact hunflagged b hget
  · intro α entries name kinds view b hview hkinds hflag
    exact ⟨Entries.required_flag hview hkinds hflag, Entries.optional_flag hview hkinds hflag⟩

/-- The body of a refusal with a number and a code that are integers. -/
def numberedBody : List UInt8 :=
  Utf8.encode "\x7b\"error\":true,\"errorNum\":1203,\"errorMessage\":\"no\",\"code\":404\x7d"

/-- What that body holds. -/
def numberedFields : Fields :=
  [("error", .bool true), ("errorNum", .int 1203), ("errorMessage", .str "no"), ("code", .int 404)]

/-- The code of such a refusal is that of its envelope, also under the status of a success, and an
entry that counts results is refused if it is a flag. -/
theorem refusal_numbers_specimen :
    (∃ e, read ⟨200, [], numberedBody⟩ none = .error (.server e) ∧ e.number = .int 1203 ∧
      e.code = .int 404) ∧
    Entries.required [(.str "count", .bool true)] "count" [.int] Value.int? =
      .error (.malformed (.fieldType "count" .bool [.int] [(.str "count", .bool true)])) := by
  have hparse : Document.parse? numberedBody = some (.obj numberedFields) := by
    decide +kernel
  have hcomplains : Complains numberedFields (.int 1203) "no" := ⟨rfl, rfl, rfl, rfl⟩
  obtain ⟨htold, -, hfields⟩ := refusal_numbers ⟨200, [], numberedBody⟩ none (by decide +kernel)
  have hread : read ⟨200, [], numberedBody⟩ none = .error (.server (.reported (.int 404) (.int 1203)
      (.str "no") (Value.ofJsonFields numberedFields) none)) :=
    read_server_iff.2 (.inr ⟨_, _, _, .int 404, ⟨hparse, hcomplains⟩,
      .inl ⟨.int 404, rfl, rfl, rfl⟩, rfl⟩)
  obtain ⟨envelope, hheld, told⟩ := htold _ hread
  obtain rfl : envelope = Value.ofJsonFields numberedFields := by
    obtain ⟨fields, hfields, rfl⟩ := held?_eq_dict_iff.1 hheld
    cases hparse.symm.trans hfields
    rfl
  have hcode := told.code fun b hb => by cases hb
  refine ⟨⟨_, hread, rfl, ?_⟩, ?_⟩
  · rcases hcode with ⟨hown, -⟩ | ⟨-, hnone⟩
    · exact Option.some.inj hown.symm
    · exact absurd ⟨404, rfl⟩ (hnone _ rfl)
  · exact (hfields Int _ "count" [.int] Value.int? true Value.views_int? (by decide) rfl).1

/-! ### A flag for a number -/

/-- The body of a refusal with a flag in the place of its number. -/
def flaggedBody : List UInt8 :=
  Utf8.encode "\x7b\"error\":true,\"errorNum\":true,\"errorMessage\":\"no\"\x7d"

/-- What that body holds. -/
def flaggedFields : Fields :=
  [("error", .bool true), ("errorNum", .bool true), ("errorMessage", .str "no")]

/-- The envelope that this is shown as. -/
def flaggedEnvelope : Entries :=
  [(.str "error", .bool true), (.str "errorNum", .bool true), (.str "errorMessage", .str "no")]

/-- **A flag is taken for the number of a refusal,** though the same field is refused if it is taken
out of the envelope as an integer. -/
theorem read_flag_for_number :
    ∃ e, read ⟨400, [], flaggedBody⟩ none = .error (.server e) ∧ e.number = .bool true ∧
      ¬ e.number.Genuine ∧ held? flaggedBody = some (.dict flaggedEnvelope) ∧
      flaggedEnvelope.required "errorNum" [.int] Value.int? =
        .error (.malformed (.fieldType "errorNum" .bool [.int] flaggedEnvelope)) := by
  have hparse : Document.parse? flaggedBody = some (.obj flaggedFields) := by
    decide +kernel
  have hheld : held? flaggedBody = some (.dict flaggedEnvelope) := by
    rw [held?, hparse]
    rfl
  have hcomplains : Complains flaggedFields (.bool true) "no" := ⟨rfl, rfl, rfl, rfl⟩
  have hnone : ∀ own, flaggedFields.get? "code" = some own → own.counts = false := nofun
  refine ⟨.reported (.int 400) (.bool true) (.str "no") flaggedEnvelope none, ?_, rfl,
    Value.not_genuine_bool true, hheld, rfl⟩
  exact read_server_iff.2
    (.inr ⟨_, _, _, .int 400, ⟨hparse, hcomplains⟩, .inr ⟨rfl, hnone⟩, rfl⟩)

end Envelope

end AqlClient
