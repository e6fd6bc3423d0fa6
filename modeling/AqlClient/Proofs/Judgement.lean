import AqlClient.Envelope
import AqlClient.Proofs.Document

/-!
# What a body decides

The body of an answer, and not its status, decides what comes of reading it. An answer comes to its
envelope, if the error flag there is absent, null or not set (`Envelope.find_returned_iff`), to a
refusal that the envelope carries (`Envelope.find_refused_iff`), to a refusal by the status alone,
for which the body has to be blank (`Envelope.find_bare_iff`), or is malformed, if none of this
applies. No two of them apply to one answer, since a blank body holds nothing and an error flag is
not both set and not set. All this is about the values in the body, code point by code point; what is
returned or reported then shows them (`Envelope.read_ok_iff`, `Envelope.read_server_iff`,
`Envelope.read_malformed_iff`).

What an answer with a body comes to does not depend on its status (`Envelope.find_of_body`). The
status enters into the wording of a failure, and into the code of a refusal that names none of its
own. Two answers with one body agree in everything else, whatever their statuses are
(`Envelope.Agrees`, `Envelope.agrees_read`).
-/

namespace AqlClient

/-! ### Fields by name -/

/-- **The value of a name is that of the field,** unless the name has a replacement character in it,
by which other names are shown too. -/
theorem Entries.get?_ofJsonFields (fields : Fields) {name : String}
    (hname : '\uFFFD' ∉ name.toList) :
    Entries.get? (Value.ofJsonFields fields) name = (fields.get? name).map Value.ofJson := by
  induction fields with
  | nil => rfl
  | cons field rest ih =>
    obtain ⟨key, j⟩ := field
    rw [Value.ofJsonFields]
    unfold Entries.get? Fields.get? Named.get? at ih ⊢
    rw [List.find?_cons, List.find?_cons]
    by_cases hkey : key = Text.ofString name
    · have hshown : ((Value.str key.shown).str? == some name) = true :=
        beq_iff_eq.2 (congrArg some ((Text.shown_eq_iff hname).2 hkey))
      have hfound : (key == Text.ofString name) = true := beq_iff_eq.2 hkey
      rw [hshown, hfound]
      rfl
    · have hshown : ((Value.str key.shown).str? == some name) = false :=
        beq_false_of_ne fun h => hkey ((Text.shown_eq_iff hname).1 (Option.some.inj h))
      have hfound : (key == Text.ofString name) = false := beq_false_of_ne hkey
      rw [hshown, hfound]
      exact ih

namespace Envelope

/-! ### What an answer is like -/

/-- The value that a body holds, with its texts as they are shown. -/
def held? (body : List UInt8) : Option Value := (Document.parse? body).map Value.ofJson

/-- A dictionary in a body is what an object is shown as. -/
theorem held?_eq_dict_iff {body : List UInt8} {envelope : Entries} :
    held? body = some (.dict envelope) ↔
      ∃ fields : Fields, Document.parse? body = some (.obj fields) ∧
        envelope = Value.ofJsonFields fields := by
  unfold held?
  rw [Option.map_eq_some_iff]
  constructor
  · rintro ⟨j, hparse, hj⟩
    cases j with
    | obj fields => exact ⟨fields, hparse, (Value.dict.inj hj).symm⟩
    | _ => cases hj
  · rintro ⟨fields, hparse, rfl⟩
    exact ⟨.obj fields, hparse, rfl⟩

/-- An error flag that says that nothing is wrong: it is absent, null or not set. -/
def Clear (fields : Fields) : Prop :=
  fields.get? "error" = none ∨ fields.get? "error" = some .null ∨
    fields.get? "error" = some (.bool false)

/-- An envelope that carries a refusal, with its number and its text. -/
structure Complains (fields : Fields) (number : Json) (message : Text) : Prop where
  flag : fields.get? "error" = some (.bool true)
  numbered : fields.get? "errorNum" = some number
  counts : number.counts = true
  message : fields.get? "errorMessage" = some (.str message)

/-- The code of a refusal: that of its envelope if it passes for an integer, else the status. -/
def HasCode (fields : Fields) (status : Int) (code : Value) : Prop :=
  (∃ own, fields.get? "code" = some own ∧ own.counts = true ∧ code = Value.ofJson own) ∨
    (code = .int status ∧ ∀ own, fields.get? "code" = some own → own.counts = false)

/-- An answer with the status of an error and nothing in its body. -/
def Bare (r : Response) : Prop := Document.isBlank r.body = true ∧ 400 ≤ r.status

/-- An answer whose body is an envelope that says that nothing is wrong. -/
def Returns (r : Response) (fields : Fields) : Prop :=
  Document.parse? r.body = some (.obj fields) ∧ Clear fields

/-- An answer whose body is an envelope that carries a refusal. -/
def Tells (r : Response) (number : Json) (message : Text) (fields : Fields) : Prop :=
  Document.parse? r.body = some (.obj fields) ∧ Complains fields number message

variable {r r' : Response} {request : Option String} {fields fields' : Fields} {number : Json}
  {message : Text}

/-! ### What an answer comes to -/

theorem findRefusal_eq_refused : findRefusal fields = .refused number message fields' ↔
    fields' = fields ∧ fields.get? "errorNum" = some number ∧ number.counts = true ∧
      fields.get? "errorMessage" = some (.str message) := by
  have hfilter : ∀ {j}, (fields.get? "errorNum").filter Json.counts = some j ↔
      fields.get? "errorNum" = some j ∧ j.counts = true := Option.filter_eq_some_iff
  constructor
  · intro h
    unfold findRefusal at h
    split at h
    case h_1 => cases h
    case h_2 number' hnumber =>
    split at h
    case h_2 => cases h
    case h_1 hmessage =>
      cases h
      obtain ⟨hget, hcounts⟩ := hfilter.1 hnumber
      exact ⟨rfl, hget, hcounts, hmessage⟩
  · rintro ⟨rfl, hget, hcounts, hmessage⟩
    unfold findRefusal
    rw [hfilter.2 ⟨hget, hcounts⟩, hmessage]

theorem findRefusal_ne_returned : findRefusal fields ≠ .returned fields' := by
  unfold findRefusal
  split
  · nofun
  · split <;> nofun

theorem judge_eq_returned : judge fields = .returned fields' ↔ fields' = fields ∧ Clear fields := by
  unfold judge Clear
  cases hflag : fields.get? "error" with
  | none => simp [eq_comm]
  | some flag =>
    rw [Option.getD_some]
    cases flag with
    | bool b =>
      cases b with
      | true => simp [findRefusal_ne_returned]
      | false => simp [eq_comm]
    | null => simp [eq_comm]
    | _ => simp

theorem judge_eq_refused : judge fields = .refused number message fields' ↔
    fields' = fields ∧ Complains fields number message := by
  unfold judge
  constructor
  · intro h
    split at h
    case h_1 => cases h
    case h_2 => cases h
    case h_4 => cases h
    case h_3 hflag =>
      obtain ⟨hfields, hget, hcounts, hmessage⟩ := findRefusal_eq_refused.1 h
      refine ⟨hfields, ?_, hget, hcounts, hmessage⟩
      cases hcase : fields.get? "error" with
      | none =>
        rw [hcase] at hflag
        cases hflag
      | some flag => exact congrArg some (by rwa [hcase] at hflag)
  · rintro ⟨hfields, hcomplains⟩
    rw [hcomplains.flag, Option.getD_some]
    exact findRefusal_eq_refused.2
      ⟨hfields, hcomplains.numbered, hcomplains.counts, hcomplains.message⟩

theorem findIn_ne_bare (held : Option Json) : findIn held ≠ .bare := by
  unfold findIn judge findRefusal
  repeat' split
  all_goals nofun

/-- **A body that does not leave the decision to the status** is all that matters. -/
theorem find_of_not_bare (h : ¬ Bare r) : find r = findIn (Document.parse? r.body) := by
  unfold find
  rw [if_neg]
  rwa [Bool.and_eq_true, decide_eq_true_iff]

/-- A body in which something stands is not blank. -/
theorem not_bare_of_parse {j : Json} (h : Document.parse? r.body = some j) : ¬ Bare r := by
  rintro ⟨hblank, -⟩
  rw [Document.parse?_of_isBlank hblank] at h
  cases h

theorem find_bare_iff : find r = .bare ↔ Bare r := by
  by_cases hbare : Bare r
  · refine iff_of_true ?_ hbare
    unfold find
    rw [if_pos]
    rw [hbare.1, Bool.true_and]
    exact decide_eq_true hbare.2
  · rw [find_of_not_bare hbare]
    exact iff_of_false (findIn_ne_bare _) hbare

/-- What an answer comes to because of an object in its body, it comes to if that object is there. -/
theorem find_eq_iff {found : Finding} {P : Fields → Prop}
    (hjudge : ∀ fields', judge fields' = found ↔ fields = fields' ∧ P fields')
    (hbare : Finding.bare ≠ found) (hunparseable : Finding.unparseable ≠ found)
    (hobject : ∀ j, Finding.notObject j ≠ found) :
    find r = found ↔ Document.parse? r.body = some (.obj fields) ∧ P fields := by
  by_cases h : Bare r
  · rw [find_bare_iff.2 h]
    exact iff_of_false hbare fun hbody => not_bare_of_parse hbody.1 h
  rw [find_of_not_bare h]
  cases Document.parse? r.body with
  | none => exact iff_of_false hunparseable nofun
  | some j =>
    cases j with
    | obj fields' =>
      show judge fields' = found ↔ _
      rw [hjudge, Option.some.injEq, Json.obj.injEq, eq_comm, and_congr_right_iff]
      rintro rfl
      exact Iff.rfl
    | _ => exact iff_of_false (hobject _) nofun

theorem find_returned_iff : find r = .returned fields ↔ Returns r fields :=
  find_eq_iff (fun _ => judge_eq_returned) nofun nofun nofun

theorem find_refused_iff : find r = .refused number message fields ↔
    Tells r number message fields :=
  find_eq_iff (fun _ => judge_eq_refused) nofun nofun nofun

/-! ### The code of a refusal -/

theorem errorNumber?_ofJson (j : Json) :
    errorNumber? (Value.ofJson j) = if j.counts = true then some (Value.ofJson j) else none := by
  cases j <;> rfl

theorem codeOf_of_counts {own : Json} (h : fields.get? "code" = some own)
    (hcounts : own.counts = true) (status : Int) :
    codeOf (Value.ofJsonFields fields) status = Value.ofJson own := by
  unfold codeOf
  rw [Entries.get?_ofJsonFields fields (by decide), h, Option.map_some, Option.bind_some,
    errorNumber?_ofJson, if_pos hcounts, Option.getD_some]

theorem codeOf_of_not_counts (h : ∀ own, fields.get? "code" = some own → own.counts = false)
    (status : Int) : codeOf (Value.ofJsonFields fields) status = .int status := by
  unfold codeOf
  rw [Entries.get?_ofJsonFields fields (by decide)]
  cases hcode : fields.get? "code" with
  | none => rfl
  | some own =>
    rw [Option.map_some, Option.bind_some, errorNumber?_ofJson, h own hcode]
    rfl

/-- **A refusal has one code.** -/
theorem hasCode_iff {status : Int} {code : Value} :
    HasCode fields status code ↔ code = codeOf (Value.ofJsonFields fields) status := by
  constructor
  · rintro (⟨own, hown, hcounts, rfl⟩ | ⟨rfl, hnone⟩)
    · exact (codeOf_of_counts hown hcounts status).symm
    · exact (codeOf_of_not_counts hnone status).symm
  · rintro rfl
    by_cases hown : ∃ own, fields.get? "code" = some own ∧ own.counts = true
    · obtain ⟨own, hown, hcounts⟩ := hown
      exact .inl ⟨own, hown, hcounts, codeOf_of_counts hown hcounts status⟩
    · have hnone : ∀ own, fields.get? "code" = some own → own.counts = false :=
        fun own h => Bool.eq_false_iff.2 fun hcounts => hown ⟨own, h, hcounts⟩
      exact .inr ⟨codeOf_of_not_counts hnone status, hnone⟩

/-! ### What is read -/

/-- **What is returned** is an envelope that says that nothing is wrong. -/
theorem read_ok_iff {envelope : Entries} :
    read r request = .ok envelope ↔
      ∃ fields, Returns r fields ∧ envelope = Value.ofJsonFields fields := by
  simp only [← find_returned_iff]
  unfold read
  cases find r with
  | returned fields => simp [report, eq_comm]
  | _ => simp [report]

/-- An envelope without an error flag is returned. -/
theorem read_of_held {envelope : Entries} (h : held? r.body = some (.dict envelope))
    (herror : envelope.get? "error" = none) : read r request = .ok envelope := by
  obtain ⟨fields, hparse, rfl⟩ := held?_eq_dict_iff.1 h
  rw [Entries.get?_ofJsonFields fields (by decide), Option.map_eq_none_iff] at herror
  exact read_ok_iff.2 ⟨fields, ⟨hparse, .inl herror⟩, rfl⟩

/-- An answer that tells of a refusal: by its status alone, or by what its envelope carries. -/
def Refuses (r : Response) (request : Option String) (e : ServerError) : Prop :=
  (Bare r ∧ e = .bare r.status request) ∨
    ∃ number message fields code, Tells r number message fields ∧ HasCode fields r.status code ∧
      e = .reported code (Value.ofJson number) (.str message.shown) (Value.ofJsonFields fields)
        request

theorem read_server_iff {e : ServerError} :
    read r request = .error (.server e) ↔ Refuses r request e := by
  unfold Refuses
  simp only [← find_refused_iff, ← find_bare_iff, hasCode_iff]
  unfold read
  cases find r with
  | refused number message fields =>
    constructor
    · rintro ⟨⟩
      exact .inr ⟨number, message, fields, _, rfl, rfl, rfl⟩
    · rintro (⟨⟨⟩, -⟩ | ⟨_, _, _, _, ⟨⟩, rfl, rfl⟩)
      rfl
  | bare => simp [report, eq_comm]
  | _ => simp [report]

/-- The failures of reading. -/
theorem read_error {e : Failure} (h : read r request = .error e) :
    (∃ e', e = .server e') ∨ ∃ m, e = .malformed m := by
  unfold read at h
  cases hfind : find r with
  | returned fields =>
    rw [hfind] at h
    cases h
  | bare | refused _ _ _ =>
    rw [hfind] at h
    cases h
    exact .inl ⟨_, rfl⟩
  | _ =>
    rw [hfind] at h
    cases h
    exact .inr ⟨_, rfl⟩

theorem read_malformed_iff :
    (∃ m, read r request = .error (.malformed m)) ↔
      (¬ ∃ fields, Returns r fields) ∧ ¬ ∃ e, Refuses r request e := by
  constructor
  · rintro ⟨m, h⟩
    refine ⟨?_, ?_⟩
    · rintro ⟨fields, hreturns⟩
      rw [read_ok_iff.2 ⟨fields, hreturns, rfl⟩] at h
      cases h
    · rintro ⟨e, he⟩
      rw [read_server_iff.2 he] at h
      cases h
  · rintro ⟨hreturns, hrefuses⟩
    cases hread : read r request with
    | ok envelope =>
      obtain ⟨fields, hfields, -⟩ := read_ok_iff.1 hread
      exact absurd ⟨fields, hfields⟩ hreturns
    | error e =>
      obtain ⟨e', rfl⟩ | ⟨m, rfl⟩ := read_error hread
      · exact absurd ⟨e', read_server_iff.1 hread⟩ hrefuses
      · exact ⟨m, rfl⟩

/-! ### One body under two statuses -/

/-- **Outcomes of one body that agree** in everything but the wording of a failure, and the code of
a refusal whose envelope has no code that passes for an integer. -/
inductive Agrees (body : List UInt8) : Except Failure Entries → Except Failure Entries → Prop
  | returned (envelope : Entries) : Agrees body (.ok envelope) (.ok envelope)
  | refused (e e' : ServerError) (number : e.number = e'.number)
      (text : e.errorMessage = e'.errorMessage) (answer : e.answer = e'.answer)
      (request : e.request = e'.request)
      (code : ∀ (fields : Fields) (own : Json), Document.parse? body = some (.obj fields) →
        fields.get? "code" = some own → own.counts = true →
        e.code = Value.ofJson own ∧ e'.code = Value.ofJson own) :
      Agrees body (.error (.server e)) (.error (.server e'))
  | malformed (m m' : Malformed) (field : m.field = m'.field) (answer : m.answer = m'.answer) :
      Agrees body (.error (.malformed m)) (.error (.malformed m'))

/-- **What an answer with a body comes to does not depend on its status.** -/
theorem find_of_body (hblank : Document.isBlank r.body = false) (hbody : r'.body = r.body) :
    find r' = find r := by
  have hbare : ∀ {r₁ : Response}, r₁.body = r.body → ¬ Bare r₁ := by
    rintro r₁ h₁ ⟨hblank₁, -⟩
    rw [h₁, hblank] at hblank₁
    cases hblank₁
  rw [find_of_not_bare (hbare hbody), find_of_not_bare (hbare rfl), hbody]

/-- **The outcomes of a body agree,** whatever the statuses are. -/
theorem agrees_read (hblank : Document.isBlank r.body = false) (hbody : r'.body = r.body)
    (request : Option String) : Agrees r.body (read r request) (read r' request) := by
  unfold read
  rw [find_of_body hblank hbody]
  cases hfind : find r with
  | returned fields => exact .returned _
  | bare =>
    -- the status decides on a blank body only
    rw [(find_bare_iff.1 hfind).1] at hblank
    cases hblank
  | refused number message fields =>
    refine .refused _ _ rfl rfl rfl rfl fun fields' own hparse hown hcounts => ?_
    cases hparse.symm.trans (find_refused_iff.1 hfind).1
    exact ⟨codeOf_of_counts hown hcounts r.status, codeOf_of_counts hown hcounts r'.status⟩
  | unparseable =>
    refine .malformed _ _ rfl ?_
    unfold Malformed.answer Response.text
    rw [hbody]
  | notObject _ | errorFlag _ | incomplete _ _ => exact .malformed _ _ rfl rfl

/-- **The body decides.** Whatever the status, the body and the description are: an answer comes to
the object in its body, as it is there, if its error flag is absent, null or not set, and only then;
to a refusal if the body is blank and the status is that of an error, or if the object carries a set
flag, a number that passes for an integer and a text, and only then. What is read is that object, or
such a refusal, and in every other case the answer is malformed. Nothing stands in a blank body. Two
answers with one body that is not blank come to the same, and what is read of them agrees. -/
theorem body_decides (r : Response) (request : Option String) :
    (∀ fields, find r = .returned fields ↔ Returns r fields) ∧
    (find r = .bare ↔ Bare r) ∧
    (∀ number message fields, find r = .refused number message fields ↔
      Tells r number message fields) ∧
    (∀ envelope, read r request = .ok envelope ↔
      ∃ fields, Returns r fields ∧ envelope = Value.ofJsonFields fields) ∧
    (∀ e, read r request = .error (.server e) ↔ Refuses r request e) ∧
    ((∃ m, read r request = .error (.malformed m)) ↔
      (¬ ∃ fields, Returns r fields) ∧ ¬ ∃ e, Refuses r request e) ∧
    (∀ e, read r request = .error e → (∃ e', e = .server e') ∨ ∃ m, e = .malformed m) ∧
    (Document.isBlank r.body = true → Document.parse? r.body = none) ∧
    (∀ r' : Response, r'.body = r.body → Document.isBlank r.body = false →
      find r' = find r ∧ Agrees r.body (read r request) (read r' request)) := by
  refine ⟨fun _ => find_returned_iff, find_bare_iff, fun _ _ _ => find_refused_iff,
    fun _ => read_ok_iff, fun _ => read_server_iff, read_malformed_iff, fun _ => read_error,
    Document.parse?_of_isBlank, ?_⟩
  exact fun r' hbody hblank => ⟨find_of_body hblank hbody, agrees_read hblank hbody request⟩

/-- What an envelope holds that carries a refusal and no code. Its text has half of a pair in it. -/
def specimenFields : Fields :=
  [("error", .bool true), ("errorNum", .int 1203),
    ("errorMessage", .str (Text.ofString "no " ++ [.half 0xD83D (by decide)]))]

/-- An answer with that envelope. -/
def specimen (status : Int) : Response where
  status := status
  headers := []
  body := Utf8.encode
    "\x7b\"error\":true,\"errorNum\":1203,\"errorMessage\":\"no \\ud83d\"\x7d"

/-- A refusal is one with the status of a success too; only its code is not that of the refusal that
came with the status of an error. -/
theorem body_decides_specimen :
    find (specimen 404) = find (specimen 200) ∧
      Agrees (specimen 200).body (read (specimen 200) none) (read (specimen 404) none) ∧
      ∃ e e', read (specimen 200) none = .error (.server e) ∧
        read (specimen 404) none = .error (.server e') ∧ e.code = .int 200 ∧ e'.code = .int 404 := by
  have hparse : Document.parse? (specimen 200).body = some (.obj specimenFields) := by
    decide +kernel
  have hcomplains : Complains specimenFields (.int 1203)
      (Text.ofString "no " ++ [.half 0xD83D (by decide)]) := by
    refine ⟨?_, ?_, rfl, ?_⟩
    all_goals decide +kernel
  have hcode : ∀ status, HasCode specimenFields status (.int status) :=
    fun status => .inr ⟨rfl, fun own hown => by cases hown⟩
  obtain ⟨-, -, -, -, hserver, -, -, -, hsame⟩ := body_decides (specimen 200) none
  obtain ⟨-, -, -, -, hserver', -⟩ := body_decides (specimen 404) none
  obtain ⟨hfind, hagrees⟩ := hsame (specimen 404) rfl (by decide +kernel)
  refine ⟨hfind, hagrees, ?_⟩
  refine ⟨_, _, (hserver _).2 (.inr ⟨_, _, _, _, ⟨hparse, hcomplains⟩, hcode 200, rfl⟩),
    (hserver' _).2 (.inr ⟨_, _, _, _, ⟨hparse, hcomplains⟩, hcode 404, rfl⟩), rfl, rfl⟩

end Envelope

end AqlClient
