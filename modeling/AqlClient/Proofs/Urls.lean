import AqlClient.Proofs.Cursor.Addresses
import AqlClient.Proofs.Document
import AqlClient.Proofs.Errands
import AqlClient.Proofs.Program.Firsts

/-!
# URLs and what they stand for

Five kinds of questions are put to a database (`Question`). Together with the name of the database
such a question is an `Inquiry`, and where it goes is decided by the address of the server, the two
names, and nothing else (`Database.urlFor_question`).

A URL can be read back (`Inquiry.ofUrl?`): what stands behind the address falls into segments at the
slashes, and the segments in which names stand are percent-decoded. Decoding undoes encoding
(`Percent.decode?_encode`), and a name never reaches beyond its own segment, so that reading gives
the inquiry again, names of any kind and empty ones included (`Inquiry.ofUrl?_url`). So distinct
inquiries go to distinct URLs: `Database.inquiries_told_apart` says this of the requests that are
actually sent.
-/

namespace AqlClient

variable {α β : Type}

/-! ### Reading names back -/

namespace Percent

/-- The two digits of a byte are read as its halves. -/
theorem value?_capital : ∀ v < 16, Hex.value? (Hex.capital v) = some v := by decide

/-- An unreserved byte is an ASCII character other than the percent sign. -/
theorem unreserved_spec : ∀ n < 256, unreserved (UInt8.ofNat n) = true →
    Char.ofNat n ≠ '%' ∧ (Char.ofNat n).toNat = n ∧ n < 128 := by decide +kernel

/-- **A byte is read back,** whatever follows it. -/
theorem decodeBytes?_encodeByte (b : UInt8) (rest : List Char) :
    decodeBytes? (encodeByte b ++ rest) = (decodeBytes? rest).map (b :: ·) := by
  have hlt : b.toNat < 256 := b.toNat_lt
  unfold encodeByte
  split
  case isTrue hplain =>
    have hb : UInt8.ofNat b.toNat = b := UInt8.ofNat_toNat
    obtain ⟨hpercent, hback, hascii⟩ := unreserved_spec b.toNat hlt (by rwa [hb])
    -- it stands for itself, and it is not the beginning of an encoded one
    have hone : decodeBytes? (Char.ofNat b.toNat :: rest) =
        (decodeBytes? rest).bind fun bytes => some (b :: bytes) := by
      rw [decodeBytes?.eq_def]
      split
      case h_1 h => cases h
      case h_2 h => exact absurd (List.cons.inj h).1 hpercent
      case h_3 h =>
        obtain ⟨rfl, rfl⟩ := List.cons.inj h
        have hneither : ¬(Char.ofNat b.toNat = '%' ∨ 128 ≤ (Char.ofNat b.toNat).toNat) := by
          rw [hback]
          rintro (h | h)
          · exact hpercent h
          · omega
        rw [if_neg hneither, hback, hb]
        rfl
    rw [List.singleton_append, hone]
    cases decodeBytes? rest <;> rfl
  case isFalse =>
    have hhigh : Hex.value? (Hex.capital (b.toNat / 16)) = some (b.toNat / 16) :=
      value?_capital _ (by omega)
    have hlow : Hex.value? (Hex.capital (b.toNat % 16)) = some (b.toNat % 16) :=
      value?_capital _ (by omega)
    have hsum : b.toNat / 16 * 16 + b.toNat % 16 = b.toNat := by omega
    simp only [List.cons_append, List.nil_append, decodeBytes?, hhigh, hlow, hsum,
      UInt8.ofNat_toNat, Option.bind_eq_bind, Option.bind_some]
    cases decodeBytes? rest <;> rfl

/-- **Decoding undoes encoding,** for all names. -/
theorem decode?_encode (name : String) : decode? (encode name) = some name := by
  have hbytes : ∀ bytes : List UInt8, decodeBytes? (bytes.flatMap encodeByte) = some bytes := by
    intro bytes
    induction bytes with
    | nil => rfl
    | cons b rest ih => rw [List.flatMap_cons, decodeBytes?_encodeByte, ih]; rfl
  unfold decode? encode
  rw [String.toList_ofList, hbytes]
  unfold Utf8.encode Utf8.decode?
  simp [Utf8.decodeChars?_encodeChars]

end Percent

/-! ### Questions and their segments -/

/-- What is asked of a database in a single request. -/
inductive Question where
  | info
  | collections
  | cursor
  | collection (name : String)
  | documentCount (name : String)
  deriving DecidableEq

/-- A question to the database of some name. -/
structure Inquiry where
  database : String
  question : Question
  deriving DecidableEq

namespace Question

/-- The path at which a question is put, within the database. -/
def path : Question → String
  | .info => Resource.currentDatabase
  | .collections => Resource.collections
  | .cursor => Resource.cursors
  | .collection name => Resource.collection name
  | .documentCount name => Resource.documentCount name

/-- What stands in the path of a question behind its first segment. -/
def segments : Question → List String
  | .info => ["database", "current"]
  | .collections => ["collection"]
  | .cursor => ["cursor"]
  | .collection name => ["collection", Percent.encode name]
  | .documentCount name => ["collection", Percent.encode name, "count"]

/-- The collection that a question is about. -/
def collection? : Question → Option String
  | .collection name => some name
  | .documentCount name => some name
  | _ => none

/-- **The question that segments stand for.** The name of a collection is decoded. -/
def ofSegments? : List String → Option Question
  | [kind] =>
    if kind = "collection" then some .collections
    else if kind = "cursor" then some .cursor
    else none
  | [kind, other] =>
    if kind = "database" ∧ other = "current" then some .info
    else if kind = "collection" then (Percent.decode? other).map .collection
    else none
  | [kind, name, last] =>
    if kind = "collection" ∧ last = "count" then (Percent.decode? name).map .documentCount
    else none
  | _ => none

theorem ofSegments?_segments (q : Question) : ofSegments? q.segments = some q := by
  cases q <;> simp [segments, ofSegments?, Percent.decode?_encode]

/-- The path of a question consists of its segments. -/
theorem path_eq (q : Question) : q.path = "/".intercalate ("_api" :: q.segments) := by
  cases q with
  | collection name =>
    apply String.toList_inj.1
    simp [path, segments, Resource.collection, Resource.collections]
  | documentCount name =>
    apply String.toList_inj.1
    simp [path, segments, Resource.documentCount, Resource.collection, Resource.collections]
  | _ => rfl

/-- The path of a question does not begin with a slash. -/
theorem path_head (q : Question) : ∃ rest, q.path = String.ofList ('_' :: rest) := by
  have hcollection : ∀ name, Resource.collection name =
      String.ofList ('_' :: ("api/collection/".toList ++ (Percent.encode name).toList)) := by
    intro name
    apply String.toList_inj.1
    simp [Resource.collection, Resource.collections]
  cases q with
  | collection name => exact ⟨_, hcollection name⟩
  | documentCount name =>
    refine ⟨"api/collection/".toList ++ (Percent.encode name).toList ++ "/count".toList, ?_⟩
    apply String.toList_inj.1
    simp [path, Resource.documentCount, hcollection]
  | _ => exact ⟨_, rfl⟩

/-- Names of collections stay within their segments. -/
theorem slash_not_mem (q : Question) : ∀ segment ∈ q.segments, '/' ∉ segment.toList := by
  cases q with
  | collection name => simp [segments, (Percent.encode_spec name).2]
  | documentCount name => simp [segments, (Percent.encode_spec name).2]
  | _ => simp [segments]

end Question

/-! ### Inquiries and their URLs -/

/-- What stands in front of all paths: the address without slashes at its end, and a slash, unless
nothing is left of the address. -/
def Url.stem (address : String) : String :=
  if trimEnd address = "" then "" else trimEnd address ++ "/"

/-- The segments of a URL behind an address. -/
def Url.segmentsBelow (address url : String) : List String :=
  ((url.toList.drop (stem address).toList.length).splitOn '/').map String.ofList

/-- The segments in front of the questions to a database. A name that is empty leaves no segment
behind. -/
def Resource.place (database : String) : List String :=
  if database = "" then ["_db"] else ["_db", Percent.encode database]

namespace Inquiry

/-- The segments of the URL to which an inquiry goes. -/
def segments (i : Inquiry) : List String :=
  Resource.place i.database ++ "_api" :: i.question.segments

/-- **The URL to which an inquiry goes.** -/
def url (address : String) (i : Inquiry) : String :=
  Url.stem address ++ "/".intercalate i.segments

/-- **The inquiry that segments stand for.** The name of the database is decoded, where there is
one. -/
def ofSegments? : List String → Option Inquiry
  | root :: first :: second :: rest =>
    if root ≠ "_db" then none
    else if second = "_api" then
      (Percent.decode? first).bind fun name => (Question.ofSegments? rest).map fun q => ⟨name, q⟩
    else if first = "_api" then (Question.ofSegments? (second :: rest)).map fun q => ⟨"", q⟩
    else none
  | _ => none

/-- **The inquiry that a URL stands for,** below an address. -/
def ofUrl? (address url : String) : Option Inquiry := ofSegments? (Url.segmentsBelow address url)

/-- Names stay within their segments. -/
theorem slash_not_mem (i : Inquiry) : ∀ segment ∈ i.segments, '/' ∉ segment.toList := by
  intro segment hsegment
  obtain hplace | hquestion := List.mem_append.1 hsegment
  · unfold Resource.place at hplace
    split at hplace
    · obtain rfl := List.mem_singleton.1 hplace
      decide
    · obtain rfl | rfl : segment = "_db" ∨ segment = Percent.encode i.database := by
        simpa using hplace
      · decide
      · exact (Percent.encode_spec i.database).2
  · obtain rfl | htail := List.mem_cons.1 hquestion
    · decide
    · exact i.question.slash_not_mem segment htail

/-- A URL falls into the segments that it is made of. -/
theorem segmentsBelow_url (address : String) (i : Inquiry) :
    Url.segmentsBelow address (i.url address) = i.segments := by
  have hslashes : ∀ l ∈ i.segments.map String.toList, '/' ∉ l := by
    intro l hl
    obtain ⟨segment, hsegment, rfl⟩ := List.mem_map.1 hl
    exact i.slash_not_mem segment hsegment
  have hne : i.segments.map String.toList ≠ [] := by simp [segments]
  have hback : List.map (String.ofList ∘ String.toList) i.segments = i.segments := by
    simp [Function.comp_def]
  unfold Url.segmentsBelow url
  rw [String.toList_append, List.drop_left, String.toList_intercalate]
  show ((['/'].intercalate (i.segments.map String.toList)).splitOn '/').map String.ofList = _
  rw [List.splitOn_intercalate '/' hslashes hne, List.map_map, hback]

/-- The segments of an inquiry stand for it. Without a name the segment behind the first one is the
one in front of all questions, and a database may have that name as well. -/
theorem ofSegments?_segments (i : Inquiry) : ofSegments? i.segments = some i := by
  obtain ⟨name, q⟩ := i
  by_cases hname : name = ""
  · subst hname
    have hsegments : segments ⟨"", q⟩ = "_db" :: "_api" :: q.segments := rfl
    have hquestion := q.ofSegments?_segments
    have hapi : q.segments.head? ≠ some "_api" := by cases q <;> simp [Question.segments]
    rw [hsegments]
    cases hq : q.segments with
    | nil => rw [hq] at hquestion; cases hquestion
    | cons first rest =>
      rw [hq] at hquestion hapi
      have hfirst : first ≠ "_api" := fun h => hapi (by rw [h]; rfl)
      simp [ofSegments?, hfirst, hquestion]
  · have hsegments : segments ⟨name, q⟩ = "_db" :: Percent.encode name :: "_api" :: q.segments := by
      simp [segments, Resource.place, hname]
    rw [hsegments]
    simp [ofSegments?, Percent.decode?_encode, q.ofSegments?_segments]

/-- **A URL is read back,** whatever the names are. -/
theorem ofUrl?_url (address : String) (i : Inquiry) : ofUrl? address (i.url address) = some i := by
  unfold ofUrl?
  rw [segmentsBelow_url, ofSegments?_segments]

/-- **The names in a URL are in their places,** percent-encoded: that of the database, unless it is
empty, behind the first segment, and that of the collection, empty or not, at the end of the path
or in front of it. -/
structure Legible (address url : String) (i : Inquiry) : Prop where
  reads : ofUrl? address url = some i
  database : i.database ≠ "" →
    (Url.segmentsBelow address url)[1]?.bind Percent.decode? = some i.database
  collection : ∀ name, i.question.collection? = some name →
    (Url.segmentsBelow address url)[(Resource.place i.database).length + 2]?.bind
      Percent.decode? = some name

/-- The names in the URL of an inquiry are in their places. -/
theorem legible_url (address : String) (i : Inquiry) : i.Legible address (i.url address) where
  reads := ofUrl?_url address i
  database hname := by
    rw [segmentsBelow_url]
    simp [segments, Resource.place, hname, Percent.decode?_encode]
  collection name hcollection := by
    have hsegment : ("_api" :: i.question.segments)[2]? = some (Percent.encode name) := by
      cases hq : i.question with
      | collection other =>
        rw [hq] at hcollection
        obtain rfl := Option.some.inj hcollection
        rfl
      | documentCount other =>
        rw [hq] at hcollection
        obtain rfl := Option.some.inj hcollection
        rfl
      | _ => rw [hq] at hcollection; cases hcollection
    rw [segmentsBelow_url, segments, List.getElem?_append_right (Nat.le_add_right _ 2),
      Nat.add_sub_cancel_left, hsegment, Option.bind_some, Percent.decode?_encode]

/-- **Distinct inquiries go to distinct URLs.** -/
theorem url_inj {address : String} {i j : Inquiry} : i.url address = j.url address ↔ i = j := by
  constructor
  · intro h
    have hread := ofUrl?_url address j
    rw [← h, ofUrl?_url] at hread
    exact Option.some.inj hread
  · exact fun h => by rw [h]

end Inquiry

/-! ### What gateways make of it -/

namespace Database

variable (d : Database)

/-- The path of a database is made of its segments, once the slashes at its ends are gone. -/
theorem trim_path : Url.trim (Resource.database d.name) = "/".intercalate (Resource.place d.name) ∧
    ∀ x, ("/".intercalate (Resource.place d.name)).toList.getLast? = some x → x ≠ '/' := by
  by_cases hname : d.name = ""
  · -- the path ends in a slash then
    rw [hname]
    have hplace : "/".intercalate (Resource.place "") = "_db" := rfl
    rw [hplace]
    refine ⟨by decide +kernel, fun x hx => ?_⟩
    obtain rfl : 'b' = x := Option.some.inj hx
    decide
  · have hplace : "/".intercalate (Resource.place d.name) = Resource.database d.name := by
      unfold Resource.place
      rw [if_neg hname]
      rfl
    rw [hplace]
    exact resource_spec hname

/-- **A question goes to the URL of its inquiry.** -/
theorem urlFor_question (q : Question) :
    d.gateway.urlFor (some q.path) = Inquiry.url d.session.address ⟨d.name, q⟩ := by
  obtain ⟨htrim, hlast⟩ := d.trim_path
  have hplace : Resource.place d.name ≠ [] := by
    unfold Resource.place
    split <;> simp
  have hpath : "/".intercalate (Resource.place d.name) ≠ "" := by
    unfold Resource.place
    split <;> simp
  have haddress : d.gateway.address = Url.trimEnd d.session.address :=
    Url.trimEnd_trimEnd d.session.address
  have hgateway : d.gateway.path = "/".intercalate (Resource.place d.name) := htrim
  have hurl : d.gateway.url =
      Url.stem d.session.address ++ "/".intercalate (Resource.place d.name) := by
    unfold Gateway.url
    rw [haddress, hgateway, Url.base_eq hpath hlast]
    rfl
  obtain ⟨rest, hrest⟩ := q.path_head
  have hpieces : "/".intercalate (Inquiry.segments ⟨d.name, q⟩) =
      "/".intercalate (Resource.place d.name) ++ "/" ++ q.path := by
    rw [q.path_eq]
    exact String.intercalate_append_of_ne_nil hplace (List.cons_ne_nil _ _)
  have hq : d.gateway.urlFor (some q.path) = Url.trimEnd d.gateway.url ++ "/" ++ q.path := by
    rw [hrest]
    exact d.gateway.urlFor_of_head (by decide)
  unfold Inquiry.url
  rw [hq, hurl, Url.trimEnd_append hpath hlast, hpieces]
  simp only [String.append_assoc]

end Database

/-! ### The requests of operations -/

namespace Database.Errand

variable (e : Database.Errand α) (d : Database)

/-- The question that is put by something that is done in a database. Whatever is done with a query
begins with its submission. -/
def question : Database.Errand α → Question
  | .info .. => .info
  | .collections .. => .collections
  | .query .. => .cursor
  | .cursor .. => .cursor
  | .infoOf name .. => .collection name
  | .countOf name .. => .documentCount name
  | .allOf .. => .cursor

/-- What is asked, and of which database. -/
def inquiry : Inquiry := ⟨d.name, e.question⟩

end Database.Errand

namespace Database

variable {d : Database} {s : Scene} {q : Request}

/-- What is asked of a database between two lines of the log is sent at once, whatever is made of
the answer. -/
theorem opening_asked (before after : String) (question : Question) (params : Entries)
    (request timeout : Option Int) (parse : Entries → Program α) (f : α → Program β) (s : Scene) :
    ∃ q, Program.opening ((do
        d.session.report before
        let envelope ← d.get question.path params request timeout
        d.session.report after
        parse envelope) >>= f) s = some q ∧
      q.url = Inquiry.url d.session.address ⟨d.name, question⟩ := by
  have hget : ∀ s, (d.get question.path params request timeout).opening s = some
      (d.gateway.requestFor ⟨"GET", .null, some question.path, params,
        d.session.limit request timeout⟩ none) :=
    Gateway.opening_request rfl rfl
  refine ⟨_, Program.opening_bind (Program.opening_bind (hget _) _) f, ?_⟩
  exact d.urlFor_question question

/-- Whatever the submission of a query begins with goes to the cursors. -/
theorem url_of_opening_submit {query : Query} {limit : TimeLimit} {k : Batch → Program β}
    (h : (d.service.submit query limit >>= k).opening s = some q) :
    q.url = Inquiry.url d.session.address ⟨d.name, .cursor⟩ := by
  unfold QueryService.submit at h
  rw [Program.bind_assoc] at h
  -- the line in front of the request changes nothing but the log
  change ((d.gateway.request d.session.mode (QueryService.submission query limit) >>= _) >>=
    k).opening _ = some q at h
  rw [Program.bind_assoc] at h
  obtain ⟨body, -, rfl⟩ := Gateway.eq_of_opening h
  exact d.urlFor_question .cursor

/-- A cursor is opened by a submission. -/
theorem url_of_opening_cursor {query : Query} {mapper : Mapper α} {request timeout : Option Int}
    {k : Cursor α → Program β}
    (h : (d.cursor query mapper request timeout >>= k).opening s = some q) :
    q.url = Inquiry.url d.session.address ⟨d.name, .cursor⟩ := by
  unfold Database.cursor at h
  change (d.service.submit query _ >>= _ >>= k).opening s = some q at h
  rw [Program.bind_assoc] at h
  exact url_of_opening_submit h

/-- A query that can be written is submitted. -/
theorem opening_submit {query : Query} {body : Option String}
    (hbody : (Value.ofNamed query.payload).encodePayload = .ok body) (limit : TimeLimit)
    (k : Batch → Program β) (s : Scene) :
    ∃ q, (d.service.submit query limit >>= k).opening s = some q := by
  have hcall : ∀ s, (d.gateway.request d.session.mode (QueryService.submission query
      limit)).opening s = some (d.gateway.requestFor (QueryService.submission query limit) body) :=
    Gateway.opening_request rfl hbody
  exact ⟨_, Program.opening_bind (p := d.service.submit query limit)
    (Program.opening_bind (hcall _) _) k⟩

/-- **What is asked for and not queried is sent at once,** to the URL of its inquiry. -/
theorem opening_perform {e : Database.Errand α} (h : e.question ≠ .cursor) (d : Database)
    (s : Scene) : ∃ q, (e.perform d).opening s = some q ∧
      q.url = Inquiry.url d.session.address (e.inquiry d) := by
  cases e with
  | info request timeout => exact opening_asked _ _ .info _ _ _ _ _ s
  | collections excludeSystem request timeout => exact opening_asked _ _ .collections _ _ _ _ _ s
  | infoOf name request timeout => exact opening_asked _ _ (.collection name) _ _ _ _ _ s
  | countOf name request timeout => exact opening_asked _ _ (.documentCount name) _ _ _ _ _ s
  | cursor query mapper request timeout => exact absurd rfl h
  | query query mapper general request timeout => exact absurd rfl h
  | allOf name batchSize mapper request timeout => exact absurd rfl h

/-- **Whatever something that is done in a database begins with, goes to the URL of its
inquiry.** -/
theorem url_of_opening {e : Database.Errand α} (h : (e.perform d).opening s = some q) :
    q.url = Inquiry.url d.session.address (e.inquiry d) := by
  have hasked : e.question ≠ .cursor → q.url = Inquiry.url d.session.address (e.inquiry d) := by
    intro hquestion
    obtain ⟨q', hq', hurl⟩ := opening_perform hquestion d s
    rw [hq'] at h
    obtain rfl := Option.some.inj h
    exact hurl
  cases e with
  | info request timeout => exact hasked (by simp [Database.Errand.question])
  | collections excludeSystem request timeout => exact hasked (by simp [Database.Errand.question])
  | infoOf name request timeout => exact hasked (by simp [Database.Errand.question])
  | countOf name request timeout => exact hasked (by simp [Database.Errand.question])
  | cursor query mapper request timeout => exact url_of_opening_cursor h
  | query query mapper general request timeout =>
    -- nothing is sent before the deadline and the limit are known
    change (Program.ofExcept (Deadline.starting s.now _ _) >>= _ >>= _).opening s = some q at h
    rw [Program.bind_assoc] at h
    obtain ⟨deadline, -, hrest⟩ := Program.of_opening_ofExcept h
    change (Program.ofExcept (deadline.remaining s.now _ _) >>= _ >>= _).opening s = some q at hrest
    rw [Program.bind_assoc] at hrest
    obtain ⟨limit, -, hsubmit⟩ := Program.of_opening_ofExcept hrest
    rw [Program.bind_assoc] at hsubmit
    exact url_of_opening_submit hsubmit
  | allOf name batchSize mapper request timeout =>
    change (Program.ofExcept _ >>= _ >>= _).opening s = some q at h
    rw [Program.bind_assoc] at h
    obtain ⟨query, -, hcursor⟩ := Program.of_opening_ofExcept h
    exact url_of_opening_cursor hcursor

/-- **Distinct resources have distinct URLs.** In databases of sessions with one server, whose
addresses differ in slashes at their ends at most, let something be done that begins with a
request. The URL of this request tells what is asked, and of which database and collection, whatever
their names are. So two of them have the same URL exactly if the same is asked of the same. What is
asked for and not queried always begins with a request, and so does a query that can be written. -/
theorem inquiries_told_apart {d d' : Database}
    (haddress : Url.trimEnd d'.session.address = Url.trimEnd d.session.address)
    (e : Database.Errand α) (e' : Database.Errand β) (s s' : Scene) :
    (∀ q, (e.perform d).Begins s q →
      Inquiry.Legible d.session.address q.url ⟨d.name, e.question⟩) ∧
    (∀ q q', (e.perform d).Begins s q → (e'.perform d').Begins s' q' →
      (q'.url = q.url ↔ e'.question = e.question ∧ d'.name = d.name)) ∧
    (e.question ≠ .cursor → ∃ q, (e.perform d).Begins s q) ∧
    ∀ query mapper request timeout body, e = .cursor query mapper request timeout →
      (Value.ofNamed query.payload).encodePayload = .ok body → ∃ q, (e.perform d).Begins s q := by
  simp only [Program.begins_iff]
  refine ⟨fun q hq => ?_, fun q q' hq hq' => ?_, fun hquestion => ?_, ?_⟩
  · rw [url_of_opening hq]
    exact Inquiry.legible_url _ _
  · -- slashes at the end of an address make no difference
    have hstem : Url.stem d'.session.address = Url.stem d.session.address := by
      unfold Url.stem
      rw [haddress]
    have hurl : q'.url = Inquiry.url d.session.address (e'.inquiry d') := by
      rw [url_of_opening hq']
      unfold Inquiry.url
      rw [hstem]
    rw [hurl, url_of_opening hq, Inquiry.url_inj]
    simp [Database.Errand.inquiry, and_comm]
  · obtain ⟨q, hq, -⟩ := opening_perform hquestion d s
    exact ⟨q, hq⟩
  · rintro query mapper request timeout body rfl hbody
    obtain ⟨q, hq⟩ := opening_submit (d := d) hbody (d.session.limit request timeout)
      (fun first => Cursor.opened d.service mapper (d.session.limit request timeout).request
        d.session.options.timeouts.general first >>= fun c => pure (Tidings.done, [c])) s
    refine ⟨q, ?_⟩
    change (d.service.submit query _ >>= _ >>= _).opening s = some q
    rw [Program.bind_assoc]
    exact hq

/-- A database of some name, of a server at some address. -/
def located (address name : String) : Database where
  session := { (specimen .blocking).session with address := address }
  name := name

/-- A slash in a name is told apart from one that was encoded before, and a database without a name
from one with the name of what follows, whatever the slashes at the end of the address are. -/
theorem inquiries_told_apart_lookalikes :
    Url.trimEnd "http://server" = Url.trimEnd "http://server//" ∧
    ∃ q q', ((Database.Errand.countOf "a/b" none none : Database.Errand Value).perform
        (located "http://server//" "")).Begins (Scene.start 0 []) q ∧
      ((Database.Errand.countOf "a%2Fb" none none : Database.Errand Value).perform
        (located "http://server" "_api")).Begins (Scene.start 0 []) q' ∧
      q'.url ≠ q.url ∧
      Inquiry.ofUrl? "http://server//" q.url = some ⟨"", .documentCount "a/b"⟩ := by
  have haddress : Url.trimEnd (located "http://server" "_api").session.address =
      Url.trimEnd (located "http://server//" "").session.address := by decide
  obtain ⟨hlegible, hiff, hbegins, -⟩ := inquiries_told_apart haddress
    (.countOf "a/b" none none : Database.Errand Value)
    (.countOf "a%2Fb" none none : Database.Errand Value) (Scene.start 0 []) (Scene.start 0 [])
  obtain ⟨-, -, hbegins', -⟩ := inquiries_told_apart haddress.symm
    (.countOf "a%2Fb" none none : Database.Errand Value)
    (.countOf "a/b" none none : Database.Errand Value) (Scene.start 0 []) (Scene.start 0 [])
  obtain ⟨q, hq⟩ := hbegins (by decide)
  obtain ⟨q', hq'⟩ := hbegins' (by decide)
  refine ⟨haddress, q, q', hq, hq', fun hsame => ?_, (hlegible q hq).reads⟩
  obtain ⟨hquestion, -⟩ := (hiff q q' hq hq').1 hsame
  have hnames : Question.documentCount "a%2Fb" ≠ Question.documentCount "a/b" := by decide
  exact hnames hquestion

end Database

end AqlClient
