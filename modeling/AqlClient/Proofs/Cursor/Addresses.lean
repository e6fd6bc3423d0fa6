import AqlClient.Database
import AqlClient.Proofs.Cursor.Client
import AqlClient.Proofs.Cursor.Phases
import AqlClient.Proofs.Program.Exchange

/-!
# Where the requests for a cursor go

Queries of a database are submitted at one URL (`Database.cursorUrl`), below which its cursors are
addressed by their names. What the gateway of the database makes of its parts comes to this whatever
slashes the address ends in (`Database.urlFor_cursors`), since a name that is not empty is written
as one segment without slashes (`Percent.encode_spec`). A POST with a query (`Database.Submits`),
and a PUT or DELETE for a cursor (`Database.Addresses`), carry the headers of the session, and only
the POST has a body.

The name by which a cursor is addressed is the one that came with the latest batch that had one
(`Ledger.latestName`).
-/

namespace AqlClient

/-! ### Seams of URLs -/

namespace Url

theorem trimEnd_eq_self {s : String} (h : ∀ x, s.toList.getLast? = some x → x ≠ '/') :
    trimEnd s = s := by
  unfold trimEnd
  cases hs : s.toList.reverse with
  | nil =>
    have hnil : s.toList = [] := List.reverse_eq_nil_iff.1 hs
    exact String.toList_inj.1 hnil.symm
  | cons x rest =>
    have hlast : s.toList.getLast? = some x := by
      rw [List.getLast?_eq_head?_reverse, hs]
      rfl
    rw [List.dropWhile_cons_of_neg (by simpa using h x hlast), ← hs, List.reverse_reverse,
      String.ofList_toList]

/-- A text that has been freed of slashes does not end in one. -/
theorem getLast?_trimEnd {s : String} {x : Char} (h : (trimEnd s).toList.getLast? = some x) :
    x ≠ '/' := by
  unfold trimEnd at h
  rw [String.toList_ofList, List.getLast?_reverse] at h
  have hx := List.head?_dropWhile_not (· == '/') s.toList.reverse
  rw [h] at hx
  simpa using hx

@[simp] theorem trimEnd_trimEnd (s : String) : trimEnd (trimEnd s) = trimEnd s :=
  trimEnd_eq_self fun _ hx => getLast?_trimEnd hx

/-- Only the end of a text counts. -/
theorem trimEnd_append {s t : String} (ht : t ≠ "")
    (h : ∀ x, t.toList.getLast? = some x → x ≠ '/') :
    trimEnd (s ++ t) = s ++ t := by
  have hne : t.toList ≠ [] := fun hnil => ht (String.toList_inj.1 hnil)
  refine trimEnd_eq_self fun x hx => h x ?_
  rw [String.toList_append, List.getLast?_append, List.getLast?_eq_some_getLast hne] at hx
  rw [List.getLast?_eq_some_getLast hne]
  exact hx

/-- An address with a path behind it: there is a slash between them, unless there is no address. -/
theorem base_eq {address path : String} (hpath : path ≠ "")
    (hlast : ∀ x, path.toList.getLast? = some x → x ≠ '/') :
    base address path = (if address = "" then "" else address ++ "/") ++ path := by
  unfold base
  by_cases haddress : address = ""
  · rw [if_pos haddress, haddress, String.empty_append]
    have hpieces : ["", path].filter (· != "") = [path] := by simp [hpath]
    rw [hpieces]
    exact trimEnd_eq_self hlast
  · rw [if_neg haddress]
    have hpieces : [address, path].filter (· != "") = [address, path] := by simp [haddress, hpath]
    rw [hpieces]
    exact trimEnd_append hpath hlast

end Url

/-! ### Segments -/

namespace Percent

theorem encodeByte_spec (b : UInt8) : encodeByte b ≠ [] ∧ '/' ∉ encodeByte b := by
  have hall : ∀ n < 256, encodeByte (UInt8.ofNat n) ≠ [] ∧ '/' ∉ encodeByte (UInt8.ofNat n) := by
    decide +kernel
  have hb := hall b.toNat b.toNat_lt
  rwa [UInt8.ofNat_toNat] at hb

/-- **A name is written as one segment,** which is empty only if the name is. -/
theorem encode_spec (name : String) :
    (name ≠ "" → encode name ≠ "") ∧ '/' ∉ (encode name).toList := by
  unfold encode
  rw [String.toList_ofList]
  constructor
  · intro hname hempty
    have hflat : (Utf8.encode name).flatMap encodeByte = [] := by
      rw [← String.toList_ofList (l := (Utf8.encode name).flatMap encodeByte), hempty]
      rfl
    -- neither a character nor a byte is written as nothing
    cases hchars : name.toList with
    | nil => exact hname (String.toList_inj.1 hchars)
    | cons c rest =>
      have hchar : Utf8.encodeChar c ≠ [] := by
        unfold Utf8.encodeChar
        dsimp only
        split
        · exact List.cons_ne_nil _ _
        · split
          · exact List.cons_ne_nil _ _
          · split
            · exact List.cons_ne_nil _ _
            · exact List.cons_ne_nil _ _
      obtain ⟨b, hb⟩ := List.exists_mem_of_ne_nil _ hchar
      have hbyte : b ∈ Utf8.encode name := by
        unfold Utf8.encode Utf8.encodeChars
        rw [hchars]
        exact List.mem_flatMap.2 ⟨c, List.mem_cons_self, hb⟩
      exact (encodeByte_spec b).1 (List.flatMap_eq_nil_iff.1 hflat b hbyte)
  · intro hslash
    obtain ⟨b, -, hb⟩ := List.mem_flatMap.1 hslash
    exact (encodeByte_spec b).2 hb

end Percent

/-! ### The place of the cursors of a database -/

namespace Database

variable (d : Database)

/-- **The URL to which queries of a database are submitted.** Without an address nothing stands
before the path. -/
def cursorUrl : String :=
  (if Url.trimEnd d.session.address = "" then "" else Url.trimEnd d.session.address ++ "/") ++
    "_db/" ++ Percent.encode d.name ++ "/_api/cursor"

/-- A request that submits a query in a database. Where it goes is said of databases with a name. -/
structure Submits (q : Request) : Prop where
  method : q.method = "POST"
  url : d.name ≠ "" → q.url = d.cursorUrl
  headers : q.headers = d.session.gateway.fullHeaders

/-- A request about the cursor of a database that the server knows by a name. -/
structure Addresses (id : String) (q : Request) : Prop where
  method : q.method = "PUT" ∨ q.method = "DELETE"
  url : d.name ≠ "" → q.url = d.cursorUrl ++ "/" ++ id
  headers : q.headers = d.session.gateway.fullHeaders
  body : q.body = none

variable {d}

/-- The path of a database is a single piece that neither begins nor ends with a slash. -/
theorem resource_spec (h : d.name ≠ "") : Url.trim (Resource.database d.name) =
    Resource.database d.name ∧
      ∀ x, (Resource.database d.name).toList.getLast? = some x → x ≠ '/' := by
  obtain ⟨hne, hslash⟩ := Percent.encode_spec d.name
  have hlast : ∀ x, (Resource.database d.name).toList.getLast? = some x → x ≠ '/' := by
    rintro x hx rfl
    unfold Resource.database at hx
    have henc : (Percent.encode d.name).toList ≠ [] := fun hnil =>
      hne h (String.toList_inj.1 hnil)
    rw [String.toList_append, List.getLast?_append, List.getLast?_eq_some_getLast henc] at hx
    have hx : (Percent.encode d.name).toList.getLast henc = '/' := Option.some.inj hx
    exact hslash (hx ▸ List.getLast_mem henc)
  refine ⟨?_, hlast⟩
  have hstart : Url.trimStart (Resource.database d.name) = Resource.database d.name := by
    have hhead : Resource.database d.name =
        String.ofList ('_' :: ("db/".toList ++ (Percent.encode d.name).toList)) := by
      apply String.toList_inj.1
      unfold Resource.database
      simp [String.toList_append]
    rw [hhead]
    exact Url.trimStart_of_head (by decide)
  unfold Url.trim
  rw [hstart, Url.trimEnd_eq_self hlast]

/-- **The gateway of a database leads to the place of its cursors.** -/
theorem urlFor_cursors (h : d.name ≠ "") :
    d.gateway.urlFor (some Resource.cursors) = d.cursorUrl := by
  obtain ⟨htrim, hlast⟩ := resource_spec h
  have hpath : Resource.database d.name ≠ "" := by
    intro hempty
    have hlength : (Resource.database d.name).toList.length = 0 := by
      rw [hempty]
      rfl
    unfold Resource.database at hlength
    rw [String.toList_append, List.length_append] at hlength
    exact absurd (Nat.eq_zero_of_add_eq_zero_right hlength) (by decide)
  have hurl : d.gateway.url = (if Url.trimEnd d.session.address = "" then ""
      else Url.trimEnd d.session.address ++ "/") ++ Resource.database d.name := by
    have haddress : d.gateway.address = Url.trimEnd d.session.address :=
      Url.trimEnd_trimEnd d.session.address
    have hgatewayPath : d.gateway.path = Resource.database d.name := htrim
    unfold Gateway.url
    rw [haddress, hgatewayPath, Url.base_eq hpath hlast]
  have hcursors : Resource.cursors = String.ofList ('_' :: "api/cursor".toList) := rfl
  rw [hcursors, d.gateway.urlFor_of_head (by decide), hurl, Url.trimEnd_append hpath hlast]
  unfold cursorUrl Resource.database
  simp only [String.append_assoc]
  rfl

/-- A database has the headers of its session. -/
theorem fullHeaders_gateway : d.gateway.fullHeaders = d.session.gateway.fullHeaders := by
  have hheaders : d.gateway.headers = d.session.gateway.headers := rfl
  have hcallers : d.gateway.callers = d.session.gateway.callers := rfl
  have hrelease : d.gateway.release = d.session.gateway.release := rfl
  unfold Gateway.fullHeaders Gateway.standardHeaders
  rw [hheaders, hcallers, hrelease]

theorem submits_requestFor (q : Query) (limit : TimeLimit) (body : Option String) :
    d.Submits (d.service.gateway.requestFor (QueryService.submission q limit) body) :=
  ⟨rfl, urlFor_cursors, fullHeaders_gateway⟩

theorem addresses_requestFor {method : String} (hmethod : method = "PUT" ∨ method = "DELETE")
    (id : String) (limit : TimeLimit) :
    d.Addresses id (d.service.gateway.requestFor (QueryService.cursorCall method id limit) none) :=
  ⟨hmethod, fun h => (d.gateway.urlFor_cursor id).trans (by rw [urlFor_cursors h]),
    fullHeaders_gateway, rfl⟩

end Database

/-! ### The names of cursors -/

/-- **The name that a cursor is addressed by:** that of the latest batch that came with one. -/
def Ledger.latestName (L : Ledger) : Option String :=
  (L.arrived.filterMap Batch.cursorId).getLast?

namespace Ledger

variable {ref : Nat} {L : Ledger}

/-- Books in which the state has the latest name. -/
def Names (L : Ledger) : Prop := L.state.cursorId = L.latestName

theorem names_empty : empty.Names := rfl

theorem Names.note (h : L.Names) (change : CursorChange) : (L.note change).Names := by
  unfold Names latestName at *
  cases change with
  | received b =>
    show b.cursorId.or L.state.cursorId = ((L.arrived ++ [b]).filterMap Batch.cursorId).getLast?
    rw [List.filterMap_append, List.getLast?_append, ← h]
    cases hb : b.cursorId with
    | none =>
      rw [List.filterMap_cons_none hb]
      rfl
    | some id =>
      rw [List.filterMap_cons_some hb]
      rfl
  | settled b => exact h
  | taken number => exact h
  | closed => exact h
  | fetching on => exact h

theorem Names.through (h : L.Names) (events : List Event) : (L.through ref events).Names := by
  induction events generalizing L with
  | nil => exact h
  | cons e rest ih =>
    rw [through_cons]
    refine ih ?_
    cases e with
    | sent time q => exact h
    | made r =>
      by_cases hr : r = ref
      · rw [show L.read ref (.made r) = empty from if_pos hr]
        exact names_empty
      · rw [read_made_of_ne hr]
        exact h
    | cursor r change =>
      by_cases hr : r = ref
      · rw [hr, read_cursor_self]
        exact h.note change
      · rw [read_cursor_of_ne change hr]
        exact h

/-- **A cursor goes by the name that it has received last.** -/
theorem names_of (history : List Event) : (of ref history).Names := names_empty.through history

end Ledger

/-! ### Calls without a payload -/

section Bare

variable {ω : Type} {D : Discipline ω} {I J : ω → Scene → Prop} {w : ω} {s : Scene}

/-- The request of a call without a payload has no body. It may be sent where `I` holds, and `J`
holds when the reply is back. -/
def Gateway.CarriesBare (g : Gateway) (D : Discipline ω) (I J : ω → Scene → Prop) (call : Call) :
    Prop :=
  call.payload = .null ∧ ∀ w s, I w s → D.may w s (g.requestFor call none) ∧
    ∀ w' reply s', D.back w s (g.requestFor call none) w' reply s' → J w' s'

theorem Gateway.wp_exchange_bare {g : Gateway} {call : Call} (hI : Logless I) (hJ : Logless J)
    (hIJ : ∀ w s, I w s → J w s) (hc : g.CarriesBare D I J call) (mode : Mode) (h : I w s) :
    (g.exchange mode call).wp D (fun _ w s => J w s) w s := by
  unfold exchange
  split
  · exact hIJ w s h
  · rw [hc.1]
    refine Program.wp_lines_bind hI _ _ _ h fun w s h => ?_
    obtain ⟨hmay, hback⟩ := hc.2 w s h
    rw [Program.wp_bind, Program.wp_send]
    refine ⟨hmay, fun w' reply s' hreply => ?_⟩
    have hj : J w' s' := hback w' reply s' hreply
    cases reply with
    | error e => exact hj
    | ok response => exact Program.wp_lines_bind hJ _ _ _ hj fun _ _ hj => hj

theorem Gateway.wp_request_bare {g : Gateway} {call : Call} (hI : Logless I) (hJ : Logless J)
    (hIJ : ∀ w s, I w s → J w s) (hc : g.CarriesBare D I J call) (mode : Mode) (h : I w s) :
    (g.request mode call).wp D (fun _ w s => J w s) w s := by
  unfold request
  exact Program.wp_seq (wp_exchange_bare hI hJ hIJ hc mode h)
    (fun response w s hj => wp_readEnvelope hJ response _ hj) fun _ _ _ hj => hj

namespace QueryService

variable {q : QueryService} {id : String} {limit : TimeLimit}

theorem wp_fetch_bare (hI : Logless I) (hJ : Logless J) (hIJ : ∀ w s, I w s → J w s)
    (hc : q.gateway.CarriesBare D I J (cursorCall "PUT" id limit)) (h : I w s) :
    (q.fetch id limit).wp D (fun _ w s => J w s) w s := by
  unfold fetch
  rw [wp_report_bind]
  refine Program.wp_seq (Gateway.wp_request_bare hI hJ hIJ hc _ (hI _ _ h)) ?_ fun _ _ _ hj => hj
  intro envelope w s hj
  rw [wp_report_bind]
  exact hJ _ _ hj

theorem wp_release_bare (hI : Logless I) (hJ : Logless J) (hIJ : ∀ w s, I w s → J w s)
    (hc : q.gateway.CarriesBare D I J (cursorCall "DELETE" id limit)) (h : I w s) :
    (q.release id limit).wp D (fun _ w s => J w s) w s :=
  wp_release_of hJ (fun h => Gateway.wp_request_bare hI hJ hIJ hc _ h) hI h

end QueryService

end Bare

/-! ### What a batch says about the name -/

/-- A field that may be absent is what the reader makes of it. -/
theorem Entries.optional_ok {β : Type} {entries : Entries} {name : String} {kinds : List Kind}
    {view : Value → Option β} {b : Option β} (hnull : view .null = none)
    (h : entries.optional name kinds view = .ok b) :
    b = view ((entries.get? name).getD .null) := by
  unfold Entries.optional at h
  split at h
  case h_1 hvalue =>
    cases h
    rw [hvalue, hnull]
  case h_2 =>
    split at h
    case h_1 hview =>
      cases h
      exact hview.symm
    case h_2 => cases h

/-- **The name in an envelope is a text, or an integer that is used as its decimal text.** -/
theorem Batch.cursorId_ofEnvelope {envelope : Entries} {b : Batch}
    (h : Batch.ofEnvelope envelope = .ok b) :
    b.cursorId = idText? ((envelope.get? "id").getD .null) := by
  unfold ofEnvelope at h
  obtain ⟨results, -, h⟩ := bind_ok h
  obtain ⟨more, -, h⟩ := bind_ok h
  obtain ⟨id, hid, h⟩ := bind_ok h
  dsimp only at h
  split at h
  case isTrue => cases h
  case isFalse =>
    obtain ⟨count, -, h⟩ := bind_ok h
    obtain ⟨extra, -, h⟩ := bind_ok h
    obtain ⟨cached, -, h⟩ := bind_ok h
    cases h
    exact Entries.optional_ok rfl hid

end AqlClient
