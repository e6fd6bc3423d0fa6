import AqlClient.Proofs.Cursor.Opening
import AqlClient.Proofs.Secrecy

/-!
# Errands

A caller keeps sessions and cursors on a bench (`Bench`) and runs one errand after the other
(`Errand`, `Bench.performAll`), whatever comes of them: it makes sessions, does something in them,
in their databases or in a collection, reads from cursors, and lets time pass. A function that it
has called on items may do all this, too.

Two callers run *sibling* errands (`Errand.Sibling`) if these differ in secrets alone: in the values
of headers that are listed as redacted at some level of the overrides which a session is made from,
and in names with passwords and in tokens. `Bench.secrets_unseen` says that they learn the same, and
that the same is logged, line by line and at all levels. It is put together from one errand
(`Bench.inStep_perform`), for which there is a lemma for each thing that can be done.
-/

namespace AqlClient

variable {α : Type}

open Program (InStep)

/-! ### What a caller does -/

/-- What a caller has at hand, in some release of the client. Sessions and cursors are counted in
the order in which they were made. -/
structure Bench (α : Type) where
  release : String
  sessions : List Session
  cursors : List (Cursor α)

/-- What is learned of an errand that ends well. -/
inductive Tidings (α : Type) where
  | done
  | absent
  | connected (address : String)
  | envelope (entries : Entries)
  | version (version : ServerVersion)
  | names (names : List String)
  | database (info : DatabaseInfo)
  | collection (info : CollectionInfo)
  | collections (infos : List CollectionInfo)
  | number (n : Int)
  | item (a? : Option α)
  | items (list : List α)
  | flag (b : Bool)
  | extra (extra : Option QueryExtra)
  | warning (text : Option String)

/-- What can be done in a session. -/
inductive Session.Errand where
  | request (method path : String) (payload : Value) (params : Entries) (limit timeout : Option Int)
  | version (limit timeout : Option Int)
  | accessibleDatabases (limit timeout : Option Int)
  | allDatabases (limit timeout : Option Int)
  | close

/-- What can be done in a database, and in one of its collections. -/
inductive Database.Errand (α : Type) where
  | info (request timeout : Option Int)
  | collections (excludeSystem : Bool) (request timeout : Option Int)
  | query (q : Query) (mapper : Mapper α) (general request timeout : Option Int)
  | cursor (q : Query) (mapper : Mapper α) (request timeout : Option Int)
  | infoOf (collection : String) (request timeout : Option Int)
  | countOf (collection : String) (request timeout : Option Int)
  | allOf (collection : String) (batchSize : Value) (mapper : Mapper α)
      (request timeout : Option Int)

/-- What can be done with a cursor. The functions that are called on items have the whole bench at
hand. -/
inductive Cursor.Errand (α : Type) where
  | next
  | nextBatch
  | hasNext
  | toList (general timeout : Option Int)
  | forEach (visit : Bench α → α → Program Bool) (general timeout : Option Int)
  | iterate (visit : Bench α → α → Program Bool)
  | extra
  | close
  | leave (failed : Bool)
  | abandon

/-- **What a caller can do.** A session is made by a client, or directly from overrides and
credentials. -/
inductive Errand (α : Type) where
  | connect (mode : Mode) (address : String) (base : Option OptionsOverride)
      (callers : Option (List Caller)) (own : Option Credentials) (options : Option OptionsOverride)
      (credentials : Option Credentials) (ownsTransport : Bool)
  | build (mode : Mode) (address : String) (chain : List OptionsOverride)
      (credentials : Credentials) (ownsTransport : Bool)
  | inSession (session : Nat) (e : Session.Errand)
  | inDatabase (session : Nat) (name : Option String) (e : Database.Errand α)
  | withCursor (cursor : Nat) (e : Cursor.Errand α)
  | wait (ms : Int)

/-- Does something in a session. -/
def Session.Errand.perform (session : Session) : Session.Errand → Program (Tidings α)
  | .request method path payload params limit timeout => do
    return .envelope (← session.request method path payload params limit timeout)
  | .version limit timeout => do return .version (← session.version limit timeout)
  | .accessibleDatabases limit timeout => do
    return .names (← session.accessibleDatabases limit timeout)
  | .allDatabases limit timeout => do return .names (← session.allDatabases limit timeout)
  | .close => do
    session.close
    return .done

/-- Does something in a database: what is learned, and the cursors that are made. -/
def Database.Errand.perform (d : Database) :
    Database.Errand α → Program (Tidings α × List (Cursor α))
  | .info request timeout => do return (.database (← d.info request timeout), [])
  | .collections excludeSystem request timeout => do
    return (.collections (← d.collections excludeSystem request timeout), [])
  | .query q mapper general request timeout => do
    return (.items (← d.query q mapper general request timeout), [])
  | .cursor q mapper request timeout => do return (.done, [← d.cursor q mapper request timeout])
  | .infoOf collection request timeout => do
    return (.collection (← (⟨d, collection⟩ : Collection).info request timeout), [])
  | .countOf collection request timeout => do
    return (.number (← (⟨d, collection⟩ : Collection).count request timeout), [])
  | .allOf collection batchSize mapper request timeout => do
    return (.done, [← (⟨d, collection⟩ : Collection).all batchSize mapper request timeout])

/-- Does something with a cursor. -/
def Cursor.Errand.perform (bench : Bench α) (c : Cursor α) : Cursor.Errand α → Program (Tidings α)
  | .next => do return .item (← c.next?)
  | .nextBatch => do return .items (← c.nextBatch)
  | .hasNext => do return .flag (← c.hasNext)
  | .toList general timeout => do return .items (← c.toList general timeout)
  | .forEach visit general timeout => do
    c.forEach (visit bench) general timeout
    return .done
  | .iterate visit => do
    c.iterate (visit bench)
    return .done
  | .extra => do return .extra (← c.extra)
  | .close => do
    c.close
    return .done
  | .leave failed => do
    c.leave failed
    return .done
  | .abandon => do return .warning (← c.abandon)

namespace Bench

/-- A bench with nothing on it. -/
def empty (release : String) : Bench α := ⟨release, [], []⟩

/-- Puts a session on the bench. -/
def add (bench : Bench α) (session : Session) : Tidings α × Bench α :=
  (.connected session.address, { bench with sessions := bench.sessions ++ [session] })

/-- Does something with what is at hand, if it is there. -/
def handling {ι : Type} (bench : Bench α) (found : Option ι)
    (f : ι → Program (Tidings α × Bench α)) : Program (Tidings α × Bench α) :=
  match found with
  | some a => f a
  | none => pure (.absent, bench)

/-- **Runs an errand.** What it makes is put on the bench. -/
def perform (bench : Bench α) : Errand α → Program (Tidings α × Bench α)
  | .connect mode address base callers own options credentials ownsTransport => do
    let client := Client.make bench.release base callers own
    return bench.add (← client.connect mode address credentials options ownsTransport)
  | .build mode address chain credentials ownsTransport => do
    let settings := (Options.standard bench.release).overriddenByAll chain
    return bench.add (← Session.opened mode address settings credentials ownsTransport)
  | .inSession session e =>
    bench.handling bench.sessions[session]? fun session => do
      return (← e.perform session, bench)
  | .inDatabase session name e =>
    bench.handling bench.sessions[session]? fun session => do
      let (tidings, made) ← e.perform (Database.ofSession session name)
      return (tidings, { bench with cursors := bench.cursors ++ made })
  | .withCursor cursor e =>
    bench.handling bench.cursors[cursor]? fun c => do
      return (← e.perform bench c, bench)
  | .wait ms => do
    Program.update (.elapsed ms)
    return (.done, bench)

/-- **Runs errands one after the other,** whatever comes of them. One that fails leaves the bench as
it is. -/
def performAll (bench : Bench α) :
    List (Errand α) → Program (List (Except Failure (Tidings α)) × Bench α)
  | [] => pure ([], bench)
  | e :: errands => do
    let result ← (bench.perform e).attempt
    let (results, last) ← performAll ((result.toOption.map Prod.snd).getD bench) errands
    return (result.map Prod.fst :: results, last)

end Bench

/-! ### Secrets -/

/-- **Benches that differ in secrets alone.** -/
structure Bench.Sibling (bench bench' : Bench α) : Prop where
  release : bench'.release = bench.release
  sessions : List.Forall₂ Session.Sibling bench.sessions bench'.sessions
  cursors : List.Forall₂ Cursor.Sibling bench.cursors bench'.cursors

/-- A function on items is discreet if it is in step with itself at benches that differ in secrets
alone: it may do all that a caller can do. -/
def Cursor.Errand.Discreet : Cursor.Errand α → Prop
  | .forEach visit _ _ | .iterate visit =>
    ∀ bench bench' : Bench α, bench.Sibling bench' → ∀ a, InStep Eq (visit bench a) (visit bench' a)
  | _ => True

/-- **Errands that differ in secrets alone.** Only those that make a session contain any. -/
inductive Errand.Sibling : Errand α → Errand α → Prop
  | connect {base base' options options' : Option OptionsOverride}
      {callers callers' : Option (List Caller)}
      {own own' credentials credentials' : Option Credentials}
      (mode : Mode) (address : String) (ownsTransport : Bool) :
      List.Forall₂
        (OptionsOverride.Sibling
          (OptionsOverride.Secret (Client.chain base callers own options credentials)))
        (Client.chain base callers own options credentials)
        (Client.chain base' callers' own' options' credentials') →
      Sibling (.connect mode address base callers own options credentials ownsTransport)
        (.connect mode address base' callers' own' options' credentials' ownsTransport)
  | build {chain chain' : List OptionsOverride} {credentials credentials' : Credentials}
      (mode : Mode) (address : String) (ownsTransport : Bool) :
      List.Forall₂ (OptionsOverride.Sibling (OptionsOverride.Secret chain)) chain chain' →
      credentials.Kin credentials' →
      Sibling (.build mode address chain credentials ownsTransport)
        (.build mode address chain' credentials' ownsTransport)
  | inSession (session : Nat) (e : Session.Errand) :
      Sibling (.inSession session e) (.inSession session e)
  | inDatabase (session : Nat) (name : Option String) (e : Database.Errand α) :
      Sibling (.inDatabase session name e) (.inDatabase session name e)
  | withCursor (cursor : Nat) {e : Cursor.Errand α} :
      e.Discreet → Sibling (.withCursor cursor e) (.withCursor cursor e)
  | wait (ms : Int) : Sibling (.wait ms) (.wait ms)

/-! ### One errand -/

/-- What stands at one place of lists that are related is related. -/
theorem rel_getElem? {ι κ : Type} {R : ι → κ → Prop} {l : List ι} {l' : List κ}
    (h : List.Forall₂ R l l') (i : Nat) : Option.Rel R l[i]? l'[i]? := by
  induction h generalizing i with
  | nil => exact .none
  | cons h _ ih =>
    cases i with
    | zero => exact .some h
    | succ i => exact ih i

theorem Session.Sibling.inStep_perform {session session' : Session} (h : session.Sibling session')
    (e : Session.Errand) :
    InStep Eq (e.perform session : Program (Tidings α)) (e.perform session') := by
  cases e with
  | request method path payload params limit timeout =>
    exact (h.inStep_request method path payload params limit timeout).returning _
  | version limit timeout => exact (h.inStep_version limit timeout).returning _
  | accessibleDatabases limit timeout =>
    exact (h.inStep_accessibleDatabases limit timeout).returning _
  | allDatabases limit timeout => exact (h.inStep_allDatabases limit timeout).returning _
  | close => exact h.inStep_close.returning fun _ => Tidings.done

/-- **Something is done in databases of sessions that differ in secrets alone:** the same is
learned, and the cursors that are made differ in hidden headers alone. -/
theorem Database.Sibling.inStep_perform {d d' : Database} (h : d.Sibling d')
    (e : Database.Errand α) :
    InStep (fun x x' => x'.1 = x.1 ∧ List.Forall₂ Cursor.Sibling x.2 x'.2) (e.perform d)
      (e.perform d') := by
  have htelling : ∀ {β : Type} {p p' : Program β} (f : β → Tidings α), InStep Eq p p' →
      InStep (fun x x' => x'.1 = x.1 ∧ List.Forall₂ Cursor.Sibling x.2 x'.2)
        (do return (f (← p), ([] : List (Cursor α)))) (do return (f (← p'), [])) :=
    fun f hp => hp.andThen fun _ => .pure ⟨rfl, .nil⟩
  have hmaking : ∀ {p p' : Program (Cursor α)}, InStep Cursor.Sibling p p' →
      InStep (fun x x' => x'.1 = x.1 ∧ List.Forall₂ Cursor.Sibling x.2 x'.2)
        (do return ((.done : Tidings α), [← p])) (do return (.done, [← p'])) :=
    fun hp => hp.bind fun _ _ hc => .pure ⟨rfl, .cons hc .nil⟩
  cases e with
  | info request timeout => exact htelling _ (h.inStep_info request timeout)
  | collections excludeSystem request timeout =>
    exact htelling _ (h.inStep_collections excludeSystem request timeout)
  | query q mapper general request timeout =>
    exact htelling _ (h.inStep_query q mapper general request timeout)
  | cursor q mapper request timeout => exact hmaking (h.inStep_cursor q mapper request timeout)
  | infoOf collection request timeout =>
    exact htelling _ (Collection.inStep_info h collection request timeout)
  | countOf collection request timeout =>
    exact htelling _ (Collection.inStep_count h collection request timeout)
  | allOf collection batchSize mapper request timeout =>
    exact hmaking (Collection.inStep_all h collection batchSize mapper request timeout)

theorem Cursor.Sibling.inStep_perform {c c' : Cursor α} (h : c.Sibling c') {bench bench' : Bench α}
    (hbench : bench.Sibling bench') {e : Cursor.Errand α} (he : e.Discreet) :
    InStep Eq (e.perform bench c) (e.perform bench' c') := by
  obtain ⟨g, hg, rfl⟩ := h
  cases e with
  | next => exact (inStep_next hg).returning _
  | nextBatch => exact (inStep_nextBatch hg).returning _
  | hasNext => exact (inStep_hasNext hg).returning _
  | toList general timeout => exact (inStep_toList hg general timeout).returning _
  | forEach visit general timeout =>
    -- the functions are in step at the two benches, so that they may be called in step
    have hvisit := he bench bench' hbench
    exact (inStep_forEach hg hvisit general timeout).returning fun _ => Tidings.done
  | iterate visit =>
    have hvisit := he bench bench' hbench
    exact (inStep_iterate hg hvisit).returning fun _ => Tidings.done
  | extra => exact c.inStep_extra.returning _
  | close => exact (inStep_close hg).returning fun _ => Tidings.done
  | leave failed => exact (inStep_leave hg failed).returning fun _ => Tidings.done
  | abandon => exact c.inStep_abandon.returning _

namespace Bench

variable {bench bench' : Bench α}

/-- What relates the ends of sibling errands: the same is learned, and the benches differ in secrets
alone. -/
def Alike {ι : Type} (x x' : ι × Bench α) : Prop := x'.1 = x.1 ∧ x.2.Sibling x'.2

/-- Sessions that differ in secrets alone come on the bench. -/
theorem Sibling.add (h : bench.Sibling bench') {session session' : Session}
    (hsession : session.Sibling session') : Alike (bench.add session) (bench'.add session') := by
  refine ⟨congrArg Tidings.connected hsession.address, h.release, ?_, h.cursors⟩
  exact List.rel_append h.sessions (.cons hsession .nil)

/-- The same is at hand on both benches, or on none of them. -/
theorem Sibling.handling {ι : Type} {R : ι → ι → Prop} (h : bench.Sibling bench')
    {found found' : Option ι} (hfound : Option.Rel R found found')
    {f f' : ι → Program (Tidings α × Bench α)} (hf : ∀ a a', R a a' → InStep Alike (f a) (f' a')) :
    InStep Alike (bench.handling found f) (bench'.handling found' f') := by
  cases hfound with
  | some ha => exact hf _ _ ha
  | none => exact .pure ⟨rfl, h⟩

/-- **One errand:** sibling errands are in step, and leave benches behind that differ in secrets
alone. -/
theorem inStep_perform (h : bench.Sibling bench') {e e' : Errand α} (he : e.Sibling e') :
    InStep Alike (bench.perform e) (bench'.perform e') := by
  cases he with
  | connect mode address ownsTransport hchain =>
    -- what is secret in the chain is hidden by the settings that come of it
    have hsettings := Options.sibling_of_chain bench.release hchain
    unfold perform
    rw [h.release]
    rw [← Client.sessionOptions_make, ← Client.sessionOptions_make] at hsettings
    exact (Client.inStep_connect hsettings mode address ownsTransport).bind fun _ _ hsession =>
      .pure (h.add hsession)
  | build mode address ownsTransport hchain hkin =>
    have hsettings := Options.sibling_of_chain bench.release hchain
    unfold perform
    rw [h.release]
    exact (Session.inStep_opened hsettings hkin mode address ownsTransport).bind fun _ _ hsession =>
      .pure (h.add hsession)
  | inSession session e =>
    refine h.handling (rel_getElem? h.sessions session) fun _ _ hsession => ?_
    exact (hsession.inStep_perform e).andThen fun _ => .pure ⟨rfl, h⟩
  | inDatabase session name e =>
    refine h.handling (rel_getElem? h.sessions session) fun _ _ hsession => ?_
    refine ((hsession.database name).inStep_perform e).bind ?_
    rintro ⟨tidings, made⟩ ⟨_, made'⟩ ⟨rfl, hmade⟩
    exact .pure ⟨rfl, h.release, h.sessions, List.rel_append h.cursors hmade⟩
  | withCursor cursor hdiscreet =>
    refine h.handling (rel_getElem? h.cursors cursor) fun _ _ hcursor => ?_
    exact (hcursor.inStep_perform h hdiscreet).andThen fun _ => .pure ⟨rfl, h⟩
  | wait ms => exact .andThen (.update _) fun _ => .pure ⟨rfl, h⟩

/-! ### Any number of errands -/

/-- The same is put down of sibling errands that have ended, and the benches that they leave behind
differ in secrets alone. -/
theorem Sibling.ended (h : bench.Sibling bench') {r r' : Except Failure (Tidings α × Bench α)}
    (hr : Agree Alike r r') :
    r'.map Prod.fst = r.map Prod.fst ∧
      ((r.toOption.map Prod.snd).getD bench).Sibling ((r'.toOption.map Prod.snd).getD bench') := by
  cases hr with
  | ok hx => exact ⟨congrArg Except.ok hx.1, hx.2⟩
  | error e => exact ⟨rfl, h⟩

/-- **Any number of errands** are in step if they are siblings, one by one. -/
theorem inStep_performAll (h : bench.Sibling bench') {errands errands' : List (Errand α)}
    (herrands : List.Forall₂ Errand.Sibling errands errands') :
    InStep Alike (bench.performAll errands) (bench'.performAll errands') := by
  induction herrands generalizing bench bench' with
  | nil => exact .pure ⟨rfl, h⟩
  | cons he _ ih =>
    -- whatever the first one comes to, the others begin at benches that differ in secrets alone
    refine (inStep_perform h he).attempt.bind fun r r' hr => ?_
    obtain ⟨hresult, hbench⟩ := h.ended hr
    refine (ih hbench).bind ?_
    rintro ⟨results, last⟩ ⟨results', last'⟩ ⟨hresults, hlast⟩
    exact .pure ⟨congrArg₂ List.cons hresult hresults, hlast⟩

/-- **A function that runs errands itself is discreet** if these contain no secrets. -/
theorem discreet_performAll {errands : α → List (Errand α)} (h : ∀ a, ∀ e ∈ errands a, e.Sibling e)
    (on : α → Bool) (general timeout : Option Int) :
    (Cursor.Errand.forEach (fun bench a => do
      let _ ← bench.performAll (errands a)
      return on a) general timeout).Discreet := by
  intro bench bench' hbench a
  have hsame : List.Forall₂ Errand.Sibling (errands a) (errands a) := List.forall₂_same.2 (h a)
  exact (inStep_performAll hbench hsame).bind fun _ _ _ => .pure rfl

/-- Errands come to an end all together, whatever comes of each. -/
theorem performAll_ends (bench : Bench α) (errands : List (Errand α)) (s : Scene) :
    ∃ results last t, (bench.performAll errands).run s = (.ok (results, last), t) := by
  induction errands generalizing bench s with
  | nil => exact ⟨_, _, _, rfl⟩
  | cons e errands ih =>
    unfold performAll
    rw [Program.run_bind, Program.run_attempt]
    dsimp only
    -- the others begin where the first one has ended
    generalize (bench.perform e).run s = ended
    obtain ⟨results, last, t, hrun⟩ := ih ((ended.1.toOption.map Prod.snd).getD bench) ended.2
    rw [Program.run_bind, hrun]
    exact ⟨_, _, _, rfl⟩

/-- **Secrets are never seen.** Whatever a caller does, one errand after the other, what it learns
of each and what is logged at all levels does not depend on the values of secret headers, nor on
names with passwords or tokens: the same requests are sent but for their headers, and all else of
the scene is the same in the end. What may be logged of the headers of a request are all of them but
for the values of secret ones, and these stay secret whatever is laid over the chain that makes them
so. -/
theorem secrets_unseen {errands errands' : List (Errand α)}
    (h : List.Forall₂ Errand.Sibling errands errands') (release : String) (s : Scene) :
    (∃ results last last' t t',
      ((empty release).performAll errands).run s = (.ok (results, last), t) ∧
      ((empty release).performAll errands').run s = (.ok (results, last'), t') ∧
      t'.log = t.log ∧ t'.sent.map Request.veil = t.sent.map Request.veil ∧ t'.veil = t.veil ∧
      last.Sibling last') ∧
    ∀ (chain later : List OptionsOverride) (mode : Mode) (address : String)
      (credentials : Credentials),
      let g := Gateway.toServer mode address ((Options.standard release).overriddenByAll
        (chain ++ later)) credentials
      Headers.Shows
        (fun name => OptionsOverride.Secret chain name ∨ OptionsOverride.Secret later name)
        g.fullHeaders g.loggableHeaders := by
  constructor
  · obtain ⟨results, last, t, hrun⟩ := performAll_ends (empty release) errands s
    have hempty : (empty release : Bench α).Sibling (empty release) := ⟨rfl, .nil, .nil⟩
    obtain ⟨hagree, hscene⟩ := (inStep_performAll hempty h).run (rfl : s.veil = s.veil)
    generalize hrun' : ((empty release).performAll errands').run s = ended at hagree hscene
    obtain ⟨result, t'⟩ := ended
    rw [hrun] at hagree hscene
    -- the log is a part of what the scenes have in common
    have hlog : t'.veil.log = t.veil.log := congrArg Scene.log hscene
    cases hagree with
    | @ok _ ended hended =>
      obtain ⟨results', last'⟩ := ended
      obtain ⟨rfl, hlast⟩ := hended
      have hsent := Scene.sent_of_veil hscene
      exact ⟨results', last, last', t, t', hrun, rfl, hlog, hsent, hscene, hlast⟩
  · intro chain later mode address credentials g
    refine g.shows_loggableHeaders fun name => ?_
    -- nothing is hidden at first but the header of the credentials, which is secret in any chain
    refine (Options.hides_overriddenByAll (.standard release) (chain ++ later) name).trans ?_
    rw [OptionsOverride.secret_append]
    refine or_iff_right_of_imp fun hstandard => ?_
    obtain hname | ⟨_, hlisted, -⟩ := NameSet.hides_iff.1 hstandard
    · exact .inl (.inl hname)
    · cases hlisted

end Bench

/-! ### A specimen -/

/-- A query is made with a secret header and a token, and its results are visited. -/
def Errand.specimens (secret token : String) : List (Errand Value) :=
  [.connect .blocking "http://server"
      (some { OptionsOverride.none with
        headers := some [("X-Secret", some secret)]
        redacted := some ["x-secret"] })
      none none none (some (.bearer (.str token))) false,
    .inDatabase 0 (some "shop") (.cursor Query.specimen Mapper.raw none none),
    .withCursor 0 (.forEach (fun bench item => do
      let _ ← bench.performAll [.withCursor 0 .hasNext]
      return item.truthy) none none)]

/-- A server that tells its version and answers the query in two batches. -/
def Scene.conversant : Scene :=
  Scene.start 0
    [⟨.response 200 []
        ("\x7b\"server\":\"arango\",\"version\":\"3\",\"license\":\"community\"\x7d".toList.map
          fun x => x.val.toUInt8), 5, none⟩,
      .specimen,
      ⟨.response 200 [] ("\x7b\"result\":[1,2],\"hasMore\":false\x7d".toList.map
        fun x => x.val.toUInt8), 5, none⟩]

/-- Two callers send different secrets, and the same lines are logged. -/
theorem Bench.secrets_unseen_specimen :
    List.Forall₂ Errand.Sibling (Errand.specimens "first" "abc") (Errand.specimens "second" "xyz") ∧
    ∃ results last last' t t',
      ((empty "1.0").performAll (Errand.specimens "first" "abc")).run .conversant =
        (.ok (results, last), t) ∧
      ((empty "1.0").performAll (Errand.specimens "second" "xyz")).run .conversant =
        (.ok (results, last'), t') ∧
      t.sent.map (fun q => (q.method, Named.get? q.headers "X-Secret",
          Named.get? q.headers credentialsHeader)) =
        [("GET", some "first", some "Bearer abc"), ("POST", some "first", some "Bearer abc"),
          ("PUT", some "first", some "Bearer abc")] ∧
      t'.sent.map (fun q => (q.method, Named.get? q.headers "X-Secret",
          Named.get? q.headers credentialsHeader)) =
        [("GET", some "second", some "Bearer xyz"), ("POST", some "second", some "Bearer xyz"),
          ("PUT", some "second", some "Bearer xyz")] ∧
      t.log.length = 25 ∧ t'.log = t.log := by
  have hsiblings : List.Forall₂ Errand.Sibling (Errand.specimens "first" "abc")
      (Errand.specimens "second" "xyz") := by
    refine .cons ?_ (.cons (.inDatabase _ _ _) (.cons (.withCursor 0 ?_) .nil))
    · refine .connect _ _ _ (.cons ?_ (.cons ?_ (.cons ?_ .nil)))
      · refine ⟨rfl, .some (.cons ⟨rfl, .inr ⟨?_, rfl, rfl⟩⟩ .nil), rfl, .none, rfl, rfl⟩
        -- the name is listed in small letters
        exact .inr ⟨_, List.mem_cons_self, _, rfl, _, List.mem_cons_self, by decide +kernel⟩
      · exact ⟨rfl, .none, rfl, .none, rfl, rfl⟩
      · exact ⟨rfl, .none, rfl, .some (.bearer _ _), rfl, rfl⟩
    · refine discreet_performAll (fun _ e he => ?_) Value.truthy none none
      obtain rfl := List.mem_singleton.1 he
      exact .withCursor 0 trivial
  obtain ⟨⟨results, last, last', t, t', hrun, hrun', hlog, -⟩, -⟩ :=
    secrets_unseen hsiblings "1.0" .conversant
  have hend : t = _ := (congrArg Prod.snd hrun).symm
  have hend' : t' = _ := (congrArg Prod.snd hrun').symm
  refine ⟨hsiblings, results, last, last', t, t', hrun, hrun', ?_, ?_, ?_, hlog⟩
  · rw [hend]
    decide +kernel
  · rw [hend']
    decide +kernel
  · rw [hend]
    decide +kernel

end AqlClient
