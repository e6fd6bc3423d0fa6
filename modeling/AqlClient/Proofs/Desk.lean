import AqlClient.Proofs.Cursor.Opening
import AqlClient.Proofs.Modes

/-!
# Working at a desk

A caller keeps sessions and cursors at hand (`Desk`) and asks for one operation after the other
(`Operation`, `Desk.follow`): it connects, asks about databases, runs queries, uses cursors and
leaves them again, and lets time pass. Each operation starts once the one before has come to its
end, well or not, and what it came to is put down together with the requests that were sent for it,
and with what has become of the cursors and the journals (`Step`).

Nobody who looks at this record can tell in which mode the desk works (`Desk.follow_modes`). One
operation runs alike in both modes (`Desk.perform_inMode`) and leaves desks behind that differ in
nothing but their mode (`Desk.turn_inMode`), so that the next one runs alike, too.
-/

namespace AqlClient

variable {α : Type}

open Program (Alike AlwaysAlike)

/-- **What a caller can ask for.** Sessions and cursors are counted in the order in which they were
made. -/
inductive Operation (α : Type) where
  | connect (client : Client) (address : String) (credentials : Option Credentials)
      (options : Option OptionsOverride) (ownsTransport : Bool)
  | info (session : Nat) (name : Option String) (request timeout : Option Int)
  | collections (session : Nat) (name : Option String) (excludeSystem : Bool)
      (request timeout : Option Int)
  | query (session : Nat) (name : Option String) (q : Query) (mapper : Mapper α)
      (general request timeout : Option Int)
  | cursor (session : Nat) (name : Option String) (q : Query) (mapper : Mapper α)
      (request timeout : Option Int)
  | use (cursor : Nat) (u : Cursor.Use α) (slot : Nat) (shown : α → Value)
  | leave (cursor : Nat) (failed : Bool)
  | wait (ms : Int)

/-- The functions that are called on items are plain. -/
def Operation.Plain : Operation α → Prop
  | .use _ u _ _ => u.Plain
  | _ => True

/-- What an operation comes to that ends well. -/
inductive Reply (α : Type) where
  | connected (address : String) (credentials : Credentials)
  | described (info : DatabaseInfo)
  | listed (collections : List CollectionInfo)
  | results (items : List α)
  | used (answer : Cursor.Answer α)
  | done
  | absent

/-- What a caller has at hand. -/
structure Desk (α : Type) where
  mode : Mode
  sessions : List Session
  cursors : List (Cursor α)

/-- What is put down of an operation: its result, the requests that were sent for it, and the states
of all cursors and the journals behind it. -/
structure Step (α : Type) where
  result : Except Failure (Reply α)
  sent : List Request
  cursors : Nat → CursorState
  journal : Nat → List Value

namespace Desk

/-- Does something in a database of a session, if there is one. -/
def inDatabase (desk : Desk α) (session : Nat) (name : Option String)
    (f : Database → Program (Reply α × Desk α)) : Program (Reply α × Desk α) :=
  match desk.sessions[session]? with
  | some session => f (Database.ofSession session name)
  | none => pure (.absent, desk)

/-- Does something with a cursor, if there is one. -/
def withCursor (desk : Desk α) (cursor : Nat) (f : Cursor α → Program (Reply α)) :
    Program (Reply α × Desk α) :=
  match desk.cursors[cursor]? with
  | some c => do return (← f c, desk)
  | none => pure (.absent, desk)

/-- **Carries out an operation.** What it makes is put on the desk. -/
def perform (desk : Desk α) : Operation α → Program (Reply α × Desk α)
  | .connect client address credentials options ownsTransport => do
    let session ← client.connect desk.mode address credentials options ownsTransport
    return (.connected session.address session.credentials,
      { desk with sessions := desk.sessions ++ [session] })
  | .info session name request timeout =>
    desk.inDatabase session name fun d => do return (.described (← d.info request timeout), desk)
  | .collections session name excludeSystem request timeout =>
    desk.inDatabase session name fun d => do
      return (.listed (← d.collections excludeSystem request timeout), desk)
  | .query session name q mapper general request timeout =>
    desk.inDatabase session name fun d => do
      return (.results (← d.query q mapper general request timeout), desk)
  | .cursor session name q mapper request timeout =>
    desk.inDatabase session name fun d => do
      let c ← d.cursor q mapper request timeout
      return (.done, { desk with cursors := desk.cursors ++ [c] })
  | .use cursor u slot shown =>
    desk.withCursor cursor fun c => do return .used (← u.perform c slot shown)
  | .leave cursor failed =>
    desk.withCursor cursor fun c => do
      c.leave failed
      return .done
  | .wait ms => do
    Program.update (.elapsed ms)
    return (.done, desk)

/-- An operation from beginning to end: what is put down of it, and the desk and the scene that it
leaves behind. One that fails puts nothing on the desk. -/
def turn (desk : Desk α) (op : Operation α) (s : Scene) : Step α × Desk α × Scene :=
  let ended := (desk.perform op).run s
  (⟨ended.1.map Prod.fst, ended.2.sent.drop s.sent.length, ended.2.cursors, ended.2.journal⟩,
    (ended.1.toOption.map Prod.snd).getD desk, ended.2)

/-- **Carries out operations one after the other,** whatever comes of them. -/
def follow : List (Operation α) → Desk α → Scene → List (Step α) × Desk α × Scene
  | [], desk, s => ([], desk, s)
  | op :: ops, desk, s =>
    let (step, desk, s) := desk.turn op s
    let (steps, last) := follow ops desk s
    (step :: steps, last)

/-! ### Desks of two modes -/

/-- A desk with all that is on it in a mode. -/
def inMode (desk : Desk α) (mode : Mode) : Desk α where
  mode := mode
  sessions := desk.sessions.map fun session => session.inMode mode
  cursors := desk.cursors.map fun c => c.inMode mode

theorem inMode_inMode (desk : Desk α) (m m' : Mode) :
    (desk.inMode m).inMode m' = desk.inMode m' := by
  unfold inMode
  rw [List.map_map, List.map_map]
  rfl

theorem inMode_addSession (desk : Desk α) (session : Session) (m : Mode) :
    { desk.inMode m with sessions := (desk.inMode m).sessions ++ [session.inMode m] } =
      ({ desk with sessions := desk.sessions ++ [session] } : Desk α).inMode m := by
  unfold inMode
  rw [List.map_append]
  rfl

theorem inMode_addCursor (desk : Desk α) (c : Cursor α) (m : Mode) :
    { desk.inMode m with cursors := (desk.inMode m).cursors ++ [c.inMode m] } =
      ({ desk with cursors := desk.cursors ++ [c] } : Desk α).inMode m := by
  unfold inMode
  rw [List.map_append]
  rfl

/-- What relates the ends of an operation in two modes: the replies are the same, and the desks
differ in nothing but their mode. -/
def Mirrored (m m' : Mode) (x x' : Reply α × Desk α) : Prop :=
  x'.1 = x.1 ∧ ∃ desk : Desk α, x.2 = desk.inMode m ∧ x'.2 = desk.inMode m'

variable (desk : Desk α) (m m' : Mode)

/-- A reply that is the same in both modes changes nothing on the desks. -/
theorem mirrored (reply : Reply α) :
    Mirrored m m' (reply, desk.inMode m) (reply, desk.inMode m') :=
  ⟨rfl, desk, rfl, rfl⟩

theorem inDatabase_inMode (session : Nat) (name : Option String)
    {f f' : Database → Program (Reply α × Desk α)} {s s' : Scene}
    (hs : Likeness.modes.Scenes Likeness.modes.Level s s')
    (hf : ∀ d : Database, Alike .modes Likeness.modes.Level (Mirrored m m')
      (f (d.inMode m)) (f' (d.inMode m')) s s') :
    Alike .modes Likeness.modes.Level (Mirrored m m')
      ((desk.inMode m).inDatabase session name f) ((desk.inMode m').inDatabase session name f')
      s s' := by
  unfold inDatabase inMode
  rw [List.getElem?_map, List.getElem?_map]
  cases desk.sessions[session]? with
  | some session => exact hf (Database.ofSession session name)
  | none => exact .pure hs (desk.mirrored m m' .absent)

theorem withCursor_inMode (cursor : Nat) {f f' : Cursor α → Program (Reply α)} {s s' : Scene}
    (hs : Likeness.modes.Scenes Likeness.modes.Level s s')
    (hf : ∀ c : Cursor α, AlwaysAlike .modes (f (c.inMode m)) (f' (c.inMode m'))) :
    Alike .modes Likeness.modes.Level (Mirrored m m')
      ((desk.inMode m).withCursor cursor f) ((desk.inMode m').withCursor cursor f') s s' := by
  unfold withCursor inMode
  rw [List.getElem?_map, List.getElem?_map]
  cases desk.cursors[cursor]? with
  | some c =>
    refine .bind (hf c hs) ?_
    rintro reply _ s₁ s₁' rfl hs₁
    exact .pure hs₁ (desk.mirrored m m' reply)
  | none => exact .pure hs (desk.mirrored m m' .absent)

/-- An operation that only tells something leaves the desks as they are. -/
theorem telling {β : Type} {p p' : Program β} {s s' : Scene}
    (h : Alike .modes Likeness.modes.Level Eq p p' s s') (told : β → Reply α) :
    Alike .modes Likeness.modes.Level (Mirrored m m')
      (do return (told (← p), desk.inMode m)) (do return (told (← p'), desk.inMode m')) s s' := by
  refine .bind h ?_
  rintro b _ s₁ s₁' rfl hs₁
  exact .pure hs₁ (desk.mirrored m m' (told b))

/-- **One operation runs alike in both modes.** -/
theorem perform_inMode {op : Operation α} (hop : op.Plain) {s s' : Scene}
    (hs : Likeness.modes.Scenes Likeness.modes.Level s s') :
    Alike .modes Likeness.modes.Level (Mirrored m m') ((desk.inMode m).perform op)
      ((desk.inMode m').perform op) s s' := by
  unfold perform
  cases op with
  | connect client address credentials options ownsTransport =>
    -- the session that is made comes on the desk in the mode of the desk
    refine .bind (client.connect_modes m m' address credentials options ownsTransport hs) ?_
    rintro _ _ s₁ s₁' ⟨session, rfl, rfl⟩ hs₁
    exact .pure hs₁ ⟨rfl, _, desk.inMode_addSession session m, desk.inMode_addSession session m'⟩
  | info session name request timeout =>
    exact desk.inDatabase_inMode m m' session name hs fun d =>
      desk.telling m m' (d.info_inMode m m' request timeout hs) _
  | collections session name excludeSystem request timeout =>
    exact desk.inDatabase_inMode m m' session name hs fun d =>
      desk.telling m m' (d.collections_inMode m m' excludeSystem request timeout hs) _
  | query session name q mapper general request timeout =>
    exact desk.inDatabase_inMode m m' session name hs fun d =>
      desk.telling m m' (d.query_inMode m m' q mapper general request timeout hs) _
  | cursor session name q mapper request timeout =>
    refine desk.inDatabase_inMode m m' session name hs fun d => ?_
    refine .bind (d.cursor_inMode m m' q mapper request timeout hs) ?_
    rintro _ _ s₁ s₁' ⟨c, rfl, rfl⟩ hs₁
    exact .pure hs₁ ⟨rfl, _, desk.inMode_addCursor c m, desk.inMode_addCursor c m'⟩
  | use cursor u slot shown =>
    exact desk.withCursor_inMode m m' cursor hs fun c s₁ s₁' hs₁ =>
      (Cursor.Use.alike_inMode c m m' hop slot shown hs₁).returning _
  | leave cursor failed =>
    refine desk.withCursor_inMode m m' cursor hs fun c s₁ s₁' hs₁ => ?_
    exact (c.leave_inMode m m' failed hs₁).returning fun _ => Reply.done
  | wait ms => exact .pure (hs.elapse (fun _ => trivial) ms) (desk.mirrored m m' .done)

/-- Results that look alike give the same reply and leave one desk in two modes. -/
theorem next_of_results {r r' : Except Failure (Reply α × Desk α)}
    (h : Likeness.modes.Results (Mirrored m m') r r') :
    r'.map Prod.fst = r.map Prod.fst ∧ ∃ next : Desk α,
      (r.toOption.map Prod.snd).getD (desk.inMode m) = next.inMode m ∧
        (r'.toOption.map Prod.snd).getD (desk.inMode m') = next.inMode m' := by
  cases h with
  | ok h =>
    obtain ⟨hreply, next, hnext, hnext'⟩ := h
    exact ⟨congrArg Except.ok hreply, next, hnext, hnext'⟩
  | error he =>
    have hsame : (.error _ : Except Failure (Reply α)) = .error _ :=
      Likeness.modes_results (.error he)
    exact ⟨hsame, desk, rfl, rfl⟩

/-- **One step:** the same is put down of an operation in both modes, and it leaves desks and scenes
behind that look alike. -/
theorem turn_inMode {op : Operation α} (hop : op.Plain) {s s' : Scene}
    (hs : Likeness.modes.Scenes Likeness.modes.Level s s') :
    ((desk.inMode m').turn op s').1 = ((desk.inMode m).turn op s).1 ∧
      ∃ next : Desk α, ((desk.inMode m).turn op s).2.1 = next.inMode m ∧
        ((desk.inMode m').turn op s').2.1 = next.inMode m' ∧
        Likeness.modes.Scenes Likeness.modes.Level ((desk.inMode m).turn op s).2.2
          ((desk.inMode m').turn op s').2.2 := by
  obtain ⟨hresults, hscenes⟩ := desk.perform_inMode m m' hop hs
  obtain ⟨hreply, next, hnext, hnext'⟩ := desk.next_of_results m m' hresults
  refine ⟨?_, next, hnext, hnext', hscenes⟩
  unfold turn
  dsimp only
  rw [hreply, Likeness.modes_sent hs, Likeness.modes_sent hscenes, hscenes.cursors.1,
    hscenes.journal]

/-- **Any number of steps:** the same is put down of them in both modes, and they leave desks and
scenes behind that look alike. -/
theorem follow_inMode {ops : List (Operation α)} (hops : ∀ op ∈ ops, op.Plain) {s s' : Scene}
    (hs : Likeness.modes.Scenes Likeness.modes.Level s s') :
    ((desk.inMode m').follow ops s').1 = ((desk.inMode m).follow ops s).1 ∧
      ∃ last : Desk α, ((desk.inMode m).follow ops s).2.1 = last.inMode m ∧
        ((desk.inMode m').follow ops s').2.1 = last.inMode m' ∧
        Likeness.modes.Scenes Likeness.modes.Level ((desk.inMode m).follow ops s).2.2
          ((desk.inMode m').follow ops s').2.2 := by
  induction ops generalizing desk s s' with
  | nil => exact ⟨rfl, desk, rfl, rfl, hs⟩
  | cons op ops ih =>
    obtain ⟨hstep, next, hnext, hnext', hscenes⟩ :=
      desk.turn_inMode m m' (hops op List.mem_cons_self) hs
    -- the desks behind the first step are again one desk in two modes
    obtain ⟨hsteps, hend⟩ := ih next (fun op hop => hops op (List.mem_cons_of_mem _ hop)) hscenes
    rw [← hnext, ← hnext'] at hsteps hend
    exact ⟨congrArg₂ List.cons hstep hsteps, hend⟩

end Desk

/-- Two scenes agree: in all that a caller can find out about them but the log. -/
structure Scene.Agrees (s s' : Scene) : Prop where
  now : s'.now = s.now
  script : s'.script = s.script
  sent : s'.sent = s.sent
  cursors : s'.cursors = s.cursors
  journal : s'.journal = s.journal
  closes : s'.closes = s.closes

/-- **The modes agree.** Whatever is done at a desk, one operation after the other and with plain
functions, comes to the same in both modes at each step: the same reply or the same failure, the
same requests in the same order, and the same states of all cursors. What the caller has at hand in
the end differs in nothing but its mode, and the scenes agree. -/
theorem Desk.follow_modes (desk : Desk α) {s : Scene}
    (hidle : ∀ ref, (s.cursors ref).fetching = false) {ops : List (Operation α)}
    (hops : ∀ op ∈ ops, op.Plain) :
    let blocking := (desk.inMode .blocking).follow ops s
    let async := (desk.inMode .async).follow ops s
    async.1 = blocking.1 ∧ async.2.1 = blocking.2.1.inMode .async ∧
      blocking.2.2.Agrees async.2.2 := by
  obtain ⟨hsteps, last, hlast, hlast', hend⟩ :=
    desk.follow_inMode .blocking .async hops (Likeness.modes_scenes hidle)
  refine ⟨hsteps, ?_, hend.now, hend.script, Likeness.modes_sent hend, hend.cursors.1, hend.journal,
    hend.closes⟩
  rw [hlast, hlast', inMode_inMode]

/-- A query is read batch by batch and then item by item, and its cursor is left. -/
theorem Desk.follow_modes_specimen :
    let desk : Desk Value := ⟨.blocking, [(Database.specimen .blocking).session], []⟩
    let ops : List (Operation Value) :=
      [.cursor 0 (some "shop") Query.specimen Mapper.raw none none,
        .use 0 .nextBatch 0 id,
        .wait 5,
        .use 0 (.forEach (fun item => do
          Program.update (.elapsed 1)
          return item.truthy) none none) 0 id,
        .leave 0 false]
    (∀ ref, (Scene.late.cursors ref).fetching = false) ∧ (∀ op ∈ ops, op.Plain) ∧
      let blocking := (desk.inMode .blocking).follow ops Scene.late
      let async := (desk.inMode .async).follow ops Scene.late
      async.1 = blocking.1 ∧ async.2.1 = blocking.2.1.inMode .async ∧
        blocking.2.2.Agrees async.2.2 := by
  intro desk ops
  have hidle : ∀ ref, (Scene.late.cursors ref).fetching = false := fun _ => rfl
  have hops : ∀ op ∈ ops, op.Plain := by
    intro op hop
    simp only [ops, List.mem_cons, List.not_mem_nil, or_false] at hop
    obtain rfl | rfl | rfl | rfl | rfl := hop
    · trivial
    · trivial
    · trivial
    · exact fun item => ⟨trivial, trivial⟩
    · trivial
  exact ⟨hidle, hops, desk.follow_modes hidle hops⟩

end AqlClient
