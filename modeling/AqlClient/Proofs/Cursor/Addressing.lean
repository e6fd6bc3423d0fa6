import AqlClient.Client
import AqlClient.Proofs.Cursor.Licences

/-!
# Cursors of many databases

Any number of tasks may work with any number of cursors, which belong to databases of any number of
sessions. Those that work with cursors have licences; all others are strangers to them
(`Program.Strange`), such as those that make and close sessions or ask for the collections of a
database (`Client.strange_connect` and the lemmas behind it).

`Licence.addressed` says of the course of such a pool that each request for a cursor goes to the
place of its database, by the name that came last with a batch of that cursor, with the headers of
its session, and that what happens to a cursor has been done by those who may use it. There is a
slash between the address of the server and the path of the database only if there is an address
(`Database.cursor_unaddressed`).
-/

namespace AqlClient

variable {α β γ : Type}

/-! ### Strangers -/

namespace Program

/-- **A stranger to all cursors** makes and changes none. It may send anything. -/
def Strange (p : Program α) : Prop := p.Within Change.sparesCursors fun _ => True

theorem strange_record (level : LogLevel) (text : String) : (record level text).Strange :=
  ⟨trivial, trivial⟩

theorem strange_view (f : Scene → α) : (view f).Strange := fun _ => trivial

/-- What can be reckoned with is nobody's business. -/
theorem strange_ofExcept (r : Except Failure α) : (ofExcept r).Strange := trivial

theorem Strange.bind {p : Program α} {f : α → Program β} (hp : p.Strange)
    (hf : ∀ a, (f a).Strange) : (p >>= f).Strange :=
  Within.bind hp hf

end Program

open Program (Strange)

theorem Gateway.strange_request (g : Gateway) (mode : Mode) (call : Call) :
    (g.request mode call).Strange :=
  within_request (fun _ _ => trivial) fun _ => trivial

namespace Session

variable (s : Session)

theorem strange_close : s.close.Strange := by
  unfold close
  split
  · exact ⟨trivial, trivial⟩
  · trivial

theorem strange_request (method path : String) (payload : Value) (params : Entries)
    (requestLimit timeout : Option Int) :
    (s.request method path payload params requestLimit timeout).Strange := by
  unfold request
  refine .bind (Program.strange_record _ _) fun _ => ?_
  refine .bind (s.gateway.strange_request _ _) fun envelope => ?_
  exact .bind (Program.strange_record _ _) fun _ => trivial

end Session

theorem Database.strange_collections (d : Database) (excludeSystem : Bool)
    (request timeout : Option Int) : (d.collections excludeSystem request timeout).Strange := by
  unfold collections
  refine .bind (Program.strange_record _ _) fun _ => ?_
  refine .bind (d.gateway.strange_request _ _) fun envelope => ?_
  exact .bind (Program.strange_record _ _) fun _ => Program.strange_ofExcept _

theorem Client.strange_settledCredentials (mode : Mode) (address : String) (options : Options)
    (deadline : Deadline) : (settledCredentials mode address options deadline).Strange := by
  unfold settledCredentials
  split
  · refine .bind (Program.strange_view _) fun time => ?_
    refine .bind (Program.strange_ofExcept _) fun limit => ?_
    refine .bind (Program.strange_record _ _) fun _ => ?_
    refine .bind (Gateway.strange_request _ _ _) fun envelope => ?_
    refine .bind (Program.strange_record _ _) fun _ => ?_
    exact .bind (Program.strange_ofExcept _) fun _ => trivial
  · trivial

theorem Client.strange_establish (mode : Mode) (address : String) (options : Options)
    (ownsTransport : Bool) (deadline : Deadline) :
    (establish mode address options ownsTransport deadline).Strange := by
  unfold establish
  refine .bind (strange_settledCredentials _ _ _ _) fun settled => ?_
  have hopened : (Session.opened mode address options settled ownsTransport).Strange :=
    fun s => ⟨trivial, trivial⟩
  refine .bind hopened fun session => ?_
  refine .bind (Program.strange_record _ _) fun _ => ?_
  refine .bind (Program.strange_view _) fun time => ?_
  refine .bind (Program.strange_ofExcept _) fun limit => ?_
  refine .bind (Gateway.strange_request _ _ _) fun envelope => ?_
  exact .bind (Program.strange_ofExcept _) fun _ => trivial

/-- **Making a session is none of the cursors' business.** -/
theorem Client.strange_connect (c : Client) (mode : Mode) (address : String)
    (credentials : Option Credentials) (options : Option OptionsOverride) (ownsTransport : Bool) :
    (c.connect mode address credentials options ownsTransport).Strange := by
  unfold connect
  refine .bind (Program.strange_view _) fun time => ?_
  refine .bind (Program.strange_ofExcept _) fun deadline => ?_
  refine .bind (Program.Within.attempt (strange_establish _ _ _ _ _)) fun made => ?_
  cases made with
  | ok made => exact .bind (Program.strange_record _ _) fun _ => trivial
  | error e =>
    cases ownsTransport with
    | true => exact ⟨trivial, trivial⟩
    | false => trivial

/-! ### Roles -/

/-- Who takes part in a pool. -/
inductive Role where
  | licensed (L : Licence)
  | stranger

namespace Role

/-- What those who take part may do. -/
def Joins : Role → (γ : Type) → Program γ → Prop
  | licensed L, _, program => L.Covers program
  | stranger, _, program => program.Strange

/-- What happens in the stretches of those who take part. -/
def rule : Role → StretchRule
  | licensed L => L.rule
  | stranger => fun o s _ => s.cursors = o.scene.cursors ∧ s.cursorCount = o.scene.cursorCount

theorem abides_strange {program : Program γ} (h : program.Strange) (o : Outset) (s : Scene)
    (hs : s.cursors = o.scene.cursors ∧ s.cursorCount = o.scene.cursorCount) :
    program.Abides Scene.Booked stranger.rule o s := by
  unfold Program.Abides
  induction program generalizing o s with
  | done r => exact hs
  | look next ih => exact ih s (h s) o s hs
  | act change next ih =>
    refine ih h.2 o _ ?_
    have hspares := h.1
    cases change with
    | cursor ref change => exact hspares.elim
    | cursorMade => exact hspares.elim
    | elapsed ms => exact hs
    | logged level text => exact hs
    | sessionMade => exact hs
    | transportClosed => exact hs
    | noted ref remark => exact hs
  | exchange q next ih =>
    refine ⟨hs, ?_⟩
    rintro o' reply s' ⟨-, -, rfl⟩
    exact ih reply (h.2 reply) _ s' ⟨rfl, rfl⟩

theorem Joins.abides {role : Role} {program : Program γ} (h : role.Joins γ program) {s : Scene}
    (hs : s.Booked) : program.Abides Scene.Booked role.rule (.first s) s := by
  cases role with
  | licensed L => exact Licence.Covers.abides h hs
  | stranger => exact abides_strange h _ s ⟨rfl, rfl⟩

end Role

/-! ### What becomes of the cursors -/

/-- **In a pool with some stretches the cursors are addressed as they should be,** and leave each
other alone. -/
structure TaskPool.Addressed (s₀ : Scene) (p : TaskPool β) (stretches : List (Stretch Role)) :
    Prop where
  /-- Each request that has been sent ends a stretch. -/
  sent : p.scene.sent = s₀.sent ++ stretches.filterMap Stretch.request
  /-- Between the stretches nothing happens but that time passes. -/
  unbroken : Unbroken s₀ stretches p.scene
  /-- A request goes where it belongs. -/
  requests : ∀ t ∈ stretches, ∀ L, t.role = .licensed L → ∀ q, t.request = some q →
    L.Sends (t.outset.owned t.after) t.after q
  /-- Cursors that a program may not use stay as they are, and so do sessions and transports. -/
  others : ∀ t ∈ stretches, ∀ L, t.role = .licensed L → L.Spares t.outset t.after
  /-- Strangers leave all cursors as they are. -/
  strangers : ∀ t ∈ stretches, t.role = .stranger →
    t.after.cursors = t.outset.scene.cursors ∧ t.after.cursorCount = t.outset.scene.cursorCount

/-- **All cursors are addressed as they should be, and leave each other alone,** whatever tasks
there are and in whatever order they get their turns. A numeric name of a cursor is used as its
decimal text. -/
theorem TaskPool.Course.addressed {now : Int} {script : List Outcome} {p : TaskPool β}
    {pending : List (WaitingTask β)} {stretches : List (Stretch Role)}
    (h : p.Course Role.Joins (Scene.start now script) pending stretches) :
    p.Addressed (Scene.start now script) stretches ∧
      ∀ envelope b i, Batch.ofEnvelope envelope = .ok b → envelope.get? "id" = some (.int i) →
        b.cursorId = some (Numeral.ofInt i) := by
  have hjoins : ∀ (role : Role) (γ : Type) (program : Program γ), role.Joins γ program →
      ∀ s, s.Booked → program.Abides Scene.Booked role.rule (.first s) s :=
    fun role γ program hprogram s hs => hprogram.abides hs
  have hfollows : ∀ t ∈ stretches, t.role.rule t.outset t.after t.request :=
    h.follows Scene.lasting_booked hjoins (Scene.booked_start now script)
  refine ⟨⟨h.sent, h.unbroken, ?_, ?_, ?_⟩, ?_⟩
  · intro t ht L hrole q hq
    have hrule := hfollows t ht
    rw [hrole] at hrule
    exact hrule.2 q hq
  · intro t ht L hrole
    have hrule := hfollows t ht
    rw [hrole] at hrule
    exact hrule.1
  · intro t ht hrole
    have hrule := hfollows t ht
    rw [hrole] at hrule
    exact hrule
  · intro envelope b i hb hi
    rw [Batch.cursorId_ofEnvelope hb, hi]
    rfl

/-- A licence for the cursors that are made in one database. -/
def Licence.specimen : Licence where
  holds _ _ := False
  serves d := d = Database.specimen .blocking
  others _ := False

/-- A task that submits a query and closes its cursor, which waits for the answer to the release. -/
def TaskPool.specimen : TaskPool Unit :=
  ((TaskPool.start Scene.specimen).spawn do
    let c ← (Database.specimen .blocking).cursor Query.specimen Mapper.raw none none
    c.close).2

theorem TaskPool.Course.addressed_specimen : ∃ stretches,
    TaskPool.specimen.Course Role.Joins (Scene.start 0 Scene.specimen.script) [] stretches ∧
      TaskPool.specimen.scene.sent.map (fun q => (q.method, q.url)) =
        [("POST", "http://server/_db/shop/_api/cursor"),
          ("DELETE", "http://server/_db/shop/_api/cursor/7")] ∧
      TaskPool.specimen.Addressed (Scene.start 0 Scene.specimen.script) stretches := by
  have hjoins : (Role.licensed .specimen).Joins Unit
      ((Database.specimen .blocking).cursor Query.specimen Mapper.raw none none >>= Cursor.close) :=
    .cursor none none rfl fun c hservice => .close ⟨_, .inr ⟨rfl, rfl⟩, hservice⟩
  let none : TaskPool Unit := TaskPool.start (Scene.start 0 Scene.specimen.script)
  have hstart : none.Course Role.Joins (Scene.start 0 Scene.specimen.script) [] [] := .start
  have hcourse := hstart.spawn hjoins
  exact ⟨_, hcourse, by decide +kernel, (TaskPool.Course.addressed hcourse).1⟩

/-- Without an address of the server there is no slash before the path of the database. -/
theorem Database.cursor_unaddressed : ∃ d : Database, d.name ≠ "" ∧
    ((d.cursor Query.specimen Mapper.raw none none).run (Scene.start 0 [])).2.sent.map
      (fun q => (q.method, q.url)) = [("POST", "_db/shop/_api/cursor")] ∧
    Url.trimEnd d.session.address ++ "/_db/" ++ Percent.encode d.name ++ "/_api/cursor" ≠
      "_db/shop/_api/cursor" := by
  refine ⟨⟨{ (Database.specimen .blocking).session with address := "" }, "shop"⟩, ?_, rfl, ?_⟩
  · decide
  · decide

end AqlClient
