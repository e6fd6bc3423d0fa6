import AqlClient.Client
import AqlClient.Proofs.Cursor.Delivery
import AqlClient.Proofs.Cursor.Twins

/-!
# The two modes

What the client does in one mode it does in the other one as well. Everything that holds a mode can
be put into another one (`Session.inMode`, `Cursor.inMode`), and what an operation does with it then
runs alike, where nothing is left out of the comparison but the log and the mark for a fetch
(`Likeness.modes`): the same requests at the same times, the same results and the same failures.

A function that is called on items is the only thing in which the modes could be told apart from
outside, because a function that is no task of its own cannot wait for anything in the asynchronous
mode. Those that make use of nothing but what is the same in both modes are *plain*
(`Program.Plain`).
-/

namespace AqlClient

variable {α β : Type}

open Program (Alike AlwaysAlike)

/-! ### Comparing modes -/

namespace Likeness

/-- **How the two modes are compared:** all that there is to a limit is seen, and the runs are of
different modes. -/
def modes : Likeness := ⟨id, fun _ => True, True⟩

theorem modes_results {r r' : Except Failure β} (h : modes.Results Eq r r') : r' = r := by
  cases h with
  | ok h => rw [h]
  | error h =>
    cases h with
    | same e => rfl
    | @exchange part text url body limit limit' h => rw [show limit = limit' from h]

/-- A scene looks like itself in both modes as long as no batch is on its way. -/
theorem modes_scenes {s : Scene} (h : ∀ ref, (s.cursors ref).fetching = false) :
    modes.Scenes modes.Level s s where
  now := rfl
  script := rfl
  history := rfl
  cursors := ⟨rfl, fun _ => h⟩
  cursorCount := rfl
  sessionCount := rfl
  closes := rfl
  journal := rfl
  moments _ := trivial

/-- The same requests are sent in both modes. -/
theorem modes_sent {C : (Nat → CursorState) → (Nat → CursorState) → Prop} {s s' : Scene}
    (h : modes.Scenes C s s') : s'.sent = s.sent := by
  have hseen : modes.request = id := rfl
  have hsent := h.sent
  rwa [hseen, List.map_id, List.map_id] at hsent

end Likeness

/-! ### Plain programs -/

/-- What a program that is no part of the client can find out in a scene. -/
def Scene.sight (s : Scene) : Int × (Nat → CursorState) × (Nat → List Value) :=
  (s.now, s.cursors, s.journal)

/-- The steps that a program can take that is no part of the client. -/
def Change.IsPlain : Change → Prop
  | .elapsed _ | .logged .. | .noted .. => True
  | _ => False

/-- **A plain program** is no part of the client: it sends nothing and does nothing to a cursor or a
session, but it may take its time, make notes and fail. -/
def Program.Plain : Program β → Prop
  | .done _ => True
  | .look next => (∀ s s' : Scene, s'.sight = s.sight → next s' = next s) ∧ ∀ s, (next s).Plain
  | .act change next => change.IsPlain ∧ next.Plain
  | .exchange .. => False

/-- **A plain program runs alike in both modes.** -/
theorem Program.Plain.alike {p : Program β} (h : p.Plain) : AlwaysAlike .modes p p := by
  induction p with
  | done r => exact fun s s' hs => ⟨.refl _ (fun _ => rfl) r, hs⟩
  | look next ih =>
    intro s s' hs
    -- what it can find out is the same in both scenes, so that it goes on in the same way
    have hsight : s'.sight = s.sight := by
      unfold Scene.sight
      rw [hs.now, hs.cursors.1, hs.journal]
    show Alike .modes _ Eq (next s) (next s') s s'
    rw [h.1 s s' hsight]
    exact ih s (h.2 s) hs
  | act change next ih =>
    intro s s' hs
    cases change with
    | elapsed ms => exact ih h.2 (hs.elapse (fun _ => trivial) ms)
    | logged level text => exact ih h.2 (hs.log _ _)
    | noted slot remark => exact ih h.2 (hs.note slot remark)
    | _ => exact h.1.elim
  | exchange q next ih => exact h.elim

/-! ### Cursors -/

/-- A gateway for transports of a mode. -/
def Gateway.inMode (g : Gateway) (mode : Mode) : Gateway := { g with channel := some mode }

/-- A query service that works in a mode. -/
def QueryService.inMode (service : QueryService) (mode : Mode) : QueryService :=
  ⟨service.gateway.inMode mode, service.database, mode⟩

theorem QueryService.twin_inMode (service : QueryService) (m m' : Mode) :
    (service.inMode m).Twin .modes (service.inMode m') := ⟨⟨rfl, rfl⟩, .inr trivial⟩

namespace Cursor

/-- A cursor that works in a mode. -/
def inMode (c : Cursor α) (mode : Mode) : Cursor α := { c with service := c.service.inMode mode }

variable (c : Cursor α) (m m' : Mode)

theorem twin_inMode : Twin .modes (c.inMode m) (c.inMode m') where
  ref := rfl
  mapper := rfl
  service := c.service.twin_inMode m m'
  limits := rfl

/-- The same deadline allows for the same requests in both modes. -/
theorem timed_inMode (deadline : Option Deadline) :
    Timed .modes (c.inMode m) (c.inMode m') deadline deadline := by
  intro now _
  have hlimits : ∀ limit, Likeness.modes.Limits limit limit := fun _ => rfl
  exact .refl _ hlimits ((c.inMode m).limitAt deadline now)

/-- Deadlines that are started alike allow for the same requests in both modes. -/
theorem started_inMode (started : Except Failure Deadline) :
    Likeness.modes.Results
      (fun d d' => Timed .modes (c.inMode m) (c.inMode m') (some d) (some d')) started started :=
  .refl _ (fun d => c.timed_inMode m m' (some d)) started

/-- The functions that are called on items are plain. -/
def Use.Plain : Use α → Prop
  | .forEach visit _ _ => ∀ a, (visit a).Plain
  | _ => True

/-- **A cursor is used alike in both modes.** -/
theorem Use.alike_inMode {u : Use α} (hu : u.Plain) (slot : Nat) (shown : α → Value) :
    AlwaysAlike .modes (u.perform (c.inMode m) slot shown) (u.perform (c.inMode m') slot shown) := by
  intro s s' hs
  have htwin : Twin .modes (c.inMode m) (c.inMode m') := c.twin_inMode m m'
  cases u with
  | next => exact (htwin.next hs).returning _
  | nextBatch => exact (htwin.nextBatch hs).returning _
  | hasNext => exact (htwin.hasNext hs).returning _
  | close => exact (htwin.close hs).returning _
  | toList general timeout =>
    exact (htwin.toList general timeout (c.started_inMode m m' _) hs).returning _
  | forEach visit general timeout =>
    have hnoting : ∀ a, AlwaysAlike .modes (noting slot shown visit a) (noting slot shown visit a) := by
      intro a
      have hplain : (noting slot shown visit a).Plain := ⟨trivial, hu a⟩
      exact hplain.alike
    exact (htwin.forEach hnoting general timeout (c.started_inMode m m' _) hs).returning _

/-- What happens to a cursor at the end of a block that it was used in, which may have failed. -/
def leave (c : Cursor α) (failed : Bool) : Program Unit :=
  if failed then c.closeAfterFailure else c.close

/-- **A cursor is left alike in both modes.** -/
theorem leave_inMode (failed : Bool) :
    AlwaysAlike .modes ((c.inMode m).leave failed) ((c.inMode m').leave failed) := by
  intro s s' hs
  cases failed with
  | true => exact (c.twin_inMode m m').closeAfterFailure hs
  | false => exact (c.twin_inMode m m').close hs

end Cursor

/-- What relates the cursors that are made in two modes. -/
def Cursor.Mirrored (m m' : Mode) (c c' : Cursor α) : Prop :=
  ∃ neutral : Cursor α, c = neutral.inMode m ∧ c' = neutral.inMode m'

/-- **The same cursor is made of a batch in both modes.** -/
theorem Cursor.opened_inMode (m m' : Mode) (service : QueryService) (mapper : Mapper α)
    (requestLimit overallLimit : Value) (first : Batch) {s s' : Scene}
    (hs : Likeness.modes.Scenes Likeness.modes.Level s s') :
    Alike .modes Likeness.modes.Level (Mirrored m m')
      (opened (service.inMode m) mapper requestLimit overallLimit first)
      (opened (service.inMode m') mapper requestLimit overallLimit first) s s' := by
  have hlimits : Likeness.modes.Limits ⟨requestLimit, .null, some requestTimeoutLabel⟩
      ⟨requestLimit, .null, some requestTimeoutLabel⟩ := rfl
  refine (opened_alike (service.twin_inMode m m') hlimits first hs).mono ?_
  rintro _ _ ⟨ref, rfl, rfl⟩
  exact ⟨⟨ref, service, mapper, requestLimit, overallLimit⟩, rfl, rfl⟩

/-! ### Databases -/

/-- A session of a mode. -/
def Session.inMode (session : Session) (mode : Mode) : Session := { session with mode := mode }

namespace Database

/-- A database of a session of a mode. -/
def inMode (d : Database) (mode : Mode) : Database := { d with session := d.session.inMode mode }

variable (d : Database) (m m' : Mode)

/-- What is asked for between two lines in the log is answered alike in both modes. -/
theorem get_inMode (before before' after after' path : String) (params : Entries)
    (request timeout : Option Int) {read : Entries → Program β}
    (hread : ∀ envelope, AlwaysAlike .modes (read envelope) (read envelope)) :
    AlwaysAlike .modes
      (do (d.inMode m).session.report before
          let envelope ← (d.inMode m).get path params request timeout
          (d.inMode m).session.report after
          read envelope)
      (do (d.inMode m').session.report before'
          let envelope ← (d.inMode m').get path params request timeout
          (d.inMode m').session.report after'
          read envelope) := by
  intro s s' hs
  have hgateway : (d.inMode m).gateway.Twin m (d.inMode m').gateway m' := ⟨rfl, rfl⟩
  refine .bind (.record hs _ _ _ _) fun _ _ s₁ s₁' _ hs₁ => ?_
  refine .bind (hgateway.request (.refl _ _) hs₁) ?_
  rintro envelope _ s₂ s₂' rfl hs₂
  exact .bind (.record hs₂ _ _ _ _) fun _ _ _ _ _ hs₃ => hread envelope hs₃

theorem collections_inMode (excludeSystem : Bool) (request timeout : Option Int) :
    AlwaysAlike .modes ((d.inMode m).collections excludeSystem request timeout)
      ((d.inMode m').collections excludeSystem request timeout) := by
  refine d.get_inMode m m' _ _ _ _ _ _ _ _ fun envelope s s' hs => ?_
  exact .ofExcept hs (.refl _ (fun _ => rfl) (collectionsOf envelope excludeSystem))

theorem info_inMode (request timeout : Option Int) :
    AlwaysAlike .modes ((d.inMode m).info request timeout) ((d.inMode m').info request timeout) := by
  refine d.get_inMode m m' _ _ _ _ _ _ _ _ fun envelope s s' hs => ?_
  refine .bind (.ofExcept hs (.refl _ (fun _ => rfl) _)) ?_
  rintro fields _ s₁ s₁' rfl hs₁
  exact .ofExcept hs₁ (.refl _ (fun _ => rfl) (DatabaseInfo.ofValue (.dict fields)))

/-- **A query leads to the same cursor in both modes.** -/
theorem cursor_inMode (q : Query) (mapper : Mapper α) (request timeout : Option Int) {s s' : Scene}
    (hs : Likeness.modes.Scenes Likeness.modes.Level s s') :
    Alike .modes Likeness.modes.Level (Cursor.Mirrored m m')
      ((d.inMode m).cursor q mapper request timeout)
      ((d.inMode m').cursor q mapper request timeout) s s' := by
  refine .bind ((d.service.twin_inMode m m').submit q rfl hs) ?_
  rintro first _ s₁ s₁' rfl hs₁
  exact Cursor.opened_inMode m m' d.service mapper _ _ first hs₁

/-- **A query comes to the same in both modes.** -/
theorem query_inMode (q : Query) (mapper : Mapper α) (general request timeout : Option Int) :
    AlwaysAlike .modes ((d.inMode m).query q mapper general request timeout)
      ((d.inMode m').query q mapper general request timeout) := by
  intro s s' hs
  -- both limits depend on the time alone, which is the same in both modes
  refine .byClock hs fun deadline s₁ s₁' hs₁ => ?_
  refine .byClock hs₁ fun limit s₂ s₂' hs₂ => ?_
  refine .bind ((d.service.twin_inMode m m').submit q rfl hs₂) ?_
  rintro first _ s₃ s₃' rfl hs₃
  refine .bind (Cursor.opened_inMode m m' d.service mapper _ _ first hs₃) ?_
  rintro _ _ s₄ s₄' ⟨c, rfl, rfl⟩ hs₄
  refine (c.twin_inMode m m').closing (.byClock hs₄ fun rest s₅ s₅' hs₅ => ?_)
  exact (c.twin_inMode m m').toListWithin (c.started_inMode m m' _) hs₅

end Database

/-! ### Clients -/

namespace Client

variable (m m' : Mode) {s s' : Scene}

/-- A login is exchanged for the same token in both modes. -/
theorem settledCredentials_modes (address : String) (options : Options) (deadline : Deadline) :
    AlwaysAlike .modes (settledCredentials m address options deadline)
      (settledCredentials m' address options deadline) := by
  intro s s' hs
  unfold settledCredentials
  cases options.credentials with
  | login username password =>
    have hgateway : (Gateway.toServer m address options (.login username password)).Twin m
        (Gateway.toServer m' address options (.login username password)) m' := ⟨rfl, rfl⟩
    refine .byClock hs fun limit s₁ s₁' hs₁ => ?_
    refine .bind (.record hs₁ _ _ _ _) fun _ _ s₂ s₂' _ hs₂ => ?_
    refine .bind (hgateway.request (.refl _ _) hs₂) ?_
    rintro envelope _ s₃ s₃' rfl hs₃
    refine .bind (.record hs₃ _ _ _ _) fun _ _ s₄ s₄' _ hs₄ => ?_
    refine .bind (.ofExcept hs₄ (.refl _ (fun _ => rfl) (tokenOf envelope))) ?_
    rintro token _ s₅ s₅' rfl hs₅
    exact .pure hs₅ rfl
  | _ => exact .pure hs rfl

/-- What relates the sessions that are made in two modes. -/
def Mirrored (session session' : Session) : Prop :=
  ∃ neutral : Session, session = neutral.inMode m ∧ session' = neutral.inMode m'

theorem opened_modes (address : String) (options : Options) (credentials : Credentials)
    (ownsTransport : Bool) (hs : Likeness.modes.Scenes Likeness.modes.Level s s') :
    Alike .modes Likeness.modes.Level (Mirrored m m')
      (Session.opened m address options credentials ownsTransport)
      (Session.opened m' address options credentials ownsTransport) s s' := by
  refine ⟨.ok ⟨⟨s.sessionCount, m, Url.trimEnd address, options, credentials, ownsTransport⟩, rfl, ?_⟩,
    hs.addSession⟩
  show (⟨s'.sessionCount, _, _, _, _, _⟩ : Session) = _
  rw [hs.sessionCount]
  rfl

/-- The server tells its version in both modes. -/
theorem establish_modes (address : String) (options : Options) (ownsTransport : Bool)
    (deadline : Deadline) (hs : Likeness.modes.Scenes Likeness.modes.Level s s') :
    Alike .modes Likeness.modes.Level (fun x x' => Mirrored m m' x.1 x'.1 ∧ x'.2 = x.2)
      (establish m address options ownsTransport deadline)
      (establish m' address options ownsTransport deadline) s s' := by
  unfold establish
  refine .bind (settledCredentials_modes m m' address options deadline hs) ?_
  rintro credentials _ s₁ s₁' rfl hs₁
  refine .bind (opened_modes m m' address options credentials ownsTransport hs₁) ?_
  rintro _ _ s₂ s₂' ⟨session, rfl, rfl⟩ hs₂
  have hgateway : (session.inMode m).gateway.Twin m (session.inMode m').gateway m' := ⟨rfl, rfl⟩
  refine .bind (.record hs₂ _ _ _ _) fun _ _ s₃ s₃' _ hs₃ => ?_
  refine .byClock hs₃ fun limit s₄ s₄' hs₄ => ?_
  refine .bind (hgateway.request (.refl _ _) hs₄) ?_
  rintro envelope _ s₅ s₅' rfl hs₅
  refine .bind (.ofExcept hs₅ (.refl _ (fun _ => rfl) (ServerVersion.ofValue (.dict envelope)))) ?_
  rintro version _ s₆ s₆' rfl hs₆
  exact .pure hs₆ ⟨⟨session, rfl, rfl⟩, rfl⟩

/-- **The same session is made in both modes,** or none. -/
theorem connect_modes (c : Client) (address : String) (credentials : Option Credentials)
    (options : Option OptionsOverride) (ownsTransport : Bool)
    (hs : Likeness.modes.Scenes Likeness.modes.Level s s') :
    Alike .modes Likeness.modes.Level (Mirrored m m')
      (c.connect m address credentials options ownsTransport)
      (c.connect m' address credentials options ownsTransport) s s' := by
  refine .byClock hs fun deadline s₁ s₁' hs₁ => ?_
  refine .bind (establish_modes m m' address _ ownsTransport deadline hs₁).attempt ?_
  rintro _ _ s₂ s₂' hr hs₂
  cases hr with
  | ok h => exact .bind (.record hs₂ _ _ _ _) fun _ _ _ _ _ hs₃ => .pure hs₃ h.1
  | error he =>
    -- a transport that was made for the session is closed in both modes
    cases ownsTransport with
    | true => exact .throw hs₂.closeTransport he
    | false => exact .throw hs₂ he

end Client

end AqlClient
