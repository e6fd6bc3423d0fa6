import AqlClient.Proofs.Cursor.Licences
import AqlClient.Proofs.Cursor.Sending

/-!
# What is done in a session

Whoever has a session may make requests of its server, use its databases and their cursors, and
close it, in any order and as often as they like (`Session.Uses`). What they do but for closing is
the matter of a licence (`Session.licence`), and all operations of sessions, databases and
collections keep to it.

All requests in the session carry the headers of the session (`Session.Uses.headers`), which are
fixed when it is made.
-/

namespace AqlClient

variable {α β : Type}

/-! ### Kinds of requests -/

namespace Licence

/-- **All that is sent on a licence** is of some kind: what is sent on its own account, and whatever
a database sends in which there are cursors. -/
structure Permits (L : Licence) (may : Request → Prop) : Prop where
  others : ∀ q, L.others q → may q
  serves : ∀ d, L.serves d → ∀ call body, may (d.gateway.requestFor call body)
  holds : ∀ ref d, L.holds ref d → ∀ call body, may (d.gateway.requestFor call body)

variable {L : Licence} {may : Request → Prop}

theorem Permits.plus (h : L.Permits may) {ref : Nat} {d : Database} (hd : L.serves d) :
    (L.plus ref d).Permits may where
  others := h.others
  serves := h.serves
  holds := by
    rintro r e (hheld | ⟨-, rfl⟩)
    · exact h.holds r e hheld
    · exact h.serves e hd

theorem permits_within {p : Program β} (h : L.Permits may)
    (hp : p.Within Change.sparesAll L.others) (s : Scene) : p.Sends (fun _ => may) s := by
  unfold Program.Sends
  induction p generalizing s with
  | done r => trivial
  | look next ih => exact ih s (hp s) s
  | act change next ih => exact ih hp.2 _
  | exchange q next ih => exact ⟨h.others q hp.1, fun _ reply s' _ => ih reply (hp.2 reply) s'⟩

/-- **Sending requests of a kind** is upheld by licensed programs. -/
theorem upheld_permits (may : Request → Prop) :
    Upheld (.timed fun _ => may) fun L _ _ => L.Permits may where
  aside hp w s h :=
    Program.wp_mono (permits_within h hp s) fun _ _ _ _ => ⟨h, fun _ _ => trivial⟩
  upkeep := by
    rintro L α c ⟨d, hd, hservice⟩
    have hrequest : L.Permits may → ∀ method id limit body,
        may (c.request method id limit body) := by
      intro h method id limit body
      unfold Cursor.request
      rw [hservice]
      exact h.holds c.ref d hd _ body
    refine ⟨fun _ _ _ _ h => h, fun deadline w s h _ => ?_, fun w s h => ?_, trivial, trivial⟩
    · refine Program.wp_mono (Cursor.sends_fetchNext fun id limit body _ => ?_) fun _ _ _ _ => ?_
      · exact hrequest h _ _ _ _
      · exact ⟨h, fun _ _ => trivial⟩
    · refine Program.wp_mono (Cursor.sends_close fun _ id body => ?_) fun _ _ _ _ => ?_
      · exact hrequest h _ _ _ _
      · exact ⟨h, fun _ _ => trivial⟩
  handOut hc number w s h := by
    rw [Cursor.wp_handOut]
    split
    · exact Program.kept_ok h
    · exact Program.kept_error h trivial
  made q mapper limit requestLimit overallLimit w s hd h := by
    refine Program.wp_seq (QueryService.sends_submit fun body => h.serves _ hd _ body)
      (fun first w s _ => ?_) fun e w s _ => ?_
    · unfold Cursor.opened
      rw [Program.wp_view_bind, Program.wp_update_bind]
      refine Program.wp_seq (Cursor.sends_ingest first) (fun _ w s _ => ?_) fun e w s _ => ?_
      · refine ⟨h, ?_⟩
        rintro _ ⟨⟩
        exact ⟨rfl, h.plus hd⟩
      · exact ⟨h, fun c hc => by cases hc⟩
    · exact ⟨h, fun c hc => by cases hc⟩
  of_plus h := ⟨h.others, h.serves, fun ref d hd => h.holds ref d (.inl hd)⟩

/-- **A licensed program sends requests of a kind** if those of its licence are. -/
theorem Covers.sends {p : Program β} (hp : L.Covers p) (h : L.Permits may) (s : Scene) :
    p.Sends (fun _ => may) s :=
  Program.wp_mono (hp.upholds (upheld_permits may) h) fun _ _ _ _ => trivial

end Licence

/-! ### The licence for a session -/

namespace Session

variable {session : Session} {d : Database} {c : Collection}

/-- **The licence of those who have a session:** they may call its server, use all cursors of its
databases, and make more of them. -/
def licence (session : Session) : Licence where
  holds _ d := d.session = session
  serves d := d.session = session
  others q := ∃ call body, q = session.gateway.requestFor call body ∨
    ∃ d : Database, d.session = session ∧ q = d.gateway.requestFor call body

theorem covers_report (text : String) : session.licence.Covers (session.report text) :=
  .aside ⟨trivial, trivial⟩

theorem covers_ofExcept (r : Except Failure β) :
    session.licence.Covers (Program.ofExcept r) :=
  .aside trivial

/-- Requests of any kind. -/
theorem covers_request (method path : String) (payload : Value) (params : Entries)
    (request timeout : Option Int) :
    session.licence.Covers (session.request method path payload params request timeout) := by
  unfold Session.request
  refine .bind (covers_report _) fun _ => ?_
  refine .bind ?_ fun envelope => .bind (covers_report _) fun _ => covers_ofExcept (.ok envelope)
  exact .aside (Gateway.within_request (fun _ _ => trivial) fun body => ⟨_, body, .inl rfl⟩)

theorem covers_version (request timeout : Option Int) :
    session.licence.Covers (session.version request timeout) :=
  .bind (covers_request _ _ _ _ _ _) fun _ => covers_ofExcept _

theorem covers_accessibleDatabases (request timeout : Option Int) :
    session.licence.Covers (session.accessibleDatabases request timeout) :=
  .bind (covers_request _ _ _ _ _ _) fun _ => covers_ofExcept _

theorem covers_allDatabases (request timeout : Option Int) :
    session.licence.Covers (session.allDatabases request timeout) :=
  .bind (covers_request _ _ _ _ _ _) fun _ => covers_ofExcept _

section Databases

variable (hd : d.session = session)

include hd

/-- What is asked of a database, between two lines of the log. -/
theorem covers_asked {before after path : String} {params : Entries} {request timeout : Option Int}
    {parse : Entries → Program β} (hparse : ∀ envelope, session.licence.Covers (parse envelope)) :
    session.licence.Covers (do
      d.session.report before
      let envelope ← d.get path params request timeout
      d.session.report after
      parse envelope) := by
  subst hd
  refine .bind (covers_report _) fun _ => .bind ?_ fun envelope =>
    .bind (covers_report _) fun _ => hparse envelope
  refine .aside (Gateway.within_request (fun _ _ => trivial) fun body => ?_)
  exact ⟨_, body, .inr ⟨d, rfl, rfl⟩⟩

theorem covers_info (request timeout : Option Int) :
    session.licence.Covers (d.info request timeout) :=
  covers_asked hd fun _ => .bind (covers_ofExcept _) fun _ => covers_ofExcept _

theorem covers_collections (excludeSystem : Bool) (request timeout : Option Int) :
    session.licence.Covers (d.collections excludeSystem request timeout) :=
  covers_asked hd fun _ => covers_ofExcept _

end Databases

theorem covers_collectionInfo (hc : c.database.session = session) (request timeout : Option Int) :
    session.licence.Covers (c.info request timeout) :=
  covers_asked hc fun _ => covers_ofExcept _

theorem covers_count (hc : c.database.session = session) (request timeout : Option Int) :
    session.licence.Covers (c.count request timeout) :=
  covers_asked hc fun _ => covers_ofExcept _

/-! ### All that is done in a session -/

/-- **The programs that use a session:** those with a licence for it, and those that close it too.
-/
inductive Uses (session : Session) : {β : Type} → Program β → Prop
  | licensed {β : Type} {p : Program β} : session.licence.Covers p → Uses session p
  | close : Uses session session.close
  | bind {β γ : Type} {p : Program β} {f : β → Program γ} :
      Uses session p → (∀ b, Uses session (f b)) → Uses session (p >>= f)
  | attempt {β : Type} {p : Program β} : Uses session p → Uses session p.attempt

theorem uses_closing {body : Program β} (hbody : session.Uses body) :
    session.Uses (session.closing body) :=
  .bind hbody.attempt fun r => .bind .close fun _ => .licensed (covers_ofExcept r)

theorem permits_headers (session : Session) :
    session.licence.Permits fun q => q.headers = session.gateway.fullHeaders where
  others := by
    rintro q ⟨call, body, rfl | ⟨d, rfl, rfl⟩⟩
    · rfl
    · exact d.fullHeaders_gateway
  serves := by
    rintro d rfl call body
    exact d.fullHeaders_gateway
  holds := by
    rintro ref d rfl call body
    exact d.fullHeaders_gateway

/-- **All requests in a session carry the same headers,** whatever comes back and whatever the
others do. -/
theorem Uses.headers {p : Program β} (hp : session.Uses p) (s : Scene) :
    p.Sends (fun _ q => q.headers = session.gateway.fullHeaders) s := by
  induction hp generalizing s with
  | licensed hp => exact hp.sends session.permits_headers s
  | close =>
    unfold Session.close
    split
    · trivial
    · trivial
  | bind _ _ ihp ihf => exact (ihp s).bind fun b s' => ihf b s'
  | attempt _ ih =>
    unfold Program.Sends
    rw [Program.wp_attempt]
    exact ih s

end Session

end AqlClient
