import AqlClient.Proofs.Program.Course
import AqlClient.Proofs.Program.Exchange

/-!
# What a program sends, and when

All requests of a program may be of a certain kind at the times at which they are sent
(`Program.Sends`). This is said of the program itself, whatever its exchanges come to and whatever
has happened to the scene until a reply is back, so that it holds however long an exchange takes and
whoever else is at work meanwhile. On its own, the program leaves such requests in the history
(`Program.Sends.run`).
-/

namespace AqlClient

variable {α β : Type} {may : Int → Request → Prop} {s : Scene}

/-- Anything may come back from an exchange, and to any scene, but the requests are of a certain
kind at the times at which they are sent. -/
def Discipline.timed (may : Int → Request → Prop) : Discipline Unit where
  may _ s q := may s.now q
  back _ _ _ _ _ _ := True

namespace Program

/-- **All requests of a program are of a certain kind at their times,** whatever comes back from its
exchanges. -/
def Sends (may : Int → Request → Prop) (p : Program α) (s : Scene) : Prop :=
  p.wp (.timed may) (fun _ _ _ => True) () s

namespace Sends

theorem bind {p : Program α} {f : α → Program β} (hp : p.Sends may s)
    (hf : ∀ a s', (f a).Sends may s') : (p >>= f).Sends may s :=
  wp_seq hp (fun a _ s' _ => hf a s') fun _ _ _ _ => trivial

theorem attempt_bind {p : Program α} {k : Except Failure α → Program β} (hp : p.Sends may s)
    (hk : ∀ r s', (k r).Sends may s') : (p.attempt >>= k).Sends may s := by
  unfold Sends
  rw [wp_attempt_bind]
  exact wp_mono hp fun r _ s' _ => hk r s'

/-- Reckoning with the time sends nothing. -/
theorem byClock {f : Int → Except Failure α} {k : α → Program β}
    (hk : ∀ a, f s.now = .ok a → (k a).Sends may s) :
    (now >>= fun time => ofExcept (f time) >>= k).Sends may s :=
  wp_byClock hk fun _ _ => trivial

theorem mono {may' : Int → Request → Prop} {p : Program α} (h : p.Sends may s)
    (hmay : ∀ t q, may t q → may' t q) : p.Sends may' s := by
  unfold Sends at *
  induction p generalizing s with
  | done r => trivial
  | look next ih => exact ih s h
  | act change next ih => exact ih h
  | exchange q next ih =>
    exact ⟨hmay _ q h.1, fun w reply s' hback => ih reply (h.2 w reply s' hback)⟩

/-- Where it does not matter where a program ends, it stays on course if it sends what it may. -/
theorem stays {p : Program α} (h : ∀ s, p.Sends may s) :
    p.Stays (.timed may) (fun _ _ => True) fun _ _ _ => True := by
  intro _ s _
  refine wp_mono (h s) fun r _ _ _ => ?_
  cases r with
  | ok a => trivial
  | error e => trivial

theorem of_stays {p : Program α} (h : p.Stays (.timed may) (fun _ _ => True) fun _ _ _ => True)
    (s : Scene) : p.Sends may s :=
  wp_mono (h trivial) fun _ _ _ _ => trivial

end Sends

end Program

/-- No step of a program is a request. -/
theorem Scene.enact_unsent (s : Scene) (change : Change) :
    ∃ events, (s.enact change).history = s.history ++ events ∧ ∀ t q, Event.sent t q ∉ events := by
  have hnone : ∃ events, s.history = s.history ++ events ∧ ∀ t q, Event.sent t q ∉ events :=
    ⟨[], (List.append_nil _).symm, fun _ _ => List.not_mem_nil⟩
  cases change with
  | elapsed ms => exact hnone
  | logged level text => exact hnone
  | sessionMade => exact hnone
  | transportClosed => exact hnone
  | noted ref remark => exact hnone
  | cursorMade => exact ⟨[.made s.cursorCount], rfl, fun _ _ h => nomatch List.mem_singleton.1 h⟩
  | cursor ref change =>
    exact ⟨[.cursor ref change], rfl, fun _ _ h => nomatch List.mem_singleton.1 h⟩

/-- **On its own, a program ends as it does under any discipline** that lets the replies of a script
come back, and leaves the requests in the history that it may send. -/
theorem Program.run_of_admitted {D : Discipline Unit}
    (hD : ∀ s q, D.back () s q () (s.play q).1 (s.play q).2) {p : Program α}
    {Q : Except Failure α → Unit → Scene → Prop} (h : p.wp D Q () s) :
    Q (p.run s).1 () (p.run s).2 ∧ ∃ events, (p.run s).2.history = s.history ++ events ∧
      ∀ t q, Event.sent t q ∈ events → ∃ s', s'.now = t ∧ D.may () s' q := by
  -- on the steps of the program; of what may come back, what does come back is taken
  induction p generalizing s with
  | done r => exact ⟨h, [], (List.append_nil _).symm, fun _ _ h => nomatch h⟩
  | look next ih => exact ih s h
  | act change next ih =>
    obtain ⟨made, hmade, hunsent⟩ := s.enact_unsent change
    obtain ⟨hend, events, hevents, hmay⟩ := ih h
    refine ⟨hend, made ++ events, ?_, fun t q hsent => ?_⟩
    · show (next.run (s.enact change)).2.history = _
      rw [hevents, hmade, List.append_assoc]
    · obtain hold | hnew := List.mem_append.1 hsent
      · exact absurd hold (hunsent t q)
      · exact hmay t q hnew
  | exchange q next ih =>
    obtain ⟨hend, events, hevents, hmay⟩ := ih (s.play q).1 (h.2 () _ (s.play q).2 (hD s q))
    refine ⟨hend, .sent s.now q :: events, ?_, fun t q' hsent => ?_⟩
    · show ((next (s.play q).1).run (s.play q).2).2.history = _
      rw [hevents]
      show (s.history ++ [.sent s.now q]) ++ events = _
      rw [List.append_assoc]
      rfl
    · obtain hfirst | hlater := List.mem_cons.1 hsent
      · cases hfirst
        exact ⟨s, rfl, h.1⟩
      · exact hmay t q' hlater

/-- **On its own, a program leaves the requests in the history** that it sends. -/
theorem Program.Sends.run {p : Program α} (h : p.Sends may s) :
    ∃ events, (p.run s).2.history = s.history ++ events ∧
      ∀ t q, Event.sent t q ∈ events → may t q := by
  obtain ⟨-, events, hevents, hmay⟩ := run_of_admitted (fun _ _ => trivial) h
  refine ⟨events, hevents, fun t q hsent => ?_⟩
  obtain ⟨s', rfl, hq⟩ := hmay t q hsent
  exact hq

/-! ### Calls -/

/-- The clock does not depend on the log. -/
theorem Scene.logless_now (now : Int) : Logless fun (_ : Unit) s => s.now = now :=
  fun _ _ _ _ h => h

theorem Gateway.carries_timed {g : Gateway} {call : Call} {now : Int}
    (hmay : ∀ body, may now (g.requestFor call body)) :
    g.Carries (.timed may) (fun (_ : Unit) s => s.now = now) (fun _ _ => True) call := by
  rintro body _ s' rfl
  exact ⟨hmay body, fun _ _ _ _ => trivial⟩

/-- **A call sends its request at once.** -/
theorem Gateway.sends_request {g : Gateway} {mode : Mode} {call : Call}
    (hmay : ∀ body, may s.now (g.requestFor call body)) : (g.request mode call).Sends may s :=
  Program.wp_mono (wp_request (Scene.logless_now s.now) logless_true (carries_timed hmay) mode
    rfl) fun _ _ _ _ => trivial

namespace QueryService

variable {service : QueryService}

theorem sends_submit {q : Query} {limit : TimeLimit}
    (hmay : ∀ body, may s.now (service.gateway.requestFor (submission q limit) body)) :
    (service.submit q limit).Sends may s :=
  Program.wp_mono (wp_submit (Scene.logless_now s.now) logless_true
    (Gateway.carries_timed hmay) rfl) fun _ _ _ _ => trivial

theorem sends_fetch {id : String} {limit : TimeLimit}
    (hmay : ∀ body, may s.now (service.gateway.requestFor (cursorCall "PUT" id limit) body)) :
    (service.fetch id limit).Sends may s :=
  Program.wp_mono (wp_fetch (Scene.logless_now s.now) logless_true
    (Gateway.carries_timed hmay) rfl) fun _ _ _ _ => trivial

theorem sends_release {id : String} {limit : TimeLimit}
    (hmay : ∀ body, may s.now (service.gateway.requestFor (cursorCall "DELETE" id limit) body)) :
    (service.release id limit).Sends may s :=
  Program.wp_mono (wp_release (Scene.logless_now s.now) logless_true
    (Gateway.carries_timed hmay) rfl) fun _ _ _ _ => trivial

end QueryService

end AqlClient
