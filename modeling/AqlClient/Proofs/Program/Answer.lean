import AqlClient.Proofs.Program.Passing

/-!
# What a call comes to

On its own, a call whose payload can be written comes to what is read from the reply to its request
(`Gateway.reading`), and it leaves the scene behind that the exchange leaves (`Scene.Behind`): what
is logged around an exchange changes nothing else. This is all there is to say about a call, so that
whatever holds of one can be read off from the outcome that the script has for it.

Most operations of the client consist of a single call between two lines of the log, and a parser
for the envelope (`Gateway.asked`).
-/

namespace AqlClient

variable {α ω : Type}

/-- **The scene behind an exchange,** but for what is logged around it. -/
def Scene.Behind (q : Request) (s s' : Scene) : Prop := s'.unlogged = (s.play q).2.unlogged

namespace Scene.Behind

variable {q : Request} {s s' : Scene}

theorem exchanged (h : s.Behind q s') : s.Exchanged q s' := exchanged_of_unlogged h

theorem cursors (h : s.Behind q s') : s'.cursors = s.cursors := (congrArg Scene.cursors h :)

theorem cursorCount (h : s.Behind q s') : s'.cursorCount = s.cursorCount :=
  (congrArg Scene.cursorCount h :)

theorem now (h : s.Behind q s') : s'.now = s.now + (s.send q).1.elapsed :=
  (congrArg Scene.now h :)

theorem history (h : s.Behind q s') : s'.history = s.history ++ [.sent s.now q] :=
  (congrArg Scene.history h :)

theorem script (h : s.Behind q s') : s'.script = s.script.tail := (congrArg Scene.script h :)

end Scene.Behind

theorem Scene.logless_behind (q : Request) (s : Scene) : Logless fun (_ : ω) s' => s.Behind q s' :=
  fun _ _ _ _ h => h

namespace Gateway

/-- **What a call makes of the reply** to its request: the envelope, if there is one. -/
def reading (g : Gateway) (call : Call) (reply : Except Failure Response) :
    Except Failure Entries :=
  reply.bind fun response => Envelope.read response (some (g.callDescription call))

/-- A call between two lines of the log, and what is read from its envelope. -/
def asked (g : Gateway) (mode : Mode) (before after : String) (call : Call)
    (parse : Entries → Except Failure α) : Program α := do
  Program.record .info before
  let envelope ← g.request mode call
  Program.record .info after
  Program.ofExcept (parse envelope)

variable {g : Gateway} {mode : Mode} {call : Call} {body : Option String} {w : ω} {s : Scene}

section Calling

variable (hchannel : g.channel = some mode) (hbody : call.payload.encodePayload = .ok body)

include hchannel hbody

/-- An exchange comes to its reply. -/
theorem wp_exchange_answer : (g.exchange mode call).wp .alone (fun r _ s' =>
    r = (s.play (g.requestFor call body)).1 ∧ s.Behind (g.requestFor call body) s') w s := by
  unfold exchange
  rw [if_neg fun hne => hne hchannel, Program.wp_bind, Program.wp_ofExcept, hbody,
    Program.chain_ok]
  refine Program.wp_lines_bind (Scene.logless_unlogged s) _ _ _ rfl fun w s₁ h₁ => ?_
  rw [Program.wp_bind, Program.wp_send]
  refine ⟨trivial, fun w' reply s₂ hback => ?_⟩
  obtain ⟨-, rfl⟩ := Discipline.alone_back hback
  -- the log has no part in what the exchange comes to
  have hscript : s₁.script = s.script := (congrArg Scene.script h₁ :)
  have hreply : reply = (s.play (g.requestFor call body)).1 := by
    have hplay : (s₁.play (g.requestFor call body)).1 = reply := congrArg Prod.fst hback.2
    rw [← hplay]
    show (s₁.script.headD _).playback.reply _ = (s.script.headD _).playback.reply _
    rw [hscript]
  have hbehind : s.Behind (g.requestFor call body)
      ((s₁.send (g.requestFor call body)).2.elapse (s₁.send (g.requestFor call body)).1.elapsed) :=
    congrArg (fun s : Scene =>
      ((s.send (g.requestFor call body)).2.elapse (s.send (g.requestFor call body)).1.elapsed)) h₁
  cases reply with
  | error e => exact ⟨hreply, hbehind⟩
  | ok response =>
    rw [Program.chain_ok]
    exact Program.wp_lines_bind (Scene.logless_behind _ s) _ _ _ hbehind fun _ _ h => ⟨hreply, h⟩

/-- **A call comes to what is read from its reply.** -/
theorem wp_request_answer : (g.request mode call).wp .alone (fun r _ s' =>
    r = g.reading call (s.play (g.requestFor call body)).1 ∧
      s.Behind (g.requestFor call body) s') w s := by
  unfold request
  refine Program.wp_seq (wp_exchange_answer hchannel hbody) ?_ ?_
  · rintro response w s' ⟨hresponse, hbehind⟩
    have hreading : g.reading call (s.play (g.requestFor call body)).1 =
        Envelope.read response (some (g.callDescription call)) := by
      rw [← hresponse]
      rfl
    rw [hreading]
    unfold readEnvelope
    cases hread : Envelope.read response (some (g.callDescription call)) with
    | ok envelope => exact ⟨rfl, hbehind⟩
    | error e =>
      exact Program.wp_lines_bind (Scene.logless_behind _ s) _ _ _ hbehind fun _ _ h => ⟨rfl, h⟩
  · rintro e w s' ⟨hreply, hbehind⟩
    refine ⟨?_, hbehind⟩
    rw [← hreply]
    rfl

/-- **What is asked comes to what the parser makes of the envelope.** -/
theorem wp_asked (before after : String) (parse : Entries → Except Failure α) :
    (g.asked mode before after call parse).wp .alone (fun r _ s' =>
      r = (g.reading call (s.play (g.requestFor call body)).1).bind parse ∧
        s.Behind (g.requestFor call body) s') w s := by
  unfold asked Program.record
  rw [Program.wp_update_bind]
  refine Program.wp_seq (wp_request_answer hchannel hbody) ?_ ?_
  · rintro envelope w s' ⟨henvelope, hbehind⟩
    refine ⟨?_, hbehind⟩
    have hread : g.reading call (s.play (g.requestFor call body)).1 = .ok envelope :=
      henvelope.symm
    rw [hread]
    rfl
  · rintro e w s' ⟨hfailed, hbehind⟩
    refine ⟨?_, hbehind⟩
    have hread : g.reading call (s.play (g.requestFor call body)).1 = .error e := hfailed.symm
    rw [hread]
    rfl

end Calling

end Gateway

/-- **A release ends well, or with what is wrong** with the answer to its request. -/
theorem QueryService.wp_release_answer {service : QueryService} {id : String} {limit : TimeLimit}
    {w : ω} {s : Scene} (hchannel : service.gateway.channel = some service.mode) :
    (service.release id limit).wp .alone (fun r _ s' =>
      (∀ e, r = .error e → service.gateway.reading (cursorCall "DELETE" id limit)
        (s.play (service.gateway.requestFor (cursorCall "DELETE" id limit) none)).1 = .error e) ∧
      s.Behind (service.gateway.requestFor (cursorCall "DELETE" id limit) none) s') w s := by
  unfold release
  rw [wp_report_bind, Program.wp_attempt_bind]
  refine Program.wp_mono (Gateway.wp_request_answer hchannel rfl) ?_
  rintro r w s' ⟨hr, hbehind⟩
  -- what is logged around the request has no part in this
  have hfails : ∀ e, r = .error e → service.gateway.reading (cursorCall "DELETE" id limit)
      (s.play (service.gateway.requestFor (cursorCall "DELETE" id limit) none)).1 = .error e :=
    fun e he => hr.symm.trans he
  split
  · exact ⟨fun e he => (nomatch he), hbehind⟩
  · split
    · exact ⟨fun e he => (nomatch he), hbehind⟩
    · refine ⟨?_, hbehind⟩
      rintro _ ⟨⟩
      exact hfails _ rfl
  · refine ⟨?_, hbehind⟩
    rintro _ ⟨⟩
    exact hfails _ rfl

end AqlClient
