import AqlClient.Proofs.Program.Logic
import AqlClient.Query.Service

/-!
# Programs whose items take time

The clock moves during exchanges, and where a program says so itself. What a caller makes of an item
takes time as well, and this may happen each time when items are handed out: `Program.paced` is a
program in which some time passes then, which may be another one each time.

A program that hands nothing out stays the same (`Program.Prompt`). So does every exchange, and
everything that is only made of exchanges.
-/

namespace AqlClient

/-- Whether a step hands out items. -/
def Change.takes : Change → Bool
  | .cursor _ (.taken _) => true
  | _ => false

namespace Program

variable {α β : Type}

/-- **A program in which some time passes where items are handed out.** -/
def paced (pace : Scene → Int) : Program α → Program α
  | .done r => .done r
  | .look next => .look fun s => paced pace (next s)
  | .act change next =>
    if change.takes then
      .look fun s => .act (.elapsed (pace s)) (.act change (paced pace next))
    else .act change (paced pace next)
  | .exchange q next => .exchange q fun reply => paced pace (next reply)

/-- **A program that hands nothing out** takes no time by itself. -/
def Prompt (p : Program α) : Prop := ∀ pace, p.paced pace = p

variable {pace : Scene → Int} {p : Program α} {f : α → Program β}

theorem paced_act_of_takes {change : Change} (h : change.takes = true) (next : Program α) :
    (act change next).paced pace =
      look fun s => act (.elapsed (pace s)) (act change (next.paced pace)) :=
  if_pos h

theorem paced_act {change : Change} (h : change.takes = false) (next : Program α) :
    (act change next).paced pace = act change (next.paced pace) :=
  if_neg fun htakes => Bool.noConfusion (h.symm.trans htakes)

theorem paced_bind (p : Program α) (f : α → Program β) :
    (p >>= f).paced pace = p.paced pace >>= fun a => (f a).paced pace := by
  change (p.bind f).paced pace = (p.paced pace).bind fun a => (f a).paced pace
  -- on the steps of the first program, of which only those that hand out are changed
  induction p with
  | done r => cases r <;> rfl
  | look next ih => exact congrArg look (funext ih)
  | act change next ih =>
    show (act change (next.bind f)).paced pace = _
    cases htakes : change.takes with
    | true =>
      rw [paced_act_of_takes htakes, paced_act_of_takes htakes, ih]
      rfl
    | false =>
      rw [paced_act htakes, paced_act htakes, ih]
      rfl
  | exchange q next ih => exact congrArg (exchange q) (funext ih)

theorem paced_attempt (p : Program α) : p.attempt.paced pace = (p.paced pace).attempt := by
  induction p with
  | done r => rfl
  | look next ih => exact congrArg look (funext ih)
  | act change next ih =>
    show (act change next.attempt).paced pace = _
    cases htakes : change.takes with
    | true =>
      rw [paced_act_of_takes htakes, paced_act_of_takes htakes, ih]
      rfl
    | false =>
      rw [paced_act htakes, paced_act htakes, ih]
      rfl
  | exchange q next ih => exact congrArg (exchange q) (funext ih)

/-! ### Prompt programs -/

theorem prompt_pure (a : α) : (pure a : Program α).Prompt := fun _ => rfl

theorem prompt_throw (e : Failure) : (throw e : Program α).Prompt := fun _ => rfl

theorem prompt_ofExcept (r : Except Failure α) : (ofExcept r).Prompt := fun _ => rfl

theorem prompt_view (g : Scene → α) : (view g).Prompt := fun _ => rfl

theorem prompt_send (q : Request) : (send q).Prompt := fun _ => rfl

theorem prompt_update {change : Change} (h : change.takes = false) : (update change).Prompt :=
  fun _ => paced_act h _

theorem prompt_record (level : LogLevel) (text : String) : (record level text).Prompt :=
  prompt_update rfl

theorem prompt_bind (hp : p.Prompt) (hf : ∀ a, (f a).Prompt) : (p >>= f).Prompt := by
  intro pace
  rw [paced_bind, hp pace]
  exact congrArg (p >>= ·) (funext fun a => hf a pace)

theorem prompt_attempt (hp : p.Prompt) : p.attempt.Prompt := by
  intro pace
  rw [paced_attempt, hp pace]

theorem prompt_each (items : List α) {g : α → Program Unit} (hg : ∀ a, (g a).Prompt) :
    (each items g).Prompt := by
  induction items with
  | nil => exact prompt_pure ()
  | cons a rest ih => exact prompt_bind (hg a) fun _ => ih

/-- Behind a prompt program the rest takes its time. -/
theorem Prompt.paced_bind (hp : p.Prompt) (f : α → Program β) :
    (p >>= f).paced pace = p >>= fun a => (f a).paced pace := by
  rw [Program.paced_bind, hp pace]

end Program

open Program

/-! ### Exchanges -/

namespace Gateway

theorem prompt_exchange (g : Gateway) (mode : Mode) (call : Call) :
    (g.exchange mode call).Prompt := by
  unfold exchange
  split
  · exact prompt_throw _
  · refine prompt_bind (prompt_ofExcept _) fun body => ?_
    refine prompt_bind (prompt_each _ fun _ => prompt_record _ _) fun _ => ?_
    refine prompt_bind (prompt_send _) fun response => ?_
    exact prompt_bind (prompt_each _ fun _ => prompt_record _ _) fun _ => prompt_pure _

theorem prompt_readEnvelope (response : Response) (call : Option String) :
    (readEnvelope response call).Prompt := by
  unfold readEnvelope
  split
  · exact prompt_pure _
  · exact prompt_bind (prompt_each _ fun _ => prompt_record _ _) fun _ => prompt_throw _

theorem prompt_request (g : Gateway) (mode : Mode) (call : Call) : (g.request mode call).Prompt :=
  prompt_bind (g.prompt_exchange mode call) fun response => prompt_readEnvelope response _

end Gateway

namespace QueryService

variable (service : QueryService) (id : String) (limit : TimeLimit)

theorem prompt_submit (q : Query) : (service.submit q limit).Prompt :=
  prompt_bind (prompt_record _ _) fun _ => prompt_bind (Gateway.prompt_request _ _ _) fun _ =>
    prompt_bind (prompt_record _ _) fun _ => prompt_ofExcept _

theorem prompt_fetch : (service.fetch id limit).Prompt :=
  prompt_bind (prompt_record _ _) fun _ => prompt_bind (Gateway.prompt_request _ _ _) fun _ =>
    prompt_bind (prompt_record _ _) fun _ => prompt_ofExcept _

theorem prompt_release : (service.release id limit).Prompt := by
  refine prompt_bind (prompt_record _ _) fun _ => ?_
  refine prompt_bind (prompt_attempt (Gateway.prompt_request _ _ _)) fun r => ?_
  split
  · exact prompt_record _ _
  · split
    · exact prompt_record _ _
    · exact prompt_throw _
  · exact prompt_throw _

end QueryService

end AqlClient
