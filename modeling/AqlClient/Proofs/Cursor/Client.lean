import AqlClient.Cursor.Draining
import AqlClient.Proofs.Program.Logic

/-!
# The clients of a cursor

What a caller can do with a cursor (`Cursor.Uses`): use its operations in any order, go on as it
likes with what they gave, go on after they failed, and do other things in between. The functions
that it hands to `Cursor.forEach` and `Cursor.iterate` may do all this themselves. What else it does
may be anything that does not touch the cursor (`Cursor.Aloof`). For a client it is what also keeps
away from the cursors of the database (`Cursor.Client`).

The requests for a cursor are told apart by their address (`Cursor.concerns`): they go to the
place where queries are submitted and below which the server keeps its cursors.
-/

namespace AqlClient

variable {α : Type}

namespace Cursor

/-- The address at which the server keeps the cursors of the database. -/
def shelf (c : Cursor α) : String := c.service.gateway.urlFor (some Resource.cursors)

/-- Whether a request goes to the cursors of the database. -/
@[irreducible] def concerns (c : Cursor α) (q : Request) : Bool :=
  c.shelf.toList.isPrefixOf q.url.toList

/-- Whether a program leaves a cursor alone: it does not change it, and sends no request about
the cursors of its database. -/
def Apart {β : Type} (c : Cursor α) (p : Program β) : Prop :=
  p.Avoids c.ref (Change.touches c.ref) fun q => c.concerns q = true

/-- Whether a program does not touch a cursor. It may send whatever it likes, also for other queries
on the same database. -/
def Aloof {β : Type} (c : Cursor α) (p : Program β) : Prop :=
  p.Avoids c.ref (Change.touches c.ref) fun _ => False

/-- **What a caller can do with a cursor,** given what else it does in between. -/
inductive Uses (c : Cursor α) (others : (γ : Type) → Program γ → Prop) :
    {β : Type} → Program β → Prop
  | other {β : Type} {p : Program β} : others β p → Uses c others p
  | bind {β γ : Type} {p : Program β} {f : β → Program γ} :
      Uses c others p → (∀ b, Uses c others (f b)) → Uses c others (p >>= f)
  | attempt {β : Type} {p : Program β} : Uses c others p → Uses c others p.attempt
  | next : Uses c others c.next?
  | nextBatch : Uses c others c.nextBatch
  | hasNext : Uses c others c.hasNext
  | close : Uses c others c.close
  | toList (general timeout : Option Int) : Uses c others (c.toList general timeout)
  | forEach {visit : α → Program Bool} (general timeout : Option Int) :
      (∀ a, Uses c others (visit a)) → Uses c others (c.forEach visit general timeout)
  | iterate {visit : α → Program Bool} :
      (∀ a, Uses c others (visit a)) → Uses c others (c.iterate visit)
  | closing {β : Type} {body : Program β} : Uses c others body → Uses c others (c.closing body)

/-- **What a client does with a cursor:** all else that it does stays apart from it. -/
def Client {β : Type} (c : Cursor α) (p : Program β) : Prop := c.Uses (fun _ p => c.Apart p) p

theorem Client.apart {β : Type} {c : Cursor α} {p : Program β} (h : c.Apart p) : c.Client p :=
  .other h

end Cursor

/-! ### Looking at a cursor -/

namespace Cursor

variable {ω β : Type} {c : Cursor α} {D : Discipline ω} {Q : Except Failure β → ω → Scene → Prop}
  {w : ω} {s : Scene}

/-- A program that looks at the cursor goes on with its state. -/
theorem wp_look (f : CursorState → Program β) :
    (c.look >>= f).wp D Q w s ↔ (f (s.cursors c.ref)).wp D Q w s := Iff.rfl

theorem atOnce_look (f : CursorState → Program β) :
    (c.look >>= f).atOnce s = (f (s.cursors c.ref)).atOnce s := rfl

/-- A program that changes the cursor goes on behind the change. -/
theorem wp_update (change : CursorChange) (f : Unit → Program β) :
    (c.update change >>= f).wp D Q w s ↔ (f ()).wp D Q w (s.changeCursor c.ref change) := Iff.rfl

end Cursor

/-! ### The requests of a cursor -/

theorem Url.trimStart_of_head {x : Char} {rest : List Char} (h : x ≠ '/') :
    Url.trimStart (String.ofList (x :: rest)) = String.ofList (x :: rest) := by
  unfold Url.trimStart
  rw [String.toList_ofList, List.dropWhile_cons_of_neg (by simpa using h)]

/-- A path that does not begin with a slash stands behind the address as it is. -/
theorem Gateway.urlFor_of_head (g : Gateway) {x : Char} {rest : List Char} (h : x ≠ '/') :
    g.urlFor (some (String.ofList (x :: rest))) =
      Url.trimEnd g.url ++ "/" ++ String.ofList (x :: rest) := by
  have hnamed : named (some (String.ofList (x :: rest))) = some (String.ofList (x :: rest)) := by
    simp [named]
  unfold Gateway.urlFor Url.extended
  rw [hnamed]
  show _ ++ Url.trimStart (String.ofList (x :: rest)) = _
  rw [Url.trimStart_of_head h]

theorem Resource.cursor_eq_ofList (id : String) :
    Resource.cursor id = String.ofList ('_' :: ("api/cursor/".toList ++ id.toList)) := by
  unfold Resource.cursor Resource.cursors
  apply String.toList_inj.1
  simp [String.toList_append]

/-- The path of a cursor is that of all cursors with its name behind. -/
theorem Gateway.urlFor_cursor (g : Gateway) (id : String) :
    g.urlFor (some (Resource.cursor id)) =
      g.urlFor (some Resource.cursors) ++ "/" ++ id := by
  have hcursors : Resource.cursors = String.ofList ('_' :: "api/cursor".toList) := rfl
  rw [Resource.cursor_eq_ofList, g.urlFor_of_head (by decide), hcursors,
    g.urlFor_of_head (by decide), ← Resource.cursor_eq_ofList, ← hcursors]
  unfold Resource.cursor
  simp only [String.append_assoc]

namespace Cursor

variable (c : Cursor α)

/-- The request that a cursor sends to a place of the server. -/
def request (method id : String) (limit : TimeLimit) (body : Option String) : Request :=
  c.service.gateway.requestFor (QueryService.cursorCall method id limit) body

/-- The requests of a cursor concern it. -/
theorem concerns_request (method id : String) (limit : TimeLimit) (body : Option String) :
    c.concerns (c.request method id limit body) = true := by
  have hurl : (c.request method id limit body).url = c.shelf ++ ("/" ++ id) := by
    rw [← String.append_assoc]
    exact c.service.gateway.urlFor_cursor id
  unfold concerns
  rw [hurl, String.toList_append, List.isPrefixOf_iff_prefix]
  exact List.prefix_append _ _

end Cursor

end AqlClient
