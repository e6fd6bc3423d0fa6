import AqlClient.Cursor.State
import AqlClient.Log
import AqlClient.Request
import AqlClient.Response

/-!
# The scene of a program

What the operations of a client share while they run (`Scene`): the clock, the log, the
states of the cursors, and the server they talk to.

Between two exchanges an operation changes the scene step by step. The steps are data
(`Change`), and `Scene.enact` takes one. What concerns the server and the cursors is remembered
in the order in which it happens (`Event`, `Scene.history`).

The server is a script (`Outcome`): each exchange takes the next outcome, which is a
response or a failure, and the clock moves on by the time it says. Once the script is over
every further exchange is lost. `Scene.play` is one exchange, and `Scene.horizon` bounds the
number of exchanges after which the script is over, so that a loop that goes on as long as
the server answers needs no more rounds.
-/

namespace AqlClient

/-- What an exchange comes to. -/
inductive Playback where
  | response (status : Int) (headers : Headers) (body : List UInt8)
  | lost (text : String)
  | timedOut (part : TimeoutPart) (text : String)
  | broken (text : String)

/-- An entry of the script: what the exchange comes to, how long it takes, and the gate
that has to be open before it comes to anything. -/
structure Outcome where
  playback : Playback
  elapsed : Int
  gate : Option String

namespace Playback

/-- What a request gets to see of an exchange. -/
def reply (p : Playback) (q : Request) : Except Failure Response :=
  match p with
  | .response status headers body => .ok (Response.ofParts status headers body)
  | .lost text => .error (.transport (.lost text (some q.url) q.body))
  | .timedOut part text => .error (.timeout (.exchange part text q.limit (some q.url) q.body))
  | .broken text => .error (.raised text)

end Playback

namespace Outcome

/-- What an exchange comes to once the script is over. -/
def scriptEnd : Outcome := ⟨.lost "script is over", 0, none⟩

end Outcome

/-- A step that changes the scene. -/
inductive Change where
  | elapsed (ms : Int)
  | logged (level : LogLevel) (text : String)
  | cursorMade
  | cursor (ref : Nat) (change : CursorChange)
  | sessionMade
  | transportClosed
  | noted (ref : Nat) (remark : Value)

/-- What is remembered: a request is sent at some time, a cursor gets its place, something
happens to a cursor. -/
inductive Event where
  | sent (time : Int) (q : Request)
  | made (ref : Nat)
  | cursor (ref : Nat) (change : CursorChange)

/-- The request that is sent in an event. -/
def Event.request? : Event → Option Request
  | .sent _ q => some q
  | _ => none

/-- What the operations of a client share. -/
structure Scene where
  now : Int
  script : List Outcome
  history : List Event
  log : List LogLine
  cursors : Nat → CursorState
  cursorCount : Nat
  sessionCount : Nat
  closes : Nat
  journal : Nat → List Value

namespace Scene

/-- The scene in which nothing has happened yet. -/
def start (now : Int) (script : List Outcome) : Scene where
  now := now
  script := script
  history := []
  log := []
  cursors := fun _ => CursorState.initial
  cursorCount := 0
  sessionCount := 0
  closes := 0
  journal := fun _ => []

/-- The requests that have been sent. -/
def sent (s : Scene) : List Request := s.history.filterMap Event.request?

/-- A bound on the rounds of a loop that goes on as long as exchanges come to something: one
before the first exchange, one for each outcome that is left, and one that finds none. -/
def horizon (s : Scene) : Nat := s.script.length + 2

/-- The clock moves on. -/
def elapse (s : Scene) (ms : Int) : Scene := { s with now := s.now + ms }

/-- A line is logged. -/
def record (s : Scene) (level : LogLevel) (text : String) : Scene :=
  { s with log := s.log ++ [⟨level, text⟩] }

/-- A cursor gets a state. -/
def setCursor (s : Scene) (ref : Nat) (state : CursorState) : Scene :=
  { s with cursors := fun r => if r = ref then state else s.cursors r }

/-- Something is remembered. -/
def remember (s : Scene) (e : Event) : Scene := { s with history := s.history ++ [e] }

/-- Something happens to a cursor. -/
def changeCursor (s : Scene) (ref : Nat) (change : CursorChange) : Scene :=
  (s.setCursor ref ((s.cursors ref).after change)).remember (.cursor ref change)

/-- A further cursor gets a place of its own, at which nothing has arrived yet. -/
def addCursor (s : Scene) : Scene :=
  { (s.setCursor s.cursorCount .initial).remember (.made s.cursorCount) with
    cursorCount := s.cursorCount + 1 }

/-- A further session is made. -/
def addSession (s : Scene) : Scene := { s with sessionCount := s.sessionCount + 1 }

/-- The transport is closed. -/
def closeTransport (s : Scene) : Scene := { s with closes := s.closes + 1 }

/-- A remark is added to a journal. -/
def note (s : Scene) (ref : Nat) (remark : Value) : Scene :=
  { s with journal := fun r => if r = ref then s.journal r ++ [remark] else s.journal r }

/-- Takes a step. -/
def enact (s : Scene) : Change → Scene
  | .elapsed ms => s.elapse ms
  | .logged level text => s.record level text
  | .cursorMade => s.addCursor
  | .cursor ref change => s.changeCursor ref change
  | .sessionMade => s.addSession
  | .transportClosed => s.closeTransport
  | .noted ref remark => s.note ref remark

/-- A request is sent: it takes the next outcome from the script. -/
def send (s : Scene) (q : Request) : Outcome × Scene :=
  (s.script.headD .scriptEnd, { s.remember (.sent s.now q) with script := s.script.tail })

/-- An outcome is delivered to the request that it is for. -/
def deliver (s : Scene) (q : Request) (o : Outcome) : Except Failure Response × Scene :=
  (o.playback.reply q, s.elapse o.elapsed)

/-- One exchange from beginning to end. -/
def play (s : Scene) (q : Request) : Except Failure Response × Scene :=
  let (o, s) := s.send q
  s.deliver q o

/-! ### What a step does to the cursors -/

section Cursors

variable (s : Scene) (ref : Nat) (change : CursorChange)

@[simp] theorem changeCursor_cursors_self :
    (s.changeCursor ref change).cursors ref = (s.cursors ref).after change := if_pos rfl

theorem changeCursor_cursors_of_ne {r : Nat} (h : r ≠ ref) :
    (s.changeCursor ref change).cursors r = s.cursors r := if_neg h

@[simp] theorem addCursor_cursors_self :
    s.addCursor.cursors s.cursorCount = CursorState.initial := if_pos rfl

theorem addCursor_cursors_of_ne {r : Nat} (h : r ≠ s.cursorCount) :
    s.addCursor.cursors r = s.cursors r := if_neg h

end Cursors

/-! ### What an exchange does -/

section Send

variable (s : Scene) (q : Request)

@[simp] theorem send_history : (s.send q).2.history = s.history ++ [.sent s.now q] := rfl

theorem play_snd : (s.play q).2 = (s.send q).2.elapse (s.send q).1.elapsed := rfl

end Send

end Scene

end AqlClient
