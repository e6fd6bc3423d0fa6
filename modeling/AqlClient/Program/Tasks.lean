import AqlClient.Program.Basic

/-!
# Tasks

Programs that are carried out side by side (`TaskPool`). A task runs until it has to wait for
an exchange whose gate is closed, and nobody interrupts it before. It goes on when its gate
is opened, tasks that wait for the same gate in the order in which they came to it, or when
it is cancelled: the exchange it waits for then fails, and what the task does about that is up
to its program. Gates stay open.

Tasks are known by their number, in the order in which they were started
(`TaskPool.spawn`). All of them share one scene. What a waiting task has sent is on the way:
the outcome it will get has been taken from the script already.
-/

namespace AqlClient

/-- A task that waits for an exchange. -/
structure WaitingTask (β : Type) where
  number : Nat
  request : Request
  outcome : Outcome
  next : Except Failure Response → Program β

/-- Tasks that share a scene. -/
structure TaskPool (β : Type) where
  scene : Scene
  openGates : List String
  spawned : Nat
  waiting : List (WaitingTask β)
  finished : List (Nat × Except Failure β)

namespace TaskPool

variable {β : Type}

/-- A pool without tasks. -/
def start (scene : Scene) : TaskPool β := ⟨scene, [], 0, [], []⟩

/-- Whether an outcome has to wait for a gate. -/
def mustWait (openGates : List String) (o : Outcome) : Bool :=
  match o.gate with
  | some gate => !openGates.contains gate
  | none => false

/-- Runs a task until it has to wait or ends. -/
def run (number : Nat) : Program β → TaskPool β → TaskPool β
  | .done r, p => { p with finished := p.finished ++ [(number, r)] }
  | .look next, p => run number (next p.scene) p
  | .act change next, p => run number next { p with scene := p.scene.enact change }
  | .exchange q next, p =>
    -- the outcome is taken from the script when the request is sent, not when it comes back
    let (o, scene) := p.scene.send q
    if mustWait p.openGates o then
      { p with scene := scene, waiting := p.waiting ++ [⟨number, q, o, next⟩] }
    else
      let (reply, scene) := scene.deliver q o
      -- nobody else gets a turn before the next closed gate
      run number (next reply) { p with scene := scene }

/-- **Starts a task,** and runs it until it has to wait or ends. -/
def spawn (p : TaskPool β) (program : Program β) : Nat × TaskPool β :=
  (p.spawned, run p.spawned program { p with spawned := p.spawned + 1 })

/-- A waiting task goes on with the outcome that it waits for. -/
def resume (p : TaskPool β) (t : WaitingTask β) : TaskPool β :=
  let (reply, scene) := p.scene.deliver t.request t.outcome
  run t.number (t.next reply) { p with scene := scene }

/-- **Opens a gate:** the tasks that wait for it go on, one after the other. -/
def openGate (p : TaskPool β) (gate : String) : TaskPool β :=
  let released := p.waiting.filter fun t => t.outcome.gate == some gate
  released.foldl resume
    { p with
      openGates := p.openGates ++ [gate]
      waiting := p.waiting.filter fun t => t.outcome.gate != some gate }

/-- **Cancels a task:** the exchange that it waits for fails. -/
def cancel (p : TaskPool β) (number : Nat) : TaskPool β :=
  match p.waiting.find? fun t => t.number == number with
  | none => p
  | some t =>
    run number (t.next (.error .cancelled))
      { p with waiting := p.waiting.eraseP fun u => u.number == number }

/-- What has become of a task, once it has ended. -/
def outcome? (p : TaskPool β) (number : Nat) : Option (Except Failure β) :=
  (p.finished.find? fun entry => entry.1 == number).map Prod.snd

/-- Runs a program on its own while the tasks wait; no gate holds it up. -/
def alone {α : Type} (p : TaskPool β) (program : Program α) : Except Failure α × TaskPool β :=
  let (r, scene) := program.run p.scene
  (r, { p with scene := scene })

end TaskPool

end AqlClient
