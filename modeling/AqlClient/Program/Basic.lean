import AqlClient.Program.Scene

/-!
# Programs

What an operation of the client does, as a tree (`Program`): it ends with a value or a
failure, it looks at the scene, it takes a step that changes the scene, or it sends a request
and goes on with the reply. Only an exchange can be waited for, so that the places where
operations interleave are exactly the exchanges of their trees.

`Program.run` carries out a program on its own; the task pool carries out several at once.
The operations themselves are written once for both.
-/

namespace AqlClient

/-- What an operation does. -/
inductive Program (α : Type) : Type where
  | done (result : Except Failure α)
  | look (next : Scene → Program α)
  | act (change : Change) (next : Program α)
  | exchange (q : Request) (next : Except Failure Response → Program α)

namespace Program

variable {α β : Type}

/-- A program followed by another one, unless it fails. -/
def bind : Program α → (α → Program β) → Program β
  | done (.ok a), f => f a
  | done (.error e), _ => done (.error e)
  | look next, f => look fun s => bind (next s) f
  | act change next, f => act change (bind next f)
  | exchange q next, f => exchange q fun r => bind (next r) f

/-- A program with its failure as part of its value. -/
def attempt : Program α → Program (Except Failure α)
  | done r => done (.ok r)
  | look next => look fun s => attempt (next s)
  | act change next => act change (attempt next)
  | exchange q next => exchange q fun r => attempt (next r)

/-- A program whose failures another one takes care of. -/
def recover : Program α → (Failure → Program α) → Program α
  | done (.ok a), _ => done (.ok a)
  | done (.error e), handle => handle e
  | look next, handle => look fun s => recover (next s) handle
  | act change next, handle => act change (recover next handle)
  | exchange q next, handle => exchange q fun r => recover (next r) handle

instance : Monad Program where
  pure a := done (.ok a)
  bind := bind

instance : MonadExceptOf Failure Program where
  throw e := done (.error e)
  tryCatch := recover

/-- Ends with a result that is known already. -/
def ofExcept (r : Except Failure α) : Program α := done r

instance : MonadLift (Except Failure) Program where
  monadLift := ofExcept

/-- Looks at the scene. -/
def view (f : Scene → α) : Program α := look fun s => pure (f s)

/-- Changes the scene. -/
def update (change : Change) : Program Unit := act change (pure ())

/-- Sends a request and waits for the response. -/
def send (q : Request) : Program Response := exchange q done

/-- The time on the clock. -/
def now : Program Int := view Scene.now

/-- Logs a line. -/
def record (level : LogLevel) (text : String) : Program Unit := update (.logged level text)

/-- Does something with each item of a list, one after the other. -/
def each (items : List α) (f : α → Program Unit) : Program Unit :=
  match items with
  | [] => pure ()
  | a :: rest => do
    f a
    each rest f

/-- **Carries out a program on its own.** -/
def run : Program α → Scene → Except Failure α × Scene
  | done r, s => (r, s)
  | look next, s => run (next s) s
  | act change next, s => run next (s.enact change)
  | exchange q next, s =>
    let (reply, s) := s.play q
    run (next reply) s

end Program

end AqlClient
