import AqlClient.Failure

/-!
# Deadlines

A method that may send several requests is limited as a whole (`Deadline`). Before each of
its requests it asks what is left (`Deadline.remaining`): once the deadline has passed that
is a timeout, and before, it is the limit for the request, which is the time left or, where
that is less, the limit of the single request. The limit names the setting it came from, with
the value that was set, however little of it is left.

Under a deadline nothing is granted beyond it: `remaining` never yields more than the time
left, and it never yields zero, which would mean no limit at all.
-/

namespace AqlClient

/-- The time that a method of several requests may take: its start, its limit if there is
any, and the setting that the limit came from. -/
structure Deadline where
  started : Int
  overall : Option Value
  label : Option String

namespace Deadline

/-- The deadline of a method that starts at a given time. What limits it has to be a
number. -/
def starting (now : Int) (overall : Value) (label : Option String) : Except Failure Deadline :=
  match limiting overall with
  | none => .ok ⟨now, none, label⟩
  | some v =>
    match v.numeric? with
    | some _ => .ok ⟨now, some v, label⟩
    | none => .error .wrongType

/-- The time at which the deadline passes. -/
def passesAt (d : Deadline) : Option Number :=
  (d.overall.bind Value.numeric?).map (Number.int d.started).add

/-- The limit set for a single request, with the name of its setting. -/
def capped (cap : Value) (label : Option String) : TimeLimit := ⟨cap, cap, label⟩

/-- The limit that a deadline sets for a request, with some time left. -/
def limitOf (d : Deadline) (left : Number) : TimeLimit :=
  ⟨left.toValue, d.overall.getD .null, d.label⟩

/-- **The limit for the next request**, at a given time and under a cap of its own. -/
def remaining (d : Deadline) (now : Int) (cap : Value) (capLabel : Option String) :
    Except Failure TimeLimit :=
  match d.passesAt, limiting cap with
  | none, none => .ok ⟨.null, .null, d.label⟩
  | none, some c => .ok (capped c capLabel)
  | some deadline, c =>
    -- with nothing left the deadline has passed: a limit of zero would limit nothing
    if (Number.int now).below deadline then
      let left := deadline.sub (.int now)
      match c with
      | none => .ok (d.limitOf left)
      | some c =>
        match c.numeric? with
        | none => .error .wrongType
        -- of two equal limits the deadline is named
        | some n => .ok (if left.atMost n then d.limitOf left else capped c capLabel)
    else .error (.timeout (.deadline d.label (d.overall.getD .null)))

end Deadline

end AqlClient
