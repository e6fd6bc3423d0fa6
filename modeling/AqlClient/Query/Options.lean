import AqlClient.Failure

/-!
# Query options

Making query options from what a caller gives (`QueryOptions.make`), and their form in a
payload (`QueryOptions.toEntries`). Numbers are checked; the settings that are flags are
not, and are sent as they are. What is not set is not sent.
-/

namespace AqlClient

/-- Checks a setting that may be left out. -/
def Value.settingOr {α : Type} (v : Value) (refusal : Refusal) (check : Value → Option α) :
    Except Failure (Option α) :=
  match v.supplied? with
  | none => .ok none
  | some v =>
    match check v with
    | some a => .ok (some a)
    | none => .error (.refused refusal)

/-- The integer that a value is, if it is none below zero. -/
def Value.natural? (v : Value) : Option Nat :=
  v.int?.bind fun i => if 0 ≤ i then some i.toNat else none

/-- The number that a value is, if it is none below zero. -/
def Value.notNegative? (v : Value) : Option Number :=
  v.number?.filter fun n => !n.belowInt 0

namespace QueryOptions

/-- Options as they are given, before any check. -/
structure Draft where
  failOnWarning : Value
  profile : Value
  maxWarningCount : Value
  fullCount : Value
  maxPlans : Value
  rules : Value
  maxRuntime : Value
  stream : Value

/-- Options of which none is given. -/
def Draft.empty : Draft :=
  ⟨.unset, .unset, .unset, .unset, .unset, .unset, .unset, .unset⟩

/-- Options with one of them given by its name, if there is an option of that name. -/
def Draft.set? (d : Draft) (name : String) (v : Value) : Option Draft :=
  match name with
  | "fail_on_warning" => some { d with failOnWarning := v }
  | "profile" => some { d with profile := v }
  | "max_warning_count" => some { d with maxWarningCount := v }
  | "full_count" => some { d with fullCount := v }
  | "max_plans" => some { d with maxPlans := v }
  | "optimizer_rules" => some { d with rules := v }
  | "max_runtime" => some { d with maxRuntime := v }
  | "stream" => some { d with stream := v }
  | _ => none

/-- The rules for the optimizer: anything but a text that can be gone through. -/
def rulesOf (v : Value) : Except Failure (Option (List Value)) :=
  match v with
  | .unset => .ok none
  | .str _ => .error (.refused .optionRules)
  | v =>
    match v.elements? with
    | some items => .ok (some items)
    | none => .error .wrongType

/-- **Options from what is given,** checked in a fixed order. -/
def make (d : Draft) : Except Failure (QueryOptions Value) := do
  let maxWarningCount ←
    d.maxWarningCount.settingOr (.optionCount "max_warning_count") Value.natural?
  let maxPlans ← d.maxPlans.settingOr (.optionCount "max_plans") Value.natural?
  let maxRuntime ← d.maxRuntime.settingOr .optionRuntime Value.notNegative?
  let rules ← rulesOf d.rules
  return { failOnWarning := d.failOnWarning, profile := d.profile, maxWarningCount
           fullCount := d.fullCount, maxPlans, rules, maxRuntime, stream := d.stream }

/-- Options from settings given by name. -/
def ofNamed (settings : Named Value) : Except Failure (QueryOptions Value) :=
  match settings.foldlM (fun d setting => d.set? setting.1 setting.2) Draft.empty with
  | some d => make d
  | none => .error .wrongType

/-- An entry of a payload for a setting that may be left out. -/
def entryIfSet (name : String) (v : Option Value) : Named Value := (v.map (name, ·)).toList

/-- **The form of options in a payload.** -/
def toEntries (o : QueryOptions Value) : Named Value :=
  entryIfSet "failOnWarning" o.failOnWarning.supplied? ++
  entryIfSet "profile" o.profile.supplied? ++
  entryIfSet "maxWarningCount" (o.maxWarningCount.map fun n => .int n) ++
  entryIfSet "fullCount" o.fullCount.supplied? ++
  entryIfSet "maxPlans" (o.maxPlans.map fun n => .int n) ++
  entryIfSet "maxRuntime" (o.maxRuntime.map Number.toValue) ++
  entryIfSet "stream" o.stream.supplied? ++
  entryIfSet "optimizer" (o.rules.map fun rules => .dict [(.str "rules", .list rules)])

end QueryOptions

/-- Entries by name as a dictionary. -/
def Value.ofNamed (entries : Named Value) : Value :=
  .dict (entries.map fun entry => (.str entry.1, entry.2))

end AqlClient
