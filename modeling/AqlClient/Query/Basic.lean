import AqlClient.Query.Options

/-!
# Queries

A query is a text with bind variables and settings (`Query`). It is made from what a caller
gives (`Query.make`), and a changed copy is made by giving something again
(`Query.changed`): either way everything is checked in the same order, and a change that is
refused leaves the query as it was.

`Query.payload` is what is sent. Its fields have a fixed order, whatever the order of the
changes, but for the bind variables, which come in the order in which their names were first
bound. What is not set is left out.
-/

namespace AqlClient

/-- A query, with settings that have been checked. The settings of type `Value` are sent as
they are and may be left unset. -/
structure Query where
  text : String
  bindVars : Named Value
  batchSize : Option Nat
  count : Value
  cache : Value
  memoryLimit : Option Nat
  ttl : Option Number
  fullCount : Value
  options : Option (QueryOptions Value)

namespace Query

/-- A query as it is given, before any check. -/
structure Draft where
  text : Value
  bindVars : Value
  batchSize : Value
  count : Value
  cache : Value
  memoryLimit : Value
  ttl : Value
  fullCount : Value
  options : Value

/-- A query of which only the text is given. -/
def Draft.ofText (text : Value) : Draft :=
  ⟨text, .dict [], .unset, .unset, .unset, .unset, .unset, .unset, .unset⟩

/-- A query with one of its settings given by its name, if there is a setting of that name. -/
def Draft.set? (d : Draft) (name : String) (v : Value) : Option Draft :=
  match name with
  | "bind_vars" => some { d with bindVars := v }
  | "batch_size" => some { d with batchSize := v }
  | "count" => some { d with count := v }
  | "cache" => some { d with cache := v }
  | "memory_limit" => some { d with memoryLimit := v }
  | "ttl" => some { d with ttl := v }
  | "full_count" => some { d with fullCount := v }
  | "options" => some { d with options := v }
  | _ => none

/-- The integer that a value is, if it is above zero. -/
def positive? (v : Value) : Option Nat :=
  v.int?.bind fun i => if 0 < i then some i.toNat else none

/-- The number that a value is, unless it is zero or below. -/
def lifetime? (v : Value) : Option Number := v.number?.filter fun n => !n.atMostInt 0

/-- The options that a value is. -/
def options? : Value → Option (QueryOptions Value)
  | .options o => some o
  | _ => none

/-- A bind variable written as a text of two characters: its name and its value. -/
def pairOf (index : Nat) (text : String) : Except Failure (String × Value) :=
  match text.toList with
  | [a, b] => .ok (String.ofList [a], .str (String.ofList [b]))
  | cs => .error (.refused (.pairLength index cs.length))

/-- Bind variables written as texts of two characters. -/
def pairsOf (index : Nat) : List String → Except Failure (List (String × Value))
  | [] => .ok []
  | text :: rest => do
    let pair ← pairOf index text
    let pairs ← pairsOf (index + 1) rest
    return pair :: pairs

/-- The bind variables that a value stands for. All names have to be texts. -/
def bindVarsOf (v : Value) : Except Failure (Named Value) :=
  match v.elements? with
  | none => .error .wrongType
  | some names =>
    -- a name of another kind is refused before anything else is looked at
    match names.filter fun name => name.str?.isNone with
    | [] =>
      match v with
      | .dict entries =>
        .ok (entries.filterMap fun entry => entry.1.str?.map fun name => (name, entry.2))
      | _ => (pairsOf 0 (names.filterMap Value.str?)).map Named.ofPairs
    | bad => .error (.refused (.bindNames (bad.map Value.literal)))

/-- **A query from what is given,** checked in a fixed order. -/
def make (d : Draft) : Except Failure Query := do
  let text ←
    match d.text with
    | .str s => pure s
    | _ => throw (.refused .queryText)
  let bindVars ← bindVarsOf d.bindVars
  let batchSize ← d.batchSize.settingOr .batchSize positive?
  let memoryLimit ← d.memoryLimit.settingOr .memoryLimit Value.natural?
  let ttl ← d.ttl.settingOr .ttl lifetime?
  let options ← d.options.settingOr .options options?
  return { text, bindVars, batchSize, count := d.count, cache := d.cache, memoryLimit, ttl
           fullCount := d.fullCount, options }

/-- A query from its text and from settings given by name. -/
def ofNamed (text : Value) (settings : Named Value) : Except Failure Query :=
  match settings.foldlM (fun d setting => d.set? setting.1 setting.2) (Draft.ofText text) with
  | some d => make d
  | none => .error .wrongType

/-- A value for a setting that may be left unset. -/
def orUnset (v : Option Value) : Value := v.getD .unset

/-- A query as it would have to be given to be made once more. -/
def draft (q : Query) : Draft where
  text := .str q.text
  bindVars := Value.ofNamed q.bindVars
  batchSize := orUnset (q.batchSize.map fun n => .int n)
  count := q.count
  cache := q.cache
  memoryLimit := orUnset (q.memoryLimit.map fun n => .int n)
  ttl := orUnset (q.ttl.map Number.toValue)
  fullCount := q.fullCount
  options := orUnset (q.options.map .options)

/-- What can be given again in a copy of a query. -/
inductive Change where
  | bindVar (name value : Value)
  | bindVars (entries : Value)
  | batchSize (v : Value)
  | count (v : Value)
  | cache (v : Value)
  | memoryLimit (v : Value)
  | ttl (v : Value)
  | fullCount (v : Value)
  | options (v : Value)

/-- Further bind variables laid over those of a query. -/
def Draft.binding (d : Draft) (vars : Named Value) (entries : Entries) : Draft :=
  { d with
    bindVars := .dict (entries.foldl (fun acc entry => Entries.insert acc entry.1 entry.2)
      (vars.map fun entry => ((.str entry.1 : Value), entry.2))) }

/-- What is given for a changed copy of a query. -/
def changedDraft (q : Query) : Change → Except Failure Draft
  | .bindVar name value =>
    if name.isKey then .ok (q.draft.binding q.bindVars [(name, value)])
    else .error .wrongType
  | .bindVars (.dict entries) => .ok (q.draft.binding q.bindVars entries)
  | .bindVars _ => .error .wrongType
  | .batchSize v => .ok { q.draft with batchSize := v }
  | .count v => .ok { q.draft with count := v }
  | .cache v => .ok { q.draft with cache := v }
  | .memoryLimit v => .ok { q.draft with memoryLimit := v }
  | .ttl v => .ok { q.draft with ttl := v }
  | .fullCount v => .ok { q.draft with fullCount := v }
  | .options v => .ok { q.draft with options := v }

/-- **A changed copy of a query.** -/
def changed (q : Query) (c : Change) : Except Failure Query := do make (← q.changedDraft c)

/-! ### The payload -/

/-- The options in a payload: those of the query, with the setting of the query itself laid
over them. -/
def optionEntries (q : Query) : Named Value :=
  let entries := (q.options.map QueryOptions.toEntries).getD []
  match q.fullCount.supplied? with
  | some v => entries.put "fullCount" v
  | none => entries

/-- A dictionary of a payload, unless it is empty. -/
def dictIfAny (entries : Named Value) : Option Value :=
  if entries.isEmpty then none else some (Value.ofNamed entries)

/-- **What is sent to submit a query.** -/
def payload (q : Query) : Named Value :=
  [("query", .str q.text)] ++
  QueryOptions.entryIfSet "bindVars" (dictIfAny q.bindVars) ++
  QueryOptions.entryIfSet "count" q.count.supplied? ++
  QueryOptions.entryIfSet "batchSize" (q.batchSize.map fun n => .int n) ++
  QueryOptions.entryIfSet "cache" q.cache.supplied? ++
  QueryOptions.entryIfSet "memoryLimit" (q.memoryLimit.map fun n => .int n) ++
  QueryOptions.entryIfSet "ttl" (q.ttl.map Number.toValue) ++
  QueryOptions.entryIfSet "options" (dictIfAny q.optionEntries)

/-- Whether two queries say the same. A value that both hold counts as equal to itself. -/
def sameAs (p q : Query) : Bool :=
  let fields := fun (d : Draft) => [d.text, d.bindVars, d.batchSize, d.count, d.cache,
    d.memoryLimit, d.ttl, d.fullCount, d.options]
  Value.equalItems true (fields p.draft) (fields q.draft)

end Query

end AqlClient
