import AqlClient.Json.Basic
import AqlClient.Numeric.Number

/-!
# Values from the caller

What a caller hands over — bind variables, query settings, payloads — is richer than JSON:
byte strings, tuples, dictionaries with keys of any kind, the marker of a setting that was
not supplied, and query options (`Value`). Whether such a value can be sent is decided when
it is written as JSON; until then it is only kept, compared and shown.

What a server sends becomes a value too (`Value.ofJson`), of the kinds that JSON knows and with
its texts as they are shown.

Equality (`Value.equal`) is by meaning: a flag equals the integer zero or one, an integer
equals the double-precision number of its value, and the order of a dictionary does not
count. Its parameter says what a NaN is to itself: nothing as a key of a dictionary, but
the same when two queries hold the very same value.
-/

namespace AqlClient

/-- Query options for the server. The settings of type `V` are sent as they are and may be
left unset; the others have been checked. -/
structure QueryOptions (V : Type) where
  failOnWarning : V
  profile : V
  maxWarningCount : Option Nat
  fullCount : V
  maxPlans : Option Nat
  rules : Option (List V)
  maxRuntime : Option Number
  stream : V

/-- A value from the caller. -/
inductive Value where
  | null
  | bool (b : Bool)
  | int (i : Int)
  | float (x : Binary64)
  | str (s : String)
  | bytes (bs : List UInt8)
  | unset
  | options (o : QueryOptions Value)
  | list (items : List Value)
  | tuple (items : List Value)
  | dict (entries : List (Value × Value))
  deriving Inhabited

/-- The entries of a dictionary, in order. -/
abbrev Entries := List (Value × Value)

/-- The kinds of values. -/
inductive Kind where
  | null
  | bool
  | int
  | float
  | str
  | bytes
  | unset
  | options
  | list
  | tuple
  | dict
  deriving DecidableEq, Repr

/-- The name of a kind in messages. -/
def Kind.name : Kind → String
  | .null => "NoneType"
  | .bool => "bool"
  | .int => "int"
  | .float => "float"
  | .str => "str"
  | .bytes => "bytes"
  | .unset => "UnsetType"
  | .options => "AqlOptions"
  | .list => "list"
  | .tuple => "tuple"
  | .dict => "dict"

/-- All kinds. -/
def Kind.all : List Kind :=
  [.null, .bool, .int, .float, .str, .bytes, .unset, .options, .list, .tuple, .dict]

/-- The kind with a given name. -/
def Kind.named? (name : String) : Option Kind := Kind.all.find? fun kind => kind.name == name

/-- A number as a value. -/
def Number.toValue : Number → Value
  | .int i => .int i
  | .float x => .float x

namespace Value

/-- The kind of a value. -/
def kind : Value → Kind
  | .null => .null
  | .bool _ => .bool
  | .int _ => .int
  | .float _ => .float
  | .str _ => .str
  | .bytes _ => .bytes
  | .unset => .unset
  | .options _ => .options
  | .list _ => .list
  | .tuple _ => .tuple
  | .dict _ => .dict

/-- A value read as a flag: null, false, every zero, everything empty and the marker of an
unset setting count as false. -/
def truthy : Value → Bool
  | .null => false
  | .bool b => b
  | .int i => i != 0
  | .float x => !x.equalsInt 0
  | .str s => !s.isEmpty
  | .bytes bs => !bs.isEmpty
  | .unset => false
  | .options _ => true
  | .list items => !items.isEmpty
  | .tuple items => !items.isEmpty
  | .dict entries => !entries.isEmpty

/-! ### Views -/

/-- The flag that a value is. -/
def bool? : Value → Option Bool
  | .bool b => some b
  | _ => none

/-- The integer that a value is; a flag is none. -/
def int? : Value → Option Int
  | .int i => some i
  | _ => none

/-- The number that a value is; a flag is none. -/
def number? : Value → Option Number
  | .int i => some (.int i)
  | .float x => some (.float x)
  | _ => none

/-- The text that a value is. -/
def str? : Value → Option String
  | .str s => some s
  | _ => none

/-- The items of the list that a value is. -/
def list? : Value → Option (List Value)
  | .list items => some items
  | _ => none

/-- The entries of the dictionary that a value is. -/
def dict? : Value → Option Entries
  | .dict entries => some entries
  | _ => none

/-- A setting that may be left out. -/
def supplied? : Value → Option Value
  | .unset => none
  | v => some v

/-- What going through a value yields: the items of a list or a tuple, the keys of a
dictionary, the characters of a text or the numbers of a byte string. Nothing else can be
gone through. -/
def elements? : Value → Option (List Value)
  | .list items => some items
  | .tuple items => some items
  | .dict entries => some (entries.map Prod.fst)
  | .str s => some (s.toList.map fun c => .str (String.ofList [c]))
  | .bytes bs => some (bs.map fun b => .int b.toNat)
  | _ => none

/-- The number of things that going through a value yields. -/
def length? (v : Value) : Option Nat := v.elements?.map List.length

/-! ### Values from a server -/

mutual

/-- A JSON value as a value, with its texts as they are shown. -/
def ofJson : Json → Value
  | .null => .null
  | .bool b => .bool b
  | .int i => .int i
  | .float x => .float x
  | .str t => .str t.shown
  | .arr items => .list (ofJsonItems items)
  | .obj fields => .dict (ofJsonFields fields)

/-- A list of JSON values as values. -/
def ofJsonItems : List Json → List Value
  | [] => []
  | j :: rest => ofJson j :: ofJsonItems rest

/-- The fields of an object as entries of a dictionary, under their names as they are shown. -/
def ofJsonFields : List (Text × Json) → List (Value × Value)
  | [] => []
  | (name, j) :: rest => (.str name.shown, ofJson j) :: ofJsonFields rest

end

/-! ### Equality -/

/-- A flag, an integer or a double-precision number as a number. -/
def numeric? : Value → Option Number
  | .bool b => some (.int (if b then 1 else 0))
  | .int i => some (.int i)
  | .float x => some (.float x)
  | _ => none

/-- Equality of two numbers by value; `kept` is what a NaN is to itself. -/
def sameNumber (kept : Bool) (m n : Number) : Bool := m.sameValue n || (kept && m == n)

mutual

/-- Equality by meaning; `kept` is what a NaN is to itself. -/
def equal (kept : Bool) : Value → Value → Bool
  | .null, .null => true
  | .unset, .unset => true
  | .str a, .str b => a == b
  | .bytes a, .bytes b => a == b
  | .list as, .list bs => equalItems kept as bs
  | .tuple as, .tuple bs => equalItems kept as bs
  | .dict as, .dict bs => as.length == bs.length && equalEntries kept as bs
  | .options a, .options b => equalOptions kept a b
  | a, b =>
    match a.numeric?, b.numeric? with
    | some m, some n => sameNumber kept m n
    | _, _ => false

/-- Equality of two lists, item by item. -/
def equalItems (kept : Bool) : List Value → List Value → Bool
  | [], [] => true
  | a :: as, b :: bs => equal kept a b && equalItems kept as bs
  | _, _ => false

/-- Whether every entry has an equal one among the entries of another dictionary. -/
def equalEntries (kept : Bool) : List (Value × Value) → List (Value × Value) → Bool
  | [], _ => true
  | (k, a) :: as, bs =>
    (bs.any fun entry => equal kept k entry.1 && equal kept a entry.2) &&
      equalEntries kept as bs

/-- Equality of two optional lists. -/
def equalRules (kept : Bool) : Option (List Value) → Option (List Value) → Bool
  | none, none => true
  | some as, some bs => equalItems kept as bs
  | _, _ => false

/-- Equality of query options, setting by setting. -/
def equalOptions (kept : Bool) : QueryOptions Value → QueryOptions Value → Bool
  | ⟨warn, profile, warnings, full, plans, rules, runtime, stream⟩, o =>
    equal kept warn o.failOnWarning && equal kept profile o.profile &&
      warnings == o.maxWarningCount && equal kept full o.fullCount && plans == o.maxPlans &&
      equalRules kept rules o.rules &&
      (match runtime, o.maxRuntime with
        | none, none => true
        | some m, some n => sameNumber kept m n
        | _, _ => false) &&
      equal kept stream o.stream

end

/-! ### Dictionaries -/

mutual

/-- Whether a value can be a key: lists and dictionaries, and what contains them, cannot. -/
def isKey : Value → Bool
  | .list _ => false
  | .dict _ => false
  | .tuple items => allKeys items
  | .options o => optionsKey o
  | _ => true

/-- Whether all values of a list can be keys. -/
def allKeys : List Value → Bool
  | [] => true
  | a :: rest => isKey a && allKeys rest

/-- Whether all rules can be keys. -/
def rulesKey : Option (List Value) → Bool
  | none => true
  | some items => allKeys items

/-- Whether all settings can be keys. -/
def optionsKey : QueryOptions Value → Bool
  | ⟨warn, profile, _, full, _, rules, _, stream⟩ =>
    isKey warn && isKey profile && isKey full && isKey stream && rulesKey rules

end

end Value

namespace Entries

/-- The value of a name. -/
def get? (entries : Entries) (name : String) : Option Value :=
  (entries.find? fun entry => entry.1.str? == some name).map Prod.snd

/-- The entries without a given name. -/
def erase (entries : Entries) (name : String) : Entries :=
  entries.filter fun entry => entry.1.str? != some name

/-- Sets the value of a key: the first key stays in its place, a new one goes to the end. -/
def insert (entries : Entries) (key value : Value) : Entries :=
  if entries.any (fun entry => Value.equal false entry.1 key) then
    entries.map fun entry =>
      if Value.equal false entry.1 key then (entry.1, value) else entry
  else entries ++ [(key, value)]

/-- The dictionary of entries given one after the other. -/
def ofPairs (pairs : List (Value × Value)) : Entries :=
  pairs.foldl (fun entries entry => entries.insert entry.1 entry.2) []

end Entries

end AqlClient
