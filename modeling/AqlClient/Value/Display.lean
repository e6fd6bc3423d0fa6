import AqlClient.Numeric.Shortest
import AqlClient.Text.Quoted
import AqlClient.Value.Basic

/-!
# Showing a value

The text of a value inside messages, logs and descriptions. Texts and byte strings are
quoted literals, a tuple of one item keeps a comma, and null, the flags and the marker of an
unset setting have names of their own (`Value.literal`). At the top of a message a text
stands for itself, without quotes (`Value.display`).
-/

namespace AqlClient

namespace Value

/-- The items of a list with `", "` between any two. -/
def commas (items : List String) : String := ", ".intercalate items

/-- The name of a flag. -/
def flagName (b : Bool) : String := if b then "True" else "False"

/-- The text of a number. -/
def numberText : Number → String
  | .int i => Numeral.ofInt i
  | .float x => x.text

/-- The text of an optional setting. -/
def settingText (text : α → String) : Option α → String
  | some a => text a
  | none => "(unset)"

mutual

/-- The literal of a value. -/
def literal : Value → String
  | .null => "None"
  | .bool b => flagName b
  | .int i => Numeral.ofInt i
  | .float x => x.text
  | .str s => Quoted.text s
  | .bytes bs => Quoted.bytes bs
  | .unset => "(unset)"
  | .options o => "AqlOptions(" ++ literalOptions o ++ ")"
  | .list items => "[" ++ commas (literals items) ++ "]"
  | .tuple items => tupleText (literals items)
  | .dict entries => "\x7b" ++ commas (literalEntries entries) ++ "\x7d"

/-- The literals of a list of values. -/
def literals : List Value → List String
  | [] => []
  | v :: rest => literal v :: literals rest

/-- The entries of a dictionary as texts. -/
def literalEntries : List (Value × Value) → List String
  | [] => []
  | (k, v) :: rest => (literal k ++ ": " ++ literal v) :: literalEntries rest

/-- The optimizer rules as a text. -/
def literalRules : Option (List Value) → String
  | none => "(unset)"
  | some items => tupleText (literals items)

/-- The settings of query options as texts. -/
def literalOptions : QueryOptions Value → String
  | ⟨warn, profile, warnings, full, plans, rules, runtime, stream⟩ =>
    commas ["fail_on_warning=" ++ literal warn, "profile=" ++ literal profile,
      "max_warning_count=" ++ settingText Numeral.ofNat warnings,
      "full_count=" ++ literal full, "max_plans=" ++ settingText Numeral.ofNat plans,
      "optimizer_rules=" ++ literalRules rules,
      "max_runtime=" ++ settingText numberText runtime, "stream=" ++ literal stream]

/-- The literal of a tuple with given items. -/
def tupleText : List String → String
  | [item] => "(" ++ item ++ ",)"
  | items => "(" ++ commas items ++ ")"

end

/-- A value at the top of a message: a text without quotes, else the literal. -/
def display : Value → String
  | .str s => s
  | v => v.literal

end Value

end AqlClient
