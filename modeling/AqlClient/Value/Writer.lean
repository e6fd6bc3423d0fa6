import AqlClient.Numeric.Shortest
import AqlClient.Text.Hex
import AqlClient.Value.Basic

/-!
# Writing a value as JSON

The compact JSON text of a value: no white space, the order of dictionaries kept, and only
the quote, the backslash and control characters escaped (`Value.write`). A list and a tuple
are both arrays. A key that is a number, a flag or null is written as the text of its value.

Not everything can be written, and `Unencodable` says why: a number that JSON has no
literal for, a value of a type that JSON does not know, or a key of such a type. The first
obstacle in writing order is the one reported.
-/

namespace AqlClient

/-- Why a value cannot be written as JSON. -/
inductive Unencodable where
  | outOfRange
  | unknownType (kind : Kind)
  | keyType (kind : Kind)
  deriving DecidableEq, Repr

/-- The wording of an obstacle. -/
def Unencodable.message : Unencodable → String
  | .outOfRange => "Out of range float values are not JSON compliant"
  | .unknownType kind => "Object of type " ++ kind.name ++ " is not JSON serializable"
  | .keyType kind => "keys must be str, int, float, bool or None, not " ++ kind.name

namespace Value

/-- A character between the quotes. -/
def writeChar (c : Char) : List Char :=
  if c = '"' then ['\\', '"']
  else if c = '\\' then ['\\', '\\']
  else if c = '\n' then ['\\', 'n']
  else if c = '\r' then ['\\', 'r']
  else if c = '\t' then ['\\', 't']
  else if c = Char.ofNat 8 then ['\\', 'b']
  else if c = Char.ofNat 12 then ['\\', 'f']
  else if c.toNat < 32 then '\\' :: 'u' :: Hex.padded 4 c.toNat
  else [c]

/-- A string with its quotes. -/
def writeString (s : String) : List Char := '"' :: s.toList.flatMap writeChar ++ ['"']

/-- The literal of a flag. -/
def writeBool (b : Bool) : List Char := if b then "true".toList else "false".toList

/-- The text of a number, if JSON has a literal for it. -/
def writeFloat (x : Binary64) : Except Unencodable (List Char) :=
  if x.isFinite then .ok x.text.toList else .error .outOfRange

/-- The text of a key, as the name of a field. -/
def keyText : Value → Except Unencodable String
  | .str s => .ok s
  | .float x => (writeFloat x).map String.ofList
  | .bool b => .ok (String.ofList (writeBool b))
  | .null => .ok "null"
  | .int i => .ok (Numeral.ofInt i)
  | k => .error (.keyType k.kind)

mutual

/-- The characters of a value. -/
def writeChars : Value → Except Unencodable (List Char)
  | .null => .ok "null".toList
  | .bool b => .ok (writeBool b)
  | .int i => .ok (Numeral.intChars i)
  | .float x => writeFloat x
  | .str s => .ok (writeString s)
  | .list items => (writeItems items).map fun cs => '[' :: cs ++ [']']
  | .tuple items => (writeItems items).map fun cs => '[' :: cs ++ [']']
  | .dict entries => (writeEntries entries).map fun cs => '\x7b' :: cs ++ ['\x7d']
  | .bytes _ => .error (.unknownType .bytes)
  | .unset => .error (.unknownType .unset)
  | .options _ => .error (.unknownType .options)

/-- The items of an array, with a comma between any two. -/
def writeItems : List Value → Except Unencodable (List Char)
  | [] => .ok []
  | [v] => writeChars v
  | v :: rest =>
    match writeChars v with
    | .error e => .error e
    | .ok cs => (writeItems rest).map fun ds => cs ++ ',' :: ds

/-- The fields of an object, with a comma between any two. -/
def writeEntries : List (Value × Value) → Except Unencodable (List Char)
  | [] => .ok []
  | [(k, v)] =>
    match keyText k with
    | .error e => .error e
    | .ok name => (writeChars v).map fun cs => writeString name ++ ':' :: cs
  | (k, v) :: rest =>
    -- the key comes before the value, so its obstacle is the one reported
    match keyText k with
    | .error e => .error e
    | .ok name =>
      match writeChars v with
      | .error e => .error e
      | .ok cs => (writeEntries rest).map fun ds => writeString name ++ ':' :: cs ++ ',' :: ds

end

/-- The JSON text of a value. -/
def write (v : Value) : Except Unencodable String := v.writeChars.map String.ofList

end Value

end AqlClient
