import AqlClient.Json.Basic
import AqlClient.Text.Hex
import AqlClient.Text.Wide

/-!
# Reading JSON

A reader takes a value off the front of a text and returns it with the rest;
`Json.parseText?` reads a whole text. Containers are read with fuel, one unit for each value
and each separator, of which the text cannot have more than code points: the fuel that
`Json.parseText?` gives never runs out.

The grammar is that of JSON with three more numbers (`NaN`, `Infinity` and `-Infinity`).
White space is a space, a tab, a line feed or a carriage return, and only those. A control
character inside a string is refused. Two escapes by number that are the halves of a pair,
one right behind the other, are one character; any other half, by its number or as it is,
stands for itself. A number without fraction and exponent is an exact
integer of at most 4300 digits; any other one is rounded to a double-precision number. Of
two fields with one name the later value counts, at the place of the earlier one.
-/

namespace AqlClient

namespace Json

namespace Reader

/-- White space between tokens. -/
def isSpace : CodePoint → Bool
  | .char c => c == ' ' || c == '\t' || c == '\n' || c == '\r'
  | .half _ _ => false

/-- A text from the first code point on that is no white space. -/
def skipSpace (t : Text) : Text := t.dropWhile isSpace

/-- The value of four hexadecimal digits. -/
def hex4? (a b c d : Char) : Option Nat := do
  let w ← Hex.value? a
  let x ← Hex.value? b
  let y ← Hex.value? c
  let z ← Hex.value? d
  some (((w * 16 + x) * 16 + y) * 16 + z)

/-- The character that a single-letter escape stands for. -/
def shortEscape? (c : Char) : Option Char :=
  match c with
  | '"' => some '"'
  | '\\' => some '\\'
  | '/' => some '/'
  | 'b' => some (Char.ofNat 8)
  | 'f' => some (Char.ofNat 12)
  | 'n' => some '\n'
  | 'r' => some '\r'
  | 't' => some '\t'
  | _ => none

/-- Puts a code point, if it is one, in front of the rest of a string that has been read. -/
def push (p : Option CodePoint) (r : Option (Text × Text)) : Option (Text × Text) := do
  let p ← p
  let (string, rest) ← r
  some (p :: string, rest)

/-- The text of a string up to its closing quote, and the rest after it. -/
def stringBody : Text → Option (Text × Text)
  | [] => none
  | .char '"' :: rest => some ([], rest)
  | .char '\\' :: .char 'u' :: .char a :: .char b :: .char c :: .char d ::
      .char '\\' :: .char 'u' :: .char e :: .char f :: .char g :: .char h :: rest =>
    match hex4? a b c d, hex4? e f g h with
    | some u, some v =>
      if Wide.isHigh u && Wide.isLow v then
        push (CodePoint.ofNat? (Wide.pairValue u v)) (stringBody rest)
      else
        push (CodePoint.ofNat? u) (stringBody (.char '\\' :: .char 'u' ::
          .char e :: .char f :: .char g :: .char h :: rest))
    | _, _ => none
  | .char '\\' :: .char 'u' :: .char a :: .char b :: .char c :: .char d :: rest =>
    match hex4? a b c d with
    | some u => push (CodePoint.ofNat? u) (stringBody rest)
    | none => none
  | .char '\\' :: .char c :: rest => push ((shortEscape? c).map .char) (stringBody rest)
  | .char '\\' :: _ => none
  | .char c :: rest => if c.toNat < 32 then none else push (some (.char c)) (stringBody rest)
  | p :: rest => push (some p) (stringBody rest)

/-- Splits off the digits at the front. -/
def spanDigits : Text → List Nat × Text
  | .char c :: rest =>
    match Numeral.digitValue? c with
    | some d => let (ds, after) := spanDigits rest; (d :: ds, after)
    | none => ([], .char c :: rest)
  | t => ([], t)

/-- The digits of the integral part: a zero alone, or digits that start with another one. -/
def integral? (t : Text) : Option (List Nat × Text) :=
  match t with
  | .char '0' :: rest => some ([0], rest)
  | _ =>
    match spanDigits t with
    | ([], _) => none
    | found => some found

/-- The digits after a point, none if there is no point with a digit behind it. -/
def fraction (t : Text) : List Nat × Text :=
  match t with
  | .char '.' :: rest =>
    match spanDigits rest with
    | ([], _) => ([], t)
    | found => found
  | _ => ([], t)

/-- The digits of an exponent behind its sign. -/
def exponentDigits (negative : Bool) (t : Text) : Option (Int × Text) :=
  match spanDigits t with
  | ([], _) => none
  | (ds, rest) =>
    let n := Numeral.ofDigits ds
    some (if negative then -(n : Int) else n, rest)

/-- The exponent of a number, if it has one. -/
def exponent? (t : Text) : Option (Int × Text) :=
  match t with
  | .char e :: rest =>
    if e = 'e' ∨ e = 'E' then
      match rest with
      | .char '-' :: ds => exponentDigits true ds
      | .char '+' :: ds => exponentDigits false ds
      | ds => exponentDigits false ds
    else none
  | _ => none

/-- The greatest number of digits of an integer. -/
def maxDigits : Nat := 4300

/-- The number whose magnitude starts at the front. -/
def magnitude (negative : Bool) (t : Text) : Option (Json × Text) :=
  match integral? t with
  | none => none
  | some (ds, rest) =>
    let (fs, rest) := fraction rest
    match fs, exponent? rest with
    | [], none =>
      -- neither fraction nor exponent: an exact integer
      if maxDigits < ds.length then none
      else
        let n := Numeral.ofDigits ds
        some (.int (if negative then -(n : Int) else n), rest)
    | fs, some (e, rest) =>
      let m := Numeral.ofDigits (ds ++ fs)
      some (.float (Binary64.ofDecimal negative m (e - fs.length)), rest)
    | fs, none =>
      let m := Numeral.ofDigits (ds ++ fs)
      some (.float (Binary64.ofDecimal negative m (-(fs.length : Int))), rest)

/-- The number at the front. -/
def number (t : Text) : Option (Json × Text) :=
  match t with
  | .char '-' :: rest => magnitude true rest
  | _ => magnitude false t

/-- A value without parts at the front. -/
def scalar (t : Text) : Option (Json × Text) :=
  match t with
  | .char '"' :: rest => (stringBody rest).map fun p => (.str p.1, p.2)
  | .char 'n' :: .char 'u' :: .char 'l' :: .char 'l' :: rest => some (.null, rest)
  | .char 't' :: .char 'r' :: .char 'u' :: .char 'e' :: rest => some (.bool true, rest)
  | .char 'f' :: .char 'a' :: .char 'l' :: .char 's' :: .char 'e' :: rest =>
    some (.bool false, rest)
  | .char 'N' :: .char 'a' :: .char 'N' :: rest => some (.float Binary64.nan, rest)
  | .char 'I' :: .char 'n' :: .char 'f' :: .char 'i' :: .char 'n' ::
      .char 'i' :: .char 't' :: .char 'y' :: rest =>
    some (.float (Binary64.infinity false), rest)
  | .char '-' :: .char 'I' :: .char 'n' :: .char 'f' :: .char 'i' ::
      .char 'n' :: .char 'i' :: .char 't' :: .char 'y' :: rest =>
    some (.float (Binary64.infinity true), rest)
  | _ => number t

mutual

/-- The value at the front. -/
def value : Nat → Text → Option (Json × Text)
  | 0, _ => none
  | fuel + 1, t =>
    match t with
    | .char '[' :: rest =>
      match skipSpace rest with
      | .char ']' :: after => some (.arr [], after)
      | inner => (items fuel inner).map fun p => (.arr p.1, p.2)
    | .char '\x7b' :: rest =>
      -- of two fields with one name the later value is kept
      match skipSpace rest with
      | .char '\x7d' :: after => some (.obj [], after)
      | inner => (pairs fuel inner).map fun p => (.obj (Named.ofPairs p.1), p.2)
    | _ => scalar t

/-- The items of an array from its next value on, up to the closing bracket. -/
def items : Nat → Text → Option (List Json × Text)
  | 0, _ => none
  | fuel + 1, t =>
    match value fuel t with
    | none => none
    | some (v, rest) =>
      match skipSpace rest with
      | .char ']' :: after => some ([v], after)
      | .char ',' :: more => (items fuel (skipSpace more)).map fun p => (v :: p.1, p.2)
      | _ => none

/-- The fields of an object from its next name on, up to the closing brace. -/
def pairs : Nat → Text → Option (List (Text × Json) × Text)
  | 0, _ => none
  | fuel + 1, t =>
    match t with
    | .char '"' :: name =>
      match stringBody name with
      | none => none
      | some (k, rest) =>
        match skipSpace rest with
        | .char ':' :: rest =>
          match value fuel (skipSpace rest) with
          | none => none
          | some (v, rest) =>
            match skipSpace rest with
            | .char '\x7d' :: after => some ([(k, v)], after)
            | .char ',' :: more =>
              (pairs fuel (skipSpace more)).map fun p => ((k, v) :: p.1, p.2)
            | _ => none
        | _ => none
    | _ => none

end

end Reader

/-- The value that a text is the text of. -/
def parseText? (t : Text) : Option Json :=
  match Reader.value (2 * t.length + 2) (Reader.skipSpace t) with
  | some (v, rest) => if (Reader.skipSpace rest).isEmpty then some v else none
  | none => none

/-- The value that a string is the text of. -/
def parse? (s : String) : Option Json := parseText? s

end Json

end AqlClient
