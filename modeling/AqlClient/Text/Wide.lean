import AqlClient.Text.CodePoint

/-!
# UTF-16 and UTF-32

The two encodings with wide units, in either byte order. A list of bytes is cut into units
(`Wide.units16`, `Wide.units32`), and the units are read as code points (`Wide.utf16?`,
`Wide.utf32?`). A number of bytes that is no multiple of the unit's width and a number that
is no code point are refused. Two units of UTF-16 that are the halves of a pair are one
character; a half without its partner is let pass, as every half is in UTF-32.
-/

namespace AqlClient

/-- The order of the bytes in a unit. -/
inductive ByteOrder where
  | big
  | little
  deriving DecidableEq, Repr

namespace Wide

/-- The unit that two bytes make. -/
def unit16 (order : ByteOrder) (a b : UInt8) : Nat :=
  match order with
  | .big => a.toNat * 256 + b.toNat
  | .little => b.toNat * 256 + a.toNat

/-- The bytes cut into units of two. -/
def units16 (order : ByteOrder) : List UInt8 → Option (List Nat)
  | [] => some []
  | [_] => none
  | a :: b :: rest => (units16 order rest).map (unit16 order a b :: ·)

/-- The bytes cut into units of four. -/
def units32 (order : ByteOrder) : List UInt8 → Option (List Nat)
  | [] => some []
  | a :: b :: c :: d :: rest =>
    let value :=
      match order with
      | .big => unit16 .big a b * 65536 + unit16 .big c d
      | .little => unit16 .little c d * 65536 + unit16 .little a b
    (units32 order rest).map (value :: ·)
  | _ => none

/-- Whether a unit is the first half of a pair. -/
def isHigh (u : Nat) : Bool := decide (0xD800 ≤ u ∧ u < 0xDC00)

/-- Whether a unit is the second half of a pair. -/
def isLow (u : Nat) : Bool := decide (0xDC00 ≤ u ∧ u < 0xE000)

/-- The code point of a pair of units. -/
def pairValue (high low : Nat) : Nat := 0x10000 + (high - 0xD800) * 1024 + (low - 0xDC00)

/-- The code points of a list of 16-bit units. -/
def pairUp : List Nat → Option Text
  | [] => some []
  | [u] => (CodePoint.ofNat? u).map fun p => [p]
  | u :: v :: rest =>
    if isHigh u && isLow v then
      match CodePoint.ofNat? (pairValue u v), pairUp rest with
      | some p, some ps => some (p :: ps)
      | _, _ => none
    else
      match CodePoint.ofNat? u, pairUp (v :: rest) with
      | some p, some ps => some (p :: ps)
      | _, _ => none

/-- A text in UTF-16. -/
def utf16? (order : ByteOrder) (bytes : List UInt8) : Option Text :=
  (units16 order bytes).bind pairUp

/-- A text in UTF-32. -/
def utf32? (order : ByteOrder) (bytes : List UInt8) : Option Text :=
  (units32 order bytes).bind fun us => us.mapM CodePoint.ofNat?

end Wide

end AqlClient
