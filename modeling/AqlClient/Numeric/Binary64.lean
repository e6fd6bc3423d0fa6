import AqlClient.Numeric.Numeral

/-!
# Double-precision numbers

A double-precision number is its 64-bit word (`Binary64`). Everything asked of it goes
through an exact decode into integers (`Binary64.decode`): a finite number is a sign, a
natural significand `m` and an exponent `e`, and stands for `± m · 2 ^ e`. No machine
arithmetic on fractions takes part, so comparisons and roundings are statements about
natural numbers.

* `Binary64.ofRatio` rounds a quotient of integers to the nearest number, a tie going to
  the even significand;
* `Binary64.ofDecimal` does so for a decimal significand and a power of ten, which is how
  a numeral with a fraction or an exponent is read;
* `Binary64.sameValue`, `Binary64.equalsInt`, `Binary64.belowInt` and `Binary64.below`
  compare values: a NaN equals nothing and is below nothing, and the two zeros are equal;
* `Binary64.add`, `Binary64.sub` and `Binary64.divide` compute the exact result and round it
  once.

There are many NaNs, which differ in a mark that nothing but their identity depends on
(`Binary64.markedNan`).

Powers are called by their names, `Nat.pow` and `Int.pow`, since what the operator stands for
depends on the instances that are in scope.
-/

namespace AqlClient

/-- A double-precision number, as its 64-bit word. -/
structure Binary64 where
  bits : UInt64
  deriving DecidableEq, Repr, Inhabited

namespace Binary64

/-- What a word stands for: `± m · 2 ^ e`, an infinity, or no number at all. -/
inductive Datum where
  | finite (negative : Bool) (m : Nat) (e : Int)
  | infinite (negative : Bool)
  | nan
  deriving DecidableEq, Repr

/-- The exact decode of a word into sign, significand and exponent. -/
def decode (x : Binary64) : Datum :=
  let word : Nat := x.bits.toNat
  let negative := decide (Nat.pow 2 63 ≤ word)
  let field : Nat := word / Nat.pow 2 52 % 2048
  let fraction : Nat := word % Nat.pow 2 52
  -- the greatest exponent field is reserved, the least one has no implicit leading bit
  if field = 2047 then
    if fraction = 0 then .infinite negative else .nan
  else if field = 0 then .finite negative fraction (-1074)
  else .finite negative (Nat.pow 2 52 + fraction) ((field : Int) - 1075)

/-- Whether a number is neither infinite nor a NaN. -/
def isFinite (x : Binary64) : Bool :=
  match x.decode with
  | .finite .. => true
  | _ => false

/-- The word with a given sign and given lower 63 bits. -/
def ofMagnitude (negative : Bool) (word : Nat) : Binary64 :=
  ⟨UInt64.ofNat (if negative then Nat.pow 2 63 + word else word)⟩

/-- The lower 63 bits of an infinity, which are also those of every overflow. -/
def infinityWord : Nat := 2047 * Nat.pow 2 52

/-- Positive or negative infinity. -/
def infinity (negative : Bool) : Binary64 := ofMagnitude negative infinityWord

/-- The quiet NaN with a given mark. -/
def markedNan (mark : Nat) : Binary64 := ⟨UInt64.ofNat (infinityWord + Nat.pow 2 51 + mark)⟩

/-- The quiet NaN. -/
def nan : Binary64 := markedNan 0

/-! ### Rounding -/

/-- The quotient `num / den` rounded to an integer, a tie going to the even neighbour. -/
def roundQuotient (num den : Nat) : Nat :=
  let q := num / den
  let r := num % den
  if den < 2 * r ∨ (den = 2 * r ∧ q % 2 = 1) then q + 1 else q

/-- **Rounding a quotient to the nearest number.** The exponent is chosen so that the
significand has 53 bits, unless the quotient is so small that the least exponent is
reached first. A significand that rounds up to `2 ^ 53` carries into the exponent field by
itself, since the fields are added as one number. -/
def ofRatio (negative : Bool) (num den : Nat) : Binary64 :=
  if num = 0 then ofMagnitude negative 0
  else
    -- the guess leaves 53 or 54 bits, and one more step makes them 53
    let guess : Int := max (-1074) ((num.log2 : Int) - (den.log2 : Int) - 53)
    let scaled (e : Int) : Nat × Nat :=
      if 0 ≤ e then (num, den * Nat.pow 2 e.toNat) else (num * Nat.pow 2 (-e).toNat, den)
    let e : Int := if Nat.pow 2 53 ≤ (scaled guess).1 / (scaled guess).2 then guess + 1 else guess
    let q := roundQuotient (scaled e).1 (scaled e).2
    -- below `2 ^ 52` the exponent is the least one, whose field is zero
    let word := if q < Nat.pow 2 52 then q
      else ((e + 1075).toNat) * Nat.pow 2 52 + (q - Nat.pow 2 52)
    ofMagnitude negative (min word infinityWord)

/-- The number nearest to an integer divided by a natural number. -/
def ofQuotient (i : Int) (den : Nat) : Binary64 :=
  ofRatio (decide (i < 0)) i.natAbs den

/-- The number nearest to `± m · 10 ^ exponent`. Exponents far outside the range are
settled without computing the power. -/
def ofDecimal (negative : Bool) (m : Nat) (exponent : Int) : Binary64 :=
  let magnitude : Int := exponent + (Numeral.digits m).length
  if m = 0 then ofMagnitude negative 0
  else if 400 < magnitude then infinity negative
  else if magnitude < -400 then ofMagnitude negative 0
  else if 0 ≤ exponent then ofRatio negative (m * Nat.pow 10 exponent.toNat) 1
  else ofRatio negative m (Nat.pow 10 (-exponent).toNat)

/-! ### Comparison -/

/-- Equality of values: a NaN differs from everything, and both zeros are equal. -/
def sameValue (x y : Binary64) : Bool :=
  match x.decode, y.decode with
  | .finite a m e, .finite b n f =>
    if m = 0 ∧ n = 0 then true else decide (a = b ∧ m = n ∧ e = f)
  | .infinite a, .infinite b => decide (a = b)
  | _, _ => false

/-- The value of a finite number against an integer, both scaled to integers: the first
component stands for the number and the second for the integer. -/
def scaledAgainst (negative : Bool) (m : Nat) (e : Int) (i : Int) : Int × Int :=
  let signed : Int := if negative then -(m : Int) else m
  if 0 ≤ e then (signed * Int.pow 2 e.toNat, i) else (signed, i * Int.pow 2 (-e).toNat)

/-- Whether a number has the value of an integer. -/
def equalsInt (x : Binary64) (i : Int) : Bool :=
  match x.decode with
  | .finite negative m e =>
    let (a, b) := scaledAgainst negative m e i
    decide (a = b)
  | _ => false

/-- Whether a number is strictly below an integer. -/
def belowInt (x : Binary64) (i : Int) : Bool :=
  match x.decode with
  | .finite negative m e =>
    let (a, b) := scaledAgainst negative m e i
    decide (a < b)
  | .infinite negative => negative
  | .nan => false

/-- Whether a number is below an integer or has its value. -/
def atMostInt (x : Binary64) (i : Int) : Bool := x.belowInt i || x.equalsInt i

/-- The place of a number among all numbers; a NaN has none. Without their sign, words are
in the order of the magnitudes that they stand for. -/
def place? (x : Binary64) : Option Int :=
  match x.decode with
  | .nan => none
  | .finite negative .. | .infinite negative =>
    let magnitude : Nat := x.bits.toNat % Nat.pow 2 63
    some (if negative then -(magnitude : Int) else magnitude)

/-- Whether a number is strictly below another one. -/
def below (x y : Binary64) : Bool :=
  match x.place?, y.place? with
  | some a, some b => decide (a < b)
  | _, _ => false

/-! ### Arithmetic -/

/-- A finite number in units of the least positive one. -/
def units (negative : Bool) (m : Nat) (e : Int) : Int :=
  let size : Int := m * Int.pow 2 (e + 1074).toNat
  if negative then -size else size

/-- The number nearest to a number of units. -/
def ofUnits (i : Int) : Binary64 := ofQuotient i (Nat.pow 2 1074)

/-- The number with the other sign. -/
def negate (x : Binary64) : Binary64 := ⟨x.bits ^^^ UInt64.ofNat (Nat.pow 2 63)⟩

/-- The sum of two numbers. -/
def add (x y : Binary64) : Binary64 :=
  match x.decode, y.decode with
  | .nan, _ => x
  | _, .nan => y
  | .infinite a, .infinite b => if a = b then x else nan
  | .infinite _, _ => x
  | _, .infinite _ => y
  | .finite a m e, .finite b n f =>
    let sum := units a m e + units b n f
    -- a sum of zero is negative only if both zeros are
    if sum = 0 then ofMagnitude (a && b) 0 else ofUnits sum

/-- The difference of two numbers. -/
def sub (x y : Binary64) : Binary64 := add x y.negate

/-- A number divided by a natural number above zero. -/
def divide (x : Binary64) (den : Nat) : Binary64 :=
  match x.decode with
  | .finite negative m e => ofRatio negative (units false m e).toNat (den * Nat.pow 2 1074)
  | _ => x

end Binary64

end AqlClient
