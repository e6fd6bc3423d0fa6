import AqlClient.Numeric.Binary64

/-!
# The shortest decimal that reads back

Between a double-precision number and its neighbours lies an interval of reals that round
to it. Its text has the fewest decimal digits that any decimal in this interval has, and
of those decimals it is the one nearest to the number (`Binary64.shortest`).

The search is exact. The number and the interval are given as numerators over one common
denominator, and for one digit, two digits and so on the two decimals around the number
are tried, until one of them lies in the interval. If any decimal of the grid lies in the
interval, so does one of these two; seventeen digits always suffice.

How the digits are laid out — where positional notation ends, what the exponent looks
like — is not a matter of arithmetic but of the format, and is kept in a record
(`NumberLayout`).
-/

namespace AqlClient

namespace Binary64

/-- A decimal: `coefficient · 10 ^ exponent`. -/
structure Decimal where
  coefficient : Nat
  exponent : Int
  deriving DecidableEq, Repr

/-- The exponent of the leading digit. -/
def Decimal.lead (d : Decimal) : Int :=
  d.exponent + (Numeral.digits d.coefficient).length - 1

/-- The digits of a decimal without zeros at their end: a coefficient may be a power of
ten when the grid point above the number is one. -/
def Decimal.digitChars (d : Decimal) : List Char :=
  ((Numeral.natChars d.coefficient).reverse.dropWhile (· = '0')).reverse

/-- A positive number over a common denominator, with the ends of the interval of reals
that round to it; `closed` says that the ends themselves belong to the interval. -/
structure RoundingInterval where
  lower : Nat
  value : Nat
  upper : Nat
  denominator : Nat
  closed : Bool

/-- The interval of reals that round to `m · 2 ^ e`. The gap below a power of two is half
as wide as the gap above it, except at the least exponent. -/
def roundingInterval (m : Nat) (e : Int) : RoundingInterval :=
  -- everything is counted in quarters of the gap above the number
  let below := if m = Nat.pow 2 52 ∧ -1074 < e then 1 else 2
  let shift := e - 2
  let up := if 0 ≤ shift then Nat.pow 2 shift.toNat else 1
  let down := if 0 ≤ shift then 1 else Nat.pow 2 (-shift).toNat
  { lower := (4 * m - below) * up
    value := 4 * m * up
    upper := (4 * m + 2) * up
    denominator := down
    closed := decide (m % 2 = 0) }

/-- The exponent of the leading decimal digit of a positive quotient. -/
def leadingExponent (num den : Nat) : Int :=
  if den ≤ num then (Numeral.digits (num / den)).length - 1
  else -((Numeral.digits ((den + num - 1) / num - 1)).length : Int)

/-- Whether `c · 10 ^ k` lies in the interval. -/
def RoundingInterval.contains (r : RoundingInterval) (c : Nat) (k : Int) : Bool :=
  let (x, d) :=
    if 0 ≤ k then (c * Nat.pow 10 k.toNat * r.denominator, 1)
    else (c * r.denominator, Nat.pow 10 (-k).toNat)
  let (lo, hi) := (r.lower * d, r.upper * d)
  if r.closed then decide (lo ≤ x ∧ x ≤ hi) else decide (lo < x ∧ x < hi)

/-- The decimals of the grid `10 ^ k` next to the number, the nearer one of those that lie
in the interval; none if neither does. -/
def RoundingInterval.nearestOn (r : RoundingInterval) (k : Int) : Option Nat :=
  let (num, den) :=
    if 0 ≤ k then (r.value, r.denominator * Nat.pow 10 k.toNat)
    else (r.value * Nat.pow 10 (-k).toNat, r.denominator)
  let c := num / den
  let rest := num % den
  match r.contains c k, r.contains (c + 1) k with
  | true, true => some (if 2 * rest < den ∨ (2 * rest = den ∧ c % 2 = 0) then c else c + 1)
  | true, false => some c
  | false, true => some (c + 1)
  | false, false => none

/-- The search over grids, from the coarsest on: `left` grids are still to be tried, and
`10 ^ k` is the next one. -/
def RoundingInterval.search (r : RoundingInterval) : Nat → Int → Decimal
  | 0, k => ⟨r.value / r.denominator, k⟩
  | left + 1, k =>
    match r.nearestOn k with
    | some c => ⟨c, k⟩
    | none => r.search left (k - 1)

/-- The shortest decimal that reads back as `m · 2 ^ e`, for a positive `m`. -/
def shortest (m : Nat) (e : Int) : Decimal :=
  let r := roundingInterval m e
  r.search 18 (leadingExponent r.value r.denominator)

end Binary64

/-- How the digits of a number are laid out. -/
structure NumberLayout where
  /-- The least decimal exponent that is written positionally. -/
  positionalFrom : Int
  /-- The least decimal exponent above those written positionally. -/
  positionalBelow : Int
  /-- What an integral value is followed by in positional notation. -/
  integralEnd : String
  /-- The sign between digits and exponent. -/
  exponentMark : String
  /-- The least number of digits of an exponent. -/
  exponentDigits : Nat
  nan : String
  infinity : String

namespace NumberLayout

/-- The exponent with its sign, padded with zeros. -/
def exponentText (l : NumberLayout) (exponent : Int) : String :=
  let ds := Numeral.natChars exponent.natAbs
  let padded := List.replicate (l.exponentDigits - ds.length) '0' ++ ds
  l.exponentMark ++ (if exponent < 0 then "-" else "+") ++ String.ofList padded

/-- Decimal digits with leading exponent `lead`, in the notation that the layout asks
for. -/
def digitsText (l : NumberLayout) (ds : List Char) (lead : Int) : String :=
  if lead < l.positionalFrom ∨ l.positionalBelow ≤ lead then
    let head := String.ofList (ds.take 1)
    let tail := ds.drop 1
    let fraction := if tail.isEmpty then "" else "." ++ String.ofList tail
    head ++ fraction ++ l.exponentText lead
  else if lead < 0 then
    "0." ++ String.ofList (List.replicate (-lead - 1).toNat '0' ++ ds)
  else
    let whole := lead.toNat + 1
    let padded := ds ++ List.replicate (whole - ds.length) '0'
    let fraction := padded.drop whole
    String.ofList (padded.take whole) ++
      (if fraction.isEmpty then l.integralEnd else "." ++ String.ofList fraction)

/-- The text of a double-precision number in a layout. -/
def text (l : NumberLayout) (x : Binary64) : String :=
  let sign (negative : Bool) := if negative then "-" else ""
  match x.decode with
  | .nan => l.nan
  | .infinite negative => sign negative ++ l.infinity
  | .finite negative m e =>
    if m = 0 then sign negative ++ l.digitsText ['0'] 0
    else
      let d := Binary64.shortest m e
      sign negative ++ l.digitsText d.digitChars d.lead

end NumberLayout

/-- Numbers are positional between `0.0001` and `10 ^ 16`, an integral value keeps one zero
after its point, and exponents are signed and have two digits at least. -/
def Binary64.layout : NumberLayout where
  positionalFrom := -4
  positionalBelow := 16
  integralEnd := ".0"
  exponentMark := "e"
  exponentDigits := 2
  nan := "nan"
  infinity := "inf"

/-- The text of a double-precision number. -/
def Binary64.text (x : Binary64) : String := Binary64.layout.text x

end AqlClient
