import AqlClient.Numeric.Binary64

/-!
# Numbers of two kinds

A number is an exact integer or a double-precision number (`Number`). Comparisons across the
kinds are exact; a sum or a difference is exact between integers, and else an integer is
rounded first, so that the result is what double-precision arithmetic gives.
-/

namespace AqlClient

/-- An integer or a double-precision number. -/
inductive Number where
  | int (i : Int)
  | float (x : Binary64)
  deriving DecidableEq, Repr

namespace Number

/-- Whether a number is below an integer. -/
def belowInt (n : Number) (bound : Int) : Bool :=
  match n with
  | .int i => decide (i < bound)
  | .float x => x.belowInt bound

/-- Whether a number is below an integer or has its value. -/
def atMostInt (n : Number) (bound : Int) : Bool :=
  match n with
  | .int i => decide (i ≤ bound)
  | .float x => x.atMostInt bound

/-- Whether a number is strictly below another one. -/
def below : Number → Number → Bool
  | m, .int j => m.belowInt j
  | .int i, .float y => y.place?.isSome && !y.atMostInt i
  | .float x, .float y => x.below y

/-- Whether two numbers have the same value. -/
def sameValue : Number → Number → Bool
  | .int i, .int j => i == j
  | .int i, .float y => y.equalsInt i
  | .float x, .int j => x.equalsInt j
  | .float x, .float y => x.sameValue y

/-- Whether a number is below another one or has its value. -/
def atMost (m n : Number) : Bool := m.below n || m.sameValue n

/-- Whether a number is neither infinite nor a NaN. -/
def isFinite : Number → Bool
  | .int _ => true
  | .float x => x.isFinite

/-- The double-precision number nearest to a number. -/
def rounded : Number → Binary64
  | .int i => Binary64.ofQuotient i 1
  | .float x => x

/-- The sum of two numbers. -/
def add : Number → Number → Number
  | .int i, .int j => .int (i + j)
  | m, n => .float (m.rounded.add n.rounded)

/-- The difference of two numbers. -/
def sub : Number → Number → Number
  | .int i, .int j => .int (i - j)
  | m, n => .float (m.rounded.sub n.rounded)

/-- A number divided by a natural number above zero, if the result is not too large: a
quotient of integers has to be finite. -/
def divide? (n : Number) (den : Nat) : Option Binary64 :=
  match n with
  | .int i => (some (Binary64.ofQuotient i den)).filter Binary64.isFinite
  | .float x => some (x.divide den)

end Number

end AqlClient
