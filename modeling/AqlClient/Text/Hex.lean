/-!
# Hexadecimal digits

Values below sixteen as digits, in capital and in small letters, and back.
-/

namespace AqlClient

namespace Hex

/-- The capital digit of a value below sixteen. -/
def capital (v : Nat) : Char := if v < 10 then Char.ofNat (48 + v) else Char.ofNat (55 + v)

/-- The small digit of a value below sixteen. -/
def small (v : Nat) : Char := if v < 10 then Char.ofNat (48 + v) else Char.ofNat (87 + v)

/-- The last `width` digits of a number, in small letters. -/
def padded : Nat → Nat → List Char
  | 0, _ => []
  | width + 1, n => padded width (n / 16) ++ [small (n % 16)]

/-- The value of a digit, in either case. -/
def value? (c : Char) : Option Nat :=
  let n := c.toNat
  if 48 ≤ n ∧ n ≤ 57 then some (n - 48)
  else if 65 ≤ n ∧ n ≤ 70 then some (n - 55)
  else if 97 ≤ n ∧ n ≤ 102 then some (n - 87)
  else none

end Hex

end AqlClient
