/-!
# Decimal numerals

A natural number is written in base ten with no leading zero, zero itself as a single
digit. The digits are kept as a list of naturals, most significant first, so that writing
(`Numeral.digits`) and reading (`Numeral.ofDigits`) are two functions on the same list:

* `Numeral.ofDigits_digits` says that reading undoes writing;
* `Numeral.digits_lt_ten` says that every digit written is below ten.

The texts (`Numeral.ofNat`, `Numeral.ofInt`) are those digits as characters, with a minus
sign in front of a negative number.
-/

namespace AqlClient

namespace Numeral

/-- The decimal digits of a natural number, most significant first. -/
def digits (n : Nat) : List Nat :=
  if n < 10 then [n] else digits (n / 10) ++ [n % 10]
termination_by n
decreasing_by omega

/-- The number that a list of decimal digits denotes, most significant first. -/
def ofDigits (ds : List Nat) : Nat :=
  ds.foldl (fun acc d => 10 * acc + d) 0

/-- The character of a digit below ten. -/
def digitChar (d : Nat) : Char := Char.ofNat (48 + d)

/-- The value of a decimal digit character, `none` for any other character. -/
def digitValue? (c : Char) : Option Nat :=
  if 48 ≤ c.toNat ∧ c.toNat ≤ 57 then some (c.toNat - 48) else none

/-- The characters of a natural number. -/
def natChars (n : Nat) : List Char := (digits n).map digitChar

/-- The characters of an integer: a minus sign, if it is negative, and its magnitude. -/
def intChars : Int → List Char
  | .ofNat n => natChars n
  | .negSucc n => '-' :: natChars (n + 1)

/-- The text of a natural number. -/
def ofNat (n : Nat) : String := String.ofList (natChars n)

/-- The text of an integer. -/
def ofInt (i : Int) : String := String.ofList (intChars i)

/-- **Reading undoes writing.** -/
theorem ofDigits_digits (n : Nat) : ofDigits (digits n) = n := by
  induction n using digits.induct with
  | case1 n h => rw [digits, if_pos h]; simp [ofDigits]
  | case2 n h ih =>
    rw [digits, if_neg h, ofDigits, List.foldl_append]
    rw [ofDigits] at ih
    simp only [ih, List.foldl_cons, List.foldl_nil]
    omega

/-- **Every digit written is below ten.** -/
theorem digits_lt_ten (n : Nat) : ∀ d ∈ digits n, d < 10 := by
  induction n using digits.induct with
  | case1 n h => rw [digits, if_pos h]; simpa using h
  | case2 n h ih =>
    rw [digits, if_neg h]
    intro d hd
    rcases List.mem_append.1 hd with hd | hd
    · exact ih d hd
    · simp only [List.mem_singleton] at hd
      omega

end Numeral

end AqlClient
