import AqlClient.Text.Hex
import AqlClient.Text.Utf8

/-!
# Percent-encoding

A name goes into a URL as one segment: every byte of its UTF-8 form is written as `%` and
two hexadecimal digits, except those of the unreserved characters, which stand for
themselves (`Percent.encode`). Nothing that delimits segments survives, so distinct names
give distinct segments; `Percent.decode?` reads a segment back.
-/

namespace AqlClient

namespace Percent

/-- The characters that stand for themselves: ASCII letters and digits, and four marks. -/
def unreserved (b : UInt8) : Bool :=
  let n := b.toNat
  decide ((65 ≤ n ∧ n ≤ 90) ∨ (97 ≤ n ∧ n ≤ 122) ∨ (48 ≤ n ∧ n ≤ 57) ∨
    n = 45 ∨ n = 46 ∨ n = 95 ∨ n = 126)

/-- The characters that a byte is written as. -/
def encodeByte (b : UInt8) : List Char :=
  if unreserved b then [Char.ofNat b.toNat]
  else ['%', Hex.capital (b.toNat / 16), Hex.capital (b.toNat % 16)]

/-- The segment of a name. -/
def encode (name : String) : String :=
  String.ofList ((Utf8.encode name).flatMap encodeByte)

/-- The bytes of a segment: a `%` and two digits are one byte, and any other ASCII
character is its own. -/
def decodeBytes? : List Char → Option (List UInt8)
  | [] => some []
  | '%' :: h :: l :: rest => do
    let x ← Hex.value? h
    let y ← Hex.value? l
    let bytes ← decodeBytes? rest
    some (UInt8.ofNat (x * 16 + y) :: bytes)
  | c :: rest => do
    if c = '%' ∨ 128 ≤ c.toNat then none
    else
      let bytes ← decodeBytes? rest
      some (UInt8.ofNat c.toNat :: bytes)

/-- The name that a segment stands for. -/
def decode? (segment : String) : Option String :=
  (decodeBytes? segment.toList).bind Utf8.decode?

end Percent

end AqlClient
