/-!
# Base64

Three bytes are written as four symbols of six bits each, and one or two bytes at the end
are padded with `=` to a group of four. `Base64.encode` writes and `Base64.decode?` reads;
the reader accepts the padded form only and refuses set bits under the padding, so that
each list of bytes has one written form.
-/

namespace AqlClient

namespace Base64

/-- The symbol of a value below sixty-four. -/
def symbol (v : Nat) : Char :=
  if v < 26 then Char.ofNat (65 + v)
  else if v < 52 then Char.ofNat (97 + (v - 26))
  else if v < 62 then Char.ofNat (48 + (v - 52))
  else if v = 62 then '+' else '/'

/-- The value of a symbol. -/
def value? (c : Char) : Option Nat :=
  let n := c.toNat
  if 65 ≤ n ∧ n ≤ 90 then some (n - 65)
  else if 97 ≤ n ∧ n ≤ 122 then some (n - 97 + 26)
  else if 48 ≤ n ∧ n ≤ 57 then some (n - 48 + 52)
  else if c = '+' then some 62
  else if c = '/' then some 63
  else none

/-- The symbols of a list of bytes. -/
def encodeChars : List UInt8 → List Char
  | [] => []
  | [a] => [symbol (a.toNat / 4), symbol (a.toNat % 4 * 16), '=', '=']
  | [a, b] =>
    [symbol (a.toNat / 4), symbol (a.toNat % 4 * 16 + b.toNat / 16),
      symbol (b.toNat % 16 * 4), '=']
  | a :: b :: c :: rest =>
    symbol (a.toNat / 4) :: symbol (a.toNat % 4 * 16 + b.toNat / 16) ::
      symbol (b.toNat % 16 * 4 + c.toNat / 64) :: symbol (c.toNat % 64) :: encodeChars rest

/-- The written form of a list of bytes. -/
def encode (bytes : List UInt8) : String := String.ofList (encodeChars bytes)

/-- The bytes of a list of symbols. -/
def decodeChars? : List Char → Option (List UInt8)
  | [] => some []
  | [s, t, '=', '='] => do
    let x ← value? s
    let y ← value? t
    if y % 16 = 0 then some [UInt8.ofNat (x * 4 + y / 16)] else none
  | [s, t, u, '='] => do
    let x ← value? s
    let y ← value? t
    let z ← value? u
    if z % 4 = 0 then
      some [UInt8.ofNat (x * 4 + y / 16), UInt8.ofNat (y % 16 * 16 + z / 4)]
    else none
  | s :: t :: u :: v :: rest => do
    let x ← value? s
    let y ← value? t
    let z ← value? u
    let w ← value? v
    let bytes ← decodeChars? rest
    some (UInt8.ofNat (x * 4 + y / 16) :: UInt8.ofNat (y % 16 * 16 + z / 4) ::
      UInt8.ofNat (z % 4 * 64 + w) :: bytes)
  | _ => none

/-- The bytes that a text is the written form of. -/
def decode? (s : String) : Option (List UInt8) := decodeChars? s.toList

end Base64

end AqlClient
