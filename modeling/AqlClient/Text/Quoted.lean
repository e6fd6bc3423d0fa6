import AqlClient.Text.Hex
import AqlClient.Text.Printable
import AqlClient.Text.Utf8

/-!
# Quoted literals

A text or a list of bytes as it is shown inside a larger description: between quotes, with
a backslash in front of the quote and of the backslash itself, and with every character
that cannot be printed written as a numbered escape.

The quote is `'`, unless the text has a `'` and no `"`; then it is `"`.
-/

namespace AqlClient

namespace Quoted

/-- The quote for a text. -/
def quoteFor (cs : List Char) : Char :=
  if cs.contains '\'' && !cs.contains '"' then '"' else '\''

/-- A numbered escape: two digits behind `x`, four behind `u` or eight behind `U`. -/
def numbered (n : Nat) : List Char :=
  if n < 0x100 then '\\' :: 'x' :: Hex.padded 2 n
  else if n < 0x10000 then '\\' :: 'u' :: Hex.padded 4 n
  else '\\' :: 'U' :: Hex.padded 8 n

/-- A character between the quotes. -/
def escape (quote c : Char) : List Char :=
  if c = quote ∨ c = '\\' then ['\\', c]
  else if c = '\n' then ['\\', 'n']
  else if c = '\r' then ['\\', 'r']
  else if c = '\t' then ['\\', 't']
  else if isPrintable c then [c]
  else numbered c.toNat

/-- The literal of a text. -/
def text (s : String) : String :=
  let cs := s.toList
  let quote := quoteFor cs
  String.ofList (quote :: cs.flatMap (escape quote) ++ [quote])

/-- A byte between the quotes: beyond ASCII it is always numbered. -/
def escapeByte (quote : Char) (b : UInt8) : List Char :=
  if b.toNat < 127 then escape quote (Char.ofNat b.toNat) else numbered b.toNat

/-- The literal of a list of bytes, marked by a `b` in front. -/
def bytes (bs : List UInt8) : String :=
  let quote := quoteFor (bs.map fun b => Char.ofNat b.toNat)
  String.ofList ('b' :: quote :: bs.flatMap (escapeByte quote) ++ [quote])

end Quoted

end AqlClient
