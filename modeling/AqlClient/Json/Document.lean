import AqlClient.Json.Reader
import AqlClient.Text.Utf8

/-!
# JSON documents

A document is a list of bytes that nobody has labelled with an encoding. It is told from
the bytes in front (`Document.form`): a byte-order mark names the encoding and is dropped;
without one, the places of zero bytes tell the wide encodings apart, since a JSON text
starts with two ASCII characters or is a single one; everything else is UTF-8. A half of a
surrogate pair on its own is let pass in every encoding, and is a code point of the text.
-/

namespace AqlClient

namespace Document

/-- The encodings of a document. -/
inductive Form where
  | utf8
  | utf16 (order : ByteOrder)
  | utf32 (order : ByteOrder)
  deriving DecidableEq, Repr

/-- The encoding that the places of the zero bytes betray. -/
def formOfZeros : List UInt8 → Form
  | 0 :: 0 :: _ :: _ :: _ => .utf32 .big
  | 0 :: _ :: _ :: _ :: _ => .utf16 .big
  | _ :: 0 :: 0 :: 0 :: _ => .utf32 .little
  | _ :: 0 :: _ :: _ :: _ => .utf16 .little
  | [0, _] => .utf16 .big
  | [_, 0] => .utf16 .little
  | _ => .utf8

/-- The encoding of a document and its bytes without a mark. -/
def form (bytes : List UInt8) : Form × List UInt8 :=
  match bytes with
  | 0 :: 0 :: 0xFE :: 0xFF :: rest => (.utf32 .big, rest)
  | 0xFF :: 0xFE :: 0 :: 0 :: rest => (.utf32 .little, rest)
  | 0xFE :: 0xFF :: rest => (.utf16 .big, rest)
  | 0xFF :: 0xFE :: rest => (.utf16 .little, rest)
  | 0xEF :: 0xBB :: 0xBF :: rest => (.utf8, rest)
  | _ => (formOfZeros bytes, bytes)

/-- The text of a document, `none` if it is malformed in its encoding. -/
def text? (bytes : List UInt8) : Option Text :=
  match form bytes with
  | (.utf8, rest) => Utf8.decodeText? rest
  | (.utf16 order, rest) => Wide.utf16? order rest
  | (.utf32 order, rest) => Wide.utf32? order rest

/-- The value that a document holds. -/
def parse? (bytes : List UInt8) : Option Json := (text? bytes).bind Json.parseText?

/-- Whether a byte is ASCII white space, the vertical tab and the form feed included. -/
def isBlankByte (b : UInt8) : Bool :=
  decide (b.toNat = 32 ∨ (9 ≤ b.toNat ∧ b.toNat ≤ 13))

/-- Whether there is nothing but white space in a document. -/
def isBlank (bytes : List UInt8) : Bool := bytes.all isBlankByte

end Document

end AqlClient
