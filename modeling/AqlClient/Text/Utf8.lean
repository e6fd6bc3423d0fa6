import AqlClient.Text.CodePoint

/-!
# UTF-8

Bytes are kept as lists. Writing is a map from characters to one to four bytes
(`Utf8.encodeChar`), and reading takes one character off the front at a time
(`Utf8.take`), which says either the character or that the bytes at the front begin none.
In the second case it also says where to go on: after the longest piece that could still
have begun a character (the *maximal invalid part*).

Three readers are built on it. `Utf8.decode?` refuses malformed bytes, and `Utf8.decode`
puts the replacement character in the place of each maximal invalid part. `Utf8.decodeText?`
refuses malformed bytes, but lets halves of surrogate pairs pass, each in the three bytes
that its number would have as a character.

Overlong forms, surrogates and code points above the last one begin no character; the
ranges of the second byte (`Utf8.secondRange`) rule them out at once.
-/

namespace AqlClient

namespace Utf8

/-- The bytes of a character. -/
def encodeChar (c : Char) : List UInt8 :=
  let n := c.toNat
  if n < 0x80 then [UInt8.ofNat n]
  else if n < 0x800 then [UInt8.ofNat (0xC0 + n / 64), UInt8.ofNat (0x80 + n % 64)]
  else if n < 0x10000 then
    [UInt8.ofNat (0xE0 + n / 4096), UInt8.ofNat (0x80 + n / 64 % 64),
      UInt8.ofNat (0x80 + n % 64)]
  else
    [UInt8.ofNat (0xF0 + n / 262144), UInt8.ofNat (0x80 + n / 4096 % 64),
      UInt8.ofNat (0x80 + n / 64 % 64), UInt8.ofNat (0x80 + n % 64)]

/-- The bytes of a text. -/
def encodeChars (cs : List Char) : List UInt8 := cs.flatMap encodeChar

/-- The bytes of a text. -/
def encode (s : String) : List UInt8 := encodeChars s.toList

/-- The bytes that may follow the first byte of a character. -/
def continues (b : UInt8) : Bool := decide (0x80 ≤ b.toNat ∧ b.toNat < 0xC0)

/-- The least and the greatest second byte after a first byte of three or four: they
exclude overlong forms, surrogates and code points above the last one. -/
def secondRange (first : Nat) : Nat × Nat :=
  if first = 0xE0 then (0xA0, 0xBF)
  else if first = 0xED then (0x80, 0x9F)
  else if first = 0xF0 then (0x90, 0xBF)
  else if first = 0xF4 then (0x80, 0x8F)
  else (0x80, 0xBF)

/-- Whether a byte may be the second one after a given first byte. -/
def seconds (first : Nat) (b : UInt8) : Bool :=
  decide ((secondRange first).1 ≤ b.toNat ∧ b.toNat ≤ (secondRange first).2)

/-- The six payload bits of a continuation byte. -/
def payload (b : UInt8) : Nat := b.toNat - 0x80

/-- What stands at the front of a list of bytes: a character, or none, with the bytes to
go on from. -/
def take (b : UInt8) (rest : List UInt8) : Option Char × List UInt8 :=
  let first := b.toNat
  if first < 0x80 then (some (Char.ofNat first), rest)
  else if first < 0xC2 then (none, rest)
  else if first < 0xE0 then
    match rest with
    | c :: after =>
      if continues c then (some (Char.ofNat ((first - 0xC0) * 64 + payload c)), after)
      else (none, rest)
    | [] => (none, [])
  else if first < 0xF0 then
    match rest with
    | c :: d :: after =>
      if seconds first c then
        if continues d then
          (some (Char.ofNat ((first - 0xE0) * 4096 + payload c * 64 + payload d)), after)
        else (none, d :: after)
      else (none, rest)
    | [c] => if seconds first c then (none, []) else (none, rest)
    | [] => (none, [])
  else if first < 0xF5 then
    match rest with
    | c :: d :: e :: after =>
      if seconds first c then
        if continues d then
          if continues e then
            (some (Char.ofNat ((first - 0xF0) * 262144 + payload c * 4096 + payload d * 64 +
              payload e)), after)
          else (none, e :: after)
        else (none, d :: e :: after)
      else (none, rest)
    | [c, d] =>
      if seconds first c then
        if continues d then (none, []) else (none, [d])
      else (none, rest)
    | [c] => if seconds first c then (none, []) else (none, rest)
    | [] => (none, [])
  else (none, rest)

/-- **Reading always gets on.** What is left after one character, or after one maximal
invalid part, is no longer than what followed the first byte. -/
theorem take_length_le (b : UInt8) (rest : List UInt8) :
    (take b rest).2.length ≤ rest.length := by
  unfold take
  dsimp only
  repeat' split
  all_goals simp_all
  all_goals omega

/-- The characters of a list of bytes, `none` if any part of it is malformed. -/
def decodeChars? : List UInt8 → Option (List Char)
  | [] => some []
  | b :: rest =>
    have : (take b rest).2.length < rest.length + 1 :=
      Nat.lt_succ_of_le (take_length_le b rest)
    match (take b rest).1 with
    | some c => (decodeChars? (take b rest).2).map (c :: ·)
    | none => none
termination_by bytes => bytes.length

/-- The text of a list of bytes, `none` if any part of it is malformed. -/
def decode? (bytes : List UInt8) : Option String := (decodeChars? bytes).map String.ofList

/-- The half of a pair whose three bytes these are. -/
def half? (b c d : UInt8) : Option CodePoint :=
  if b = 0xED ∧ continues c ∧ continues d then
    match CodePoint.ofNat? (0xD000 + payload c * 64 + payload d) with
    | some (.half unit isHalf) => some (.half unit isHalf)
    | _ => none
  else none

/-- What stands at the front where halves of pairs are let pass: a code point, or none. -/
def takePassing (b : UInt8) (rest : List UInt8) : Option CodePoint × List UInt8 :=
  match take b rest, rest with
  | (some c, after), _ => (some (.char c), after)
  | (none, _), c :: d :: after => (half? b c d, after)
  | (none, _), _ => (none, [])

theorem takePassing_length_le (b : UInt8) (rest : List UInt8) :
    (takePassing b rest).2.length ≤ rest.length := by
  have hle := take_length_le b rest
  unfold takePassing
  split
  case h_1 htake =>
    rw [htake] at hle
    exact hle
  case h_2 =>
    simp only [List.length_cons]
    omega
  case h_3 => exact Nat.zero_le _

/-- The text of a list of bytes, in which halves of pairs are let pass; `none` if any other
part of it is malformed. -/
def decodeText? : List UInt8 → Option Text
  | [] => some []
  | b :: rest =>
    have : (takePassing b rest).2.length < rest.length + 1 :=
      Nat.lt_succ_of_le (takePassing_length_le b rest)
    match (takePassing b rest).1 with
    | some p => (decodeText? (takePassing b rest).2).map (p :: ·)
    | none => none
termination_by bytes => bytes.length

/-- The characters of a list of bytes, each maximal invalid part replaced. -/
def decodeChars : List UInt8 → List Char
  | [] => []
  | b :: rest =>
    have : (take b rest).2.length < rest.length + 1 :=
      Nat.lt_succ_of_le (take_length_le b rest)
    (take b rest).1.getD (Char.ofNat 0xFFFD) :: decodeChars (take b rest).2
termination_by bytes => bytes.length

/-- The text of a list of bytes, each maximal invalid part replaced. -/
def decode (bytes : List UInt8) : String := String.ofList (decodeChars bytes)

end Utf8

end AqlClient
