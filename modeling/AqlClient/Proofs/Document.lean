import AqlClient.Json.Document

/-!
# Texts as documents

Reading UTF-8 undoes writing it (`Utf8.decodeChars?_encodeChars`, `Utf8.decodeText?_encodeChars`): the
bytes of a character are taken off the front as that character, whatever follows
(`Utf8.take_encodeChar`).

A document says nothing of its encoding, which is told from its first bytes. A text that has no zero
character and starts with an ASCII character is never taken for anything but UTF-8
(`Document.form_of_ascii`): its bytes have no zero among them, and none of the byte-order marks
starts with a byte below 128. So what is in such a document are the characters of the text
(`Document.text?_encodeChars`).

A blank document is one of these. Its white space need not be that of JSON, but no value stands in
it all the same (`Document.parse?_of_isBlank`).
-/

namespace AqlClient

namespace Utf8

/-! ### Bytes of characters -/

/-- No character lies between the halves of a pair. -/
theorem toNat_ranges (c : Char) :
    c.toNat < 0xD800 ∨ (0xDFFF < c.toNat ∧ c.toNat < 0x110000) := c.valid

theorem toNat_byte {n : Nat} (h : n < 256) : (UInt8.ofNat n).toNat = n := by
  rw [UInt8.toNat_ofNat']
  omega

/-- A continuation byte carries six bits. -/
theorem toNat_continuation (n : Nat) : (UInt8.ofNat (0x80 + n % 64)).toNat = 0x80 + n % 64 :=
  toNat_byte (by omega)

theorem continues_continuation (n : Nat) : continues (UInt8.ofNat (0x80 + n % 64)) = true := by
  unfold continues
  rw [toNat_continuation]
  simp only [decide_eq_true_eq]
  omega

theorem payload_continuation (n : Nat) : payload (UInt8.ofNat (0x80 + n % 64)) = n % 64 := by
  unfold payload
  rw [toNat_continuation]
  omega

/-- The second of the three bytes of a character. -/
theorem seconds_of_three {n : Nat} (hlow : 0x800 ≤ n) (hhigh : n < 0x10000)
    (hpair : n < 0xD800 ∨ 0xDFFF < n) :
    seconds (0xE0 + n / 4096) (UInt8.ofNat (0x80 + n / 64 % 64)) = true := by
  unfold seconds secondRange
  rw [toNat_continuation]
  simp only [decide_eq_true_eq]
  repeat' split
  all_goals dsimp only; omega

/-- The second of the four bytes of a character. -/
theorem seconds_of_four {n : Nat} (hlow : 0x10000 ≤ n) (hhigh : n < 0x110000) :
    seconds (0xF0 + n / 262144) (UInt8.ofNat (0x80 + n / 4096 % 64)) = true := by
  unfold seconds secondRange
  rw [toNat_continuation]
  simp only [decide_eq_true_eq]
  repeat' split
  all_goals dsimp only; omega

/-- **A character is taken off its bytes,** whatever follows them. -/
theorem take_encodeChar (c : Char) (rest : List UInt8) :
    ∃ b bytes, encodeChar c = b :: bytes ∧ take b (bytes ++ rest) = (some c, rest) := by
  have hranges := toNat_ranges c
  have hback : Char.ofNat c.toNat = c := Char.ofNat_toNat c
  unfold encodeChar
  generalize c.toNat = n at hranges hback
  dsimp only
  -- the number tells how many bytes there are, and the first of them tells it again
  by_cases hone : n < 0x80
  · rw [if_pos hone]
    refine ⟨_, _, rfl, ?_⟩
    unfold take
    rw [toNat_byte (by omega)]
    dsimp only
    rw [if_pos hone, hback, List.nil_append]
  rw [if_neg hone]
  by_cases htwo : n < 0x800
  · rw [if_pos htwo]
    refine ⟨_, _, rfl, ?_⟩
    have hvalue : (0xC0 + n / 64 - 0xC0) * 64 + n % 64 = n := by omega
    unfold take
    rw [toNat_byte (by omega)]
    dsimp only [List.cons_append, List.nil_append]
    rw [if_neg (by omega), if_neg (by omega), if_pos (by omega), if_pos (continues_continuation n),
      payload_continuation, hvalue, hback]
  rw [if_neg htwo]
  by_cases hthree : n < 0x10000
  · rw [if_pos hthree]
    refine ⟨_, _, rfl, ?_⟩
    have hvalue : (0xE0 + n / 4096 - 0xE0) * 4096 + n / 64 % 64 * 64 + n % 64 = n := by omega
    have hsecond := seconds_of_three (by omega) hthree (hranges.imp_right And.left)
    unfold take
    rw [toNat_byte (by omega)]
    dsimp only [List.cons_append, List.nil_append]
    rw [if_neg (by omega), if_neg (by omega), if_neg (by omega), if_pos (by omega), if_pos hsecond,
      if_pos (continues_continuation n), payload_continuation, payload_continuation, hvalue, hback]
  · rw [if_neg hthree]
    refine ⟨_, _, rfl, ?_⟩
    have hvalue : (0xF0 + n / 262144 - 0xF0) * 262144 + n / 4096 % 64 * 4096 + n / 64 % 64 * 64 +
        n % 64 = n := by omega
    have hsecond := seconds_of_four (n := n) (by omega) (by omega)
    unfold take
    rw [toNat_byte (by omega)]
    dsimp only [List.cons_append, List.nil_append]
    rw [if_neg (by omega), if_neg (by omega), if_neg (by omega), if_neg (by omega),
      if_pos (by omega), if_pos hsecond, if_pos (continues_continuation _),
      if_pos (continues_continuation n), payload_continuation, payload_continuation,
      payload_continuation, hvalue, hback]

/-- **Reading undoes writing.** -/
theorem decodeChars?_encodeChars (cs : List Char) : decodeChars? (encodeChars cs) = some cs := by
  induction cs with
  | nil => rw [encodeChars, List.flatMap_nil, decodeChars?]
  | cons c cs ih =>
    obtain ⟨b, bytes, hc, htake⟩ := take_encodeChar c (encodeChars cs)
    have hcons : encodeChars (c :: cs) = b :: (bytes ++ encodeChars cs) := by
      rw [encodeChars, List.flatMap_cons, hc, List.cons_append, encodeChars]
    rw [hcons, decodeChars?]
    simp only [htake, ih, Option.map_some]

/-- **No half of a pair is read where none has been written.** -/
theorem decodeText?_encodeChars (cs : List Char) :
    decodeText? (encodeChars cs) = some (Text.ofChars cs) := by
  induction cs with
  | nil =>
    rw [encodeChars, List.flatMap_nil, decodeText?]
    rfl
  | cons c cs ih =>
    obtain ⟨b, bytes, hc, htake⟩ := take_encodeChar c (encodeChars cs)
    have hcons : encodeChars (c :: cs) = b :: (bytes ++ encodeChars cs) := by
      rw [encodeChars, List.flatMap_cons, hc, List.cons_append, encodeChars]
    have hpassing : takePassing b (bytes ++ encodeChars cs) = (some (.char c), encodeChars cs) := by
      unfold takePassing
      rw [htake]
    rw [hcons, decodeText?]
    simp only [hpassing, ih, Option.map_some]
    rfl

theorem decode?_encode (s : String) : decode? (encode s) = some s := by
  unfold decode? encode
  rw [decodeChars?_encodeChars, Option.map_some, String.ofList_toList]

theorem byte_ne_zero {n : Nat} (hpos : 0 < n) (hlt : n < 256) : UInt8.ofNat n ≠ 0 := by
  intro hzero
  have hn := toNat_byte hlt
  rw [hzero, UInt8.toNat_zero] at hn
  omega

/-- The bytes of a character other than zero have no zero among them. -/
theorem encodeChar_ne_zero {c : Char} (hc : c.toNat ≠ 0) : ∀ b ∈ encodeChar c, b ≠ 0 := by
  have hranges := toNat_ranges c
  unfold encodeChar
  dsimp only
  intro b hb
  repeat' split at hb
  all_goals
    simp only [List.mem_cons, List.not_mem_nil, or_false] at hb
    rcases hb with rfl | rfl | rfl | rfl
  all_goals exact byte_ne_zero (by omega) (by omega)

/-- A text that has no zero character has no zero byte. -/
theorem encodeChars_ne_zero {cs : List Char} (h : ∀ c ∈ cs, c.toNat ≠ 0) :
    ∀ b ∈ encodeChars cs, b ≠ 0 := by
  intro b hb
  obtain ⟨c, hc, hb⟩ := List.mem_flatMap.1 hb
  exact encodeChar_ne_zero (h c hc) b hb

end Utf8

namespace Document

/-! ### The encoding of a text -/

/-- Bytes without a zero are in UTF-8, if there is no mark in front. -/
theorem formOfZeros_of_ne_zero {bytes : List UInt8} (h : ∀ b ∈ bytes, b ≠ 0) :
    formOfZeros bytes = .utf8 := by
  unfold formOfZeros
  split
  case h_7 => rfl
  all_goals exact absurd rfl (h 0 (by simp))

/-- **A text is in UTF-8:** one without a zero that starts with an ASCII character. -/
theorem form_of_ascii {b : UInt8} {bytes : List UInt8} (hb : b.toNat < 0x80)
    (h : ∀ b' ∈ b :: bytes, b' ≠ 0) : form (b :: bytes) = (.utf8, b :: bytes) := by
  have hzeros := formOfZeros_of_ne_zero h
  unfold form
  split
  case h_6 => rw [hzeros]
  all_goals
    -- a mark in front
    rename_i heq
    have hhead := (List.cons.inj heq).1
  case h_1 => exact absurd hhead (h b List.mem_cons_self)
  all_goals
    rw [hhead] at hb
    exact absurd hb (by decide)

/-- **The text in a document of characters.** -/
theorem text?_encodeChars {c : Char} {cs : List Char} (hc : c.toNat < 0x80)
    (h : ∀ c' ∈ c :: cs, c'.toNat ≠ 0) :
    text? (Utf8.encodeChars (c :: cs)) = some (Text.ofChars (c :: cs)) := by
  have hzero := Utf8.encodeChars_ne_zero h
  have hback := Utf8.decodeText?_encodeChars (c :: cs)
  have hhead : Utf8.encodeChars (c :: cs) = UInt8.ofNat c.toNat :: Utf8.encodeChars cs := by
    have hone : Utf8.encodeChar c = [UInt8.ofNat c.toNat] := by
      unfold Utf8.encodeChar
      exact if_pos hc
    rw [Utf8.encodeChars, List.flatMap_cons, hone]
    rfl
  rw [hhead] at hzero hback ⊢
  have hascii : (UInt8.ofNat c.toNat).toNat < 0x80 := by
    rw [Utf8.toNat_byte (by omega)]
    exact hc
  unfold text?
  rw [form_of_ascii hascii hzero]
  exact hback

/-! ### Blank documents -/

/-- White space of ASCII as a character. -/
theorem isBlankByte_iff {b : UInt8} :
    isBlankByte b = true ↔ b.toNat = 32 ∨ (9 ≤ b.toNat ∧ b.toNat ≤ 13) := by
  rw [isBlankByte, decide_eq_true_iff]

/-- A blank document is the text of its white space. -/
theorem exists_chars_of_isBlank {bytes : List UInt8} (h : isBlank bytes = true) :
    ∃ cs : List Char, bytes = Utf8.encodeChars cs ∧
      ∀ c ∈ cs, c.toNat = 32 ∨ (9 ≤ c.toNat ∧ c.toNat ≤ 13) := by
  induction bytes with
  | nil => exact ⟨[], rfl, List.forall_mem_nil _⟩
  | cons b bytes ih =>
    rw [isBlank, List.all_cons, Bool.and_eq_true] at h
    obtain ⟨cs, hcs, hblank⟩ := ih h.2
    have hb := isBlankByte_iff.1 h.1
    have hc : (Char.ofNat b.toNat).toNat = b.toNat := by
      rw [Char.ofNat, dif_pos (.inl (by omega))]
      rfl
    refine ⟨Char.ofNat b.toNat :: cs, ?_, List.forall_mem_cons.2 ⟨by rwa [hc], hblank⟩⟩
    have hone : Utf8.encodeChar (Char.ofNat b.toNat) = [b] := by
      unfold Utf8.encodeChar
      rw [hc]
      dsimp only
      rw [if_pos (by omega), UInt8.ofNat_toNat]
    rw [Utf8.encodeChars, List.flatMap_cons, hone, hcs, Utf8.encodeChars]
    rfl

/-- No value starts with the white space that JSON does not know. -/
theorem value_of_blank (fuel : Nat) (rest : Text) {c : Char}
    (hc : c = Char.ofNat 11 ∨ c = Char.ofNat 12) :
    Json.Reader.value (fuel + 1) (.char c :: rest) = none := by
  rcases hc with rfl | rfl
  · rfl
  · rfl

/-- White space is that of JSON, or one of two more characters. -/
theorem eq_of_not_isSpace {c : Char} (hblank : c.toNat = 32 ∨ (9 ≤ c.toNat ∧ c.toNat ≤ 13))
    (hspace : Json.Reader.isSpace (.char c) = false) : c = Char.ofNat 11 ∨ c = Char.ofNat 12 := by
  have hback := Char.ofNat_toNat c
  have hcases : c.toNat = 9 ∨ c.toNat = 10 ∨ c.toNat = 11 ∨ c.toNat = 12 ∨ c.toNat = 13 ∨
      c.toNat = 32 := by omega
  rcases hcases with hn | hn | hn | hn | hn | hn
  case inr.inr.inl => exact .inl (by rw [← hback, hn])
  case inr.inr.inr.inl => exact .inr (by rw [← hback, hn])
  all_goals
    rw [← hback, hn] at hspace
    cases hspace

/-- **White space is no value.** -/
theorem parseText?_of_blank {cs : List Char}
    (h : ∀ c ∈ cs, c.toNat = 32 ∨ (9 ≤ c.toNat ∧ c.toNat ≤ 13)) :
    Json.parseText? (Text.ofChars cs) = none := by
  have hvalue : Json.Reader.value (2 * (Text.ofChars cs).length + 2)
      (Json.Reader.skipSpace (Text.ofChars cs)) = none := by
    cases hskip : Json.Reader.skipSpace (Text.ofChars cs) with
    | nil => rfl
    | cons p rest =>
      have hmem : p ∈ Text.ofChars cs := (List.dropWhile_sublist _).mem (hskip ▸ List.mem_cons_self)
      obtain ⟨c, hc, rfl⟩ := List.mem_map.1 hmem
      have hhead := List.head?_dropWhile_not Json.Reader.isSpace (Text.ofChars cs)
      rw [← Json.Reader.skipSpace, hskip] at hhead
      exact value_of_blank _ rest (eq_of_not_isSpace (h c hc) hhead)
  unfold Json.parseText?
  rw [hvalue]

/-- **No value stands in a blank document.** -/
theorem parse?_of_isBlank {bytes : List UInt8} (h : isBlank bytes = true) :
    parse? bytes = none := by
  obtain ⟨cs, rfl, hblank⟩ := exists_chars_of_isBlank h
  have htext : text? (Utf8.encodeChars cs) = some (Text.ofChars cs) := by
    cases cs with
    | nil => exact Utf8.decodeText?_encodeChars []
    | cons c cs =>
      have hc := hblank c List.mem_cons_self
      exact text?_encodeChars (by omega) fun c' hc' => by have := hblank c' hc'; omega
  unfold parse?
  rw [htext]
  exact parseText?_of_blank hblank

end Document

end AqlClient
