import AqlClient.Proofs.Document
import AqlClient.Text.Base64

/-!
# Base64 is read back, and nothing else is read

Every value below sixty-four has a symbol of its own in the alphabet (`Base64.getElem?_alphabet`,
`Base64.eq_symbol_of_value?`). The bits of a byte lie in two neighbouring values of a group, from
which it is put together again (`Base64.first_byte`, `Base64.second_byte`, `Base64.third_byte`).

So a text is read as some bytes exactly if it is their written form (`Base64.decode?_eq_some_iff`):
no two lists of bytes have the same written form, and no list has two of them. The written form is
padded (`Base64.Padded`).
-/

namespace AqlClient

namespace Base64

/-! ### Symbols -/

/-- The alphabet, in the order of the values. -/
def alphabet : List Char :=
  "ABCDEFGHIJKLMNOPQRSTUVWXYZabcdefghijklmnopqrstuvwxyz0123456789+/".toList

theorem getElem?_alphabet : ∀ v < 64, alphabet[v]? = some (symbol v) := by decide +kernel

theorem value?_symbol : ∀ v < 64, value? (symbol v) = some v := by decide +kernel

theorem symbol_ne_pad : ∀ v < 64, symbol v ≠ '=' := by decide +kernel

theorem symbol_mem_alphabet {v : Nat} (h : v < 64) : symbol v ∈ alphabet :=
  List.mem_of_getElem? (getElem?_alphabet v h)

/-- Only symbols have a value, each the one that it is the symbol of. -/
theorem eq_symbol_of_value? {c : Char} {v : Nat} (h : value? c = some v) :
    v < 64 ∧ c = symbol v := by
  have hback : Char.ofNat c.toNat = c := Char.ofNat_toNat c
  unfold value? at h
  dsimp only at h
  unfold symbol
  -- each range of characters is mapped onto its range of values by a shift, which is undone
  split at h
  case isTrue hcapital =>
    cases h
    have hshift : 65 + (c.toNat - 65) = c.toNat := by omega
    refine ⟨by omega, ?_⟩
    rw [if_pos (by omega), hshift, hback]
  split at h
  case isTrue hsmall =>
    cases h
    have hshift : 97 + (c.toNat - 97 + 26 - 26) = c.toNat := by omega
    refine ⟨by omega, ?_⟩
    rw [if_neg (by omega), if_pos (by omega), hshift, hback]
  split at h
  case isTrue hdigit =>
    cases h
    have hshift : 48 + (c.toNat - 48 + 52 - 52) = c.toNat := by omega
    refine ⟨by omega, ?_⟩
    rw [if_neg (by omega), if_neg (by omega), if_pos (by omega), hshift, hback]
  split at h
  case isTrue hplus =>
    cases h
    exact ⟨by decide, hplus⟩
  split at h
  case isTrue hslash =>
    cases h
    exact ⟨by decide, hslash⟩
  case isFalse => cases h

/-! ### The bytes of a group -/

/-- The first byte is the first value with the upper bits of the second. -/
theorem first_byte (a : UInt8) {low : Nat} (h : low < 16) :
    UInt8.ofNat (a.toNat / 4 * 4 + (a.toNat % 4 * 16 + low) / 16) = a := by
  have hvalue : a.toNat / 4 * 4 + (a.toNat % 4 * 16 + low) / 16 = a.toNat := by omega
  rw [hvalue, UInt8.ofNat_toNat]

/-- The second byte is the lower bits of the second value with the upper ones of the third. -/
theorem second_byte (b : UInt8) (high : Nat) {low : Nat} (h : low < 4) :
    UInt8.ofNat ((high * 16 + b.toNat / 16) % 16 * 16 + (b.toNat % 16 * 4 + low) / 4) = b := by
  have hb := b.toNat_lt
  have hvalue : (high * 16 + b.toNat / 16) % 16 * 16 + (b.toNat % 16 * 4 + low) / 4 = b.toNat := by
    omega
  rw [hvalue, UInt8.ofNat_toNat]

/-- The third byte is the lower bits of the third value with the fourth. -/
theorem third_byte (c : UInt8) (high : Nat) :
    UInt8.ofNat ((high * 4 + c.toNat / 64) % 4 * 64 + c.toNat % 64) = c := by
  have hc := c.toNat_lt
  have hvalue : (high * 4 + c.toNat / 64) % 4 * 64 + c.toNat % 64 = c.toNat := by omega
  rw [hvalue, UInt8.ofNat_toNat]

/-- **Reading undoes writing.** -/
theorem decodeChars?_encodeChars (bytes : List UInt8) :
    decodeChars? (encodeChars bytes) = some bytes := by
  induction bytes using encodeChars.induct with
  | case1 => rfl
  | case2 a =>
    have ha := a.toNat_lt
    -- no bits of a second byte stand behind those of the first
    have hfirst := first_byte a (show 0 < 16 by decide)
    rw [Nat.add_zero] at hfirst
    rw [encodeChars, decodeChars?, value?_symbol _ (by omega), value?_symbol _ (by omega)]
    simp only [Option.bind_eq_bind, Option.bind_some]
    rw [if_pos (by omega), hfirst]
  | case3 a b =>
    have ha := a.toNat_lt
    have hb := b.toNat_lt
    have hsecond := second_byte b (a.toNat % 4) (show 0 < 4 by decide)
    rw [Nat.add_zero] at hsecond
    rw [encodeChars, decodeChars?.eq_3 _ _ _ (symbol_ne_pad _ (by omega)),
      value?_symbol _ (by omega), value?_symbol _ (by omega), value?_symbol _ (by omega)]
    simp only [Option.bind_eq_bind, Option.bind_some]
    rw [if_pos (by omega), first_byte a (by omega), hsecond]
  | case4 a b c rest ih =>
    have ha := a.toNat_lt
    have hb := b.toNat_lt
    have hc := c.toNat_lt
    -- the last symbol is no pad, so that this is a full group
    have hlast := symbol_ne_pad (c.toNat % 64) (by omega)
    rw [encodeChars, decodeChars?.eq_4 _ _ _ _ _ (fun _ hv => absurd hv hlast)
      (fun hv => absurd hv hlast), value?_symbol _ (by omega), value?_symbol _ (by omega),
      value?_symbol _ (by omega), value?_symbol _ (by omega), ih]
    simp only [Option.bind_eq_bind, Option.bind_some]
    rw [first_byte a (by omega), second_byte b _ (by omega), third_byte]

/-- **Nothing else is read:** symbols that are read are the written form of what is read. -/
theorem encodeChars_of_decodeChars? {cs : List Char} {bytes : List UInt8}
    (h : decodeChars? cs = some bytes) : encodeChars bytes = cs := by
  induction cs using decodeChars?.induct generalizing bytes with
  | case1 =>
    cases h
    rfl
  | case2 s t =>
    rw [decodeChars?] at h
    simp only [Option.bind_eq_bind, Option.bind_eq_some_iff] at h
    obtain ⟨x, hs, y, ht, h⟩ := h
    obtain ⟨hx, rfl⟩ := eq_symbol_of_value? hs
    obtain ⟨hy, rfl⟩ := eq_symbol_of_value? ht
    split at h
    case isFalse => cases h
    case isTrue hzero =>
      cases h
      have hfirst : (x * 4 + y / 16) / 4 = x := by omega
      have hsecond : (x * 4 + y / 16) % 4 * 16 = y := by omega
      rw [encodeChars, Utf8.toNat_byte (by omega), hfirst, hsecond]
  | case3 s t u hpad =>
    rw [decodeChars?.eq_3 _ _ _ hpad] at h
    simp only [Option.bind_eq_bind, Option.bind_eq_some_iff] at h
    obtain ⟨x, hs, y, ht, z, hu, h⟩ := h
    obtain ⟨hx, rfl⟩ := eq_symbol_of_value? hs
    obtain ⟨hy, rfl⟩ := eq_symbol_of_value? ht
    obtain ⟨hz, rfl⟩ := eq_symbol_of_value? hu
    split at h
    case isFalse => cases h
    case isTrue hzero =>
      cases h
      have hfirst : (x * 4 + y / 16) / 4 = x := by omega
      have hsecond : (x * 4 + y / 16) % 4 * 16 + (y % 16 * 16 + z / 4) / 16 = y := by omega
      have hthird : (y % 16 * 16 + z / 4) % 16 * 4 = z := by omega
      rw [encodeChars, Utf8.toNat_byte (by omega), Utf8.toNat_byte (by omega), hfirst, hsecond,
        hthird]
  | case4 s t u v rest hpads hpad ih =>
    rw [decodeChars?.eq_4 _ _ _ _ _ hpads hpad] at h
    simp only [Option.bind_eq_bind, Option.bind_eq_some_iff] at h
    obtain ⟨x, hs, y, ht, z, hu, w, hv, more, hrest, h⟩ := h
    obtain ⟨hx, rfl⟩ := eq_symbol_of_value? hs
    obtain ⟨hy, rfl⟩ := eq_symbol_of_value? ht
    obtain ⟨hz, rfl⟩ := eq_symbol_of_value? hu
    obtain ⟨hw, rfl⟩ := eq_symbol_of_value? hv
    cases h
    have hfirst : (x * 4 + y / 16) / 4 = x := by omega
    have hsecond : (x * 4 + y / 16) % 4 * 16 + (y % 16 * 16 + z / 4) / 16 = y := by omega
    have hthird : (y % 16 * 16 + z / 4) % 16 * 4 + (z % 4 * 64 + w) / 64 = z := by omega
    have hfourth : (z % 4 * 64 + w) % 64 = w := by omega
    rw [encodeChars, ih hrest, Utf8.toNat_byte (by omega), Utf8.toNat_byte (by omega),
      Utf8.toNat_byte (by omega), hfirst, hsecond, hthird, hfourth]
  | case5 cs hnil hone htwo hfull =>
    rw [decodeChars?.eq_5 _ hnil hone htwo hfull] at h
    cases h

/-- **A text is read as some bytes exactly if it is their written form.** -/
theorem decode?_eq_some_iff {text : String} {bytes : List UInt8} :
    decode? text = some bytes ↔ text = encode bytes := by
  unfold decode? encode
  constructor
  · intro h
    rw [encodeChars_of_decodeChars? h, String.ofList_toList]
  · intro h
    rw [h, String.toList_ofList, decodeChars?_encodeChars]

theorem encode_injective {bytes bytes' : List UInt8} (h : encode bytes = encode bytes') :
    bytes = bytes' :=
  Option.some.inj ((decode?_eq_some_iff.2 rfl).symm.trans (decode?_eq_some_iff.2 h))

/-! ### Padding -/

/-- **Padded base64 text** comes in groups of four characters. These are symbols of the alphabet,
but for up to two pads at the end. -/
def Padded (text : String) : Prop :=
  4 ∣ text.length ∧ ∃ symbols pads, text.toList = symbols ++ List.replicate pads '=' ∧ pads ≤ 2 ∧
    ∀ c ∈ symbols, c ∈ alphabet

/-- A full group is four symbols. -/
theorem encodeChars_group (a b c : UInt8) (rest : List UInt8) :
    ∃ group, encodeChars (a :: b :: c :: rest) = group ++ encodeChars rest ∧ group.length = 4 ∧
      ∀ s ∈ group, s ∈ alphabet := by
  have ha := a.toNat_lt
  have hb := b.toNat_lt
  have hc := c.toNat_lt
  refine ⟨[symbol _, symbol _, symbol _, symbol _], rfl, rfl, ?_⟩
  simp only [List.forall_mem_cons]
  exact ⟨symbol_mem_alphabet (by omega), symbol_mem_alphabet (by omega),
    symbol_mem_alphabet (by omega), symbol_mem_alphabet (by omega), List.forall_mem_nil _⟩

theorem padded_encode (bytes : List UInt8) : Padded (encode bytes) := by
  unfold Padded encode
  rw [String.toList_ofList, String.length_ofList]
  induction bytes using encodeChars.induct with
  | case1 => exact ⟨⟨0, rfl⟩, [], 0, rfl, by decide, List.forall_mem_nil _⟩
  | case2 a =>
    have ha := a.toNat_lt
    refine ⟨⟨1, rfl⟩, [symbol _, symbol _], 2, rfl, by decide, ?_⟩
    simp only [List.forall_mem_cons]
    exact ⟨symbol_mem_alphabet (by omega), symbol_mem_alphabet (by omega), List.forall_mem_nil _⟩
  | case3 a b =>
    have ha := a.toNat_lt
    have hb := b.toNat_lt
    refine ⟨⟨1, rfl⟩, [symbol _, symbol _, symbol _], 1, rfl, by decide, ?_⟩
    simp only [List.forall_mem_cons]
    exact ⟨symbol_mem_alphabet (by omega), symbol_mem_alphabet (by omega),
      symbol_mem_alphabet (by omega), List.forall_mem_nil _⟩
  | case4 a b c rest ih =>
    obtain ⟨hfour, symbols, pads, hrest, hpads, hsymbols⟩ := ih
    obtain ⟨group, hgroup, hlength, hmem⟩ := encodeChars_group a b c rest
    refine ⟨?_, group ++ symbols, pads, ?_, hpads, List.forall_mem_append.2 ⟨hmem, hsymbols⟩⟩
    · rw [hgroup, List.length_append, hlength]
      exact Nat.dvd_add ⟨1, rfl⟩ hfour
    · rw [hgroup, hrest, List.append_assoc]

end Base64

end AqlClient
