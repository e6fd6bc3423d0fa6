import AqlClient.Options
import Mathlib.Algebra.Group.Nat.Defs

/-!
# Literals can be told apart

A quoted text ends with its quote, and no escape begins with one, so that the text can be read off
the front of whatever it stands in (`Quoted.text_cancel`). The same holds of items between commas
that end with a brace (`Value.commas_cancel`). So what is shown of a header map can be told from its
literal (`OptionsOverride.headersLiteral_cancel`).
-/

namespace AqlClient

/-! ### Numbers in hexadecimal digits -/

namespace Hex

/-- The number that some digits stand for. -/
def number (digits : List Char) : Nat :=
  digits.foldl (fun n d => n * 16 + (value? d).getD 0) 0

theorem value?_small : ∀ v < 16, value? (small v) = some v := by decide

theorem length_padded (width n : Nat) : (padded width n).length = width := by
  induction width generalizing n with
  | zero => rfl
  | succ width ih => rw [padded, List.length_append, ih, List.length_singleton]

theorem number_padded (width n : Nat) : number (padded width n) = n % 16 ^ width := by
  induction width generalizing n with
  | zero => rw [Nat.pow_zero, Nat.mod_one]; rfl
  | succ width ih =>
    have hlast : value? (small (n % 16)) = some (n % 16) :=
      value?_small _ (Nat.mod_lt _ (by decide))
    have hfront : (padded width (n / 16)).foldl (fun n d => n * 16 + (value? d).getD 0) 0 =
        n / 16 % 16 ^ width := ih (n / 16)
    rw [number, padded, List.foldl_append, hfront, List.foldl_cons, hlast, List.foldl_nil,
      Option.getD_some, Nat.pow_succ', Nat.mod_mul, Nat.add_comm, Nat.mul_comm]

end Hex

/-! ### Quoted texts -/

namespace Quoted

/-- The character that a number of some width stands for, and what follows it. -/
def numberedFrom (width : Nat) (cs : List Char) : Char × List Char :=
  (Char.ofNat (Hex.number (cs.take width)), cs.drop width)

/-- The character that stands behind a backslash, and what follows it. -/
def escapedFrom : List Char → Option (Char × List Char)
  | [] => none
  | c :: rest =>
    if c = 'x' then some (numberedFrom 2 rest)
    else if c = 'u' then some (numberedFrom 4 rest)
    else if c = 'U' then some (numberedFrom 8 rest)
    else if c = 'n' then some ('\n', rest)
    else if c = 'r' then some ('\r', rest)
    else if c = 't' then some ('\t', rest)
    else some (c, rest)

/-- The first character of what stands between quotes, and what follows it. -/
def firstOf : List Char → Option (Char × List Char)
  | [] => none
  | c :: rest => if c = '\\' then escapedFrom rest else some (c, rest)

/-- The two quotes. -/
def IsQuote (quote : Char) : Prop := quote = '\'' ∨ quote = '"'

theorem isQuote_quoteFor (cs : List Char) : IsQuote (quoteFor cs) := by
  unfold quoteFor
  split
  · exact .inr rfl
  · exact .inl rfl

theorem numberedFrom_padded {width : Nat} {c : Char} (h : c.toNat < 16 ^ width) (rest : List Char) :
    numberedFrom width (Hex.padded width c.toNat ++ rest) = (c, rest) := by
  have hlength := Hex.length_padded width c.toNat
  have htake : (Hex.padded width c.toNat ++ rest).take width = Hex.padded width c.toNat := by
    rw [List.take_append_of_le_length (Nat.le_of_eq hlength.symm),
      List.take_of_length_le (Nat.le_of_eq hlength)]
  have hdrop : (Hex.padded width c.toNat ++ rest).drop width = rest := by
    rw [List.drop_append_of_le_length (Nat.le_of_eq hlength.symm),
      List.drop_of_length_le (Nat.le_of_eq hlength), List.nil_append]
  rw [numberedFrom, htake, hdrop, Hex.number_padded, Nat.mod_eq_of_lt h, Char.ofNat_toNat]

theorem firstOf_numbered (c : Char) (rest : List Char) :
    firstOf (numbered c.toNat ++ rest) = some (c, rest) := by
  unfold numbered
  split
  case isTrue h => exact congrArg some (numberedFrom_padded (show c.toNat < 16 ^ 2 from h) rest)
  split
  case isTrue h => exact congrArg some (numberedFrom_padded (show c.toNat < 16 ^ 4 from h) rest)
  case isFalse =>
    have h : c.toNat < 16 ^ 8 := c.val.toNat_lt
    exact congrArg some (numberedFrom_padded h rest)

/-- **A character is read off its escape.** -/
theorem firstOf_escape {quote : Char} (hquote : IsQuote quote) (c : Char) (rest : List Char) :
    firstOf (escape quote c ++ rest) = some (c, rest) := by
  unfold escape
  split
  case isTrue h =>
    -- neither a quote nor a backslash is a letter that begins another escape
    obtain ⟨rfl⟩ | ⟨rfl⟩ := h
    · obtain rfl | rfl := hquote <;> rfl
    · rfl
  case isFalse h =>
    split
    case isTrue h => rw [h]; rfl
    split
    case isTrue h => rw [h]; rfl
    split
    case isTrue h => rw [h]; rfl
    split
    case isTrue => exact if_neg fun hc => h (.inr hc)
    case isFalse => exact firstOf_numbered c rest

/-- No escape begins with a quote. -/
theorem escape_head {quote : Char} (hquote : IsQuote quote) (c : Char) :
    ∃ first rest, escape quote c = first :: rest ∧ first ≠ quote := by
  have hslash : '\\' ≠ quote := by
    obtain rfl | rfl := hquote <;> decide
  unfold escape
  split
  case isTrue => exact ⟨'\\', _, rfl, hslash⟩
  case isFalse h =>
    split
    case isTrue => exact ⟨'\\', _, rfl, hslash⟩
    split
    case isTrue => exact ⟨'\\', _, rfl, hslash⟩
    split
    case isTrue => exact ⟨'\\', _, rfl, hslash⟩
    split
    case isTrue => exact ⟨c, _, rfl, fun hc => h (.inl hc)⟩
    case isFalse =>
      unfold numbered
      split
      · exact ⟨'\\', _, rfl, hslash⟩
      · split
        · exact ⟨'\\', _, rfl, hslash⟩
        · exact ⟨'\\', _, rfl, hslash⟩

/-- What stands between quotes can be read off the front, up to the quote. -/
theorem body_cancel {quote : Char} (hquote : IsQuote quote) {cs cs' rest rest' : List Char}
    (h : cs.flatMap (escape quote) ++ quote :: rest = cs'.flatMap (escape quote) ++ quote :: rest') :
    cs = cs' ∧ rest = rest' := by
  induction cs generalizing cs' with
  | nil =>
    cases cs' with
    | nil => exact ⟨rfl, (List.cons.inj h).2⟩
    | cons c' cs' =>
      obtain ⟨first, more, hescape, hfirst⟩ := escape_head hquote c'
      rw [List.flatMap_cons, hescape] at h
      exact absurd (List.cons.inj h).1.symm hfirst
  | cons c cs ih =>
    cases cs' with
    | nil =>
      obtain ⟨first, more, hescape, hfirst⟩ := escape_head hquote c
      rw [List.flatMap_cons, hescape] at h
      exact absurd (List.cons.inj h).1 hfirst
    | cons c' cs' =>
      rw [List.flatMap_cons, List.flatMap_cons, List.append_assoc, List.append_assoc] at h
      have hfirst := congrArg firstOf h
      rw [firstOf_escape hquote, firstOf_escape hquote, Option.some.injEq, Prod.mk.injEq] at hfirst
      obtain ⟨rfl, hrest⟩ := hfirst
      obtain ⟨rfl, rfl⟩ := ih hrest
      exact ⟨rfl, rfl⟩

/-- **A quoted text can be read off the front** of whatever it stands in. -/
theorem text_cancel {s s' : String} {rest rest' : List Char}
    (h : (text s).toList ++ rest = (text s').toList ++ rest') : s = s' ∧ rest = rest' := by
  unfold text at h
  rw [String.toList_ofList, String.toList_ofList, List.cons_append, List.cons_append,
    List.append_assoc, List.append_assoc, List.cons_append, List.cons_append] at h
  obtain ⟨hquote, hbody⟩ := List.cons.inj h
  rw [← hquote] at hbody
  obtain ⟨hchars, hrest⟩ := body_cancel (isQuote_quoteFor _) hbody
  exact ⟨String.toList_inj.1 hchars, hrest⟩

end Quoted

/-! ### Items between commas -/

namespace Value

/-- The first item stands alone, and each further one behind a comma. -/
theorem commas_cons (item : String) (items : List String) :
    (commas (item :: items)).toList =
      item.toList ++ items.flatMap fun next => ", ".toList ++ next.toList := by
  induction items generalizing item with
  | nil =>
    rw [commas, String.intercalate_singleton, List.flatMap_nil, List.append_nil]
  | cons next items ih =>
    rw [commas, String.intercalate_cons_cons, String.toList_append, String.toList_append,
      List.flatMap_cons, List.append_assoc, List.append_assoc, ← ih next]
    rfl

/-- One of several items stands between a text in front and a text behind it, which do not depend on
it. -/
theorem commas_around (before after : List String) : ∃ front back : List Char, ∀ item,
    (commas (before ++ item :: after)).toList = front ++ item.toList ++ back := by
  cases before with
  | nil => exact ⟨[], _, fun item => commas_cons item after⟩
  | cons first before =>
    refine ⟨first.toList ++ (before.flatMap fun next => ", ".toList ++ next.toList) ++ ", ".toList,
      after.flatMap fun next => ", ".toList ++ next.toList, fun item => ?_⟩
    rw [List.cons_append, commas_cons, List.flatMap_append, List.flatMap_cons]
    simp only [List.append_assoc]

/-- **Items between commas and braces can be read off the front,** if each of them can and none
begins with a brace. -/
theorem commas_cancel {ι : Type} {text : ι → String}
    (hcancel : ∀ {i j : ι} {rest rest' : List Char},
      (text i).toList ++ rest = (text j).toList ++ rest' → i = j ∧ rest = rest')
    (hbrace : ∀ i rest rest', (text i).toList ++ rest ≠ '\x7d' :: rest') {items others : List ι}
    {rest rest' : List Char}
    (h : (commas (items.map text)).toList ++ '\x7d' :: rest =
      (commas (others.map text)).toList ++ '\x7d' :: rest') : items = others ∧ rest = rest' := by
  -- behind the first item there are only items with a comma in front
  have hfurther : ∀ {items others : List ι},
      ((items.map text).flatMap fun next => ", ".toList ++ next.toList) ++ '\x7d' :: rest =
        ((others.map text).flatMap fun next => ", ".toList ++ next.toList) ++ '\x7d' :: rest' →
      items = others ∧ rest = rest' := by
    intro items
    induction items with
    | nil =>
      intro others h
      cases others with
      | nil => exact ⟨rfl, (List.cons.inj h).2⟩
      | cons j others => exact absurd (List.cons.inj h).1 (by decide)
    | cons i items ih =>
      intro others h
      cases others with
      | nil => exact absurd (List.cons.inj h).1 (by decide)
      | cons j others =>
        simp only [List.map_cons, List.flatMap_cons, List.append_assoc] at h
        obtain ⟨rfl, hrest⟩ := hcancel (List.append_cancel_left h)
        obtain ⟨rfl, rfl⟩ := ih hrest
        exact ⟨rfl, rfl⟩
  cases items with
  | nil =>
    cases others with
    | nil => exact ⟨rfl, (List.cons.inj h).2⟩
    | cons j others =>
      rw [List.map_cons, commas_cons, List.append_assoc] at h
      exact absurd h.symm (hbrace j _ _)
  | cons i items =>
    cases others with
    | nil =>
      rw [List.map_cons, commas_cons, List.append_assoc] at h
      exact absurd h (hbrace i _ _)
    | cons j others =>
      rw [List.map_cons, List.map_cons, commas_cons, commas_cons, List.append_assoc,
        List.append_assoc] at h
      obtain ⟨rfl, hrest⟩ := hcancel h
      obtain ⟨rfl, rfl⟩ := hfurther hrest
      exact ⟨rfl, rfl⟩

end Value

/-! ### Entries of a header map -/

/-- A quoted text begins with a quote. -/
theorem Quoted.text_head (s : String) :
    ∃ quote more, (text s).toList = quote :: more ∧ IsQuote quote := by
  refine ⟨quoteFor s.toList, s.toList.flatMap (escape (quoteFor s.toList)) ++ [quoteFor s.toList],
    ?_, isQuote_quoteFor s.toList⟩
  rw [text, String.toList_ofList, List.cons_append]

/-- What is quoted is not the literal of nothing. -/
theorem Caller.optionalText_some_ne (s : String) (rest rest' : List Char) :
    (optionalText (some s)).toList ++ rest ≠ (optionalText none).toList ++ rest' := by
  obtain ⟨quote, more, htext, hquote⟩ := Quoted.text_head s
  intro h
  rw [optionalText, htext] at h
  obtain rfl | rfl := hquote
  · exact absurd (List.cons.inj h).1 (by decide)
  · exact absurd (List.cons.inj h).1 (by decide)

/-- An optional text can be read off the front. -/
theorem Caller.optionalText_cancel {v v' : Option String} {rest rest' : List Char}
    (h : (optionalText v).toList ++ rest = (optionalText v').toList ++ rest') :
    v = v' ∧ rest = rest' := by
  cases v with
  | none =>
    cases v' with
    | none => exact ⟨rfl, List.append_cancel_left h⟩
    | some s' => exact absurd h.symm (optionalText_some_ne s' _ _)
  | some s =>
    cases v' with
    | none => exact absurd h (optionalText_some_ne s _ _)
    | some s' =>
      obtain ⟨rfl, rfl⟩ := Quoted.text_cancel h
      exact ⟨rfl, rfl⟩

/-- The literal of an entry of a header map. -/
def HeaderWishes.entryLiteral (entry : String × Option String) : String :=
  Quoted.text entry.1 ++ ": " ++ Caller.optionalText entry.2

theorem HeaderWishes.entryLiteral_cancel {entry entry' : String × Option String}
    {rest rest' : List Char}
    (h : (entryLiteral entry).toList ++ rest = (entryLiteral entry').toList ++ rest') :
    entry = entry' ∧ rest = rest' := by
  simp only [entryLiteral, String.toList_append, List.append_assoc] at h
  obtain ⟨hname, hmore⟩ := Quoted.text_cancel h
  obtain ⟨hvalue, hrest⟩ := Caller.optionalText_cancel (List.append_cancel_left hmore)
  exact ⟨Prod.ext hname hvalue, hrest⟩

theorem HeaderWishes.entryLiteral_ne_brace (entry : String × Option String)
    (rest rest' : List Char) : (entryLiteral entry).toList ++ rest ≠ '\x7d' :: rest' := by
  obtain ⟨quote, more, htext, hquote⟩ := Quoted.text_head entry.1
  intro h
  rw [entryLiteral, String.toList_append, String.toList_append, htext] at h
  obtain rfl | rfl := hquote
  · exact absurd (List.cons.inj h).1 (by decide)
  · exact absurd (List.cons.inj h).1 (by decide)

namespace OptionsOverride

/-- An entry as it is shown: a value that is to be hidden is replaced. -/
def shownEntry (redacted : NameSet) (entry : String × Option String) : String × Option String :=
  (entry.1, if redacted.contains entry.1 then some redactedValue else entry.2)

/-- What the literal of a header map shows. -/
def shownHeaders (redacted : NameSet) (headers : HeaderWishes) : HeaderWishes :=
  headers.map (shownEntry redacted)

theorem headersLiteral_eq (redacted : NameSet) (headers : HeaderWishes) :
    headersLiteral redacted headers =
      "\x7b" ++ Value.commas ((shownHeaders redacted headers).map HeaderWishes.entryLiteral) ++
        "\x7d" := by
  unfold headersLiteral shownHeaders
  rw [List.map_map]
  rfl

/-- **What is shown of a header map can be told from its literal.** -/
theorem headersLiteral_cancel {redacted redacted' : NameSet} {headers headers' : HeaderWishes}
    {rest rest' : List Char}
    (h : (headersLiteral redacted headers).toList ++ rest =
      (headersLiteral redacted' headers').toList ++ rest') :
    shownHeaders redacted headers = shownHeaders redacted' headers' := by
  rw [headersLiteral_eq, headersLiteral_eq] at h
  simp only [String.toList_append, List.append_assoc] at h
  exact (Value.commas_cancel HeaderWishes.entryLiteral_cancel HeaderWishes.entryLiteral_ne_brace
    (List.append_cancel_left h)).1

end OptionsOverride

end AqlClient
