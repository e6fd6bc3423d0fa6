import AqlClient.Json.Reader
import AqlClient.Value.Writer

/-!
# Reading back what has been written

The parts of a JSON text, which is written in characters, each followed by whatever stands behind
it: the reader takes off the front what has been written there, and leaves the rest. A string ends
with its quote (`Json.Reader.stringBody_written`). A number does not tell where it ends: what follows
it has to be something that cannot go on with it (`Json.Reader.Ends`), as the separators and the
closing brackets are (`Json.Reader.value_int`).
-/

namespace AqlClient

namespace Json.Reader

/-! ### Strings -/

/-- The digits of a control character. -/
theorem padded_control : ∀ n < 32,
    Hex.padded 4 n = ['0', '0', Hex.small (n / 16), Hex.small (n % 16)] := by
  decide

theorem hex4?_control : ∀ n < 32,
    hex4? '0' '0' (Hex.small (n / 16)) (Hex.small (n % 16)) = some n := by
  decide

/-- The short escapes are read as what they have been written for. -/
theorem stringBody_short {c e : Char} {tail string rest : Text} (hu : c ≠ 'u')
    (hescape : shortEscape? c = some e) (h : stringBody tail = some (string, rest)) :
    stringBody (.char '\\' :: .char c :: tail) = some (.char e :: string, rest) := by
  rw [stringBody, hescape, h]
  · rfl
  · exact fun _ _ _ _ _ _ _ _ _ _ hc => hu hc
  · exact fun _ _ _ _ _ _ hc => hu hc

/-- A text goes on with another numbered escape. -/
def Numbers (tail : Text) : Prop :=
  ∃ e f g h rest, tail = .char '\\' :: .char 'u' :: .char e :: .char f :: .char g :: .char h :: rest

/-- Whatever follows it, a string does not go on with a numbered escape that is none. -/
theorem stringBody_unnumbered {e f g h : Char} {tail : Text} (hnone : hex4? e f g h = none) :
    stringBody (.char '\\' :: .char 'u' :: .char e :: .char f :: .char g :: .char h :: tail) =
      none := by
  by_cases hnext : Numbers tail
  · obtain ⟨_, _, _, _, _, rfl⟩ := hnext
    rw [stringBody, hnone]
  · rw [stringBody, hnone]
    exact fun e f g h rest heq => hnext ⟨e, f, g, h, rest, heq⟩

/-- A control character is read off its number, whatever escape follows it: it is no half of a
pair. -/
theorem stringBody_control {c : Char} {tail string rest : Text} (hc : c.toNat < 32)
    (h : stringBody tail = some (string, rest)) :
    stringBody (.char '\\' :: .char 'u' :: (Text.ofChars (Hex.padded 4 c.toNat) ++ tail)) =
      some (.char c :: string, rest) := by
  have hchar : CodePoint.ofNat? c.toNat = some (.char c) := by
    rw [CodePoint.ofNat?, dif_neg (by omega), if_pos (by omega), Char.ofNat_toNat]
  have hhigh : Wide.isHigh c.toNat = false := decide_eq_false (by omega)
  rw [padded_control _ hc]
  show stringBody (.char '\\' :: .char 'u' :: .char '0' :: .char '0' :: .char _ :: .char _ :: tail) =
    _
  by_cases hnext : Numbers tail
  · obtain ⟨e, f, g, h', more, rfl⟩ := hnext
    cases hnumber : hex4? e f g h' with
    | none =>
      rw [stringBody_unnumbered hnumber] at h
      cases h
    | some v =>
      rw [stringBody, hex4?_control _ hc, hnumber]
      dsimp only
      rw [hhigh, Bool.false_and, if_neg Bool.false_ne_true, hchar, h]
      rfl
  · rw [stringBody, hex4?_control _ hc]
    · dsimp only
      rw [hchar, h]
      rfl
    · exact fun e f g h rest heq => hnext ⟨e, f, g, h, rest, heq⟩

/-- A character that needs no escape is read as it is. -/
theorem stringBody_plain {c : Char} {tail string rest : Text} (hquote : c ≠ '"')
    (hbackslash : c ≠ '\\') (hc : ¬ c.toNat < 32) (h : stringBody tail = some (string, rest)) :
    stringBody (.char c :: tail) = some (.char c :: string, rest) := by
  rw [stringBody, if_neg hc, h]
  · rfl
  · exact hquote
  · exact fun _ _ _ _ _ _ _ _ _ _ hc => hbackslash hc
  · exact fun _ _ _ _ _ _ hc => hbackslash hc
  · exact fun _ _ _ hc => hbackslash hc
  · exact hbackslash

/-- **How a character is written:** by a short escape, by its number, or as it is. -/
inductive Written (c : Char) : List Char → Prop
  | short {e : Char} (plain : e ≠ 'u') (escape : shortEscape? e = some c) : Written c ['\\', e]
  | numbered (control : c.toNat < 32) : Written c ('\\' :: 'u' :: Hex.padded 4 c.toNat)
  | plain (quote : c ≠ '"') (backslash : c ≠ '\\') (control : ¬ c.toNat < 32) : Written c [c]

/-- A character has a short escape, or is written in some other way. -/
theorem Written.unless {c x e : Char} {cs : List Char} (hu : e ≠ 'u')
    (hescape : shortEscape? e = some x) (hother : c ≠ x → Written c cs) :
    Written c (if c = x then ['\\', e] else cs) := by
  split
  case isTrue heq =>
    subst heq
    exact .short hu hescape
  case isFalse hne => exact hother hne

theorem written_writeChar (c : Char) : Written c (Value.writeChar c) := by
  unfold Value.writeChar
  refine .unless (by decide) rfl fun hquote => .unless (by decide) rfl fun hbackslash => ?_
  refine .unless (by decide) rfl fun _ => .unless (by decide) rfl fun _ => ?_
  refine .unless (by decide) rfl fun _ => .unless (by decide) rfl fun _ => ?_
  refine .unless (by decide) rfl fun _ => ?_
  split
  case isTrue hcontrol => exact .numbered hcontrol
  case isFalse hcontrol => exact .plain hquote hbackslash hcontrol

/-- A character is read as what it has been written for. -/
theorem stringBody_writeChar (c : Char) {tail string rest : Text}
    (h : stringBody tail = some (string, rest)) :
    stringBody (Text.ofChars (Value.writeChar c) ++ tail) = some (.char c :: string, rest) := by
  have hwritten := written_writeChar c
  generalize Value.writeChar c = chars at hwritten ⊢
  cases hwritten with
  | short hu hescape => exact stringBody_short hu hescape h
  | numbered hcontrol => exact stringBody_control hcontrol h
  | plain hquote hbackslash hcontrol => exact stringBody_plain hquote hbackslash hcontrol h

/-- **A string is read up to its quote,** as what it has been written for. -/
theorem stringBody_written (cs : List Char) (rest : Text) :
    stringBody (Text.ofChars (cs.flatMap Value.writeChar) ++ .char '"' :: rest) =
      some (Text.ofChars cs, rest) := by
  induction cs with
  | nil => rfl
  | cons c cs ih =>
    rw [List.flatMap_cons, Text.ofChars_append, List.append_assoc]
    exact stringBody_writeChar c ih

/-! ### Numbers -/

/-- What a number does not go on with: nothing at all, a separator or a closing bracket. -/
def Ends (rest : Text) : Prop :=
  ∀ p ∈ rest.head?, p = .char ',' ∨ p = .char ']' ∨ p = .char '\x7d'

theorem ends_nil : Ends [] := nofun

theorem digitValue?_digitChar : ∀ d < 10, Numeral.digitValue? (Numeral.digitChar d) = some d := by
  decide

/-- What ends a number is no part of one. -/
theorem spanDigits_of_ends {rest : Text} (h : Ends rest) : spanDigits rest = ([], rest) := by
  cases rest with
  | nil => rfl
  | cons p rest =>
    rcases h p rfl with rfl | rfl | rfl
    · rfl
    · rfl
    · rfl

theorem fraction_of_ends {rest : Text} (h : Ends rest) : fraction rest = ([], rest) := by
  cases rest with
  | nil => rfl
  | cons p rest =>
    rcases h p rfl with rfl | rfl | rfl
    · rfl
    · rfl
    · rfl

theorem exponent?_of_ends {rest : Text} (h : Ends rest) : exponent? rest = none := by
  cases rest with
  | nil => rfl
  | cons p rest =>
    rcases h p rfl with rfl | rfl | rfl
    · rfl
    · rfl
    · rfl

/-- Digits are read up to what is none. -/
theorem spanDigits_digits {rest : Text} (hrest : Ends rest) {ds : List Nat}
    (hds : ∀ d ∈ ds, d < 10) :
    spanDigits (Text.ofChars (ds.map Numeral.digitChar) ++ rest) = (ds, rest) := by
  induction ds with
  | nil => exact spanDigits_of_ends hrest
  | cons d ds ih =>
    have hcons : Text.ofChars ((d :: ds).map Numeral.digitChar) ++ rest =
        .char (Numeral.digitChar d) :: (Text.ofChars (ds.map Numeral.digitChar) ++ rest) := rfl
    rw [hcons, spanDigits, digitValue?_digitChar d (hds d List.mem_cons_self)]
    dsimp only
    rw [ih fun d' hd' => hds d' (List.mem_cons_of_mem d hd')]

/-- A numeral has a digit in front, and that is a zero only if it is the only one. -/
theorem digits_cons (n : Nat) :
    ∃ d ds, Numeral.digits n = d :: ds ∧ d < 10 ∧ (d = 0 → ds = []) := by
  induction n using Numeral.digits.induct with
  | case1 n h =>
    rw [Numeral.digits, if_pos h]
    exact ⟨n, [], rfl, h, fun _ => rfl⟩
  | case2 n h ih =>
    obtain ⟨d, ds, hdigits, hd, hzero⟩ := ih
    rw [Numeral.digits, if_neg h, hdigits]
    refine ⟨d, ds ++ [n % 10], rfl, hd, fun hd0 => ?_⟩
    -- the number in front would be zero
    have hvalue := Numeral.ofDigits_digits (n / 10)
    rw [hdigits, hd0, hzero hd0] at hvalue
    have hn : n / 10 = 0 := hvalue.symm
    omega

theorem integral?_of_ne {c : Char} {tail : Text} (hc : c ≠ '0') {ds : List Nat} {d : Nat}
    {rest : Text} (h : spanDigits (.char c :: tail) = (d :: ds, rest)) :
    integral? (.char c :: tail) = some (d :: ds, rest) := by
  unfold integral?
  split
  · rename_i heq
    cases heq
    exact absurd rfl hc
  · rw [h]

theorem digitChar_ne_zero : ∀ d < 10, d ≠ 0 → Numeral.digitChar d ≠ '0' := by
  decide

/-- The digits of a numeral are its integral part. -/
theorem integral?_natChars (n : Nat) {rest : Text} (hrest : Ends rest) :
    integral? (Text.ofChars (Numeral.natChars n) ++ rest) = some (Numeral.digits n, rest) := by
  have hspan := spanDigits_digits hrest (Numeral.digits_lt_ten n)
  obtain ⟨d, ds, hdigits, hd, hzero⟩ := digits_cons n
  unfold Numeral.natChars
  rw [hdigits] at hspan ⊢
  cases d with
  | zero =>
    rw [hzero rfl]
    rfl
  | succ d =>
    exact integral?_of_ne (digitChar_ne_zero _ hd (Nat.succ_ne_zero d)) hspan

/-- A numeral alone is an exact integer, if it is not too long. -/
theorem magnitude_natChars (negative : Bool) {n : Nat} {rest : Text}
    (hshort : (Numeral.digits n).length ≤ maxDigits) (hrest : Ends rest) :
    magnitude negative (Text.ofChars (Numeral.natChars n) ++ rest) =
      some (.int (if negative then -(n : Int) else n), rest) := by
  unfold magnitude
  rw [integral?_natChars n hrest]
  dsimp only
  rw [fraction_of_ends hrest]
  dsimp only
  rw [exponent?_of_ends hrest]
  dsimp only
  rw [if_neg (by omega), Numeral.ofDigits_digits]

/-- What opens no container is a value without parts. -/
theorem value_scalar (fuel : Nat) {c : Char} (hlist : c ≠ '[') (hobject : c ≠ '\x7b')
    (tail : Text) : value (fuel + 1) (.char c :: tail) = scalar (.char c :: tail) := by
  rw [value]
  · exact fun _ heq => hlist (CodePoint.char.inj (List.cons.inj heq).1)
  · exact fun _ heq => hobject (CodePoint.char.inj (List.cons.inj heq).1)

/-- A value that starts with a digit is a number. -/
theorem value_of_digit (fuel : Nat) {c : Char} {d : Nat} (hc : Numeral.digitValue? c = some d)
    (tail : Text) : value (fuel + 1) (.char c :: tail) = magnitude false (.char c :: tail) := by
  have hne : ∀ {c' : Char}, Numeral.digitValue? c' = none → c ≠ c' := by
    rintro c' hc' rfl
    rw [hc'] at hc
    cases hc
  rw [value_scalar fuel (hne rfl) (hne rfl), scalar, number]
  all_goals
    intros
    rename_i heq
    exact hne rfl (CodePoint.char.inj (List.cons.inj heq).1)

theorem value_of_minus (fuel : Nat) {c : Char} {d : Nat} (hc : Numeral.digitValue? c = some d)
    (tail : Text) :
    value (fuel + 1) (.char '-' :: .char c :: tail) = magnitude true (.char c :: tail) := by
  rw [value_scalar fuel (by decide) (by decide), scalar, number]
  all_goals
    intros
    rename_i heq
    cases heq
  cases hc

/-- **An integer is read up to what ends it,** if it is not too long. -/
theorem value_int (fuel : Nat) {i : Int} {rest : Text}
    (hshort : (Numeral.digits i.natAbs).length ≤ maxDigits) (hrest : Ends rest) :
    value (fuel + 1) (Text.ofChars (Numeral.intChars i) ++ rest) = some (.int i, rest) := by
  have hfront : ∀ n : Nat, ∃ c d tail, Numeral.natChars n = c :: tail ∧
      Numeral.digitValue? c = some d := by
    intro n
    obtain ⟨d, ds, hdigits, hd, -⟩ := digits_cons n
    refine ⟨Numeral.digitChar d, d, ds.map Numeral.digitChar, ?_, digitValue?_digitChar d hd⟩
    rw [Numeral.natChars, hdigits, List.map_cons]
  cases i with
  | ofNat n =>
    obtain ⟨c, d, tail, hchars, hc⟩ := hfront n
    calc value (fuel + 1) (Text.ofChars (Numeral.natChars n) ++ rest)
      _ = magnitude false (Text.ofChars (Numeral.natChars n) ++ rest) := by
        rw [hchars]
        exact value_of_digit fuel hc (Text.ofChars tail ++ rest)
      _ = some (.int (.ofNat n), rest) := magnitude_natChars false hshort hrest
  | negSucc n =>
    obtain ⟨c, d, tail, hchars, hc⟩ := hfront (n + 1)
    calc value (fuel + 1) (.char '-' :: (Text.ofChars (Numeral.natChars (n + 1)) ++ rest))
      _ = magnitude true (Text.ofChars (Numeral.natChars (n + 1)) ++ rest) := by
        rw [hchars]
        exact value_of_minus fuel hc (Text.ofChars tail ++ rest)
      _ = some (.int (.negSucc n), rest) := magnitude_natChars true hshort hrest

/-! ### Containers -/

/-- How the text of a value starts: with something that is no white space, and that does not close a
list. -/
def Starts (cs : List Char) : Prop :=
  ∃ c tail, cs = c :: tail ∧ isSpace (.char c) = false ∧ c ≠ ']'

theorem skipSpace_cons {p : CodePoint} (h : isSpace p = false) (rest : Text) :
    skipSpace (p :: rest) = p :: rest := by
  rw [skipSpace, List.dropWhile_cons_of_neg]
  rw [h]
  exact Bool.false_ne_true

theorem Starts.skipSpace {cs : List Char} (h : Starts cs) (rest : Text) :
    skipSpace (Text.ofChars cs ++ rest) = Text.ofChars cs ++ rest := by
  obtain ⟨c, tail, rfl, hspace, -⟩ := h
  exact skipSpace_cons hspace (Text.ofChars tail ++ rest)

/-- What stands between the brackets of a list that is not empty. -/
theorem value_list {cs : List Char} (h : Starts cs) (fuel : Nat) (rest : Text) :
    value (fuel + 1) (.char '[' :: (Text.ofChars cs ++ rest)) =
      (items fuel (Text.ofChars cs ++ rest)).map fun p => (.arr p.1, p.2) := by
  have hskip := h.skipSpace rest
  obtain ⟨c, tail, rfl, -, hc⟩ := h
  rw [value, hskip]
  split
  · rename_i heq
    exact absurd (CodePoint.char.inj (List.cons.inj heq).1) hc
  · rfl

/-- The last item of a list. -/
theorem items_last {fuel : Nat} {t rest : Text} {j : Json}
    (h : value fuel (t ++ .char ']' :: rest) = some (j, .char ']' :: rest)) :
    items (fuel + 1) (t ++ .char ']' :: rest) = some ([j], rest) := by
  rw [items, h]
  rfl

/-- An item of a list that others follow. -/
theorem items_next {fuel : Nat} {t rest : Text} {more : List Char} {j : Json} (hmore : Starts more)
    (h : value fuel (t ++ .char ',' :: (Text.ofChars more ++ rest)) =
      some (j, .char ',' :: (Text.ofChars more ++ rest))) :
    items (fuel + 1) (t ++ .char ',' :: (Text.ofChars more ++ rest)) =
      (items fuel (Text.ofChars more ++ rest)).map fun p => (j :: p.1, p.2) := by
  have hskip := hmore.skipSpace rest
  rw [items, h]
  show (items fuel (Reader.skipSpace (Text.ofChars more ++ rest))).map _ = _
  rw [hskip]

theorem writeString_append (s : String) (rest : Text) :
    Text.ofChars (Value.writeString s) ++ rest =
      .char '"' :: (Text.ofChars (s.toList.flatMap Value.writeChar) ++ .char '"' :: rest) := by
  rw [Value.writeString, Text.ofChars_append, List.append_assoc]
  rfl

/-- A string is read up to its quote. -/
theorem value_string (fuel : Nat) (s : String) (rest : Text) :
    value (fuel + 1) (Text.ofChars (Value.writeString s) ++ rest) = some (.str s, rest) := by
  rw [writeString_append, value_scalar fuel (by decide) (by decide), scalar, stringBody_written,
    Option.map_some, Text.ofString]

/-- What stands between the braces of an object that is not empty. -/
theorem value_object (fuel : Nat) (name : String) (rest : Text) :
    value (fuel + 1) (.char '\x7b' :: (Text.ofChars (Value.writeString name) ++ rest)) =
      (pairs fuel (Text.ofChars (Value.writeString name) ++ rest)).map fun p =>
        (.obj (Named.ofPairs p.1), p.2) := by
  rw [writeString_append]
  rfl

/-- The last field of an object. -/
theorem pairs_last {fuel : Nat} (name : String) {cs : List Char} {rest : Text} {j : Json}
    (hcs : Starts cs)
    (h : value fuel (Text.ofChars cs ++ .char '\x7d' :: rest) = some (j, .char '\x7d' :: rest)) :
    pairs (fuel + 1) (Text.ofChars (Value.writeString name) ++
        .char ':' :: (Text.ofChars cs ++ .char '\x7d' :: rest)) =
      some ([(Text.ofString name, j)], rest) := by
  have hcolon := skipSpace_cons (p := .char ':') rfl (Text.ofChars cs ++ .char '\x7d' :: rest)
  have hbrace := skipSpace_cons (p := .char '\x7d') rfl rest
  rw [writeString_append, pairs]
  simp only [stringBody_written, hcolon, hcs.skipSpace, h, hbrace, Text.ofString]

/-- A field of an object that others follow. -/
theorem pairs_next {fuel : Nat} (name next : String) {cs : List Char} {rest : Text} {j : Json}
    (hcs : Starts cs)
    (h : value fuel (Text.ofChars cs ++
        .char ',' :: (Text.ofChars (Value.writeString next) ++ rest)) =
      some (j, .char ',' :: (Text.ofChars (Value.writeString next) ++ rest))) :
    pairs (fuel + 1) (Text.ofChars (Value.writeString name) ++ .char ':' ::
        (Text.ofChars cs ++ .char ',' :: (Text.ofChars (Value.writeString next) ++ rest))) =
      (pairs fuel (Text.ofChars (Value.writeString next) ++ rest)).map fun p =>
        ((Text.ofString name, j) :: p.1, p.2) := by
  have hcolon := skipSpace_cons (p := .char ':') rfl
    (Text.ofChars cs ++ .char ',' :: (Text.ofChars (Value.writeString next) ++ rest))
  have hcomma := skipSpace_cons (p := .char ',') rfl
    (Text.ofChars (Value.writeString next) ++ rest)
  have hnext : skipSpace (Text.ofChars (Value.writeString next) ++ rest) =
      Text.ofChars (Value.writeString next) ++ rest := by
    rw [writeString_append]
    exact skipSpace_cons rfl _
  rw [writeString_append name, pairs]
  simp only [stringBody_written, hcolon, hcs.skipSpace, h, hcomma, hnext, Text.ofString]

end Json.Reader

/-! ### Entries by name -/

namespace Named

variable {α κ : Type} [BEq κ] [LawfulBEq κ]

theorem has_iff {entries : Named α κ} {name : κ} :
    entries.has name = true ↔ name ∈ entries.map Prod.fst := by
  rw [has, List.any_eq_true, List.mem_map]
  constructor
  · rintro ⟨entry, hmem, heq⟩
    exact ⟨entry, hmem, beq_iff_eq.1 heq⟩
  · rintro ⟨entry, hmem, heq⟩
    exact ⟨entry, hmem, beq_iff_eq.2 heq⟩

/-- Entries under new names are put at the end. -/
theorem merge_of_nodup {entries others : Named α κ}
    (h : ((entries ++ others).map Prod.fst).Nodup) : merge entries others = entries ++ others := by
  induction others generalizing entries with
  | nil => rw [List.append_nil, merge, List.foldl_nil]
  | cons entry others ih =>
    have hnew : ¬ entries.has entry.1 = true := by
      rw [has_iff]
      intro hmem
      rw [List.map_append, List.nodup_append] at h
      exact h.2.2 entry.1 hmem entry.1 List.mem_cons_self rfl
    have hput : entries.put entry.1 entry.2 = entries ++ [entry] := by
      rw [put, if_neg hnew]
    have hsplit : entries ++ entry :: others = (entries ++ [entry]) ++ others := by
      rw [List.append_assoc, List.singleton_append]
    rw [hsplit] at h ⊢
    calc merge entries (entry :: others)
      _ = merge (entries.put entry.1 entry.2) others := rfl
      _ = merge (entries ++ [entry]) others := by rw [hput]
      _ = (entries ++ [entry]) ++ others := ih h

/-- **Entries under different names are a map as they are.** -/
theorem ofPairs_of_nodup {pairs : List (κ × α)} (h : (pairs.map Prod.fst).Nodup) :
    ofPairs pairs = pairs :=
  merge_of_nodup h

end Named

end AqlClient
