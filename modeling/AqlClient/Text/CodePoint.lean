/-!
# Code points

A text from a server is a list of code points (`Text`), and not every code point is a character: a
document can hold one half of a surrogate pair on its own, by its number or by its bytes. Two texts
that differ in such a half are different texts, so that they are different names of fields, too.

Elsewhere a text is a `String`. It holds characters only, and a half on its own is shown there by
the replacement character (`Text.shown`). Every `String` is a text that is shown as itself.
-/

namespace AqlClient

/-- A code point of a text: a character, or a half of a surrogate pair that stands alone. -/
inductive CodePoint where
  | char (c : Char)
  | half (unit : Nat) (isHalf : 0xD800 ≤ unit ∧ unit < 0xE000)
  deriving DecidableEq, Repr

namespace CodePoint

/-- The code point with a number, if it is the number of one. -/
def ofNat? (n : Nat) : Option CodePoint :=
  if h : 0xD800 ≤ n ∧ n < 0xE000 then some (.half n h)
  else if n < 0x110000 then some (.char (Char.ofNat n))
  else none

/-- The character by which a code point is shown. -/
def shown : CodePoint → Char
  | .char c => c
  | .half _ _ => '\uFFFD'

end CodePoint

/-- A text, code point by code point. -/
abbrev Text := List CodePoint

namespace Text

/-- The text of a list of characters. -/
def ofChars (cs : List Char) : Text := cs.map .char

/-- A string as a text. -/
def ofString (s : String) : Text := ofChars s.toList

instance : Coe String Text := ⟨ofString⟩

/-- The string by which a text is shown. -/
def shown (t : Text) : String := String.ofList (t.map CodePoint.shown)

theorem ofChars_append (cs ds : List Char) : ofChars (cs ++ ds) = ofChars cs ++ ofChars ds :=
  List.map_append

theorem map_shown_ofChars (cs : List Char) : (ofChars cs).map CodePoint.shown = cs := by
  rw [ofChars, List.map_map]
  exact List.map_id cs

theorem shown_ofString (s : String) : shown s = s := by
  rw [shown, ofString, map_shown_ofChars, String.ofList_toList]

theorem ofString_injective {s s' : String} (h : ofString s = ofString s') : s = s' := by
  rw [← shown_ofString s, h, shown_ofString]

/-- **A string without replacement characters shows no other text.** -/
theorem shown_eq_iff {s : String} (hs : '\uFFFD' ∉ s.toList) {t : Text} :
    shown t = s ↔ t = ofString s := by
  constructor
  · rintro rfl
    rw [shown, String.toList_ofList] at hs
    rw [ofString, shown, String.toList_ofList, ofChars, List.map_map]
    refine (List.map_id t).symm.trans (List.map_congr_left fun p hp => ?_)
    cases p with
    | char c => rfl
    | half unit isHalf => exact absurd (List.mem_map_of_mem (f := CodePoint.shown) hp) hs
  · rintro rfl
    exact shown_ofString s

end Text

end AqlClient
