import AqlClient.Json.Document
import AqlClient.Proofs.Authorization
import Mathlib.Data.List.Induction

/-!
# The integers of a document

An integer may be of any size, but only one that is not too long is read from a document or turned
into a text, and the bound is the same for both. It is about the digits: what is read as an integer
has at most `Json.Reader.maxDigits` of them, and a number is written with no more digits than it was
read from (`Numeral.length_digits_ofDigits`). So every integer in a document, at any depth, can be
turned into a text again (`Document.short_of_parse`).
-/

namespace AqlClient

/-! ### How many digits a number has -/

namespace Numeral

theorem digitValue?_lt_ten {c : Char} {d : Nat} (h : digitValue? c = some d) : d < 10 := by
  unfold digitValue? at h
  split at h
  case isTrue =>
    obtain rfl := Option.some.inj h
    omega
  case isFalse => cases h

/-- **A number is written with no more digits than it was read from.** -/
theorem length_digits_ofDigits {ds : List Nat} (h : ∀ d ∈ ds, d < 10) {k : Nat} (hk : 0 < k)
    (hlength : ds.length ≤ k) : (digits (ofDigits ds)).length ≤ k := by
  have hzero : ofDigits [] = 0 := rfl
  induction ds using List.reverseRecOn generalizing k with
  | nil =>
    rw [hzero, digits, if_pos (by decide)]
    exact hk
  | append_singleton ds d ih =>
    have hlast : ofDigits (ds ++ [d]) = 10 * ofDigits ds + d := List.foldl_concat ..
    have hd : d < 10 := h d (List.mem_append_right _ List.mem_cons_self)
    rw [hlast, digits]
    split
    case isTrue => exact hk
    case isFalse hlarge =>
      -- there is a second digit, so the digits in front are some
      have hsome : 0 < ds.length := by
        refine List.length_pos_iff.2 fun hnil => hlarge ?_
        rw [hnil, hzero]
        omega
      have hfront : (10 * ofDigits ds + d) / 10 = ofDigits ds := by omega
      rw [List.length_append, List.length_singleton] at hlength ⊢
      rw [hfront]
      have hlt : ∀ d' ∈ ds, d' < 10 := fun d' hd' => h d' (List.mem_append_left _ hd')
      have hds : (digits (ofDigits ds)).length ≤ k - 1 := ih hlt (by omega) (by omega)
      omega

end Numeral

/-! ### Integers that are read -/

/-- **Every integer in a value, at any depth, can be turned into a text.** -/
inductive Json.Short : Json → Prop where
  | null : Short .null
  | bool (b : Bool) : Short (.bool b)
  | int {i : Int} (h : (Numeral.digits i.natAbs).length ≤ Reader.maxDigits) : Short (.int i)
  | float (x : Binary64) : Short (.float x)
  | str (t : Text) : Short (.str t)
  | arr {items : List Json} (h : ∀ j ∈ items, Short j) : Short (.arr items)
  | obj {fields : Fields} (h : ∀ field ∈ fields, Short field.2) : Short (.obj fields)

/-- What holds of an object holds of its fields. -/
theorem Json.Short.get? {fields : Fields} {name : String} {j : Json} (h : (Json.obj fields).Short)
    (hj : fields.get? name = some j) : j.Short := by
  obtain ⟨field, hfield, rfl⟩ := Option.map_eq_some_iff.1 hj
  have hmem : field ∈ fields := List.mem_of_find?_eq_some hfield
  cases h with
  | obj hfields => exact hfields field hmem

namespace Json.Reader

variable {t rest : Text} {j : Json} {js : List Json} {ps : Fields} {fuel : Nat}

theorem spanDigits_lt_ten (t : Text) : ∀ d ∈ (spanDigits t).1, d < 10 := by
  induction t with
  | nil => exact fun d hd => by cases hd
  | cons p t ih =>
    cases p with
    | half unit isHalf => exact fun d hd => by cases hd
    | char c =>
      unfold spanDigits
      cases hc : Numeral.digitValue? c with
      | none => exact fun d hd => by cases hd
      | some d =>
        intro d' hd'
        obtain rfl | hd' := List.mem_cons.1 hd'
        · exact Numeral.digitValue?_lt_ten hc
        · exact ih d' hd'

theorem integral?_lt_ten {ds : List Nat} (h : integral? t = some (ds, rest)) :
    ∀ d ∈ ds, d < 10 := by
  unfold integral? at h
  split at h
  case h_1 =>
    cases h
    exact fun d hd => by
      rw [List.mem_singleton.1 hd]
      exact Nat.succ_pos _
  case h_2 =>
    split at h
    case h_1 => cases h
    case h_2 =>
      have hspan := spanDigits_lt_ten t
      rwa [Option.some.inj h] at hspan

/-- **A magnitude is no longer than it was read.** -/
theorem short_of_magnitude {negative : Bool} (h : magnitude negative t = some (j, rest)) :
    j.Short := by
  unfold magnitude at h
  cases hds : integral? t with
  | none =>
    rw [hds] at h
    cases h
  | some found =>
    rw [hds] at h
    dsimp only at h
    split at h
    case h_2 =>
      cases h
      exact .float _
    case h_3 =>
      cases h
      exact .float _
    case h_1 =>
      -- neither a fraction nor an exponent follows
      split at h
      case isTrue => cases h
      case isFalse hshort =>
        cases h
        have habs : (if negative then -(Numeral.ofDigits found.1 : Int)
            else Numeral.ofDigits found.1).natAbs = Numeral.ofDigits found.1 := by
          split <;> omega
        refine .int ?_
        rw [habs]
        exact Numeral.length_digits_ofDigits (integral?_lt_ten hds) (by decide)
          (Nat.le_of_not_lt hshort)

theorem short_of_scalar (h : scalar t = some (j, rest)) : j.Short := by
  have hnumber : number t = some (j, rest) → j.Short := by
    intro hnumber
    unfold number at hnumber
    split at hnumber
    case h_1 => exact short_of_magnitude hnumber
    case h_2 => exact short_of_magnitude hnumber
  unfold scalar at h
  split at h
  case h_1 =>
    obtain ⟨p, -, hp⟩ := Option.map_eq_some_iff.1 h
    cases hp
    exact .str _
  case h_2 => cases h; exact .null
  case h_3 => cases h; exact .bool true
  case h_4 => cases h; exact .bool false
  case h_5 => cases h; exact .float _
  case h_6 => cases h; exact .float _
  case h_7 => cases h; exact .float _
  case h_8 => exact hnumber h

/-- A value is read of parts that are read with less fuel. -/
theorem short_of_value_succ
    (hitems : ∀ {t js rest}, items fuel t = some (js, rest) → ∀ j ∈ js, j.Short)
    (hpairs : ∀ {t ps rest}, pairs fuel t = some (ps, rest) → ∀ field ∈ ps, field.2.Short)
    (h : value (fuel + 1) t = some (j, rest)) : j.Short := by
  have hnone : ∀ field ∈ ([] : Fields), field.2.Short := fun _ hfield => by cases hfield
  unfold value at h
  split at h
  case h_1 =>
    split at h
    case h_1 =>
      cases h
      exact .arr fun _ hitem => by cases hitem
    case h_2 =>
      obtain ⟨p, hread, hp⟩ := Option.map_eq_some_iff.1 h
      cases hp
      exact .arr (hitems hread)
  case h_2 =>
    split at h
    case h_1 =>
      cases h
      exact .obj hnone
    case h_2 =>
      obtain ⟨p, hread, hp⟩ := Option.map_eq_some_iff.1 h
      cases hp
      -- of two fields with one name only one is kept
      refine .obj fun field hfield => ?_
      obtain hfield | hfield := Named.mem_merge hfield
      · exact hnone field hfield
      · exact hpairs hread field hfield
  case h_3 => exact short_of_scalar h

theorem short_of_items_succ
    (hvalue : ∀ {t j rest}, value fuel t = some (j, rest) → j.Short)
    (hitems : ∀ {t js rest}, items fuel t = some (js, rest) → ∀ j ∈ js, j.Short)
    (h : items (fuel + 1) t = some (js, rest)) : ∀ j ∈ js, j.Short := by
  unfold items at h
  split at h
  case h_1 => cases h
  case h_2 v after hread =>
  split at h
  case h_1 =>
    cases h
    exact List.forall_mem_singleton.2 (hvalue hread)
  case h_2 =>
    obtain ⟨p, hmore, hp⟩ := Option.map_eq_some_iff.1 h
    cases hp
    exact List.forall_mem_cons.2 ⟨hvalue hread, hitems hmore⟩
  case h_3 => cases h

theorem short_of_pairs_succ
    (hvalue : ∀ {t j rest}, value fuel t = some (j, rest) → j.Short)
    (hpairs : ∀ {t ps rest}, pairs fuel t = some (ps, rest) → ∀ field ∈ ps, field.2.Short)
    (h : pairs (fuel + 1) t = some (ps, rest)) : ∀ field ∈ ps, field.2.Short := by
  unfold pairs at h
  split at h
  case h_2 => cases h
  case h_1 =>
  split at h
  case h_1 => cases h
  case h_2 =>
  split at h
  case h_2 => cases h
  case h_1 =>
  split at h
  case h_1 => cases h
  case h_2 v after hread =>
  split at h
  case h_1 =>
    cases h
    exact List.forall_mem_singleton.2 (hvalue hread)
  case h_2 =>
    obtain ⟨p, hmore, hp⟩ := Option.map_eq_some_iff.1 h
    cases hp
    exact List.forall_mem_cons.2 ⟨hvalue hread, hpairs hmore⟩
  case h_3 => cases h

/-- **Whatever is read,** with any amount of fuel. -/
theorem short_of_read (fuel : Nat) :
    (∀ {t j rest}, value fuel t = some (j, rest) → j.Short) ∧
    (∀ {t js rest}, items fuel t = some (js, rest) → ∀ j ∈ js, j.Short) ∧
    ∀ {t ps rest}, pairs fuel t = some (ps, rest) → ∀ field ∈ ps, field.2.Short := by
  induction fuel with
  | zero =>
    refine ⟨fun h => ?_, fun h => ?_, fun h => ?_⟩
    all_goals cases h
  | succ fuel ih =>
    obtain ⟨hvalue, hitems, hpairs⟩ := ih
    exact ⟨short_of_value_succ hitems hpairs, short_of_items_succ hvalue hitems,
      short_of_pairs_succ hvalue hpairs⟩

end Json.Reader

/-- **The integers of a document can be turned into texts.** -/
theorem Document.short_of_parse {bytes : List UInt8} {j : Json} (h : parse? bytes = some j) :
    j.Short := by
  obtain ⟨t, -, ht⟩ := Option.bind_eq_some_iff.1 h
  unfold Json.parseText? at ht
  split at ht
  case h_2 => cases ht
  case h_1 hvalue =>
  split at ht
  case isFalse => cases ht
  case isTrue =>
    obtain rfl := Option.some.inj ht
    exact (Json.Reader.short_of_read _).1 hvalue

end AqlClient
