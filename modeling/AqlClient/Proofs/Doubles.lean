import AqlClient.Numeric.Number

/-!
# Double-precision numbers and zero

A finite number is a sign, a significand and an exponent (`Binary64.isFinite_iff`). It is compared
with zero by its sign and by whether its significand is zero: scaling both sides to integers keeps
zero where it is (`Binary64.equalsInt_zero`, `Binary64.belowInt_zero`). So a finite number that is
not at most zero is positive, and one that is not below zero is not negative (`Binary64.Positive`,
`Binary64.NotNegative`), and the same goes for numbers that may also be integers (`Number.Positive`,
`Number.NotNegative`). A NaN passes both tests, since it is below nothing and equals nothing.

A quotient of integers that is not too large is rounded to a finite number
(`Binary64.isFinite_ofQuotient`): the significand that comes out of the rounding has at most 54
bits, and so the exponent field stays below the one that is reserved.
-/

namespace AqlClient

namespace Binary64

variable {x : Binary64} {negative : Bool} {m : Nat} {e : Int}

/-! ### Finite numbers and zero -/

theorem isFinite_iff : x.isFinite = true ↔ ∃ negative m e, x.decode = .finite negative m e := by
  unfold isFinite
  cases x.decode with
  | finite negative m e => exact iff_of_true rfl ⟨negative, m, e, rfl⟩
  | infinite negative => simp
  | nan => simp

/-- **A finite number above zero.** -/
def Positive (x : Binary64) : Prop := ∃ m e, x.decode = .finite false m e ∧ 0 < m

/-- **A finite number that is not below zero;** the sign of a zero does not matter. -/
def NotNegative (x : Binary64) : Prop :=
  ∃ negative m e, x.decode = .finite negative m e ∧ (negative = false ∨ m = 0)

/-- Scaling leaves zero where it is, and the significand on its side of it. -/
theorem scaledAgainst_zero (negative : Bool) (m : Nat) (e : Int) :
    ∃ p : Int, 0 < p ∧
      scaledAgainst negative m e 0 = ((if negative then -(m : Int) else m) * p, 0) := by
  unfold scaledAgainst
  dsimp only
  by_cases he : 0 ≤ e
  · exact ⟨Int.pow 2 e.toNat, Int.pow_pos (by decide), if_pos he⟩
  · refine ⟨1, Int.one_pos, ?_⟩
    rw [if_neg he, Int.mul_one, Int.zero_mul]

theorem equalsInt_zero (h : x.decode = .finite negative m e) : x.equalsInt 0 = decide (m = 0) := by
  obtain ⟨p, hp, hscaled⟩ := scaledAgainst_zero negative m e
  unfold equalsInt
  rw [h]
  dsimp only
  rw [hscaled]
  have hmul : (m : Int) * p = 0 ↔ m = 0 := by
    rw [Int.mul_eq_zero, or_iff_left (Int.ne_of_gt hp), Int.natCast_eq_zero]
  cases negative with
  | false => simpa using hmul
  | true =>
    have hneg : -(m : Int) * p = 0 ↔ m = 0 := by
      rw [Int.neg_mul, Int.neg_eq_zero, hmul]
    simpa using hneg

theorem belowInt_zero (h : x.decode = .finite negative m e) :
    x.belowInt 0 = (negative && decide (0 < m)) := by
  obtain ⟨p, hp, hscaled⟩ := scaledAgainst_zero negative m e
  unfold belowInt
  rw [h]
  dsimp only
  rw [hscaled]
  -- the sign decides on which side of zero the scaled significand can lie at all
  cases negative with
  | false =>
    have hmul : 0 ≤ (m : Int) * p := Int.mul_nonneg (Int.natCast_nonneg m) (Int.le_of_lt hp)
    simpa using hmul
  | true =>
    have hmul : 0 < (m : Int) * p ↔ 0 < m := by
      constructor
      · intro hpos
        refine Nat.pos_of_ne_zero ?_
        rintro rfl
        rw [Int.natCast_zero, Int.zero_mul] at hpos
        exact Int.lt_irrefl 0 hpos
      · exact fun hm => Int.mul_pos (Int.natCast_pos.2 hm) hp
    simpa [Int.neg_mul] using hmul

theorem positive_of_not_atMost (hfinite : x.isFinite = true) (h : x.atMostInt 0 = false) :
    x.Positive := by
  obtain ⟨negative, m, e, hdecode⟩ := isFinite_iff.1 hfinite
  unfold atMostInt at h
  rw [belowInt_zero hdecode, equalsInt_zero hdecode] at h
  simp only [Bool.or_eq_false_iff, Bool.and_eq_false_iff, decide_eq_false_iff_not] at h
  obtain ⟨hsign, hne⟩ := h
  -- a negative number that is not below zero would have no significand, and would equal zero then
  obtain hnegative | hm := hsign
  · subst hnegative
    exact ⟨m, e, hdecode, Nat.pos_of_ne_zero hne⟩
  · exact absurd (Nat.pos_of_ne_zero hne) hm

theorem notNegative_of_not_below (hfinite : x.isFinite = true) (h : x.belowInt 0 = false) :
    x.NotNegative := by
  obtain ⟨negative, m, e, hdecode⟩ := isFinite_iff.1 hfinite
  rw [belowInt_zero hdecode] at h
  simp only [Bool.and_eq_false_iff, decide_eq_false_iff_not] at h
  exact ⟨negative, m, e, hdecode, h.imp_right Nat.eq_zero_of_not_pos⟩

/-! ### Quotients that are not too large -/

/-- The words as numerals, so that `omega` sees them. -/
theorem infinityWord_eq : infinityWord = 9218868437227405312 := rfl

theorem pow_two_52 : Nat.pow 2 52 = 4503599627370496 := rfl

/-- A word below that of an infinity stands for a finite number, whatever its sign is. -/
theorem isFinite_ofMagnitude (negative : Bool) {word : Nat} (h : word < infinityWord) :
    (ofMagnitude negative word).isFinite = true := by
  have hpow63 : Nat.pow 2 63 = 9223372036854775808 := rfl
  rw [infinityWord_eq] at h
  have hword : (ofMagnitude negative word).bits.toNat =
      if negative then 9223372036854775808 + word else word := by
    unfold ofMagnitude
    rw [UInt64.toNat_ofNat', hpow63]
    split <;> omega
  -- the sign is the topmost bit, so that it does not reach into the exponent field
  have hfield : (ofMagnitude negative word).bits.toNat / Nat.pow 2 52 % 2048 ≠ 2047 := by
    rw [hword, pow_two_52]
    split <;> omega
  rw [isFinite_iff]
  unfold decode
  dsimp only
  rw [if_neg hfield]
  split
  · exact ⟨_, _, _, rfl⟩
  · exact ⟨_, _, _, rfl⟩

/-- The integers whose quotient is rounded, for an exponent. -/
def scaled (num den : Nat) (e : Int) : Nat × Nat :=
  if 0 ≤ e then (num, den * Nat.pow 2 e.toNat) else (num * Nat.pow 2 (-e).toNat, den)

/-- **The quotient has at most 54 bits** if the exponent is not smaller than the guess. -/
theorem scaled_lt {num den : Nat} (hden : den ≠ 0)
    (he : (num.log2 : Int) - den.log2 - 53 ≤ e) :
    (scaled num den e).1 < Nat.pow 2 54 * (scaled num den e).2 := by
  have hnum : num < 2 ^ (num.log2 + 1) := Nat.lt_log2_self
  have hlow : 2 ^ den.log2 ≤ den := Nat.log2_self_le hden
  unfold scaled
  split
  case isTrue hpos =>
    calc num < 2 ^ (num.log2 + 1) := hnum
      _ ≤ 2 ^ (54 + (den.log2 + e.toNat)) := Nat.pow_le_pow_right (by decide) (by omega)
      _ = 2 ^ 54 * (2 ^ den.log2 * 2 ^ e.toNat) := by rw [Nat.pow_add, Nat.pow_add]
      _ ≤ 2 ^ 54 * (den * 2 ^ e.toNat) :=
        Nat.mul_le_mul_left _ (Nat.mul_le_mul_right _ hlow)
  case isFalse hneg =>
    calc num * 2 ^ (-e).toNat < 2 ^ (num.log2 + 1) * 2 ^ (-e).toNat :=
          Nat.mul_lt_mul_of_pos_right hnum (Nat.pow_pos (by decide))
      _ = 2 ^ (num.log2 + 1 + (-e).toNat) := (Nat.pow_add ..).symm
      _ ≤ 2 ^ (54 + den.log2) := Nat.pow_le_pow_right (by decide) (by omega)
      _ = 2 ^ 54 * 2 ^ den.log2 := Nat.pow_add ..
      _ ≤ 2 ^ 54 * den := Nat.mul_le_mul_left _ hlow

theorem roundQuotient_le {num den : Nat} (h : num < Nat.pow 2 54 * den) :
    roundQuotient num den ≤ Nat.pow 2 54 := by
  have hquotient : num / den < Nat.pow 2 54 := Nat.div_lt_of_lt_mul (by rwa [Nat.mul_comm])
  unfold roundQuotient
  dsimp only
  split
  · exact hquotient
  · exact Nat.le_of_lt hquotient

/-- **A quotient that is not too large is rounded to a finite number.** -/
theorem isFinite_ofRatio (negative : Bool) {num den : Nat} (hden : den ≠ 0)
    (h : num.log2 ≤ den.log2 + 1000) : (ofRatio negative num den).isFinite = true := by
  unfold ofRatio
  split
  · exact isFinite_ofMagnitude negative (by decide)
  · dsimp only
    -- whatever the guess is corrected by, it is corrected upwards and by one at most
    generalize hguess : max (-1074) ((num.log2 : Int) - (den.log2 : Int) - 53) = guess
    generalize hexponent : (if Nat.pow 2 53 ≤ _ then guess + 1 else guess) = exponent
    have hlow : (num.log2 : Int) - den.log2 - 53 ≤ exponent := by
      rw [← hexponent]
      split <;> omega
    have hhigh : exponent ≤ 948 := by
      rw [← hexponent]
      split <;> omega
    have hround := roundQuotient_le (scaled_lt hden hlow)
    unfold scaled at hround
    generalize roundQuotient _ _ = q at hround ⊢
    have hpow54 : Nat.pow 2 54 = 18014398509481984 := rfl
    -- a rounded significand of 54 bits carries two into the exponent field at most
    refine isFinite_ofMagnitude negative (Nat.lt_of_le_of_lt (Nat.min_le_left _ _) ?_)
    rw [hpow54] at hround
    rw [pow_two_52, infinityWord_eq]
    split <;> omega

theorem isFinite_ofQuotient {i : Int} {den : Nat} (hden : den ≠ 0)
    (h : i.natAbs < Nat.pow 2 256) : (ofQuotient i den).isFinite = true := by
  refine isFinite_ofRatio _ hden ?_
  by_cases hzero : i.natAbs = 0
  · rw [hzero, Nat.log2_zero]
    exact Nat.zero_le _
  · have hlog : i.natAbs.log2 < 256 := (Nat.log2_lt hzero).2 h
    omega

end Binary64

/-! ### Numbers of both kinds -/

namespace Number

variable {n : Number}

/-- **A number above zero** that is not infinite. -/
def Positive : Number → Prop
  | .int i => 0 < i
  | .float x => x.Positive

/-- **A number that is not below zero** and not infinite. -/
def NotNegative : Number → Prop
  | .int i => 0 ≤ i
  | .float x => x.NotNegative

theorem positive_of_not_atMost (hfinite : n.isFinite = true) (h : n.atMostInt 0 = false) :
    n.Positive := by
  cases n with
  | int i => exact Int.not_le.1 (of_decide_eq_false h)
  | float x => exact Binary64.positive_of_not_atMost hfinite h

theorem notNegative_of_not_below (hfinite : n.isFinite = true) (h : n.belowInt 0 = false) :
    n.NotNegative := by
  cases n with
  | int i => exact Int.not_lt.1 (of_decide_eq_false h)
  | float x => exact Binary64.notNegative_of_not_below hfinite h

end Number

end AqlClient
