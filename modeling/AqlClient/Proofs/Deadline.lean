import AqlClient.Gateway.Exchange
import AqlClient.Timing.Deadline

/-!
# Deadlines in milliseconds

Where all limits are whole numbers of milliseconds, zero and null alike stand for no limit
(`Value.Limits`), and a deadline passes at a whole time, or never (`Deadline.Until`). Before that
time it grants a request some of the time that is left, and never nothing; from that time on it
grants none (`Deadline.Until.granted`, `Deadline.Until.overdue`).

A request is bounded by the deadline of the method that it belongs to (`Request.Bounded`) if it is
sent before the deadline passes, and may take no longer than what is left of it. Only the release of
a cursor is sent in any case, under the limit for a single request.
-/

namespace AqlClient

/-! ### Values that limit something -/

/-- A value that can limit a method: it is a number, unless it does not limit anything. -/
def Value.MayLimit (v : Value) : Prop := ∀ u, limiting v = some u → u.numeric?.isSome = true

theorem Value.mayLimit_int (i : Int) : (Value.int i).MayLimit := by
  intro u hu
  unfold limiting at hu
  split at hu
  · cases hu
    rfl
  · cases hu

theorem TimeoutSettings.mayLimit_overallOr {default : Value} (h : default.MayLimit)
    (general timeout : Option Int) : (overallOr default general timeout).MayLimit := by
  unfold overallOr
  split
  case h_1 ms _ => exact Value.mayLimit_int ms
  case h_2 => exact h

theorem Deadline.starting_of_mayLimit {limit : Value} (h : limit.MayLimit) (now : Int)
    (label : Option String) : ∃ d, starting now limit label = .ok d := by
  unfold starting
  cases hu : limiting limit with
  | none => exact ⟨_, rfl⟩
  | some u =>
    obtain ⟨n, hn⟩ := Option.isSome_iff_exists.1 (h u hu)
    simp only [hn]
    exact ⟨_, rfl⟩

/-- **A number of milliseconds that limits something,** unless it is zero. Null stands for zero. -/
def Value.Limits (v : Value) (ms : Int) : Prop := 0 ≤ ms ∧ (v = .int ms ∨ v = .null ∧ ms = 0)

namespace Value.Limits

variable {v : Value} {ms : Int}

theorem int (h : 0 ≤ ms) : (Value.int ms).Limits ms := ⟨h, .inl rfl⟩

theorem null : Value.null.Limits 0 := ⟨Int.le_refl 0, .inr ⟨rfl, rfl⟩⟩

theorem mayLimit (h : v.Limits ms) : v.MayLimit := by
  obtain ⟨-, rfl | ⟨rfl, -⟩⟩ := h
  · exact mayLimit_int ms
  · intro u hu
    cases hu

/-- Zero and null limit nothing. -/
theorem limiting_zero (h : v.Limits 0) : limiting v = none := by
  obtain ⟨-, rfl | ⟨rfl, -⟩⟩ := h <;> rfl

theorem limiting_pos (h : v.Limits ms) (hpos : 0 < ms) : limiting v = some (.int ms) := by
  obtain ⟨-, rfl | ⟨-, rfl⟩⟩ := h
  · have htruthy : (Value.int ms).truthy = true := bne_iff_ne.2 (Int.ne_of_gt hpos)
    exact if_pos htruthy
  · exact absurd hpos (Int.lt_irrefl 0)

end Value.Limits

/-- What is attached to a request grants it the same time. -/
theorem TimeLimit.attached_request (l : TimeLimit) : l.attached.request = l.request := by
  unfold attached
  split
  · rfl
  case isFalse hunset =>
    -- what is not set does not limit the request either
    obtain ⟨request, nominal, label⟩ := l
    cases request with
    | null => rfl
    | _ => exact absurd (Bool.or_true _) hunset

/-! ### The time at which a deadline passes -/

/-- **A deadline for something that was started at some time** passes after a number of
milliseconds, or never if the number is zero. -/
def Deadline.Until (d : Deadline) (started ms : Int) : Prop :=
  d.passesAt = if ms = 0 then none else some (.int (started + ms))

/-- The failure of a method whose deadline has passed. -/
def Deadline.overdue (d : Deadline) : Failure := .timeout (.deadline d.label (d.overall.getD .null))

/-- **What a request is granted at some time,** of a number of milliseconds since a start, under a
limit for single requests. -/
structure Value.Granted (v : Value) (started ms cap now : Int) : Prop where
  /-- Without a deadline the limit for a single request holds, if there is any. -/
  unlimited : ms = 0 → v = if cap = 0 then .null else .int cap
  /-- Under a deadline some time is left, and no more of it is granted than a single request may
  take. -/
  within : 0 < ms → now < started + ms ∧ ∃ left, v = .int left ∧ 0 < left ∧
    left ≤ started + ms - now ∧ (0 < cap → left ≤ cap)

/-- **A request is bounded** by a number of milliseconds since the start of its method, and by a
limit for single requests, which is the only one for the release of a cursor. -/
def Request.Bounded (started ms cap now : Int) (q : Request) : Prop :=
  if q.method = "DELETE" then q.limit.request.Limits cap
  else q.limit.request.Granted started ms cap now

/-- Whole numbers are compared as they are. -/
theorem Number.int_atMost (a b : Int) : (Number.int a).atMost (.int b) = true ↔ a ≤ b := by
  unfold atMost below belowInt sameValue
  simp only [Bool.or_eq_true, decide_eq_true_eq, beq_iff_eq]
  omega

namespace Deadline

variable {d : Deadline} {v capValue : Value} {started ms cap now : Int}
  {label capLabel : Option String}

/-- A deadline that is started somewhere passes so much later. -/
theorem until_starting (h : v.Limits ms) (hstart : starting started v label = .ok d) :
    d.Until started ms := by
  unfold starting at hstart
  unfold Until
  split
  case isTrue hzero =>
    subst hzero
    rw [h.limiting_zero] at hstart
    cases hstart
    rfl
  case isFalse hne =>
    rw [h.limiting_pos (Int.lt_iff_le_and_ne.2 ⟨h.1, Ne.symm hne⟩)] at hstart
    cases hstart
    rfl

/-- A number of milliseconds can limit a method. -/
theorem starting_ok (h : v.Limits ms) (started : Int) (label : Option String) :
    ∃ d, starting started v label = .ok d :=
  starting_of_mayLimit h.mayLimit started label

namespace Until

variable (h : d.Until started ms)

include h

/-- **Once a deadline has passed** it grants nothing. -/
theorem overdue (hpos : 0 < ms) (hlate : started + ms ≤ now) (capValue : Value)
    (capLabel : Option String) : d.remaining now capValue capLabel = .error d.overdue := by
  have hpasses : d.passesAt = some (.int (started + ms)) := by
    rw [show d.passesAt = _ from h, if_neg (Int.ne_of_gt hpos)]
  have hbelow : (Number.int now).below (.int (started + ms)) = false :=
    decide_eq_false (Int.not_lt.2 hlate)
  unfold remaining
  rw [hpasses]
  simp only [hbelow]
  rfl

/-- Before a deadline passes something is granted, within what is left and within the limit for a
single request. -/
theorem granted_early (hcap : capValue.Limits cap) (hnow : now < started + ms) (hpos : 0 < ms)
    (capLabel : Option String) : ∃ limit left, d.remaining now capValue capLabel = .ok limit ∧
      limit.request = .int left ∧ 0 < left ∧ left ≤ started + ms - now ∧ (0 < cap → left ≤ cap) := by
  have hpasses : d.passesAt = some (.int (started + ms)) := by
    rw [show d.passesAt = _ from h, if_neg (Int.ne_of_gt hpos)]
  have hbelow : (Number.int now).below (.int (started + ms)) = true := decide_eq_true hnow
  have hleft : 0 < started + ms - now := by omega
  unfold remaining
  rw [hpasses]
  by_cases hcapzero : cap = 0
  · -- all that is left
    subst hcapzero
    rw [hcap.limiting_zero]
    simp only [hbelow, if_true]
    exact ⟨_, _, rfl, rfl, hleft, Int.le_refl _, fun hcap => absurd hcap (Int.lt_irrefl 0)⟩
  · -- the smaller one of what is left and of the limit
    have hcappos : 0 < cap := Int.lt_iff_le_and_ne.2 ⟨hcap.1, Ne.symm hcapzero⟩
    have hmost := Number.int_atMost (started + ms - now) cap
    rw [hcap.limiting_pos hcappos]
    simp only [hbelow, if_true]
    by_cases hle : started + ms - now ≤ cap
    · refine ⟨_, _, congrArg Except.ok (if_pos (hmost.2 hle)), rfl, hleft, Int.le_refl _, ?_⟩
      exact fun _ => hle
    · refine ⟨_, _, congrArg Except.ok (if_neg fun h => hle (hmost.1 h)), rfl, hcappos, ?_,
        fun _ => Int.le_refl _⟩
      omega

/-- Where a deadline never passes, the limit for a single request is granted. -/
theorem granted_zero (now : Int) (hzero : ms = 0) (hcap : capValue.Limits cap)
    (capLabel : Option String) :
    ∃ limit, d.remaining now capValue capLabel = .ok limit ∧
      limit.request = if cap = 0 then .null else .int cap := by
  have hpasses : d.passesAt = none := by
    rw [show d.passesAt = _ from h, if_pos hzero]
  unfold remaining
  rw [hpasses]
  by_cases hcapzero : cap = 0
  · subst hcapzero
    rw [hcap.limiting_zero]
    exact ⟨_, rfl, rfl⟩
  · rw [hcap.limiting_pos (Int.lt_iff_le_and_ne.2 ⟨hcap.1, Ne.symm hcapzero⟩)]
    exact ⟨_, rfl, (if_neg hcapzero).symm⟩

/-- Either something is granted, or the deadline has passed. -/
theorem remaining_cases (now : Int) (hcap : capValue.Limits cap) (hms : 0 ≤ ms)
    (capLabel : Option String) :
    (∃ limit, d.remaining now capValue capLabel = .ok limit ∧
      limit.request.Granted started ms cap now) ∨
    (0 < ms ∧ started + ms ≤ now) ∧ d.remaining now capValue capLabel = .error d.overdue := by
  by_cases hzero : ms = 0
  · obtain ⟨limit, hlimit, hrequest⟩ := h.granted_zero now hzero hcap capLabel
    exact .inl ⟨limit, hlimit, fun _ => hrequest, fun hpos => by omega⟩
  · have hpos : 0 < ms := by omega
    by_cases hnow : now < started + ms
    · obtain ⟨limit, left, hlimit, hleft⟩ := h.granted_early hcap hnow hpos capLabel
      exact .inl ⟨limit, hlimit, fun h => absurd h hzero, fun _ => ⟨hnow, left, hleft⟩⟩
    · exact .inr ⟨⟨hpos, by omega⟩, h.overdue hpos (by omega) capValue capLabel⟩

/-- **What a deadline grants** keeps to it. -/
theorem granted (hcap : capValue.Limits cap) (hms : 0 ≤ ms) {limit : TimeLimit}
    (hlimit : d.remaining now capValue capLabel = .ok limit) :
    limit.request.Granted started ms cap now := by
  obtain ⟨limit', hlimit', hgranted⟩ | ⟨-, hrefused⟩ :=
    h.remaining_cases now hcap hms capLabel
  · rw [hlimit'] at hlimit
    cases hlimit
    exact hgranted
  · rw [hrefused] at hlimit
    cases hlimit

/-- **A deadline refuses** only when it has passed. -/
theorem refused (hcap : capValue.Limits cap) (hms : 0 ≤ ms) {e : Failure}
    (he : d.remaining now capValue capLabel = .error e) :
    (0 < ms ∧ started + ms ≤ now) ∧ e = d.overdue := by
  obtain ⟨limit, hlimit, -⟩ | ⟨hlate, hrefused⟩ := h.remaining_cases now hcap hms capLabel
  · rw [hlimit] at he
    cases he
  · rw [hrefused] at he
    cases he
    exact ⟨hlate, rfl⟩

end Until

end Deadline

end AqlClient
