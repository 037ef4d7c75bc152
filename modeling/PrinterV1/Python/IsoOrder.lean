import PrinterV1.Python.IsoRoundTrip
import Mathlib.Data.String.Basic

/-!
# The ISO texts of instants are in the order of the instants

Two texts that `isoformat` wrote are compared character by character, and come out
as their instants do: every field has a fixed width but for the fraction, and where
one text has none the sign of the offset stands against the other's point.
-/

namespace PrinterV1.Python

/-- Two lists that start with fields of one width. -/
theorem append_lt_append {xs ys : List Char} (hlen : xs.length = ys.length) (as bs : List Char)
    (h : xs < ys ∨ xs = ys ∧ as < bs) : xs ++ as < ys ++ bs := by
  induction xs generalizing ys with
  | nil =>
    obtain rfl := List.length_eq_zero_iff.mp hlen.symm
    simpa using h
  | cons x xs ih =>
    cases ys with
    | nil => cases hlen
    | cons y ys =>
      simp only [List.cons_append, List.cons_lt_cons_iff]
      rcases h with h | ⟨h, htail⟩
      · rcases List.cons_lt_cons_iff.mp h with hxy | ⟨rfl, hlt⟩
        · exact Or.inl hxy
        · exact Or.inr ⟨rfl, ih (by simpa using hlen) (Or.inl hlt)⟩
      · obtain ⟨rfl, rfl⟩ := List.cons.inj h
        exact Or.inr ⟨rfl, ih rfl (Or.inr ⟨rfl, htail⟩)⟩

theorem digitChar_lt {a b : ℕ} (hab : a < b) (hb : b < 10) :
    Nat.digitChar a < Nat.digitChar b := by
  interval_cases b <;> interval_cases a <;> decide

@[simp] theorem length_digits (w : ℕ) : ∀ n, (digits w n).length = w := by
  induction w with
  | zero => intro n; rfl
  | succ w ih => intro n; simp [digits, ih]

theorem digits_lt (w : ℕ) : ∀ {n m : ℕ}, n < m → m < 10 ^ w → digits w n < digits w m := by
  induction w with
  | zero => intro n m hnm hm; omega
  | succ w ih =>
    intro n m hnm hm
    have hpos : 0 < 10 ^ w := by positivity
    have hhead : n / 10 ^ w ≤ m / 10 ^ w := Nat.div_le_div_right hnm.le
    rw [digits, digits, List.cons_lt_cons_iff]
    rcases Nat.lt_or_eq_of_le hhead with hlt | heq
    · exact Or.inl (digitChar_lt hlt (head_lt hm))
    · refine Or.inr ⟨by rw [heq], ih ?_ (Nat.mod_lt _ hpos)⟩
      have hn := Nat.div_add_mod n (10 ^ w)
      have hm' := Nat.div_add_mod m (10 ^ w)
      rw [heq] at hn
      omega

/-- One field before the rest of a text. -/
theorem field_lt {w n m : ℕ} (hm : m < 10 ^ w) {as bs : List Char}
    (h : n < m ∨ n = m ∧ as < bs) : digits w n ++ as < digits w m ++ bs := by
  refine append_lt_append (by simp) as bs ?_
  rcases h with h | ⟨rfl, h⟩
  · exact Or.inl (digits_lt w h hm)
  · exact Or.inr ⟨rfl, h⟩

theorem cons_lt {c : Char} {as bs : List Char} (h : as < bs) : c :: as < c :: bs :=
  List.cons_lt_cons_iff.mpr (Or.inr ⟨rfl, h⟩)

/-- A valid date stands for days of its year, and of its month. -/
theorem validDate_bounds {year month day days : ℤ} (h : validDate year month day = some days) :
    1 ≤ year ∧ 1 ≤ month ∧ month ≤ 12 ∧ 1 ≤ day ∧
      days = daysBeforeYear year + daysBeforeMonth year month + (day - 1) ∧
      day ≤ daysInMonth year month := by
  unfold validDate at h
  split_ifs at h with hvalid
  obtain ⟨hyear, hmonth, hmonth', hday, hday'⟩ := hvalid
  exact ⟨hyear, hmonth, hmonth', hday, (Option.some.inj h).symm, hday'⟩

theorem daysBeforeMonth_add (year : ℤ) {month month' : ℤ} (h1 : 1 ≤ month) (hlt : month < month')
    (h12 : month' ≤ 12) :
    daysBeforeMonth year month + daysInMonth year month ≤ daysBeforeMonth year month' := by
  have hmonth : month ≤ 11 := by omega
  unfold daysBeforeMonth daysInMonth
  cases isLeap year <;> interval_cases month <;> interval_cases month' <;> decide

theorem daysBeforeMonth_nonneg (year : ℤ) {month : ℤ} (h1 : 1 ≤ month) (h12 : month ≤ 12) :
    0 ≤ daysBeforeMonth year month ∧
      daysBeforeMonth year month + daysInMonth year month ≤
        if isLeap year = true then 366 else 365 := by
  unfold daysBeforeMonth daysInMonth
  cases isLeap year <;> interval_cases month <;> decide

theorem daysBeforeYear_add {year year' : ℤ} (hlt : year < year') :
    daysBeforeYear year + (if isLeap year = true then 366 else 365) ≤ daysBeforeYear year' := by
  simp only [isLeap_iff, daysBeforeYear]
  split_ifs with hleap <;> omega

/-- An earlier day has an earlier date. -/
theorem date_lt_of_days_lt {y m d y' m' d' days days' : ℤ} (h : validDate y m d = some days)
    (h' : validDate y' m' d' = some days') (hlt : days < days') :
    y < y' ∨ y = y' ∧ (m < m' ∨ m = m' ∧ d < d') := by
  obtain ⟨_, hm1, hm12, hd1, rfl, hd⟩ := validDate_bounds h
  obtain ⟨_, hm1', hm12', hd1', rfl, hd'⟩ := validDate_bounds h'
  by_contra hnot
  simp only [not_or, not_and, not_lt] at hnot
  obtain ⟨hy, hnot⟩ := hnot
  rcases lt_or_eq_of_le hy with hyear | rfl
  · have hspan := daysBeforeYear_add hyear
    have hmonths := (daysBeforeMonth_nonneg y' hm1' hm12').2
    have hpos := (daysBeforeMonth_nonneg y hm1 hm12).1
    omega
  · obtain ⟨hm, hnot⟩ := hnot rfl
    rcases lt_or_eq_of_le hm with hmonth | rfl
    · have hspan := daysBeforeMonth_add y' hm1' hmonth hm12
      omega
    · have hday := hnot rfl
      omega

theorem fractionText_lt {micros micros' : ℕ} (hlt : micros < micros') (h' : micros' < 10 ^ 6) :
    fractionText micros ++ zoneText < fractionText micros' ++ zoneText := by
  have hne : micros' ≠ 0 := by omega
  unfold fractionText
  rw [if_neg hne]
  by_cases hzero : micros = 0
  · -- the sign of the offset is before the point
    rw [if_pos hzero]
    exact List.cons_lt_cons_iff.mpr (Or.inl (by decide))
  · rw [if_neg hzero]
    exact cons_lt (field_lt h' (Or.inl hlt))

theorem clockText_lt {h m s f h' m' s' f' : ℕ} (hm : m < 60) (hs : s < 60) (hf : f < 10 ^ 6)
    (hh' : h' < 24) (hm' : m' < 60) (hs' : s' < 60) (hf' : f' < 10 ^ 6)
    (hlt : clockMicros (h, m, s, f) < clockMicros (h', m', s', f')) :
    clockText h m s f ++ zoneText < clockText h' m' s' f' ++ zoneText := by
  have hclock : (h : ℤ) * 3600000000 + m * 60000000 + s * 1000000 + f <
      h' * 3600000000 + m' * 60000000 + s' * 1000000 + f' := by
    simp only [clockMicros, seconds, microsPerSecond] at hlt
    omega
  simp only [clockText, List.append_assoc, List.cons_append]
  refine field_lt (by omega) ?_
  by_cases hhour : h < h'
  · exact Or.inl hhour
  refine Or.inr ⟨by omega, cons_lt (field_lt (by omega) ?_)⟩
  by_cases hminute : m < m'
  · exact Or.inl hminute
  refine Or.inr ⟨by omega, cons_lt (field_lt (by omega) ?_)⟩
  by_cases hsecond : s < s'
  · exact Or.inl hsecond
  exact Or.inr ⟨by omega, fractionText_lt (by omega) hf'⟩

theorem dateText_lt {y m d y' m' d' : ℕ} (hy' : y' < 10 ^ 4) (hm' : m' < 10 ^ 2) (hd' : d' < 10 ^ 2)
    (as bs : List Char) (h : y < y' ∨ y = y' ∧ (m < m' ∨ m = m' ∧ d < d')) :
    dateText y m d ++ as < dateText y' m' d' ++ bs := by
  simp only [dateText, List.append_assoc, List.cons_append]
  refine field_lt hy' ?_
  rcases h with h | ⟨rfl, h⟩
  · exact Or.inl h
  refine Or.inr ⟨rfl, cons_lt (field_lt hm' ?_)⟩
  rcases h with h | ⟨rfl, h⟩
  · exact Or.inl h
  exact Or.inr ⟨rfl, cons_lt (field_lt hd' (Or.inl h))⟩

theorem isoformat_lt {i j : Instant} (hi : InRange i) (hj : InRange j) (hlt : i < j) :
    isoformat i < isoformat j := by
  obtain ⟨y, m, d, hour, minute, second, micros, htext, _, _, _, hhour, hminute, hsecond, hmicros,
    hdate, hclock⟩ := toList_isoformat hi
  obtain ⟨y', m', d', hour', minute', second', micros', htext', hy', hm', hd', hhour', hminute',
    hsecond', hmicros', hdate', hclock'⟩ := toList_isoformat hj
  rw [String.lt_iff_toList_lt, htext, htext']
  have hdays : i / microsPerDay ≤ j / microsPerDay :=
    Int.ediv_le_ediv (by decide) hlt.le
  rcases lt_or_eq_of_le hdays with hday | hday
  · refine dateText_lt hy' hm' hd' _ _ ?_
    have h := date_lt_of_days_lt hdate hdate' hday
    omega
  · -- one day has one date
    have hsame : y = y' ∧ m = m' ∧ d = d' := by
      rw [hday] at hdate
      obtain ⟨_, hm1, hm12, hd1, hdays, hd⟩ := validDate_bounds hdate
      obtain ⟨_, hm1', hm12', hd1', hdays', hd'⟩ := validDate_bounds hdate'
      rcases lt_trichotomy (y : ℤ) y' with hyear | hyear | hyear
      · have hspan := daysBeforeYear_add hyear
        have hmonths := (daysBeforeMonth_nonneg y hm1 hm12).2
        have hpos := (daysBeforeMonth_nonneg y' hm1' hm12').1
        omega
      · rw [hyear] at hdays hd
        rcases lt_trichotomy (m : ℤ) m' with hmonth | hmonth | hmonth
        · have hspan := daysBeforeMonth_add y' hm1 hmonth hm12'
          omega
        · rw [hmonth] at hdays
          omega
        · have hspan := daysBeforeMonth_add y' hm1' hmonth hm12
          omega
      · have hspan := daysBeforeYear_add hyear
        have hmonths := (daysBeforeMonth_nonneg y' hm1' hm12').2
        have hpos := (daysBeforeMonth_nonneg y hm1 hm12).1
        omega
    obtain ⟨rfl, rfl, rfl⟩ := hsame
    refine append_lt_append rfl _ _ (Or.inr ⟨rfl, cons_lt ?_⟩)
    refine clockText_lt hminute hsecond hmicros hhour' hminute' hsecond' hmicros' ?_
    rw [hclock, hclock']
    have hi' := Int.ediv_mul_add_emod i microsPerDay
    have hj' := Int.ediv_mul_add_emod j microsPerDay
    rw [hday] at hi'
    have hsum : j / microsPerDay * microsPerDay + i % microsPerDay <
        j / microsPerDay * microsPerDay + j % microsPerDay := by
      rw [hi', hj']
      exact hlt
    exact lt_of_add_lt_add_left hsum

/-- The texts of instants are in the order of the instants. -/
theorem isoformat_le_iff {i j : Instant} (hi : InRange i) (hj : InRange j) :
    isoformat i ≤ isoformat j ↔ i ≤ j := by
  constructor
  · intro h
    by_contra hlt
    exact absurd (isoformat_lt hj hi (not_le.mp hlt)) (not_lt.mpr h)
  · intro h
    rcases lt_or_eq_of_le h with hlt | rfl
    · exact (isoformat_lt hi hj hlt).le
    · exact le_refl _

end PrinterV1.Python
