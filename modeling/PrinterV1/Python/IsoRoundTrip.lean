import PrinterV1.Python.Datetime
import Mathlib.Data.List.Basic
import Mathlib.Tactic.IntervalCases
import Mathlib.Tactic.Ring

/-!
# The ISO text of an instant is read back

`fromisoformat` reads what `isoformat` wrote, as the same instant in UTC, for
every instant of the years 1 to 9999. The digits of a field come first, then the
calendar, then the text as a whole.
-/

namespace PrinterV1.Python

/-- The first instant past the year 9999. -/
def instantEnd : Instant := 3652059 * microsPerDay

/-- The instants a datetime can hold. -/
def InRange (i : Instant) : Prop := 0 ≤ i ∧ i < instantEnd

instance (i : Instant) : Decidable (InRange i) := inferInstanceAs (Decidable (_ ∧ _))

/-- The digits of a number below `10 ^ w`, from the left. -/
def digits : ℕ → ℕ → List Char
  | 0, _ => []
  | w + 1, n => Nat.digitChar (n / 10 ^ w) :: digits w (n % 10 ^ w)

/-- The last digit comes off the end. -/
theorem digits_succ (w : ℕ) : ∀ {n : ℕ}, n < 10 ^ (w + 1) →
    digits (w + 1) n = digits w (n / 10) ++ [Nat.digitChar (n % 10)] := by
  induction w with
  | zero =>
    intro n h
    simp only [digits, pow_zero, Nat.div_one, List.nil_append]
    rw [Nat.mod_eq_of_lt (by simpa using h)]
  | succ w ih =>
    intro n h
    have hpow : 10 ^ (w + 1) = 10 * 10 ^ w := by rw [pow_succ, mul_comm]
    have hmod : n % 10 ^ (w + 1) < 10 ^ (w + 1) := Nat.mod_lt _ (by positivity)
    have hhead : n / 10 ^ (w + 1) = n / 10 / 10 ^ w := by rw [hpow, Nat.div_div_eq_div_mul]
    have hrest : n % 10 ^ (w + 1) / 10 = n / 10 % 10 ^ w := by
      rw [hpow, Nat.mod_mul_right_div_self]
    have hlast : n % 10 ^ (w + 1) % 10 = n % 10 := by rw [hpow, Nat.mod_mul_right_mod]
    rw [digits, ih hmod, hhead, hrest, hlast]
    rfl

theorem replicate_toDigits (w : ℕ) : ∀ {n : ℕ}, n < 10 ^ (w + 1) →
    List.replicate (w + 1 - (Nat.toDigits 10 n).length) '0' ++ Nat.toDigits 10 n =
      digits (w + 1) n := by
  induction w with
  | zero =>
    intro n h
    rw [Nat.toDigits_of_lt_base (by simpa using h)]
    simp [digits]
  | succ w ih =>
    intro n h
    have hdiv : n / 10 < 10 ^ (w + 1) := by
      rw [pow_succ] at h
      omega
    rw [digits_succ (w + 1) h, ← ih hdiv, Nat.toDigits_eq_if (by omega)]
    by_cases hn : n < 10
    · have hzero : n / 10 = 0 := by omega
      rw [if_pos hn, hzero, Nat.toDigits_zero, Nat.mod_eq_of_lt hn]
      simp only [List.length_singleton, Nat.add_sub_cancel]
      rw [List.append_assoc, List.replicate_succ']
      simp
    · rw [if_neg hn]
      simp [Nat.add_sub_add_right]

theorem toList_zeroPad (w : ℕ) {n : ℕ} (h : n < 10 ^ (w + 1)) :
    (zeroPad (w + 1) n).toList = digits (w + 1) n := by
  simp only [zeroPad, String.toList_ofList]
  exact replicate_toDigits w h

theorem asciiDigit?_digitChar {d : ℕ} (h : d < 10) : asciiDigit? (Nat.digitChar d) = some d := by
  interval_cases d <;> decide

/-- The value of a digit in front of the rest of a number. -/
theorem digit_sum (acc n w : ℕ) :
    (acc * 10 + n / 10 ^ w) * 10 ^ w + n % 10 ^ w = acc * 10 ^ (w + 1) + n := by
  have hn := Nat.div_add_mod n (10 ^ w)
  calc (acc * 10 + n / 10 ^ w) * 10 ^ w + n % 10 ^ w
      = acc * 10 ^ (w + 1) + (10 ^ w * (n / 10 ^ w) + n % 10 ^ w) := by ring
    _ = acc * 10 ^ (w + 1) + n := by rw [hn]

theorem head_lt {n w : ℕ} (h : n < 10 ^ (w + 1)) : n / 10 ^ w < 10 := by
  rw [Nat.div_lt_iff_lt_mul (by positivity), mul_comm, ← pow_succ]
  exact h

theorem takeDigits_digits (w : ℕ) : ∀ (acc : ℕ) {n : ℕ} (rest : List Char), n < 10 ^ w →
    takeDigits w acc (digits w n ++ rest) = some (((acc * 10 ^ w + n : ℕ) : ℤ), rest) := by
  induction w with
  | zero =>
    intro acc n rest h
    have hn : n = 0 := by simpa using h
    simp [takeDigits, digits, hn]
  | succ w ih =>
    intro acc n rest h
    have hhead : n / 10 ^ w < 10 := head_lt h
    simp only [digits, List.cons_append, takeDigits, asciiDigit?_digitChar hhead,
      Option.bind_eq_bind, Option.bind_some]
    rw [ih _ rest (Nat.mod_lt _ (by positivity)), digit_sum]

theorem fractionMicros_digits (w : ℕ) : ∀ (acc : ℕ) {n : ℕ}, n < 10 ^ w →
    fractionMicros w acc (digits w n) = some ((acc * 10 ^ w + n : ℕ) : ℤ) := by
  induction w with
  | zero =>
    intro acc n h
    have hn : n = 0 := by simpa using h
    simp [fractionMicros, digits, hn]
  | succ w ih =>
    intro acc n h
    have hhead : n / 10 ^ w < 10 := head_lt h
    simp only [digits, fractionMicros, asciiDigit?_digitChar hhead, Option.bind_eq_bind,
      Option.bind_some]
    rw [ih _ (Nat.mod_lt _ (by positivity)), digit_sum]

/-- A digit is none of the marks of a date and a time. -/
theorem digitChar_plain {d : ℕ} (h : d < 10) :
    Nat.digitChar d ≠ 'W' ∧ Nat.digitChar d ≠ '+' ∧ Nat.digitChar d ≠ '-' ∧ Nat.digitChar d ≠ 'Z' ∧
      Nat.digitChar d ≠ ':' := by
  interval_cases d <;> decide

theorem digits_plain (w : ℕ) : ∀ {n : ℕ}, n < 10 ^ w →
    ∀ c ∈ digits w n, c ≠ '+' ∧ c ≠ '-' ∧ c ≠ 'Z' := by
  induction w with
  | zero =>
    intro n _ c hc
    cases hc
  | succ w ih =>
    intro n h c hc
    have hhead : n / 10 ^ w < 10 := head_lt h
    rcases List.mem_cons.mp hc with rfl | hc
    · obtain ⟨_, hplus, hminus, hzulu, _⟩ := digitChar_plain hhead
      exact ⟨hplus, hminus, hzulu⟩
    · exact ih (Nat.mod_lt _ (by positivity)) c hc

def beforeMonth (leap : Bool) (month : ℤ) : ℤ :=
  daysBeforeMonthTable.getD (month - 1).toNat 0 + if month > 2 ∧ leap then 1 else 0

def monthLength (leap : Bool) (month : ℤ) : ℤ :=
  if month = 2 then if leap then 29 else 28
  else if month = 4 ∨ month = 6 ∨ month = 9 ∨ month = 11 then 30 else 31

/-- The month and the day of a day of the year. -/
def monthDay (leap : Bool) (day : ℤ) : ℤ × ℤ :=
  let guess := (day + 50) / 32
  let month := if beforeMonth leap guess > day then guess - 1 else guess
  (month, day - beforeMonth leap month + 1)

/-- A month and a day of it that lie at a day of the year. -/
def AtDay (leap : Bool) (md : ℤ × ℤ) (day : ℤ) : Prop :=
  1 ≤ md.1 ∧ md.1 ≤ 12 ∧ 1 ≤ md.2 ∧ md.2 ≤ monthLength leap md.1 ∧
    beforeMonth leap md.1 + (md.2 - 1) = day

instance (leap : Bool) (md : ℤ × ℤ) (day : ℤ) : Decidable (AtDay leap md day) :=
  inferInstanceAs (Decidable (_ ∧ _ ∧ _ ∧ _ ∧ _))

theorem monthDay_fin : ∀ (leap : Bool) (r : Fin 365), AtDay leap (monthDay leap (r : ℕ)) (r : ℕ) := by
  decide +kernel

theorem monthDay_atDay (leap : Bool) {r : ℤ} (h0 : 0 ≤ r) (h1 : r < 365) :
    AtDay leap (monthDay leap r) r := by
  obtain ⟨n, rfl⟩ := Int.eq_ofNat_of_zero_le h0
  exact monthDay_fin leap ⟨n, by omega⟩

/-- The days before the year after `n400` spans of 400 years, `n100` centuries of the
span, `n4` spans of four years of the century and `n1` years of those four. -/
theorem daysBeforeYear_spans {n400 n100 n4 n1 : ℤ} (h100 : 0 ≤ n100 ∧ n100 < 4)
    (h4 : 0 ≤ n4 ∧ n4 < 25) (h1 : 0 ≤ n1 ∧ n1 < 4) :
    daysBeforeYear (n400 * 400 + n100 * 100 + n4 * 4 + n1 + 1) =
      n400 * 146097 + n100 * 36524 + n4 * 1461 + n1 * 365 := by
  simp only [daysBeforeYear]
  omega

/-- The last day of a leap year. -/
theorem atDay_last {year : ℤ} (hleap : isLeap year = true) : AtDay (isLeap year) (12, 31) 365 := by
  rw [hleap]
  decide

theorem isLeap_iff {year : ℤ} :
    isLeap year = true ↔ year % 4 = 0 ∧ (year % 100 ≠ 0 ∨ year % 400 = 0) := by
  simp [isLeap]

theorem daysToYmd_spec {days : ℤ} (h0 : 0 ≤ days) (h1 : days < 3652059) :
    1 ≤ (daysToYmd days).1 ∧ (daysToYmd days).1 ≤ 9999 ∧
      AtDay (isLeap (daysToYmd days).1) (daysToYmd days).2
        (days - daysBeforeYear (daysToYmd days).1) := by
  set n400 := days / 146097 with hn400
  set n100 := days % 146097 / 36524 with hn100
  set n4 := days % 146097 % 36524 / 1461 with hn4
  set n1 := days % 146097 % 36524 % 1461 / 365 with hn1
  set r1 := days % 146097 % 36524 % 1461 % 365 with hr1
  set year := n400 * 400 + n100 * 100 + n4 * 4 + n1 + 1 with hyear
  by_cases hlast : n1 = 4 ∨ n100 = 4
  · have hymd : daysToYmd days = (year - 1, 12, 31) := by
      simp only [daysToYmd]
      rw [if_pos hlast]
    have hleap : isLeap (year - 1) = true := by
      rw [isLeap_iff]
      omega
    have hday : days - daysBeforeYear (year - 1) = 365 := by
      by_cases h100 : n100 = 4
      · have hy : year - 1 = n400 * 400 + 3 * 100 + 24 * 4 + 3 + 1 := by omega
        rw [hy, daysBeforeYear_spans (by omega) (by omega) (by omega)]
        omega
      · have hy : year - 1 = n400 * 400 + n100 * 100 + n4 * 4 + 3 + 1 := by omega
        rw [hy, daysBeforeYear_spans (by omega) (by omega) (by omega)]
        omega
    rw [hymd]
    refine ⟨by dsimp only; omega, by dsimp only; omega, ?_⟩
    rw [hday]
    exact atDay_last hleap
  · have hymd : daysToYmd days = (year, monthDay (isLeap year) r1) := by
      simp only [daysToYmd]
      rw [if_neg hlast]
      rfl
    have hday : days - daysBeforeYear year = r1 := by
      rw [hyear, daysBeforeYear_spans (by omega) (by omega) (by omega)]
      omega
    rw [hymd]
    refine ⟨by dsimp only; omega, by dsimp only; omega, ?_⟩
    rw [hday]
    exact monthDay_atDay _ (by omega) (by omega)

/-- The date of a day is a valid one, of that day. -/
theorem validDate_daysToYmd {days : ℤ} (h0 : 0 ≤ days) (h1 : days < 3652059) :
    validDate (daysToYmd days).1 (daysToYmd days).2.1 (daysToYmd days).2.2 = some days := by
  obtain ⟨hyear, _, hmonth, hmonth', hday, hday', hat⟩ := daysToYmd_spec h0 h1
  have hdays : ymdToDays (daysToYmd days).1 (daysToYmd days).2.1 (daysToYmd days).2.2 = days := by
    have hbefore : daysBeforeMonth (daysToYmd days).1 (daysToYmd days).2.1 =
      beforeMonth (isLeap (daysToYmd days).1) (daysToYmd days).2.1 := rfl
    rw [ymdToDays, hbefore]
    omega
  rw [validDate, if_pos ⟨hyear, hmonth, hmonth', hday, hday'⟩, hdays]

def dateText (year month day : ℕ) : List Char :=
  digits 4 year ++ '-' :: (digits 2 month ++ '-' :: digits 2 day)

def fractionText (micros : ℕ) : List Char := if micros = 0 then [] else '.' :: digits 6 micros

def clockText (hour minute second micros : ℕ) : List Char :=
  digits 2 hour ++ ':' :: (digits 2 minute ++ ':' :: (digits 2 second ++ fractionText micros))

def zoneText : List Char := ['+', '0', '0', ':', '0', '0']

theorem parseDate_dateText {year month day : ℕ} (hyear : year < 10 ^ 4) (hmonth : month < 10 ^ 2)
    (hday : day < 10 ^ 2) : parseDate (dateText year month day) = validDate year month day := by
  have hhead := (digitChar_plain (head_lt hmonth)).1
  have hlast : takeDigits 2 0 (digits 2 day) = some ((day : ℤ), []) := by
    simpa using takeDigits_digits 2 0 [] hday
  simp only [parseDate, dateText]
  rw [takeDigits_digits 4 _ _ hyear]
  simp only [Option.bind_eq_bind, Option.bind_some]
  split
  · rename_i hrest
    simp only [digits, List.cons_append, List.cons.injEq] at hrest
    exact absurd hrest.2.1 hhead
  · rename_i hrest
    simp at hrest
  · rename_i hrest
    cases hrest
    rw [takeDigits_digits 2 _ _ hmonth]
    simp [hlast]
  · rename_i h1 h2 h3
    exact absurd rfl (h3 _)

theorem parseFraction_fractionText {micros : ℕ} (h : micros < 10 ^ 6) :
    parseFraction (fractionText micros) = some (micros : ℤ) := by
  unfold fractionText
  split_ifs with hzero
  · simp [parseFraction, hzero]
  · have hread := fractionMicros_digits 6 0 h
    rw [digits] at hread ⊢
    simp only [parseFraction, true_or, if_true]
    simpa using hread

theorem parseClock_clockText {hour minute second micros : ℕ} (hhour : hour < 10 ^ 2)
    (hminute : minute < 10 ^ 2) (hsecond : second < 10 ^ 2) (hmicros : micros < 10 ^ 6) :
    parseClock (clockText hour minute second micros) =
      some ((hour : ℤ), (minute : ℤ), (second : ℤ), (micros : ℤ)) := by
  simp only [parseClock, clockText]
  rw [takeDigits_digits 2 _ _ hhour]
  simp only [Option.bind_eq_bind, Option.bind_some]
  rw [takeDigits_digits 2 _ _ hminute]
  simp only [Option.bind_some]
  rw [takeDigits_digits 2 _ _ hsecond]
  simp only [Option.bind_some, parseFraction_fractionText hmicros]
  simp

theorem clockText_plain {hour minute second micros : ℕ} (hhour : hour < 10 ^ 2)
    (hminute : minute < 10 ^ 2) (hsecond : second < 10 ^ 2) (hmicros : micros < 10 ^ 6) :
    ∀ c ∈ clockText hour minute second micros, c ≠ '+' ∧ c ≠ '-' ∧ c ≠ 'Z' := by
  intro c hc
  simp only [clockText, List.mem_append, List.mem_cons] at hc
  rcases hc with hc | rfl | hc | rfl | hc | hc
  · exact digits_plain 2 hhour c hc
  · decide
  · exact digits_plain 2 hminute c hc
  · decide
  · exact digits_plain 2 hsecond c hc
  · unfold fractionText at hc
    split_ifs at hc
    · cases hc
    · rcases List.mem_cons.mp hc with rfl | hc
      · decide
      · exact digits_plain 6 hmicros c hc

theorem parseTime_clockText {hour minute second micros : ℕ} (hhour : hour < 24)
    (hminute : minute < 60) (hsecond : second < 60) (hmicros : micros < 10 ^ 6) :
    parseTime (clockText hour minute second micros ++ zoneText) =
      some (clockMicros (hour, minute, second, micros), some 0) := by
  have hplain : ∀ c ∈ clockText hour minute second micros, c ≠ '+' ∧ c ≠ '-' ∧ c ≠ 'Z' :=
    clockText_plain (by omega) (by omega) (by omega) hmicros
  have hclock : (clockText hour minute second micros ++ zoneText).takeWhile
      (fun c => c ≠ '+' ∧ c ≠ '-' ∧ c ≠ 'Z') = clockText hour minute second micros := by
    rw [List.takeWhile_append_of_pos]
    · simp [zoneText]
    · intro c hc
      simpa using hplain c hc
  have hzone : parseZone zoneText = some (some 0) := by decide
  simp only [parseTime, hclock, List.drop_left, Option.bind_eq_bind]
  rw [parseClock_clockText (by omega) (by omega) (by omega) hmicros, hzone]
  have hranges : (hour : ℤ) < 24 ∧ (minute : ℤ) < 60 ∧ (second : ℤ) < 60 := by omega
  simp only [Option.bind_some, if_pos hranges]

theorem separatorLocation_dateText {year month day : ℕ} (hmonth : month < 10 ^ 2)
    (rest : List Char) : separatorLocation (dateText year month day ++ rest) = 10 := by
  have hhead := (digitChar_plain (head_lt hmonth)).1
  simp only [pow_one] at hhead
  simp [separatorLocation, dateText, digits, hhead]

/-- The day of an instant and the time of that day. -/
theorem instant_parts {i : ℤ} (h : InRange i) :
    (0 ≤ i / microsPerDay ∧ i / microsPerDay < 3652059) ∧
      0 ≤ i % microsPerDay ∧ i % microsPerDay < 86400 * microsPerSecond := by
  have h0 : (0 : ℤ) ≤ i := h.1
  have h1 : i < instantEnd := h.2
  unfold instantEnd microsPerDay microsPerSecond at *
  omega

/-- The hour, the minute, the second and the microsecond of a time of day. -/
theorem clock_parts {micros : ℤ} (h0 : 0 ≤ micros) (h1 : micros < 86400 * microsPerSecond) :
    ∃ hour minute second fraction : ℕ,
      (micros / microsPerSecond / 3600).toNat = hour ∧
      (micros / microsPerSecond / 60 % 60).toNat = minute ∧
      (micros / microsPerSecond % 60).toNat = second ∧
      micros % microsPerSecond = fraction ∧
      hour < 24 ∧ minute < 60 ∧ second < 60 ∧ fraction < 10 ^ 6 ∧
      clockMicros (hour, minute, second, fraction) = micros := by
  refine ⟨_, _, _, (micros % microsPerSecond).toNat, rfl, rfl, rfl, ?_⟩
  simp only [clockMicros, seconds]
  unfold microsPerSecond at *
  omega

/-- What the text of an instant is made of. -/
theorem toList_isoformat {i : ℤ} (h : InRange i) :
    ∃ year month day hour minute second micros : ℕ,
      (isoformat i).toList = dateText year month day ++
        'T' :: (clockText hour minute second micros ++ zoneText) ∧
      year < 10 ^ 4 ∧ month < 10 ^ 2 ∧ day < 10 ^ 2 ∧
      hour < 24 ∧ minute < 60 ∧ second < 60 ∧ micros < 10 ^ 6 ∧
      validDate year month day = some (i / microsPerDay) ∧
      clockMicros (hour, minute, second, micros) = i % microsPerDay := by
  obtain ⟨⟨hday0, hday1⟩, hmicros0, hmicros1⟩ := instant_parts h
  obtain ⟨hour, minute, second, micros, hh, hm, hs, hf, hhour, hminute, hsecond, hmicros, hclock⟩ :=
    clock_parts hmicros0 hmicros1
  have hvalid := validDate_daysToYmd hday0 hday1
  obtain ⟨hyear, hyear', hmonth, hmonth', hday, hday', _⟩ := daysToYmd_spec hday0 hday1
  have hday31 : (daysToYmd (i / microsPerDay)).2.2 ≤ 31 := by
    refine le_trans hday' ?_
    unfold monthLength
    split_ifs <;> omega
  obtain ⟨year, hy⟩ := Int.eq_ofNat_of_zero_le (show 0 ≤ (daysToYmd (i / microsPerDay)).1 by omega)
  obtain ⟨month, hmo⟩ :=
    Int.eq_ofNat_of_zero_le (show 0 ≤ (daysToYmd (i / microsPerDay)).2.1 by omega)
  obtain ⟨day, hd⟩ :=
    Int.eq_ofNat_of_zero_le (show 0 ≤ (daysToYmd (i / microsPerDay)).2.2 by omega)
  rw [hy, hmo, hd] at hvalid
  refine ⟨year, month, day, hour, minute, second, micros, ?_, by omega, by omega, by omega,
    hhour, hminute, hsecond, hmicros, hvalid, hclock⟩
  have hfraction : (if micros = 0 then "" else "." ++ zeroPad 6 micros).toList =
      fractionText micros := by
    unfold fractionText
    split_ifs
    · rfl
    · rw [String.toList_append, toList_zeroPad 5 hmicros]
      rfl
  have hzone : "+00:00".toList = zoneText := by decide
  simp only [isoformat, hy, hmo, hd, hh, hm, hs, hf, Int.toNat_natCast, Nat.cast_eq_zero,
    String.toList_append, hfraction, hzone]
  rw [toList_zeroPad 3 (by omega), toList_zeroPad 1 (by omega), toList_zeroPad 1 (by omega),
    toList_zeroPad 1 (by omega), toList_zeroPad 1 (by omega), toList_zeroPad 1 (by omega)]
  simp [dateText, clockText]

theorem isoformat_ne_empty {i : ℤ} (h : InRange i) : isoformat i ≠ "" := by
  obtain ⟨_, _, _, _, _, _, _, htext, _⟩ := toList_isoformat h
  intro hempty
  rw [hempty] at htext
  simp at htext

/-- `fromisoformat` reads back what `isoformat` wrote. -/
theorem fromisoformat_isoformat {i : Instant} (h : InRange i) :
    fromisoformat (isoformat i) = some ⟨i, some 0⟩ := by
  obtain ⟨year, month, day, hour, minute, second, micros, htext, hyear, hmonth, hday, hhour,
    hminute, hsecond, hmicros, hdate, hclock⟩ := toList_isoformat h
  have hlen : (dateText year month day).length = 10 := by simp [dateText, digits]
  have hlong : ∀ rest : List Char, ¬ (dateText year month day ++ rest).length < 7 := by
    intro rest
    rw [List.length_append]
    omega
  have hi : i / microsPerDay * microsPerDay + i % microsPerDay = i := Int.ediv_mul_add_emod _ _
  simp only [fromisoformat, htext]
  rw [separatorLocation_dateText hmonth]
  have htake : ∀ rest : List Char, (dateText year month day ++ rest).take 10 =
      dateText year month day := fun rest => List.take_left' hlen
  have hdrop : ∀ rest : List Char, (dateText year month day ++ rest).drop 10 = rest :=
    fun rest => List.drop_left' hlen
  rw [htake, hdrop, parseDate_dateText hyear hmonth hday, hdate, if_neg (hlong _)]
  simp [parseTime_clockText hhour hminute hsecond hmicros, hclock, hi]

end PrinterV1.Python
