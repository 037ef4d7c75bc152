import Mathlib.Data.List.GetD
import PrinterV1.Python.IsoRoundTrip

/-!
# ISO texts with a `Z`

Some readers write `+00:00` for every `Z` of a text before they parse it, and some
do not. Where both find a datetime, they find the same one.
-/

namespace PrinterV1.Python

/-- The instant of a datetime on a host whose clock shows the local time of `zone`: without an
offset, `astimezone` takes it for that. -/
def Datetime.instantIn (zone : ℤ → ℤ) (d : Datetime) : Instant :=
  d.wall - d.utcoffset.getD (zone d.wall)

theorem asciiDigit?_zulu : asciiDigit? 'Z' = none := by decide

theorem asciiDigit?_plus : asciiDigit? '+' = none := by decide

theorem takeDigits_zulu {n : ℕ} : ∀ {acc : ℕ} {cs rest : List Char} {v : ℤ},
    takeDigits n acc cs = some (v, rest) → ('Z' ∈ cs ↔ 'Z' ∈ rest) := by
  induction n with
  | zero =>
    intro acc cs rest v h
    simp only [takeDigits, Option.some.injEq, Prod.mk.injEq] at h
    rw [h.2]
  | succ n ih =>
    intro acc cs rest v h
    cases cs with
    | nil => cases h
    | cons c cs =>
      obtain ⟨d, hd, h⟩ := Option.bind_eq_some_iff.mp h
      have hc : 'Z' ≠ c := by
        rintro rfl
        rw [asciiDigit?_zulu] at hd
        cases hd
      rw [List.mem_cons, or_iff_right hc]
      exact ih h

theorem fractionMicros_zulu : ∀ {cs : List Char} {places acc : ℕ} {v : ℤ},
    fractionMicros places acc cs = some v → 'Z' ∉ cs := by
  intro cs
  induction cs with
  | nil => intro places acc v _; simp
  | cons c cs ih =>
    intro places acc v h
    obtain ⟨d, hd, h⟩ := Option.bind_eq_some_iff.mp (by rwa [fractionMicros] at h)
    have hc : 'Z' ≠ c := by
      rintro rfl
      rw [asciiDigit?_zulu] at hd
      cases hd
    rw [List.mem_cons, or_iff_right hc]
    cases places with
    | zero => exact ih h
    | succ p => exact ih h

theorem parseFraction_zulu {cs : List Char} {v : ℤ} (h : parseFraction cs = some v) : 'Z' ∉ cs := by
  match cs with
  | [] => simp
  | [c] => cases h
  | c :: d :: ds =>
    rw [parseFraction] at h
    split_ifs at h with hc
    have hdot : 'Z' ≠ c := by
      rintro rfl
      exact absurd hc (by decide)
    rw [List.mem_cons, or_iff_right hdot]
    exact fractionMicros_zulu h

theorem parseClock_zulu {cs : List Char} {t : ℤ × ℤ × ℤ × ℤ} (h : parseClock cs = some t) :
    'Z' ∉ cs := by
  obtain ⟨⟨hour, rest⟩, hhour, h⟩ := Option.bind_eq_some_iff.mp h
  rw [takeDigits_zulu hhour]
  dsimp only at h
  split at h
  · simp
  · obtain ⟨⟨minute, rest'⟩, hminute, h⟩ := Option.bind_eq_some_iff.mp h
    rw [List.mem_cons, or_iff_right (by decide), takeDigits_zulu hminute]
    dsimp only at h
    split at h
    · simp
    · obtain ⟨⟨second, rest''⟩, hsecond, h⟩ := Option.bind_eq_some_iff.mp h
      obtain ⟨micros, hmicros, -⟩ := Option.bind_eq_some_iff.mp h
      rw [List.mem_cons, or_iff_right (by decide), takeDigits_zulu hsecond]
      exact parseFraction_zulu hmicros
    · cases h
  · obtain ⟨⟨minute, rest'⟩, hminute, h⟩ := Option.bind_eq_some_iff.mp h
    rw [takeDigits_zulu hminute]
    dsimp only at h
    split at h
    · simp
    · obtain ⟨⟨second, rest''⟩, hsecond, h⟩ := Option.bind_eq_some_iff.mp h
      obtain ⟨micros, hmicros, -⟩ := Option.bind_eq_some_iff.mp h
      rw [takeDigits_zulu hsecond]
      exact parseFraction_zulu hmicros

theorem parseOffset_zulu {sign v : ℤ} {cs : List Char} (h : parseOffset sign cs = some v) :
    'Z' ∉ cs := by
  obtain ⟨t, ht, -⟩ := Option.bind_eq_some_iff.mp h
  exact parseClock_zulu ht

/-- An offset is the letter, or has none. -/
theorem parseZone_zulu {cs : List Char} {offset : Option ℤ} (h : parseZone cs = some offset) :
    cs = ['Z'] ∨ 'Z' ∉ cs := by
  unfold parseZone at h
  split at h
  · exact .inr (by simp)
  · exact .inl rfl
  · obtain ⟨v, hv, -⟩ := Option.map_eq_some_iff.mp h
    exact .inr (by simpa using parseOffset_zulu hv)
  · obtain ⟨v, hv, -⟩ := Option.map_eq_some_iff.mp h
    exact .inr (by simpa using parseOffset_zulu hv)
  · cases h

theorem parseDate_zulu {cs : List Char} {days : ℤ} (h : parseDate cs = some days) : 'Z' ∉ cs := by
  obtain ⟨⟨year, rest⟩, hyear, h⟩ := Option.bind_eq_some_iff.mp h
  rw [takeDigits_zulu hyear]
  dsimp only at h
  split at h
  · obtain ⟨⟨week, rest'⟩, hweek, h⟩ := Option.bind_eq_some_iff.mp h
    rw [List.mem_cons, or_iff_right (by decide), List.mem_cons, or_iff_right (by decide),
      takeDigits_zulu hweek]
    dsimp only at h
    split at h
    · simp
    · obtain ⟨⟨day, rest''⟩, hday, h⟩ := Option.bind_eq_some_iff.mp h
      rw [List.mem_cons, or_iff_right (by decide), takeDigits_zulu hday]
      dsimp only at h
      split_ifs at h with hrest
      simp [hrest]
    · cases h
  · obtain ⟨⟨week, rest'⟩, hweek, h⟩ := Option.bind_eq_some_iff.mp h
    rw [List.mem_cons, or_iff_right (by decide), takeDigits_zulu hweek]
    dsimp only at h
    split at h
    · simp
    · obtain ⟨⟨day, rest''⟩, hday, h⟩ := Option.bind_eq_some_iff.mp h
      rw [takeDigits_zulu hday]
      dsimp only at h
      split_ifs at h with hrest
      simp [hrest]
  · obtain ⟨⟨month, rest'⟩, hmonth, h⟩ := Option.bind_eq_some_iff.mp h
    rw [List.mem_cons, or_iff_right (by decide), takeDigits_zulu hmonth]
    dsimp only at h
    split at h
    · obtain ⟨⟨day, rest''⟩, hday, h⟩ := Option.bind_eq_some_iff.mp h
      rw [List.mem_cons, or_iff_right (by decide), takeDigits_zulu hday]
      dsimp only at h
      split_ifs at h with hrest
      simp [hrest]
    · cases h
  · obtain ⟨⟨month, rest'⟩, hmonth, h⟩ := Option.bind_eq_some_iff.mp h
    obtain ⟨⟨day, rest''⟩, hday, h⟩ := Option.bind_eq_some_iff.mp h
    rw [takeDigits_zulu hmonth, takeDigits_zulu hday]
    dsimp only at h
    split_ifs at h with hrest
    simp [hrest]

/-- What `text.replace("Z", "+00:00")` makes of the characters. -/
def zulu (cs : List Char) : List Char :=
  cs.flatMap fun c => if c = 'Z' then "+00:00".toList else [c]

theorem toList_replaceZulu (s : String) : (replaceZulu s).toList = zulu s.toList := by
  simp [replaceZulu, zulu]

theorem zulu_append (xs ys : List Char) : zulu (xs ++ ys) = zulu xs ++ zulu ys :=
  List.flatMap_append

theorem zulu_of_not_mem {cs : List Char} (h : 'Z' ∉ cs) : zulu cs = cs := by
  induction cs with
  | nil => rfl
  | cons c cs ih =>
    rw [List.mem_cons, not_or] at h
    have htail := ih h.2
    unfold zulu at htail ⊢
    rw [List.flatMap_cons, htail, if_neg (Ne.symm h.1)]
    rfl

theorem zulu_cons (cs : List Char) :
    zulu ('Z' :: cs) = '+' :: '0' :: '0' :: ':' :: '0' :: '0' :: zulu cs := by
  unfold zulu
  rw [List.flatMap_cons, if_pos rfl]
  rfl

theorem takeWhile_append_stop {p : Char → Bool} {c : Char} (hc : p c = false) (xs ys : List Char) :
    (xs ++ c :: ys).takeWhile p = xs.takeWhile p := by
  induction xs with
  | nil => simp [hc]
  | cons x xs ih =>
    rw [List.cons_append, List.takeWhile_cons, List.takeWhile_cons, ih]

/-- The end of the date does not depend on what follows a character behind it that is neither a
digit nor a dash. -/
theorem separatorLocation_append (front : List Char) {c c' : Char} (ys ys' : List Char)
    (hc : asciiDigit? c = none) (hc' : asciiDigit? c' = none) (hdash : c ≠ '-') (hdash' : c' ≠ '-')
    (hlong : 7 ≤ front.length) (hnine : front.length ≠ 9)
    (hloc : separatorLocation (front ++ c :: ys) ≤ front.length) :
    separatorLocation (front ++ c' :: ys') = separatorLocation (front ++ c :: ys) := by
  have hin : ∀ (d : Char) (zs : List Char) (i : ℕ), i < front.length →
      (front ++ d :: zs).getD i ' ' = front.getD i ' ' := by
    intro d zs i hi
    rw [List.getD_append _ _ _ _ hi]
  have hat : ∀ (d : Char) (zs : List Char) (i : ℕ), i = front.length →
      (front ++ d :: zs).getD i ' ' = d := by
    intro d zs i hi
    rw [List.getD_append_right _ _ _ _ hi.ge, hi, Nat.sub_self]
    rfl
  have hseven : ∀ (d : Char) (zs : List Char), (front ++ d :: zs).length ≠ 7 := by
    intro d zs
    rw [List.length_append, List.length_cons]
    omega
  have hrun : ∀ (d : Char) (zs : List Char), asciiDigit? d = none →
      ((front ++ d :: zs).drop 7).takeWhile (fun c => (asciiDigit? c).isSome) =
        (front.drop 7).takeWhile fun c => (asciiDigit? c).isSome := by
    intro d zs hd
    rw [List.drop_append_of_le_length hlong]
    exact takeWhile_append_stop (by simp [hd]) _ _
  unfold separatorLocation at hloc ⊢
  rw [if_neg (hseven c ys), hin c ys 4 (by omega), hin c ys 5 (by omega), hrun c ys hc] at hloc ⊢
  rw [if_neg (hseven c' ys'), hin c' ys' 4 (by omega), hin c' ys' 5 (by omega), hrun c' ys' hc']
  by_cases h4 : front.getD 4 ' ' = '-'
  · by_cases h5 : front.getD 5 ' ' = 'W'
    · simp only [if_pos h4, if_pos h5] at hloc ⊢
      by_cases h8 : front.length = 8
      · rw [hat c ys 8 h8.symm, if_neg hdash, hat c' ys' 8 h8.symm, if_neg hdash']
      · have hten : 10 ≤ front.length := by
          split_ifs at hloc <;> omega
        rw [hin c ys 8 (by omega), hin c' ys' 8 (by omega)]
        by_cases h10 : front.length = 10
        · rw [hat c ys 10 h10.symm, hat c' ys' 10 h10.symm, hc, hc']
        · rw [hin c ys 10 (by omega), hin c' ys' 10 (by omega)]
    · simp only [if_pos h4, if_neg h5]
  · simp only [if_neg h4]

theorem seven_le_separatorLocation (cs : List Char) : 7 ≤ separatorLocation cs := by
  unfold separatorLocation
  dsimp only
  split_ifs <;> omega

theorem separatorLocation_ne_nine (cs : List Char) : separatorLocation cs ≠ 9 := by
  unfold separatorLocation
  dsimp only
  split_ifs <;> omega

/-- A text that is read: its date, and behind a separator its time. -/
theorem fromisoformat_some {s : String} {d : Datetime} (h : fromisoformat s = some d) :
    ∃ days, parseDate (s.toList.take (separatorLocation s.toList)) = some days ∧
      (s.toList.drop (separatorLocation s.toList) = [] ∨
        ∃ c time clock offset, s.toList.drop (separatorLocation s.toList) = c :: time ∧
          parseTime time = some (clock, offset) ∧ d = ⟨days * microsPerDay + clock, offset⟩) := by
  unfold fromisoformat at h
  dsimp only at h
  split_ifs at h with hshort
  · cases h
  obtain ⟨days, hdays, h⟩ := Option.bind_eq_some_iff.mp h
  refine ⟨days, hdays, ?_⟩
  cases hdrop : s.toList.drop (separatorLocation s.toList) with
  | nil => exact .inl rfl
  | cons c time =>
    rw [hdrop] at h
    obtain ⟨⟨clock, offset⟩, htime, h⟩ := Option.bind_eq_some_iff.mp h
    exact .inr ⟨c, time, clock, offset, rfl, htime, (Option.some.inj h).symm⟩

/-- A time is a clock with its offset. -/
theorem parseTime_some {time : List Char} {clock : ℤ} {offset : Option ℤ}
    (h : parseTime time = some (clock, offset)) :
    ∃ body zone t, time = body ++ zone ∧ (∀ c ∈ body, c ≠ '+' ∧ c ≠ '-' ∧ c ≠ 'Z') ∧
      parseClock body = some t ∧ parseZone zone = some offset ∧
      (t.1 < 24 ∧ t.2.1 < 60 ∧ t.2.2.1 < 60) ∧ clock = clockMicros t := by
  obtain ⟨t, ht, h⟩ := Option.bind_eq_some_iff.mp h
  obtain ⟨offset', hzone, h⟩ := Option.bind_eq_some_iff.mp h
  split_ifs at h with hranges
  simp only [Option.some.injEq, Prod.mk.injEq] at h
  obtain ⟨rfl, rfl⟩ := h
  refine ⟨_, _, t, ?_, ?_, ht, hzone, hranges, rfl⟩
  · have hfront := List.prefix_iff_eq_take.mp
      (List.takeWhile_prefix (l := time) fun c => decide (c ≠ '+' ∧ c ≠ '-' ∧ c ≠ 'Z'))
    exact (List.take_append_drop _ time).symm.trans (by rw [← hfront])
  · intro c hc
    simpa using List.mem_takeWhile_imp hc

/-- A time with a `Z` is read as the one with the offset of UTC. -/
theorem parseTime_zulu {time : List Char} {clock : ℤ} {offset : Option ℤ}
    (h : parseTime time = some (clock, offset)) (hz : 'Z' ∈ time) :
    ∃ body, time = body ++ ['Z'] ∧ 'Z' ∉ body ∧ 2 ≤ body.length ∧
      parseTime (body ++ zoneText) = some (clock, offset) := by
  obtain ⟨body, zone, t, rfl, hbody, hclock, hzone, hranges, rfl⟩ := parseTime_some h
  have hnot : 'Z' ∉ body := fun hmem => (hbody 'Z' hmem).2.2 rfl
  have hletter : zone = ['Z'] := by
    rcases parseZone_zulu hzone with hletter | hnone
    · exact hletter
    · rw [List.mem_append] at hz
      exact absurd hz (not_or.mpr ⟨hnot, hnone⟩)
  subst hletter
  obtain rfl : some 0 = offset := Option.some.inj hzone
  refine ⟨body, rfl, hnot, ?_, ?_⟩
  · obtain ⟨⟨hour, rest⟩, hhour, -⟩ := Option.bind_eq_some_iff.mp hclock
    match body with
    | [] => cases hhour
    | [c] => simp [takeDigits] at hhour
    | c :: d :: rest => simp
  · have htake : (body ++ zoneText).takeWhile (fun c => c ≠ '+' ∧ c ≠ '-' ∧ c ≠ 'Z') = body := by
      rw [List.takeWhile_append_of_pos]
      · simp [zoneText]
      · intro c hc
        simpa using hbody c hc
    simp only [parseTime, htake, List.drop_left, hclock, Option.bind_eq_bind, Option.bind_some]
    rw [show parseZone zoneText = some (some 0) by decide]
    simp only [Option.bind_some, if_pos hranges]

theorem parseTime_head {time : List Char} {clock : ℤ} {offset : Option ℤ}
    (h : parseTime time = some (clock, offset)) :
    ∃ c rest, time = c :: rest ∧ (asciiDigit? c).isSome = true := by
  obtain ⟨body, zone, t, rfl, -, hclock, -, -, -⟩ := parseTime_some h
  obtain ⟨⟨hour, rest⟩, hhour, -⟩ := Option.bind_eq_some_iff.mp hclock
  cases body with
  | nil => cases hhour
  | cons c body =>
    obtain ⟨d, hd, -⟩ := Option.bind_eq_some_iff.mp hhour
    exact ⟨c, body ++ zone, rfl, by rw [hd]; rfl⟩

/-- Minutes that run into a digit are no time. -/
theorem parseTime_crowded {c : Char} {rest : List Char} (hc : (asciiDigit? c).isSome = true) :
    parseTime ('0' :: '0' :: ':' :: '0' :: '0' :: c :: rest) = none := by
  have hplain : c ≠ '+' ∧ c ≠ '-' ∧ c ≠ 'Z' ∧ c ≠ ':' := by
    refine ⟨?_, ?_, ?_, ?_⟩ <;>
    · rintro rfl
      exact absurd hc (by decide)
  obtain ⟨hplus, hminus, hletter, hcolon⟩ := hplain
  have htake : ('0' :: '0' :: ':' :: '0' :: '0' :: c :: rest).takeWhile
      (fun c => c ≠ '+' ∧ c ≠ '-' ∧ c ≠ 'Z') =
      '0' :: '0' :: ':' :: '0' :: '0' :: c ::
        rest.takeWhile fun c => c ≠ '+' ∧ c ≠ '-' ∧ c ≠ 'Z' := by
    simp [hplus, hminus, hletter]
  have hclock : ∀ cs, parseClock ('0' :: '0' :: ':' :: '0' :: '0' :: c :: cs) = none := by
    intro cs
    have hdigits : ∀ cs, takeDigits 2 0 ('0' :: '0' :: cs) = some (0, cs) := fun _ => rfl
    simp only [parseClock, hdigits, Option.bind_eq_bind, Option.bind_some]
    split
    · contradiction
    · rename_i heq
      exact absurd (List.cons.inj heq).1 hcolon
    · rfl
  simp only [parseTime, htake, hclock, Option.bind_eq_bind, Option.bind_none]

/-- Where a text and the one without its `Z` are both read, they are read alike. -/
theorem fromisoformat_replaceZulu {s : String} {d d' : Datetime} (h : fromisoformat s = some d)
    (h' : fromisoformat (replaceZulu s) = some d') : d' = d := by
  have hsame : 'Z' ∉ s.toList → d' = d := by
    intro hz
    have htext : replaceZulu s = s := by
      rw [← String.toList_inj, toList_replaceZulu, zulu_of_not_mem hz]
    rw [htext, h] at h'
    exact (Option.some.inj h').symm
  obtain ⟨days, hdays, hrest⟩ := fromisoformat_some h
  have hfront := parseDate_zulu hdays
  have hcut := List.take_append_drop (separatorLocation s.toList) s.toList
  rcases hrest with hnil | ⟨c, time, clock, offset, hdrop, htime, rfl⟩
  · rw [hnil, List.append_nil] at hcut
    exact hsame (hcut ▸ hfront)
  have hlength : (s.toList.take (separatorLocation s.toList)).length =
      separatorLocation s.toList := by
    have hle := congrArg List.length hdrop
    rw [List.length_drop, List.length_cons] at hle
    rw [List.length_take]
    omega
  rw [hdrop] at hcut
  generalize s.toList.take (separatorLocation s.toList) = front at hdays hfront hcut hlength
  have hseven := seven_le_separatorLocation s.toList
  have hnine := separatorLocation_ne_nine s.toList
  obtain ⟨days', hdays', hrest'⟩ := fromisoformat_some h'
  rw [toList_replaceZulu, ← hcut] at hdays' hrest'
  rw [← hcut] at hlength hseven hnine
  by_cases hc : c = 'Z'
  · -- the separator: what stands for it is no separator with a time behind it
    subst hc
    obtain ⟨e, rest, rfl, he⟩ := parseTime_head htime
    have hez : e ≠ 'Z' := by
      rintro rfl
      rw [asciiDigit?_zulu] at he
      cases he
    have htext : zulu (front ++ 'Z' :: e :: rest) =
        front ++ '+' :: '0' :: '0' :: ':' :: '0' :: '0' :: e :: zulu rest := by
      rw [zulu_append, zulu_of_not_mem hfront, zulu_cons, zulu, List.flatMap_cons, if_neg hez]
      rfl
    have hlocation := separatorLocation_append front (e :: rest)
      ('0' :: '0' :: ':' :: '0' :: '0' :: e :: zulu rest) asciiDigit?_zulu asciiDigit?_plus
      (by decide) (by decide) (hlength ▸ hseven) (hlength ▸ hnine) hlength.ge
    rw [htext, hlocation, ← hlength, List.drop_left] at hrest'
    rcases hrest' with hnil | ⟨c', time', clock', offset', hdrop', htime', -⟩
    · cases hnil
    · obtain ⟨-, rfl⟩ := List.cons.inj hdrop'
      rw [parseTime_crowded he] at htime'
      cases htime'
  · by_cases hz : 'Z' ∈ time
    · obtain ⟨body, rfl, hbody, htwo, hzone⟩ := parseTime_zulu htime hz
      have htext : zulu (front ++ c :: (body ++ ['Z'])) = front ++ c :: (body ++ zoneText) := by
        rw [zulu_append, zulu_of_not_mem hfront, zulu, List.flatMap_cons, if_neg hc,
          List.flatMap_append]
        exact congrArg (fun cs => front ++ c :: (cs ++ zoneText)) (zulu_of_not_mem hbody)
      have hlong : 10 ≤ (front ++ c :: body).length := by
        rw [List.length_append, List.length_cons]
        omega
      have hassoc : ∀ ys, (front ++ c :: body) ++ ys = front ++ c :: (body ++ ys) := by simp
      have hlocation := separatorLocation_append (front ++ c :: body) [] ['0', '0', ':', '0', '0']
        asciiDigit?_zulu asciiDigit?_plus (by decide) (by decide) (by omega) (by omega)
        (by rw [hassoc, ← hlength, List.length_append]; omega)
      rw [hassoc, hassoc] at hlocation
      change separatorLocation (front ++ c :: (body ++ zoneText)) = _ at hlocation
      rw [htext, hlocation, ← hlength] at hdays' hrest'
      rw [List.take_left, hdays, Option.some.injEq] at hdays'
      rw [List.drop_left] at hrest'
      rcases hrest' with hnil | ⟨c', time', clock', offset', hdrop', htime', rfl⟩
      · cases hnil
      · obtain ⟨-, rfl⟩ := List.cons.inj hdrop'
        rw [hzone, Option.some.injEq, Prod.mk.injEq] at htime'
        rw [hdays', htime'.1, htime'.2]
    · apply hsame
      rw [← hcut, List.mem_append, List.mem_cons]
      simp [hfront, hz, Ne.symm hc]

/-- What `isoformat` writes has no `Z` in it. -/
theorem replaceZulu_isoformat {i : Instant} (h : InRange i) :
    replaceZulu (isoformat i) = isoformat i := by
  obtain ⟨year, month, day, hour, minute, second, micros, htext, hyear, hmonth, hday, hhour,
    hminute, hsecond, hmicros, -⟩ := toList_isoformat h
  have hdate : 'Z' ∉ dateText year month day := by
    intro hz
    simp only [dateText, List.mem_append, List.mem_cons] at hz
    rcases hz with hz | hz | hz | hz | hz
    · exact (digits_plain 4 hyear _ hz).2.2 rfl
    · exact absurd hz (by decide)
    · exact (digits_plain 2 hmonth _ hz).2.2 rfl
    · exact absurd hz (by decide)
    · exact (digits_plain 2 hday _ hz).2.2 rfl
  have hclock : 'Z' ∉ clockText hour minute second micros := fun hz =>
    (clockText_plain (by omega) (by omega) (by omega) hmicros _ hz).2.2 rfl
  have hzone : 'Z' ∉ zoneText := by decide
  rw [← String.toList_inj, toList_replaceZulu, zulu_of_not_mem]
  rw [htext, List.mem_append, List.mem_cons, List.mem_append]
  rintro (hz | hz | hz | hz)
  · exact hdate hz
  · exact absurd hz (by decide)
  · exact hclock hz
  · exact hzone hz

end PrinterV1.Python
