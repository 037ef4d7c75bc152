import Mathlib.Algebra.Group.Nat.Defs
import PrinterV1.Python.Text

/-!
# Datetimes and their ISO text

An aware datetime is used for the instant it denotes and a naive one for the
clock it shows, both counted in microseconds from `0001-01-01T00:00:00`.
`isoformat` writes an instant the way `value.astimezone(timezone.utc)` does,
and `fromisoformat` reads the forms `datetime.fromisoformat` accepts: extended
and basic calendar and week dates, any one separator, a time with an optional
fraction, and a numeric offset or `Z`.
-/

namespace PrinterV1.Python

/-- Microseconds from `0001-01-01T00:00:00Z`. -/
abbrev Instant := ℤ

def microsPerSecond : ℤ := 1000000
def microsPerDay : ℤ := 86400 * microsPerSecond

def seconds (n : ℤ) : ℤ := n * microsPerSecond

/-- A datetime: the clock it shows and its offset, if it is aware. -/
structure Datetime where
  wall : ℤ
  utcoffset : Option ℤ
  deriving DecidableEq, Repr

/-- The instant of an aware datetime; a naive one is taken to be UTC. -/
def Datetime.instantUtc (d : Datetime) : Instant := d.wall - d.utcoffset.getD 0

def isLeap (year : ℤ) : Bool := year % 4 = 0 ∧ (year % 100 ≠ 0 ∨ year % 400 = 0)

def daysInMonth (year month : ℤ) : ℤ :=
  if month = 2 then if isLeap year then 29 else 28
  else if month = 4 ∨ month = 6 ∨ month = 9 ∨ month = 11 then 30 else 31

def daysBeforeMonthTable : List ℤ := [0, 31, 59, 90, 120, 151, 181, 212, 243, 273, 304, 334]

def daysBeforeMonth (year month : ℤ) : ℤ :=
  daysBeforeMonthTable.getD (month - 1).toNat 0 + if month > 2 ∧ isLeap year then 1 else 0

def daysBeforeYear (year : ℤ) : ℤ :=
  let y := year - 1
  y * 365 + y / 4 - y / 100 + y / 400

/-- Days from `0001-01-01`. -/
def ymdToDays (year month day : ℤ) : ℤ :=
  daysBeforeYear year + daysBeforeMonth year month + (day - 1)

/-- The calendar date a number of days after `0001-01-01`. -/
def daysToYmd (days : ℤ) : ℤ × ℤ × ℤ :=
  let n400 := days / 146097
  let r400 := days % 146097
  let n100 := r400 / 36524
  let r100 := r400 % 36524
  let n4 := r100 / 1461
  let r4 := r100 % 1461
  let n1 := r4 / 365
  let r1 := r4 % 365
  let year := n400 * 400 + n100 * 100 + n4 * 4 + n1 + 1
  if n1 = 4 ∨ n100 = 4 then (year - 1, 12, 31)
  else
    let guess := (r1 + 50) / 32
    let month := if daysBeforeMonth year guess > r1 then guess - 1 else guess
    (year, month, r1 - daysBeforeMonth year month + 1)

/-- `value.astimezone(timezone.utc).isoformat()` for the instant of `value`. -/
def isoformat (i : Instant) : String :=
  let date := daysToYmd (i / microsPerDay)
  let micros := i % microsPerDay
  let second := micros / microsPerSecond
  let fraction := micros % microsPerSecond
  zeroPad 4 date.1.toNat ++ "-" ++ zeroPad 2 date.2.1.toNat ++ "-" ++ zeroPad 2 date.2.2.toNat ++
    "T" ++ zeroPad 2 (second / 3600).toNat ++ ":" ++ zeroPad 2 (second / 60 % 60).toNat ++
    ":" ++ zeroPad 2 (second % 60).toNat ++
    (if fraction = 0 then "" else "." ++ zeroPad 6 fraction.toNat) ++ "+00:00"

/-- Exactly `n` ASCII digits, and what follows them. -/
def takeDigits : ℕ → ℕ → List Char → Option (ℤ × List Char)
  | 0, acc, cs => some ((acc : ℤ), cs)
  | _ + 1, _, [] => none
  | n + 1, acc, c :: cs => do
    let d ← asciiDigit? c
    takeDigits n (acc * 10 + d) cs

/-- The microseconds of a fraction; digits past the sixth are read and dropped. -/
def fractionMicros : ℕ → ℕ → List Char → Option ℤ
  | places, acc, [] => some ((acc * 10 ^ places : ℕ) : ℤ)
  | places, acc, c :: cs => do
    let d ← asciiDigit? c
    match places with
    | 0 => fractionMicros 0 acc cs
    | p + 1 => fractionMicros p (acc * 10 + d) cs

def parseFraction : List Char → Option ℤ
  | [] => some 0
  | c :: d :: ds => if c = '.' ∨ c = ',' then fractionMicros 6 0 (d :: ds) else none
  | [_] => none

/-- `HH[:MM[:SS[.f+]]]` or `HH[MM[SS[.f+]]]`, in microseconds, with its parts. -/
def parseClock (cs : List Char) : Option (ℤ × ℤ × ℤ × ℤ) := do
  let (hour, rest) ← takeDigits 2 0 cs
  match rest with
  | [] => some (hour, 0, 0, 0)
  | ':' :: rest =>
    let (minute, rest) ← takeDigits 2 0 rest
    match rest with
    | [] => some (hour, minute, 0, 0)
    | ':' :: rest =>
      let (second, rest) ← takeDigits 2 0 rest
      let micros ← parseFraction rest
      some (hour, minute, second, micros)
    | _ => none
  | rest =>
    let (minute, rest) ← takeDigits 2 0 rest
    match rest with
    | [] => some (hour, minute, 0, 0)
    | rest =>
      let (second, rest) ← takeDigits 2 0 rest
      let micros ← parseFraction rest
      some (hour, minute, second, micros)

def clockMicros (t : ℤ × ℤ × ℤ × ℤ) : ℤ :=
  seconds (t.1 * 3600 + t.2.1 * 60 + t.2.2.1) + t.2.2.2

/-- The offset text after its sign: less than a day. -/
def parseOffset (sign : ℤ) (cs : List Char) : Option ℤ := do
  let t ← parseClock cs
  let offset := clockMicros t
  if offset < microsPerDay then some (sign * offset) else none

/-- The offset that follows a time, if there is one. -/
def parseZone : List Char → Option (Option ℤ)
  | [] => some none
  | ['Z'] => some (some 0)
  | '+' :: cs => some <$> parseOffset 1 cs
  | '-' :: cs => some <$> parseOffset (-1) cs
  | _ => none

/-- A time of day with its offset. -/
def parseTime (cs : List Char) : Option (ℤ × Option ℤ) := do
  let clock := cs.takeWhile fun c => c ≠ '+' ∧ c ≠ '-' ∧ c ≠ 'Z'
  let zone := cs.drop clock.length
  let t ← parseClock clock
  let offset ← parseZone zone
  if t.1 < 24 ∧ t.2.1 < 60 ∧ t.2.2.1 < 60 then some (clockMicros t, offset) else none

def validDate (year month day : ℤ) : Option ℤ :=
  if 1 ≤ year ∧ 1 ≤ month ∧ month ≤ 12 ∧ 1 ≤ day ∧ day ≤ daysInMonth year month then
    some (ymdToDays year month day)
  else none

/-- The ISO calendar: week 1 holds the year's first Thursday, days run from Monday. -/
def weekDate (year week day : ℤ) : Option ℤ :=
  let firstDay := daysBeforeYear year
  let weekday := firstDay % 7
  let monday := firstDay - weekday + if weekday > 3 then 7 else 0
  let longYear : Bool := weekday = 3 ∨ (weekday = 2 ∧ isLeap year)
  let days := monday + (week - 1) * 7 + (day - 1)
  if 1 ≤ year ∧ 1 ≤ week ∧ (week < 53 ∨ (week = 53 ∧ longYear)) ∧ 1 ≤ day ∧ day ≤ 7 ∧ 0 ≤ days then
    some days
  else none

/-- A date in `cs`, all of it: calendar or week form, with or without dashes. -/
def parseDate (cs : List Char) : Option ℤ := do
  let (year, rest) ← takeDigits 4 0 cs
  match rest with
  | '-' :: 'W' :: rest =>
    let (week, rest) ← takeDigits 2 0 rest
    match rest with
    | [] => weekDate year week 1
    | '-' :: rest =>
      let (day, rest) ← takeDigits 1 0 rest
      if rest = [] then weekDate year week day else none
    | _ => none
  | 'W' :: rest =>
    let (week, rest) ← takeDigits 2 0 rest
    match rest with
    | [] => weekDate year week 1
    | rest =>
      let (day, rest) ← takeDigits 1 0 rest
      if rest = [] then weekDate year week day else none
  | '-' :: rest =>
    let (month, rest) ← takeDigits 2 0 rest
    match rest with
    | '-' :: rest =>
      let (day, rest) ← takeDigits 2 0 rest
      if rest = [] then validDate year month day else none
    | _ => none
  | rest =>
    let (month, rest) ← takeDigits 2 0 rest
    let (day, rest) ← takeDigits 2 0 rest
    if rest = [] then validDate year month day else none

/-- Where the date ends; a dash after `YYYY-Www` is taken for part of the date
unless two digits stand behind it. -/
def separatorLocation (cs : List Char) : ℕ :=
  if cs.length = 7 then 7
  else if cs.getD 4 ' ' = '-' then
    if cs.getD 5 ' ' = 'W' then
      if cs.getD 8 ' ' = '-' then
        if (asciiDigit? (cs.getD 10 ' ')).isSome then 8 else 10
      else 8
    else 10
  else if cs.getD 4 ' ' = 'W' then
    let idx := 7 + ((cs.drop 7).takeWhile fun c => (asciiDigit? c).isSome).length
    if idx < 9 then idx else if idx % 2 = 0 then 7 else 8
  else 8

/-- `datetime.fromisoformat(text)`; `none` stands for its `ValueError`. -/
def fromisoformat (s : String) : Option Datetime := do
  let cs := s.toList
  if cs.length < 7 then none
  let location := separatorLocation cs
  let days ← parseDate (cs.take location)
  match cs.drop location with
  | [] => some ⟨days * microsPerDay, none⟩
  | _ :: time =>
    let (clock, offset) ← parseTime time
    some ⟨days * microsPerDay + clock, offset⟩

end PrinterV1.Python
