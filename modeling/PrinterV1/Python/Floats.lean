import Mathlib.Algebra.Order.Floor.Ring
import Mathlib.Data.Int.Log
import Mathlib.Data.Rat.Floor
import Mathlib.Tactic.Linarith
import PrinterV1.Python.Datetime
import PrinterV1.Python.Value

/-!
# Floats

A float is the rational it stands for, an infinity or a not-a-number; the
operations on rationals are exact, and `float64` rounds where the rounding
matters. Comparisons with a not-a-number are false.
A time stamp is read as seconds since 1970, rounded to whole microseconds.
-/

namespace PrinterV1.Python

inductive PyFloat
  | rat (q : ℚ)
  | inf (negative : Bool)
  | nan
  deriving DecidableEq, Repr

namespace PyFloat

/-- `a < b` -/
def lt : PyFloat → PyFloat → Bool
  | .rat a, .rat b => a < b
  | .rat _, .inf negative => !negative
  | .inf negative, .rat _ => negative
  | .inf a, .inf b => a && !b
  | _, _ => false

/-- `a <= b` -/
def le : PyFloat → PyFloat → Bool
  | .rat a, .rat b => a ≤ b
  | .rat _, .inf negative => !negative
  | .inf negative, .rat _ => negative
  | .inf a, .inf b => a || !b
  | _, _ => false

@[simp] theorem lt_rat (a b : ℚ) : lt (.rat a) (.rat b) = decide (a < b) := rfl
@[simp] theorem le_rat (a b : ℚ) : le (.rat a) (.rat b) = decide (a ≤ b) := rfl

/-- `a + b` -/
def add : PyFloat → PyFloat → PyFloat
  | .rat a, .rat b => .rat (a + b)
  | .rat _, .inf negative => .inf negative
  | .inf negative, .rat _ => .inf negative
  | .inf a, .inf b => if a = b then .inf a else .nan
  | _, _ => .nan

/-- `-a` -/
def neg : PyFloat → PyFloat
  | .rat a => .rat (-a)
  | .inf negative => .inf !negative
  | .nan => .nan

/-- `a - b` -/
def sub (a b : PyFloat) : PyFloat := add a (neg b)

/-- `a * b` -/
def mul : PyFloat → PyFloat → PyFloat
  | .rat a, .rat b => .rat (a * b)
  | .rat a, .inf negative => if a = 0 then .nan else .inf (negative != decide (a < 0))
  | .inf negative, .rat b => if b = 0 then .nan else .inf (negative != decide (b < 0))
  | .inf a, .inf b => .inf (a != b)
  | _, _ => .nan

/-- `a / b`, for a divisor that is not zero. -/
def div : PyFloat → PyFloat → PyFloat
  | .rat a, .rat b => .rat (a / b)
  | .rat _, .inf _ => .rat 0
  | .inf negative, .rat b => .inf (negative != decide (b < 0))
  | _, _ => .nan

end PyFloat

/-- The integer nearest to a rational, the even one of two. -/
def roundHalfEven (q : ℚ) : ℤ :=
  let below := ⌊q⌋
  let part := q - below
  if part < 1 / 2 then below
  else if 1 / 2 < part then below + 1
  else if below % 2 = 0 then below else below + 1

theorem abs_roundHalfEven_sub_le (q : ℚ) : |(roundHalfEven q : ℚ) - q| ≤ 1 / 2 := by
  have hbelow := Int.floor_le q
  have habove := Int.lt_floor_add_one q
  unfold roundHalfEven
  dsimp only
  rw [abs_le]
  split_ifs
  · constructor <;> linarith
  · push_cast
    constructor <;> linarith
  · constructor <;> linarith
  · push_cast
    constructor <;> linarith

/-- The double nearest to a rational, the even one of two, where that is a normal one. -/
def float64 (q : ℚ) : ℚ :=
  let ulp : ℚ := 2 ^ (Int.log 2 |q| - 52)
  roundHalfEven (q / ulp) * ulp

/-- Below a power of two the rounding is off by no more than half a last place. -/
theorem abs_float64_sub_le {q : ℚ} {k : ℤ} (h : |q| < 2 ^ k) :
    |float64 q - q| ≤ 2 ^ (k - 54) := by
  have hpos : ∀ n : ℤ, (0 : ℚ) < 2 ^ n := fun n => zpow_pos (by norm_num) n
  rcases eq_or_ne q 0 with rfl | hq
  · have hzero : float64 0 = 0 := by simp [float64, roundHalfEven]
    rw [hzero, sub_zero, abs_zero]
    exact (hpos _).le
  have hlog : Int.log 2 |q| < k :=
    (Int.lt_zpow_iff_log_lt (by decide) (abs_pos.mpr hq)).mp (by exact_mod_cast h)
  have hulp := hpos (Int.log 2 |q| - 52)
  have hscaled : float64 q - q =
      ((roundHalfEven (q / 2 ^ (Int.log 2 |q| - 52)) : ℚ) - q / 2 ^ (Int.log 2 |q| - 52)) *
        2 ^ (Int.log 2 |q| - 52) := by
    rw [sub_mul, div_mul_cancel₀ q hulp.ne']
    rfl
  rw [hscaled, abs_mul, abs_of_pos hulp]
  calc |(roundHalfEven (q / 2 ^ (Int.log 2 |q| - 52)) : ℚ) - q / 2 ^ (Int.log 2 |q| - 52)| *
        2 ^ (Int.log 2 |q| - 52)
      ≤ 1 / 2 * 2 ^ (Int.log 2 |q| - 52) :=
        mul_le_mul_of_nonneg_right (abs_roundHalfEven_sub_le _) hulp.le
    _ = 2 ^ (Int.log 2 |q| + 1 - 54) := by
        rw [show Int.log 2 |q| - 52 = Int.log 2 |q| + 1 - 54 + 1 by ring,
          zpow_add_one₀ (by norm_num : (2 : ℚ) ≠ 0)]
        ring
    _ ≤ 2 ^ (k - 54) := zpow_le_zpow_right₀ (by norm_num) (by omega)

/-- `delta.total_seconds()` -/
def totalSeconds (micros : ℤ) : ℚ := float64 (micros / microsPerSecond)

/-- `round(x, digits)` -/
def PyFloat.round (digits : ℕ) : PyFloat → PyFloat
  | .rat q => .rat (roundHalfEven (q * 10 ^ digits) / 10 ^ digits)
  | x => x

/-- `int(x)` -/
def PyFloat.toInt : PyFloat → Except PyError ℤ
  | .rat q => .ok (q.num.tdiv q.den)
  | .inf _ => .error (.overflowError "cannot convert float infinity to integer")
  | .nan => .error (.valueError "cannot convert float NaN to integer")

/-- Digits with single underscores between them: their value, how many there are,
and what follows. -/
def digitRun : ℕ → ℕ → List Char → ℕ × ℕ × List Char
  | acc, n, [] => (acc, n, [])
  | acc, n, '_' :: c :: cs =>
    match decimal? c with
    | some d => if n = 0 then (acc, n, '_' :: c :: cs) else digitRun (acc * 10 + d) (n + 1) cs
    | none => (acc, n, '_' :: c :: cs)
  | acc, n, c :: cs =>
    match decimal? c with
    | some d => digitRun (acc * 10 + d) (n + 1) cs
    | none => (acc, n, c :: cs)

/-- What follows the digits of a number: nothing, or its exponent. -/
def exponentOf : List Char → Option ℤ
  | [] => some 0
  | e :: '-' :: cs => exponentDigits e cs fun n => -n
  | e :: '+' :: cs => exponentDigits e cs fun n => n
  | e :: cs => exponentDigits e cs fun n => n
where
  exponentDigits (e : Char) (cs : List Char) (sign : ℤ → ℤ) : Option ℤ :=
    match digitRun 0 0 cs with
    | (n, count, []) => if (e = 'e' ∨ e = 'E') ∧ 0 < count then some (sign n) else none
    | _ => none

def unsignedFloat (cs : List Char) : Option PyFloat :=
  if cs.map Char.toLower ∈ ["inf".toList, "infinity".toList] then some (.inf false)
  else if cs.map Char.toLower = "nan".toList then some .nan
  else
    let (whole, wholeDigits, rest) := digitRun 0 0 cs
    let (part, partDigits, rest) :=
      match rest with
      | '.' :: rest => digitRun 0 0 rest
      | _ => (0, 0, rest)
    if wholeDigits + partDigits = 0 then none
    else (exponentOf rest).map fun e => .rat ((whole + part / 10 ^ partDigits) * 10 ^ e)

/-- `float(text)`: blanks around it, one sign, a number. -/
def floatOfText (s : String) : Option PyFloat :=
  let (negative, digits) := numberText s
  (unsignedFloat digits).map fun q => if negative then q.neg else q

/-- `1970-01-01T00:00:00Z` -/
def unixEpoch : Instant := ymdToDays 1970 1 1 * microsPerDay

/-- The instant one microsecond before the year 10000. -/
def lastInstant : Instant := ymdToDays 10000 1 1 * microsPerDay - 1

/-- `value.timestamp()` of an aware datetime, by its instant. -/
def timestamp (i : Instant) : ℚ := (i - unixEpoch : ℤ) / microsPerSecond

/-- `datetime.fromtimestamp(ts, tz=timezone.utc)` -/
def fromTimestamp : PyFloat → Except PyError Instant
  | .rat q =>
    let i := unixEpoch + roundHalfEven (q * microsPerSecond)
    if 0 ≤ i ∧ i ≤ lastInstant then .ok i else .error (.valueError "year is out of range")
  | .inf _ => .error (.overflowError "cannot convert float infinity to integer")
  | .nan => .error (.valueError "cannot convert float NaN to integer")

end PrinterV1.Python
