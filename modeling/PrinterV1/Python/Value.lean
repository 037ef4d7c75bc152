import Mathlib.Data.Int.Notation
import Mathlib.Data.Rat.Defs
import Mathlib.Tactic.Common
import PrinterV1.Foundation.Faults
import PrinterV1.Python.Text

/-!
# Values of the language

The values that JSON-shaped data can hold: a float is the rational it stands
for, an infinity or a not-a-number, a tuple is a list, and a mapping with text
keys is its list of items in the order of the keys. Two mappings that differ in
the order of insertion alone are equal in the language and have one JSON text
under sorted keys; they are one value here. `pyEq` is `==`, which compares
numbers across their types and finds no not-a-number equal to anything.
-/

namespace PrinterV1.Python

inductive Value
  | none
  | bool (b : Bool)
  | int (n : ℤ)
  | float (q : ℚ)
  | inf (negative : Bool)
  | nan
  | str (s : String)
  | list (xs : List Value)
  | dict (entries : List (String × Value))
  deriving Repr

/-- The items of a mapping, in the order of their keys. -/
abbrev Dict := List (String × Value)

namespace Value

mutual
def beq : Value → Value → Bool
  | .none, .none => true
  | .bool a, .bool b => a == b
  | .int a, .int b => a == b
  | .float a, .float b => a == b
  | .inf a, .inf b => a == b
  | .nan, .nan => true
  | .str a, .str b => a == b
  | .list xs, .list ys => beqList xs ys
  | .dict xs, .dict ys => beqEntries xs ys
  | _, _ => false
  termination_by structural x => x

def beqList : List Value → List Value → Bool
  | [], [] => true
  | x :: xs, y :: ys => beq x y && beqList xs ys
  | _, _ => false

def beqEntries : Dict → Dict → Bool
  | [], [] => true
  | (k, x) :: xs, (l, y) :: ys => k == l && beq x y && beqEntries xs ys
  | _, _ => false
end

mutual
theorem beq_iff : (a b : Value) → (beq a b = true ↔ a = b)
  | .none, b => by cases b <;> simp [beq]
  | .bool a, b => by cases b <;> simp [beq]
  | .int a, b => by cases b <;> simp [beq]
  | .float a, b => by cases b <;> simp [beq]
  | .inf a, b => by cases b <;> simp [beq]
  | .nan, b => by cases b <;> simp [beq]
  | .str a, b => by cases b <;> simp [beq]
  | .list xs, b => by cases b <;> simp [beq, beqList_iff xs]
  | .dict xs, b => by cases b <;> simp [beq, beqEntries_iff xs]

theorem beqList_iff : (xs ys : List Value) → (beqList xs ys = true ↔ xs = ys)
  | [], ys => by cases ys <;> simp [beqList]
  | x :: xs, ys => by cases ys <;> simp [beqList, beq_iff x, beqList_iff xs]

theorem beqEntries_iff : (xs ys : Dict) → (beqEntries xs ys = true ↔ xs = ys)
  | [], ys => by cases ys <;> simp [beqEntries]
  | (k, x) :: xs, ys => by
    cases ys with
    | nil => simp [beqEntries]
    | cons y ys =>
      obtain ⟨l, y⟩ := y
      simp [beqEntries, beq_iff x, beqEntries_iff xs]
end

instance : DecidableEq Value := fun a b => decidable_of_iff (beq a b = true) (beq_iff a b)

/-- `bool(value)` -/
def truthy : Value → Bool
  | .none => false
  | .bool b => b
  | .int n => n ≠ 0
  | .float q => q ≠ 0
  | .inf _ => true
  | .nan => true
  | .str s => s ≠ ""
  | .list xs => xs ≠ []
  | .dict entries => entries ≠ []

mutual
/-- The value with every number in it made a float; `True` is one. -/
def floated : Value → Value
  | .bool b => .float (if b then 1 else 0)
  | .int n => .float n
  | .list xs => .list (floatedList xs)
  | .dict entries => .dict (floatedEntries entries)
  | v => v
  termination_by structural x => x

def floatedList : List Value → List Value
  | [] => []
  | x :: xs => floated x :: floatedList xs

def floatedEntries : List (String × Value) → List (String × Value)
  | [] => []
  | (k, x) :: entries => (k, floated x) :: floatedEntries entries
end

mutual
/-- The value holds a not-a-number somewhere. -/
def hasNan : Value → Bool
  | .nan => true
  | .list xs => hasNanList xs
  | .dict entries => hasNanEntries entries
  | _ => false
  termination_by structural x => x

def hasNanList : List Value → Bool
  | [] => false
  | x :: xs => hasNan x || hasNanList xs

def hasNanEntries : List (String × Value) → Bool
  | [] => false
  | (_, x) :: entries => hasNan x || hasNanEntries entries
end

/-- `a == b` -/
def pyEq (a b : Value) : Bool := beq a.floated b.floated && !a.floated.hasNan

/-- `a == b` on tuples. -/
def pyEqList (xs ys : List Value) : Bool := pyEq (.list xs) (.list ys)

theorem pyEq_iff {a b : Value} :
    pyEq a b = true ↔ a.floated = b.floated ∧ a.floated.hasNan = false := by
  simp [pyEq, beq_iff]

theorem pyEq_symm {a b : Value} (h : pyEq a b = true) : pyEq b a = true := by
  obtain ⟨heq, hnan⟩ := pyEq_iff.mp h
  exact pyEq_iff.mpr ⟨heq.symm, heq ▸ hnan⟩

theorem pyEq_trans {a b c : Value} (hab : pyEq a b = true) (hbc : pyEq b c = true) :
    pyEq a c = true := by
  obtain ⟨heq, hnan⟩ := pyEq_iff.mp hab
  exact pyEq_iff.mpr ⟨heq.trans (pyEq_iff.mp hbc).1, hnan⟩

/-- How `str` and `repr` write the values whose text is not fixed below: floats,
lists and mappings for `str`, everything for `repr`. -/
structure Rendering where
  str : Value → String
  repr : Value → String

mutual
/-- The value holds an integer too long to be written in decimal. -/
def overlong : Value → Bool
  | .int n => maxStrDigits < (Nat.toDigits 10 n.natAbs).length
  | .list xs => overlongList xs
  | .dict entries => overlongEntries entries
  | _ => false
  termination_by structural x => x

def overlongList : List Value → Bool
  | [] => false
  | x :: xs => overlong x || overlongList xs

def overlongEntries : List (String × Value) → Bool
  | [] => false
  | (_, x) :: entries => overlong x || overlongEntries entries
end

/-- What is too long is not empty. -/
theorem truthy_of_overlong {v : Value} (h : v.overlong = true) : v.truthy = true := by
  cases v with
  | int n =>
    simp only [truthy, decide_eq_true_eq]
    rintro rfl
    revert h
    decide
  | list xs => cases xs <;> simp [overlong, overlongList, truthy] at h ⊢
  | dict entries => cases entries <;> simp [overlong, overlongEntries, truthy] at h ⊢
  | _ => simp [overlong] at h

/-- `str(value)`, where no integer in the value is too long. -/
def text (R : Rendering) : Value → String
  | .none => "None"
  | .bool b => if b then "True" else "False"
  | .int n => toString n
  | .inf negative => if negative then "-inf" else "inf"
  | .nan => "nan"
  | .str s => s
  | v => R.str v

/-- `str(value or "")`, where no integer in the value is too long. -/
def textOrEmpty (R : Rendering) (v : Value) : String := if v.truthy then v.text R else ""

/-- Lists and mappings have no hash. -/
def hashable : Value → Bool
  | .list _ => false
  | .dict _ => false
  | _ => true

def typeName : Value → String
  | .none => "NoneType"
  | .bool _ => "bool"
  | .int _ => "int"
  | .float _ => "float"
  | .inf _ => "float"
  | .nan => "float"
  | .str _ => "str"
  | .list _ => "list"
  | .dict _ => "dict"

end Value

/-- The exceptions the conversions below raise, with their texts. -/
inductive PyError
  | typeError (text : String)
  | valueError (text : String)
  | overflowError (text : String)
  deriving DecidableEq, Repr

def PyError.text : PyError → String
  | .typeError text => text
  | .valueError text => text
  | .overflowError text => text

/-- `OverflowError`, which is no `ValueError`. -/
def PyError.IsOverflow : PyError → Prop
  | .overflowError _ => True
  | _ => False

namespace Value

open Faults

/-- `str(value)` -/
def toText (R : Rendering) (v : Value) : Except PyError String :=
  if v.overlong then
    .error (.valueError ("Exceeds the limit (" ++ toString maxStrDigits ++
      " digits) for integer string conversion; use sys.set_int_max_str_digits() to increase " ++
      "the limit"))
  else .ok (v.text R)

/-- `str(value or "")` -/
def toTextOrEmpty (R : Rendering) (v : Value) : Except PyError String :=
  if v.truthy then v.toText R else .ok ""

theorem toText_ok {R : Rendering} {v : Value} {s : String} :
    v.toText R = .ok s ↔ v.overlong = false ∧ v.text R = s := by
  unfold toText
  cases v.overlong <;> simp

theorem toTextOrEmpty_ok {R : Rendering} {v : Value} {s : String} :
    v.toTextOrEmpty R = .ok s ↔ v.overlong = false ∧ v.textOrEmpty R = s := by
  unfold toTextOrEmpty textOrEmpty
  by_cases h : v.truthy = true
  · rw [if_pos h, if_pos h, toText_ok]
  · have hshort : v.overlong = false := by
      by_contra hlong
      exact h (truthy_of_overlong (by simpa using hlong))
    simp [h, hshort]

/-- The text of the `ValueError` of `int` on a text. -/
def intFault (R : Rendering) (s : String) : String :=
  if maxStrDigits < leadingDigits s then
    "Exceeds the limit (" ++ toString maxStrDigits ++ " digits) for integer string conversion: " ++
      "value has " ++ toString (leadingDigits s) ++
      " digits; use sys.set_int_max_str_digits() to increase the limit"
  else "invalid literal for int() with base 10: " ++ R.repr (.str s)

/-- `int(value)` -/
def toInt (R : Rendering) : Value → Except PyError ℤ
  | .bool b => .ok (if b then 1 else 0)
  | .int n => .ok n
  | .float q => .ok (q.num.tdiv q.den)
  | .inf _ => .error (.overflowError "cannot convert float infinity to integer")
  | .nan => .error (.valueError "cannot convert float NaN to integer")
  | .str s =>
    match intOfText s with
    | some n => .ok n
    | Option.none => .error (.valueError (intFault R s))
  | v =>
    .error (.typeError ("int() argument must be a string, a bytes-like object or a real number, " ++
      "not '" ++ v.typeName ++ "'"))

/-- `int(value or 0)` -/
def toIntOrZero (R : Rendering) (v : Value) : Except PyError ℤ :=
  if v.truthy then v.toInt R else .ok 0

@[simp] theorem toIntOrZero_int {R : Rendering} (n : ℤ) : (int n).toIntOrZero R = .ok n := by
  by_cases hn : n = 0
  · simp [toIntOrZero, truthy, hn]
  · simp [toIntOrZero, truthy, toInt, hn]

theorem toIntOrZero_of_toInt {R : Rendering} {v : Value} (h : ∃ n, v.toInt R = .ok n) :
    ∃ n, v.toIntOrZero R = .ok n := by
  unfold toIntOrZero
  by_cases hv : v.truthy = true
  · simpa [hv] using h
  · simp [hv]

/-- A float that is no number of its own. -/
def isInf : Value → Bool
  | .inf _ => true
  | _ => false

theorem raises_toText {R : Rendering} (v : Value) : ¬Raises PyError.IsOverflow (v.toText R) := by
  unfold toText
  split_ifs <;> simp [PyError.IsOverflow]

theorem raises_toTextOrEmpty {R : Rendering} (v : Value) :
    ¬Raises PyError.IsOverflow (v.toTextOrEmpty R) := by
  unfold toTextOrEmpty
  split_ifs
  · exact raises_toText v
  · simp

theorem raises_toInt {R : Rendering} {v : Value} :
    Raises PyError.IsOverflow (v.toInt R) ↔ v.isInf = true := by
  cases v with
  | str s => cases h : intOfText s <;> simp [toInt, isInf, h, PyError.IsOverflow]
  | _ => simp [toInt, isInf, PyError.IsOverflow]

theorem raises_toIntOrZero {R : Rendering} {v : Value} :
    Raises PyError.IsOverflow (v.toIntOrZero R) ↔ v.isInf = true := by
  unfold toIntOrZero
  by_cases h : v.truthy = true
  · rw [if_pos h]
    exact raises_toInt
  · rw [if_neg h]
    refine iff_of_false (not_raises_ok 0) fun hinf => ?_
    cases v <;> simp [isInf, truthy] at hinf h

end Value

namespace Dict

/-- `entries.get(key)` -/
def get (entries : Dict) (key : String) : Value := (entries.lookup key).getD .none

/-- `key in entries` -/
def has (entries : Dict) (key : String) : Bool := entries.any fun e => e.1 = key

/-- `entries[key] = value` -/
def set : Dict → String → Value → Dict
  | [], key, value => [(key, value)]
  | (k, v) :: rest, key, value =>
    if key < k then (key, value) :: (k, v) :: rest
    else if key = k then (key, value) :: rest
    else (k, v) :: set rest key value

/-- `{**entries, **more}` -/
def merge (entries more : Dict) : Dict := more.foldr (fun e d => set d e.1 e.2) entries

@[simp] theorem get_cons (k : String) (v : Value) (rest : Dict) (key : String) :
    get ((k, v) :: rest) key = if key = k then v else get rest key := by
  unfold get
  rw [List.lookup_cons]
  by_cases h : key = k
  · simp [h]
  · have hne : (key == k) = false := beq_false_of_ne h
    simp [h, hne]

@[simp] theorem get_set (entries : Dict) (key : String) (v : Value) (other : String) :
    (set entries key v).get other = if other = key then v else entries.get other := by
  induction entries with
  | nil => simp [set]
  | cons e rest ih =>
    obtain ⟨k, w⟩ := e
    by_cases hlt : key < k
    · simp [set, hlt]
    · by_cases heq : key = k
      · subst heq
        by_cases hother : other = key <;> simp [set, hother]
      · by_cases hk : other = k
        · subst hk
          simp [set, hlt, heq, Ne.symm heq]
        · simp [set, hlt, heq, hk, ih]

@[simp] theorem has_set (entries : Dict) (key : String) (v : Value) (other : String) :
    (set entries key v).has other = (decide (key = other) || entries.has other) := by
  induction entries with
  | nil => simp [set, has]
  | cons e rest ih =>
    obtain ⟨k, w⟩ := e
    by_cases hlt : key < k
    · simp [set, has, hlt]
    · by_cases heq : key = k
      · subst heq
        simp [set, has]
      · have htail : has (set ((k, w) :: rest) key v) other =
            (decide (k = other) || has (set rest key v) other) := by
          simp [set, has, hlt, heq]
        rw [htail, ih]
        simp [has, Bool.or_left_comm]

@[simp] theorem get_merge (entries more : Dict) (key : String) :
    (merge entries more).get key = if more.has key then more.get key else entries.get key := by
  induction more with
  | nil => simp [merge, has]
  | cons e rest ih =>
    have hstep : merge entries (e :: rest) = set (merge entries rest) e.1 e.2 := rfl
    obtain ⟨k, w⟩ := e
    rw [hstep, get_set, ih, get_cons]
    by_cases h : key = k
    · simp [h, has]
    · have hhas : has ((k, w) :: rest) key = has rest key := by
        have hne : decide (k = key) = false := decide_eq_false fun hk => h hk.symm
        unfold has
        rw [List.any_cons, hne, Bool.false_or]
      simp [h, hhas]

theorem get_of_not_has {entries : Dict} {key : String} (h : entries.has key = false) :
    entries.get key = .none := by
  induction entries with
  | nil => rfl
  | cons e rest ih =>
    simp only [has, List.any_cons, Bool.or_eq_false_iff, decide_eq_false_iff_not] at h
    rw [get_cons, if_neg (Ne.symm h.1)]
    exact ih h.2

end Dict
end PrinterV1.Python
