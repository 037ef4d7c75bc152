import Mathlib.Data.Int.Notation
import Mathlib.Tactic.Common

/-!
# Text and integers of the storage engine

SQLite's `trim` takes off spaces alone, its `length` counts the characters
before the first NUL, and an integer column holds 64 bits.
-/

namespace PrinterV1.Sqlite

/-- `trim(text)` -/
def trim (s : String) : String :=
  String.ofList
    (((s.toList.dropWhile (· = ' ')).reverse.dropWhile (· = ' ')).reverse)

/-- `length(text)` -/
def length (s : String) : ℕ := (s.toList.takeWhile (· ≠ '\x00')).length

/-- `length(trim(text)) > 0` -/
def filled (s : String) : Bool := 0 < length (trim s)

/-- An integer that can be bound to a statement. -/
def storable (n : ℤ) : Bool := -9223372036854775808 ≤ n ∧ n ≤ 9223372036854775807

/-- `n + 1` in an integer column. One more than the largest integer is a float, and so large a
float is its own successor. -/
def increment (n : ℤ) : ℤ := if n ≤ 9223372036854775807 then n + 1 else n

/-- A count that `increment` can reach: an integer, or the float one past the largest. -/
def countable (n : ℤ) : Bool := -9223372036854775808 ≤ n ∧ n ≤ 9223372036854775808

theorem countable_increment {n : ℤ} (h : countable n = true) : countable (increment n) = true := by
  have hbounds : -9223372036854775808 ≤ n ∧ n ≤ 9223372036854775808 := by
    simpa [countable] using h
  unfold increment
  by_cases hn : n ≤ 9223372036854775807
  · rw [if_pos hn]
    have hnext : -9223372036854775808 ≤ n + 1 ∧ n + 1 ≤ 9223372036854775808 := by omega
    simp only [countable, hnext, and_self, decide_true]
  · rw [if_neg hn]
    exact h

/-- `text LIKE 'prefix%'`: a low line stands for any character, and an ASCII letter for both of
its cases. -/
def likePrefix : List Char → List Char → Bool
  | [], _ => true
  | _ :: _, [] => false
  | p :: ps, c :: cs => (p = '_' || p.toLower = c.toLower) && likePrefix ps cs

end PrinterV1.Sqlite
