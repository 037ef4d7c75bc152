import Mathlib.Data.Int.Notation
import Mathlib.Data.List.DropRight
import Mathlib.Data.List.Infix
import Mathlib.Data.List.TakeWhile
import Mathlib.Tactic.Common

/-!
# Text operations of the language

`str.strip`, `str.isdigit` on one character, zero padding and the `int(text)`
conversion, on Lean's strings. A conversion that raises `ValueError` is `none`.
-/

namespace PrinterV1.Python

/-- The characters `str.isspace` accepts. -/
def isSpace (c : Char) : Bool :=
  (9 ≤ c.toNat ∧ c.toNat ≤ 13) ∨ (28 ≤ c.toNat ∧ c.toNat ≤ 32) ∨
    c.toNat ∈ [133, 160, 5760] ∨ (8192 ≤ c.toNat ∧ c.toNat ≤ 8202) ∨
    c.toNat ∈ [8232, 8233, 8239, 8287, 12288]

/-- The characters without the blanks at either end. -/
def stripWith (blank : Char → Bool) (cs : List Char) : List Char :=
  ((cs.dropWhile blank).reverse.dropWhile blank).reverse

def stripChars (cs : List Char) : List Char := stripWith isSpace cs

/-- `text.strip()` -/
def strip (s : String) : String := String.ofList (stripChars s.toList)

/-- A text that begins with no blank is not stripped away. -/
theorem stripChars_cons_ne_nil {c : Char} (h : isSpace c = false) (cs : List Char) :
    stripChars (c :: cs) ≠ [] := by
  have hdrop : (c :: cs).dropWhile isSpace = c :: cs := by simp [h]
  unfold stripChars stripWith
  rw [hdrop]
  intro hnil
  have hspaces := List.dropWhile_eq_nil_iff.mp (List.reverse_eq_nil_iff.mp hnil)
  have hc := hspaces c (by simp)
  rw [h] at hc
  cases hc

/-- The capital of a character, for those whose capital is written in ASCII. -/
def upperChar (c : Char) : List Char :=
  if 'a' ≤ c ∧ c ≤ 'z' then [Char.ofNat (c.toNat - 32)]
  else if c = 'ı' then ['I']
  else if c = 'ſ' then ['S']
  else if c = 'ß' then ['S', 'S']
  else if c = 'ﬀ' then ['F', 'F']
  else if c = 'ﬁ' then ['F', 'I']
  else if c = 'ﬂ' then ['F', 'L']
  else if c = 'ﬃ' then ['F', 'F', 'I']
  else if c = 'ﬄ' then ['F', 'F', 'L']
  else if c = 'ﬅ' ∨ c = 'ﬆ' then ['S', 'T']
  else [c]

/-- `text.upper()`, up to capitals outside ASCII: it is only compared with ASCII
words. -/
def upper (s : String) : String := String.ofList (s.toList.flatMap upperChar)

/-- The small letters of a character, for those that are written in ASCII. -/
def lowerChar (c : Char) : List Char :=
  if 'A' ≤ c ∧ c ≤ 'Z' then [Char.ofNat (c.toNat + 32)]
  else if c.toNat = 0x212A then ['k']
  else if c.toNat = 0x130 then ['i', Char.ofNat 0x307]
  else [c]

/-- `text.lower()`, up to small letters outside ASCII: it is only compared with
ASCII words. -/
def lower (s : String) : String := String.ofList (s.toList.flatMap lowerChar)

/-- `part in text` -/
def contains (text part : String) : Bool := part.toList <:+: text.toList

/-- `text.replace("Z", "+00:00")` -/
def replaceZulu (text : String) : String :=
  String.ofList (text.toList.flatMap fun c => if c = 'Z' then "+00:00".toList else [c])

/-- The zero of every block of ten decimal digits (category `Nd`). -/
def digitZeros : List ℕ :=
  [48, 1632, 1776, 1984, 2406, 2534, 2662, 2790, 2918, 3046, 3174, 3302, 3430, 3558, 3664, 3792,
    3872, 4160, 4240, 6112, 6160, 6470, 6608, 6784, 6800, 6992, 7088, 7232, 7248, 42528, 43216,
    43264, 43472, 43504, 43600, 44016, 65296, 66720, 68912, 69734, 69872, 69942, 70096, 70384,
    70736, 70864, 71248, 71360, 71472, 71904, 72016, 72784, 73040, 73120, 92768, 92864, 93008,
    120782, 120792, 120802, 120812, 120822, 123200, 123632, 125264, 130032]

/-- The value of a decimal digit in any script. -/
def decimal? (c : Char) : Option ℕ :=
  (digitZeros.find? fun z => z ≤ c.toNat ∧ c.toNat < z + 10).map fun z => c.toNat - z

/-- The value of an ASCII digit. -/
def asciiDigit? (c : Char) : Option ℕ :=
  if '0' ≤ c ∧ c ≤ '9' then some (c.toNat - 48) else none

/-- Digits with single underscores between them, read from the left. -/
def decimalDigits : ℕ → List Char → Option ℕ
  | acc, [] => some acc
  | _, ['_'] => none
  | acc, '_' :: c :: cs => do
    let d ← decimal? c
    decimalDigits (acc * 10 + d) cs
  | acc, c :: cs => do
    let d ← decimal? c
    decimalDigits (acc * 10 + d) cs

def unsignedInt : List Char → Option ℕ
  | [] => none
  | c :: cs => do
    let d ← decimal? c
    decimalDigits d cs

/-- The blanks `int` and `float` take off a text: the four separators below the
space are none of them, though `str.strip` takes them off. -/
def isNumberBlank (c : Char) : Bool := isSpace c && !(28 ≤ c.toNat && c.toNat ≤ 31)

/-- `sys.get_int_max_str_digits()`: the digits an integer may have in decimal
where it is read from a text or written to one. -/
def maxStrDigits : ℕ := 4300

/-- The sign of a number's text, and what follows it. -/
def splitSign : List Char → Bool × List Char
  | '-' :: cs => (true, cs)
  | '+' :: cs => (false, cs)
  | cs => (false, cs)

/-- The sign and the rest of a text that `int` reads. -/
def numberText (s : String) : Bool × List Char := splitSign (stripWith isNumberBlank s.toList)

/-- The digits the text begins with, where they are written as a number's. -/
def leadingDigits (s : String) : ℕ :=
  let run := (numberText s).2.takeWhile fun c => (decimal? c).isSome || c == '_'
  if (unsignedInt run).isSome then run.countP (· ≠ '_') else 0

/-- `int(text)`: blanks around it, one sign, digits, and not too many of them. -/
def intOfText (s : String) : Option ℤ :=
  if maxStrDigits < leadingDigits s then none
  else
    let (negative, digits) := numberText s
    (unsignedInt digits).map fun n => if negative then -(n : ℤ) else n

/-- A number in decimal, padded with zeros to a width. -/
def zeroPad (width n : ℕ) : String :=
  let ds := Nat.toDigits 10 n
  String.ofList (List.replicate (width - ds.length) '0' ++ ds)

/-- A list of plain texts, as the language prints it. -/
def listText (xs : List String) : String :=
  "[" ++ String.intercalate ", " (xs.map fun x => "'" ++ x ++ "'") ++ "]"

end PrinterV1.Python
