import Mathlib.Data.Nat.Digits.Lemmas
import Mathlib.Data.List.DropRight
import Mathlib.Tactic.Common

/-!
# Digits with leading zeros

A list of digits, the most significant one first, is its leading zeros and the
digits of the number that it stands for.
-/

namespace PrinterV1.Digits

variable {b : ℕ}

/-- The number that a list of digits stands for, the most significant digit first. -/
def value (b : ℕ) (ds : List ℕ) : ℕ := ds.foldl (fun n d => n * b + d) 0

/-- The digits of a number, the most significant one first. -/
def ofNat (b n : ℕ) : List ℕ := (Nat.digits b n).reverse

theorem value_eq_ofDigits (b : ℕ) (ds : List ℕ) : value b ds = Nat.ofDigits b ds.reverse := by
  rw [value, Nat.ofDigits_eq_foldr, List.foldr_reverse]
  congr 1
  funext n d
  simp only [Nat.cast_id]
  rw [add_comm, mul_comm]

@[simp] theorem value_ofNat (b n : ℕ) : value b (ofNat b n) = n := by
  rw [value_eq_ofDigits, ofNat, List.reverse_reverse, Nat.ofDigits_digits]

/-- Zeros in front do not count. -/
theorem value_replicate_append (b k : ℕ) (ds : List ℕ) :
    value b (List.replicate k 0 ++ ds) = value b ds := by
  rw [value_eq_ofDigits, value_eq_ofDigits, List.reverse_append, List.reverse_replicate,
    Nat.ofDigits_append_replicate_zero]

theorem mem_ofNat_lt (hb : 1 < b) {n d : ℕ} (h : d ∈ ofNat b n) : d < b :=
  Nat.digits_lt_base hb (List.mem_reverse.mp h)

/-- The digits of a number begin with no zero. -/
theorem dropWhile_ofNat (b n : ℕ) :
    (ofNat b n).dropWhile (fun d => d = 0) = ofNat b n := by
  rw [List.dropWhile_eq_self_iff]
  intro hpos
  have hne : Nat.digits b n ≠ [] := by
    intro hnil
    simp [ofNat, hnil] at hpos
  have hn : n ≠ 0 := Nat.digits_ne_nil_iff_ne_zero.mp hne
  have hfirst : (ofNat b n)[0] = (Nat.digits b n).getLast hne := by
    simp [ofNat, List.getLast_eq_getElem]
  rw [hfirst]
  simpa using Nat.getLast_digit_ne_zero b hn

theorem takeWhile_ofNat (b n : ℕ) : (ofNat b n).takeWhile (fun d => d = 0) = [] := by
  have h := List.takeWhile_append_dropWhile (p := fun d => decide (d = 0)) (l := ofNat b n)
  rw [dropWhile_ofNat] at h
  exact List.append_left_eq_self.mp h

/-- The digits of the number are those that remain without the leading zeros. -/
theorem ofNat_value (hb : 1 < b) {ds : List ℕ} (h : ∀ d ∈ ds, d < b) :
    ofNat b (value b ds) = ds.dropWhile fun d => d = 0 := by
  induction ds with
  | nil => simp [ofNat, value]
  | cons d ds ih =>
    have htail : ∀ x ∈ ds, x < b := fun x hx => h x (List.mem_cons_of_mem d hx)
    by_cases hd : d = 0
    · subst hd
      rw [List.dropWhile_cons_of_pos (by simp), ← ih htail]
      exact congrArg (ofNat b) (value_replicate_append b 1 ds)
    · rw [List.dropWhile_cons_of_neg (by simpa using hd), ofNat, value_eq_ofDigits,
        Nat.digits_ofDigits b hb, List.reverse_reverse]
      · intro x hx
        exact h x (List.mem_reverse.mp hx)
      · intro hne
        simpa using hd

end PrinterV1.Digits
