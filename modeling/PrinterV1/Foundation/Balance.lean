import Mathlib.Data.List.MinMax
import Mathlib.Logic.Relation
import Mathlib.Tactic.Common

/-!
# Least keys and balanced counters

The element of a list with the least key does not depend on the order of the
list where keys are distinct. Two counters of which every step increments one
that is not ahead stay as close as they were, or next to each other.
-/

namespace PrinterV1.Balance

section Least

variable {α β : Type*} [LinearOrder β] {f g : α → β} {xs ys : List α}

theorem argmin_eq_none_of_perm (h : xs.Perm ys) (hnone : xs.argmin f = none) :
    ys.argmin g = none := by
  rw [List.argmin_eq_none] at hnone ⊢
  rw [hnone] at h
  exact h.nil_eq.symm

/-- Distinct keys make the least element independent of the order. -/
theorem argmin_eq_of_perm (h : xs.Perm ys) (hsame : ∀ x ∈ xs, f x = g x)
    (hdistinct : ∀ x ∈ xs, ∀ y ∈ xs, f x = f y → x = y) : xs.argmin f = ys.argmin g := by
  cases hx : xs.argmin f with
  | none => exact (argmin_eq_none_of_perm h hx).symm
  | some m =>
    cases hy : ys.argmin g with
    | none =>
      rw [argmin_eq_none_of_perm h.symm hy] at hx
      cases hx
    | some n =>
      have hm : m ∈ xs := List.argmin_mem hx
      have hn : n ∈ xs := h.mem_iff.mpr (List.argmin_mem hy)
      have hle : f m ≤ f n := List.le_of_mem_argmin hn hx
      have hge : g n ≤ g m := List.le_of_mem_argmin (h.mem_iff.mp hm) hy
      rw [← hsame n hn, ← hsame m hm] at hge
      rw [hdistinct m hm n hn (le_antisymm hle hge)]

end Least

/-- How far apart two counters are. -/
def drift (c : ℤ × ℤ) : ℕ := (c.1 - c.2).natAbs

/-- One of two counters that is not ahead of the other is incremented, or none is. -/
inductive Serves : ℤ × ℤ → ℤ × ℤ → Prop
  | idle (c) : Serves c c
  | first {a b : ℤ} (h : a ≤ b) : Serves (a, b) (a + 1, b)
  | second {a b : ℤ} (h : b ≤ a) : Serves (a, b) (a, b + 1)

theorem Serves.drift_le {c c' : ℤ × ℤ} (h : Serves c c') : drift c' ≤ max (drift c) 1 := by
  cases h with
  | idle => exact le_max_left _ _
  | first h =>
    unfold drift
    omega
  | second h =>
    unfold drift
    omega

/-- Along a run the counters drift no further apart than they were, or than one. -/
theorem drift_le_of_run {c c' : ℤ × ℤ} (h : Relation.ReflTransGen Serves c c') :
    drift c' ≤ max (drift c) 1 := by
  induction h with
  | refl => exact le_max_left _ _
  | tail _ hstep ih => exact hstep.drift_le.trans (max_le ih (le_max_right _ _))

end PrinterV1.Balance
