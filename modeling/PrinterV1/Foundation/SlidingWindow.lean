import Mathlib.Data.Int.Notation
import Mathlib.Data.List.Basic
import Mathlib.Tactic.Common

/-!
# Sliding windows

Times that are taken one after the other, each only while fewer than the limit of the
ones taken before lie in the window that ends with it. Then no window of that width
holds more than the limit, wherever it starts and whatever the order of the times.
-/

namespace PrinterV1.SlidingWindow

/-- The times in the closed window of the width that starts at `t`. -/
def within (times : List ℤ) (t width : ℤ) : List ℤ :=
  times.filter fun x => t ≤ x ∧ x ≤ t + width

/-- The times that are no longer ago than the width. -/
def recent (times : List ℤ) (now width : ℤ) : List ℤ := times.filter fun x => now - width ≤ x

/-- No window of the width holds more than the limit. -/
def Limited (width limit : ℤ) (times : List ℤ) : Prop :=
  ∀ t, ((within times t width).length : ℤ) ≤ limit

theorem limited_nil {width limit : ℤ} (h : 0 ≤ limit) : Limited width limit [] := by
  intro t
  simpa [within] using h

/-- A time is taken while fewer than the limit are recent. -/
theorem Limited.append {width limit : ℤ} {times : List ℤ} (h : Limited width limit times) {now : ℤ}
    (hroom : ((recent times now width).length : ℤ) < limit) :
    Limited width limit (times ++ [now]) := by
  intro t
  have hold := h t
  simp only [within, List.filter_append, List.length_append] at hold ⊢
  by_cases hnow : t ≤ now ∧ now ≤ t + width
  · -- the others of the window are recent
    have hsub : ((within times t width).length : ℤ) ≤ (recent times now width).length := by
      refine Int.ofNat_le.mpr (List.Sublist.length_le (List.monotone_filter_right _ fun x hx => ?_))
      simp only [decide_eq_true_eq] at hx ⊢
      omega
    simp only [within] at hsub
    simp only [hnow, List.filter_cons, List.filter_nil, decide_true, and_self, if_true,
      List.length_cons, List.length_nil]
    omega
  · simpa [hnow] using hold

end PrinterV1.SlidingWindow
