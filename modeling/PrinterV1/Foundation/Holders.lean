import Mathlib.Logic.Function.Basic
import Mathlib.Tactic.Common

/-!
# Holders of a slot

Parties that each have a slot, and those of them that hold theirs. No slot has
two holders. When one party takes a step the others stay as they are, so the
step keeps this where a party that comes to hold found its slot without a
holder.
-/

namespace PrinterV1.Holders

variable {ι σ : Type*} {slot : ι → σ} {hold hold' : ι → Prop}

/-- No two parties hold one slot. -/
def Exclusive (hold : ι → Prop) (slot : ι → σ) : Prop :=
  ∀ i j, hold i → hold j → slot i = slot j → i = j

theorem exclusive_of_none (h : ∀ i, ¬hold i) : Exclusive hold slot :=
  fun i _ hi => absurd hi (h i)

/-- A step of one party keeps the slots. -/
theorem Exclusive.step (h : Exclusive hold slot) (k : ι) (hothers : ∀ i, i ≠ k → hold' i → hold i)
    (hnew : hold' k → hold k ∨ ∀ i, i ≠ k → hold i → slot i ≠ slot k) :
    Exclusive hold' slot := by
  have hfree : ∀ i, i ≠ k → hold' i → hold' k → slot i ≠ slot k := by
    intro i hik hi hk hslot
    rcases hnew hk with hold_k | hfree
    · exact hik (h i k (hothers i hik hi) hold_k hslot)
    · exact hfree i hik (hothers i hik hi) hslot
  intro i j hi hj hslot
  by_cases hik : i = k
  · by_cases hjk : j = k
    · rw [hik, hjk]
    · subst hik
      exact absurd hslot.symm (hfree j hjk hj hi)
  · by_cases hjk : j = k
    · subst hjk
      exact absurd hslot (hfree i hik hi hj)
    · exact h i j (hothers i hik hi) (hothers j hjk hj) hslot

/-- A step that lets no party come to hold keeps the slots. -/
theorem Exclusive.mono (h : Exclusive hold slot) (hle : ∀ i, hold' i → hold i) :
    Exclusive hold' slot :=
  fun i j hi hj => h i j (hle i hi) (hle j hj)

end PrinterV1.Holders
