import Mathlib.Data.List.Basic
import Mathlib.Tactic.Common

/-!
# Scripts of operations that can fail

A script performs its operations in order and stops at the first one that fails,
in the state that the ones before it left.
-/

namespace PrinterV1.Scripts

variable {σ α : Type*} (perform : σ → α → Option σ)

/-- The state that the script leaves, and whether it got to its end. -/
def execute : σ → List α → σ × Bool
  | s, [] => (s, true)
  | s, a :: rest =>
    match perform s a with
    | none => (s, false)
    | some s' => execute s' rest

variable {perform}

@[simp] theorem execute_nil (s : σ) : execute perform s [] = (s, true) := rfl

theorem execute_cons_none {s : σ} {a : α} (h : perform s a = none) (rest : List α) :
    execute perform s (a :: rest) = (s, false) := by
  simp [execute, h]

theorem execute_cons_some {s s' : σ} {a : α} (h : perform s a = some s') (rest : List α) :
    execute perform s (a :: rest) = execute perform s' rest := by
  simp [execute, h]

/-- A script goes on where its first part got to its end. -/
theorem execute_append_ok {xs ys : List α} : ∀ {s s' : σ}, execute perform s xs = (s', true) →
    execute perform s (xs ++ ys) = execute perform s' ys := by
  induction xs with
  | nil =>
    intro s s' h
    obtain ⟨rfl, _⟩ := Prod.mk.inj h
    rfl
  | cons a xs ih =>
    intro s s' h
    cases ha : perform s a with
    | none =>
      rw [execute_cons_none ha] at h
      cases h
    | some s₁ =>
      rw [execute_cons_some ha] at h
      rw [List.cons_append, execute_cons_some ha]
      exact ih h

/-- It stops where its first part failed. -/
theorem execute_append_failed {xs : List α} (ys : List α) : ∀ {s s' : σ},
    execute perform s xs = (s', false) → execute perform s (xs ++ ys) = (s', false) := by
  induction xs with
  | nil =>
    intro s s' h
    cases h
  | cons a xs ih =>
    intro s s' h
    cases ha : perform s a with
    | none =>
      rw [execute_cons_none ha] at h
      rw [List.cons_append, execute_cons_none ha, h]
    | some s₁ =>
      rw [execute_cons_some ha] at h
      rw [List.cons_append, execute_cons_some ha]
      exact ih h

end PrinterV1.Scripts
