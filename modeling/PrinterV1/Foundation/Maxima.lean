import Mathlib.Data.List.Perm.Basic
import Mathlib.Order.Basic
import Mathlib.Order.Lattice
import Mathlib.Tactic.Common

/-!
# The first largest member

`List.maxOn?` takes the first member of a list with the largest key. Which member
that is depends on the order of the list where several share the key: any of them
can be brought to the front.
-/

namespace PrinterV1.Maxima

variable {α β κ : Type} [LinearOrder κ] {key : α → κ}

/-- The member of the list has the largest key. -/
structure IsLargest (key : α → κ) (xs : List α) (x : α) : Prop where
  mem : x ∈ xs
  le : ∀ y ∈ xs, key y ≤ key x

theorem isLargest_of_maxOn? {xs : List α} {x : α} (h : xs.maxOn? key = some x) :
    IsLargest key xs x := by
  constructor
  · exact List.maxOn?_mem h
  · intro y hy
    have hle := List.le_apply_get_maxOn?_of_mem (f := key) hy
    simpa [h] using hle

theorem maxOn?_eq_none_iff {xs : List α} : xs.maxOn? key = none ↔ xs = [] := by
  rw [← Option.not_isSome_iff_eq_none, List.isSome_maxOn?_iff, not_not]

theorem exists_isLargest (key : α → κ) {xs : List α} (h : xs ≠ []) : ∃ x, IsLargest key xs x := by
  obtain ⟨x, hx⟩ := Option.isSome_iff_exists.mp (List.isSome_maxOn?_iff (f := key).mpr h)
  exact ⟨x, isLargest_of_maxOn? hx⟩

/-- A largest member at the front is taken. -/
theorem maxOn?_cons_of_le {x : α} {xs : List α} (h : ∀ y ∈ xs, key y ≤ key x) :
    (x :: xs).maxOn? key = some x := by
  rw [List.maxOn?_cons]
  cases hrest : xs.maxOn? key with
  | none => rfl
  | some y =>
    have hle := h y (List.maxOn?_mem hrest)
    rw [Option.elim_some, maxOn_eq_left hle]

theorem maxOn?_map (g : β → α) (xs : List β) :
    (xs.map g).maxOn? key = (xs.maxOn? fun x => key (g x)).map g := by
  induction xs with
  | nil => rfl
  | cons x xs ih =>
    rw [List.map_cons, List.maxOn?_cons, List.maxOn?_cons, ih]
    cases xs.maxOn? fun x => key (g x) with
    | none => rfl
    | some y =>
      rw [Option.map_some, Option.elim_some, Option.elim_some, Option.map_some]
      by_cases h : key (g y) ≤ key (g x)
      · rw [maxOn_eq_left h, maxOn_eq_left (f := fun x => key (g x)) h]
      · rw [maxOn_eq_right h, maxOn_eq_right (f := fun x => key (g x)) h]

/-- What a list yields can be brought to the front of what it yields. -/
theorem exists_perm_filterMap_cons {f : β → Option α} {xs : List β} {x : α}
    (h : x ∈ xs.filterMap f) :
    ∃ (ys : List β) (rest : List α), ys.Perm xs ∧ ys.filterMap f = x :: rest := by
  obtain ⟨y, hy, hx⟩ := List.mem_filterMap.mp h
  obtain ⟨before, after, rfl⟩ := List.append_of_mem hy
  exact ⟨y :: (before ++ after), (before ++ after).filterMap f, List.perm_middle.symm,
    List.filterMap_cons_some hx⟩

theorem IsLargest.of_perm {xs ys : List α} {x : α} (h : IsLargest key xs x) (hperm : ys.Perm xs) :
    IsLargest key ys x :=
  ⟨hperm.mem_iff.mpr h.mem, fun y hy => h.le y (hperm.mem_iff.mp hy)⟩

end PrinterV1.Maxima
