import Mathlib.Data.List.Perm.Basic
import Mathlib.Data.List.Nodup

/-!
# Shuffles by a sequence of choices

The Fisher–Yates shuffle: from the last position down, each position is
exchanged with a chosen one at or below it. Whatever is chosen, the result is a
permutation, and it depends on the positions of the elements alone. Every
permutation is the result of some choices.
-/

namespace PrinterV1.Shuffles

variable {α β : Type*}

/-- `xs[i], xs[j] = xs[j], xs[i]` -/
def swap (xs : List α) (i j : ℕ) : List α :=
  match xs[i]?, xs[j]? with
  | some a, some b => (xs.set i b).set j a
  | _, _ => xs

theorem swap_perm (xs : List α) (i j : ℕ) : (swap xs i j).Perm xs := by
  unfold swap
  split
  · rename_i a b ha hb
    obtain ⟨hi, rfl⟩ := List.getElem?_eq_some_iff.mp ha
    obtain ⟨hj, rfl⟩ := List.getElem?_eq_some_iff.mp hb
    exact List.set_set_perm hi hj
  · exact List.Perm.refl xs

@[simp] theorem length_swap (xs : List α) (i j : ℕ) : (swap xs i j).length = xs.length :=
  (swap_perm xs i j).length_eq

theorem swap_map (f : α → β) (xs : List α) (i j : ℕ) :
    swap (xs.map f) i j = (swap xs i j).map f := by
  unfold swap
  rw [List.getElem?_map, List.getElem?_map]
  cases xs[i]? with
  | none => rfl
  | some a =>
    cases xs[j]? with
    | none => rfl
    | some b => simp [List.map_set]

/-- The loop over the positions from `index` down to 1; `counter` counts the
choices made before. -/
def shuffleFrom (choice : ℕ → ℕ) : ℕ → ℕ → List α → List α
  | 0, _, xs => xs
  | index + 1, counter, xs =>
    shuffleFrom choice index (counter + 1) (swap xs (index + 1) (choice counter % (index + 2)))

def shuffle (choice : ℕ → ℕ) (xs : List α) : List α := shuffleFrom choice (xs.length - 1) 0 xs

theorem shuffleFrom_perm (choice : ℕ → ℕ) (index : ℕ) :
    ∀ (counter : ℕ) (xs : List α), (shuffleFrom choice index counter xs).Perm xs := by
  induction index with
  | zero => intro counter xs; exact List.Perm.refl xs
  | succ index ih => intro counter xs; exact (ih (counter + 1) _).trans (swap_perm xs _ _)

theorem shuffleFrom_map (choice : ℕ → ℕ) (f : α → β) (index : ℕ) :
    ∀ (counter : ℕ) (xs : List α),
      shuffleFrom choice index counter (xs.map f) =
        (shuffleFrom choice index counter xs).map f := by
  induction index with
  | zero => intro counter xs; rfl
  | succ index ih => intro counter xs; rw [shuffleFrom, shuffleFrom, swap_map, ih]

theorem shuffle_perm (choice : ℕ → ℕ) (xs : List α) : (shuffle choice xs).Perm xs :=
  shuffleFrom_perm choice _ _ xs

/-- A shuffle moves positions: it goes through a map of the elements. -/
theorem shuffle_map (choice : ℕ → ℕ) (f : α → β) (xs : List α) :
    shuffle choice (xs.map f) = (shuffle choice xs).map f := by
  rw [shuffle, List.length_map, shuffleFrom_map, shuffle]

@[simp] theorem mem_shuffle {choice : ℕ → ℕ} {xs : List α} {x : α} :
    x ∈ shuffle choice xs ↔ x ∈ xs :=
  (shuffle_perm choice xs).mem_iff

@[simp] theorem length_shuffle (choice : ℕ → ℕ) (xs : List α) :
    (shuffle choice xs).length = xs.length :=
  (shuffle_perm choice xs).length_eq

theorem swap_append {xs : List α} {i j : ℕ} (hi : i < xs.length) (hj : j < xs.length)
    (ys : List α) : swap (xs ++ ys) i j = swap xs i j ++ ys := by
  simp only [swap, List.getElem?_append_left hi, List.getElem?_append_left hj,
    List.getElem?_eq_getElem hi, List.getElem?_eq_getElem hj]
  rw [List.set_append_left _ _ hi, List.set_append_left _ _ (by rwa [List.length_set])]

/-- A shuffle of a front leaves the rest alone. -/
theorem shuffleFrom_append (choice : ℕ → ℕ) (ys : List α) (index : ℕ) :
    ∀ (counter : ℕ) (xs : List α), index < xs.length →
      shuffleFrom choice index counter (xs ++ ys) = shuffleFrom choice index counter xs ++ ys := by
  induction index with
  | zero => intro counter xs _; rfl
  | succ index ih =>
    intro counter xs hindex
    have hmod : choice counter % (index + 2) < index + 2 := Nat.mod_lt _ (by omega)
    have hchoice : choice counter % (index + 2) < xs.length := by omega
    rw [shuffleFrom, shuffleFrom, swap_append hindex hchoice, ih _ _ (by simp; omega)]

/-- The choices made before do not matter. -/
theorem shuffleFrom_congr {choice choice' : ℕ → ℕ} (index : ℕ) :
    ∀ (counter : ℕ) (xs : List α), (∀ c, counter ≤ c → choice c = choice' c) →
      shuffleFrom choice index counter xs = shuffleFrom choice' index counter xs := by
  induction index with
  | zero => intro counter xs _; rfl
  | succ index ih =>
    intro counter xs h
    rw [shuffleFrom, shuffleFrom, h counter (Nat.le_refl counter)]
    exact ih _ _ fun c hc => h c (by omega)

/-- Any member can be exchanged into the last position. -/
theorem exists_swap_last {xs : List α} {n : ℕ} {y : α} (hlength : xs.length = n + 1)
    (hy : y ∈ xs) : ∃ j ≤ n, ∃ zs, swap xs n j = zs ++ [y] := by
  obtain ⟨j, hj, hyj⟩ := List.mem_iff_getElem.mp hy
  refine ⟨j, by omega, (swap xs n j).dropLast, ?_⟩
  have hn : n < xs.length := by omega
  have hlast : (swap xs n j)[n]? = some y := by
    simp only [swap, List.getElem?_eq_getElem hn, List.getElem?_eq_getElem hj]
    by_cases hjn : j = n
    · subst hjn
      rw [List.getElem?_set_self (by simpa using hn), hyj]
    · rw [List.getElem?_set_ne hjn, List.getElem?_set_self hn, hyj]
  have hne : swap xs n j ≠ [] := by
    intro hnil
    rw [hnil] at hlast
    cases hlast
  have hgetLast : (swap xs n j).getLast hne = y := by
    rw [List.getLast_eq_getElem]
    apply Option.some.inj
    rw [← List.getElem?_eq_getElem, length_swap, hlength]
    exact hlast
  rw [← hgetLast, List.dropLast_append_getLast]

theorem exists_choices (n : ℕ) : ∀ (counter : ℕ) {xs ys : List α}, xs.length = n + 1 →
    ys.Perm xs → ∃ choice, shuffleFrom choice n counter xs = ys := by
  induction n with
  | zero =>
    intro counter xs ys hlength hperm
    obtain ⟨x, rfl⟩ := List.length_eq_one_iff.mp hlength
    exact ⟨id, (List.perm_singleton.mp hperm).symm⟩
  | succ n ih =>
    intro counter xs ys hlength hperm
    have hysLength : ys.length = n + 2 := hperm.length_eq.trans hlength
    have hne : ys ≠ [] := List.ne_nil_of_length_pos (by omega)
    have hsplit := List.dropLast_append_getLast hne
    obtain ⟨j, hj, zs, hswap⟩ :=
      exists_swap_last hlength (hperm.mem_iff.mp (List.getLast_mem hne))
    have hzs : ys.dropLast.Perm zs := by
      have hall : (ys.dropLast ++ [ys.getLast hne]).Perm (zs ++ [ys.getLast hne]) := by
        rw [hsplit, ← hswap]
        exact hperm.trans (swap_perm xs _ j).symm
      exact (List.perm_append_right_iff _).mp hall
    have hzsLength : zs.length = n + 1 := by
      rw [← hzs.length_eq, List.length_dropLast, hysLength]
      rfl
    obtain ⟨choice, hchoice⟩ := ih (counter + 1) hzsLength hzs
    refine ⟨Function.update choice counter j, ?_⟩
    rw [shuffleFrom, Function.update_self, Nat.mod_eq_of_lt (by omega), hswap,
      shuffleFrom_append _ _ _ _ _ (by omega)]
    have hrest : shuffleFrom (Function.update choice counter j) n (counter + 1) zs =
        shuffleFrom choice n (counter + 1) zs :=
      shuffleFrom_congr n _ _ fun c hc => Function.update_of_ne (by omega) _ _
    rw [hrest, hchoice, hsplit]

/-- Every permutation is the result of some choices. -/
theorem exists_shuffle_eq {xs ys : List α} (h : ys.Perm xs) : ∃ choice, shuffle choice xs = ys := by
  cases xs with
  | nil => exact ⟨id, h.eq_nil.symm⟩
  | cons x xs => exact exists_choices xs.length 0 (List.length_cons) h

end PrinterV1.Shuffles
