import Mathlib.Data.List.Dedup
import Mathlib.Data.List.Perm.Subperm
import Mathlib.Data.List.Sort
import Mathlib.Data.String.Basic

/-!
# Sorting by a key

A stable sort by a key in a linear order. Lists that are permutations of each
other are sorted to one list when the key tells their elements apart.
-/

namespace PrinterV1

variable {α κ : Type*} [LinearOrder κ]

/-- `sorted(xs, key=key)` -/
def sortBy (key : α → κ) (xs : List α) : List α := xs.insertionSort fun a b => key a ≤ key b

theorem sortBy_perm (key : α → κ) (xs : List α) : (sortBy key xs).Perm xs :=
  List.perm_insertionSort _ xs

@[simp] theorem mem_sortBy {key : α → κ} {xs : List α} {x : α} : x ∈ sortBy key xs ↔ x ∈ xs :=
  (sortBy_perm key xs).mem_iff

/-- Some of the rows, sorted, and some of these, are some of the rows. -/
theorem filter_sortBy_filter_subperm (key : α → κ) (p q : α → Bool) (xs : List α) :
    List.Subperm ((sortBy key (xs.filter p)).filter q) xs := by
  refine (List.filter_sublist.subperm).trans ?_
  exact (sortBy_perm _ _).subperm.trans List.filter_sublist.subperm

theorem sortBy_sorted (key : α → κ) (xs : List α) :
    (sortBy key xs).Pairwise fun a b => key a ≤ key b := by
  have htotal : Std.Total fun a b : α => key a ≤ key b := ⟨fun a b => le_total (key a) (key b)⟩
  have htrans : IsTrans α fun a b : α => key a ≤ key b := ⟨fun a b c => le_trans⟩
  exact List.pairwise_insertionSort _ xs

/-- A list in order stays as it is. -/
theorem sortBy_of_sorted {key : α → κ} {xs : List α}
    (h : xs.Pairwise fun a b => key a ≤ key b) : sortBy key xs = xs := by
  have htotal : Std.Total fun a b : α => key a ≤ key b := ⟨fun a b => le_total (key a) (key b)⟩
  have htrans : IsTrans α fun a b : α => key a ≤ key b := ⟨fun a b c => le_trans⟩
  exact h.insertionSort_eq

/-- The order of the input is lost, where the key tells the elements apart. -/
theorem sortBy_eq_of_perm {key : α → κ} {xs ys : List α} (h : xs.Perm ys)
    (hkey : ∀ a ∈ xs, ∀ b ∈ xs, key a = key b → a = b) : sortBy key xs = sortBy key ys := by
  have hsame : (sortBy key xs).Perm (sortBy key ys) :=
    ((sortBy_perm key xs).trans h).trans (sortBy_perm key ys).symm
  apply List.Perm.eq_of_pairwise _ (sortBy_sorted key xs) (sortBy_sorted key ys) hsame
  intro a b ha hb hab hba
  exact hkey a (mem_sortBy.mp ha) b (h.mem_iff.mpr (mem_sortBy.mp hb)) (le_antisymm hab hba)

/-- Lists with the same keys have them sorted in the same way. -/
theorem map_sortBy_eq {key : α → κ} {xs ys : List α} (h : (xs.map key).Perm (ys.map key)) :
    (sortBy key xs).map key = (sortBy key ys).map key := by
  have hsame : ((sortBy key xs).map key).Perm ((sortBy key ys).map key) :=
    (((sortBy_perm key xs).map key).trans h).trans ((sortBy_perm key ys).map key).symm
  have hxs := List.pairwise_map.mpr (sortBy_sorted key xs)
  have hys := List.pairwise_map.mpr (sortBy_sorted key ys)
  apply List.Perm.eq_of_pairwise _ hxs hys hsame
  intro a b _ _ hab hba
  exact le_antisymm hab hba

/-- An element at the front whose key is least stays there. -/
theorem head?_sortBy_cons {key : α → κ} {x : α} {xs : List α} (h : ∀ y ∈ xs, key x ≤ key y) :
    (sortBy key (x :: xs)).head? = some x := by
  have hcons : sortBy key (x :: xs) = (sortBy key xs).orderedInsert (fun a b => key a ≤ key b) x :=
    rfl
  rw [hcons]
  cases hrest : sortBy key xs with
  | nil => rfl
  | cons y ys =>
    have hy : y ∈ xs := mem_sortBy.mp (by rw [hrest]; exact List.mem_cons_self)
    rw [List.orderedInsert, if_pos (h y hy), List.head?_cons]

/-- The head of a sorted list has the least key. -/
theorem head?_sortBy {key : α → κ} {xs : List α} {x : α} (h : (sortBy key xs).head? = some x) :
    x ∈ xs ∧ ∀ y ∈ xs, key x ≤ key y := by
  have hsorted := sortBy_sorted key xs
  obtain ⟨rest, hrest⟩ := List.head?_eq_some_iff.mp h
  rw [hrest] at hsorted
  have hmem : ∀ y, y ∈ xs ↔ y ∈ x :: rest := fun y => by rw [← hrest, mem_sortBy]
  refine ⟨(hmem x).mpr List.mem_cons_self, ?_⟩
  intro y hy
  rcases List.mem_cons.mp ((hmem y).mp hy) with rfl | hin
  · exact le_rfl
  · exact List.rel_of_pairwise_cons hsorted hin

/-- Of two elements of a list without repetitions one stands before the other, and only one. -/
theorem pair_sublist_or_swap {l : List α} {a b : α} (ha : a ∈ l) (hb : b ∈ l) (hne : a ≠ b) :
    [a, b].Sublist l ∨ [b, a].Sublist l := by
  obtain ⟨front, back, rfl⟩ := List.append_of_mem ha
  rcases List.mem_append.mp hb with hfront | hback
  · exact .inr ((List.singleton_sublist.mpr hfront).append
      (List.singleton_sublist.mpr List.mem_cons_self))
  · have hback : b ∈ back := (List.mem_cons.mp hback).resolve_left (Ne.symm hne)
    exact .inl (((List.singleton_sublist.mpr hback).cons_cons a).trans
      (List.sublist_append_right front (a :: back)))

theorem not_pair_sublist_swap {a b : α} {l : List α} (hnodup : l.Nodup)
    (h : [a, b].Sublist l) : ¬[b, a].Sublist l := by
  induction l with
  | nil => cases h
  | cons c l ih =>
    obtain ⟨hc, hnodup⟩ := List.nodup_cons.mp hnodup
    intro hswap
    cases h with
    | cons _ h =>
      cases hswap with
      | cons _ hswap => exact ih hnodup h hswap
      | cons_cons _ _ => exact hc (h.subset (by simp))
    | cons_cons _ h =>
      cases hswap with
      | cons _ hswap => exact hc (hswap.subset (by simp))
      | cons_cons _ _ => exact hc (h.subset (by simp))

/-- The element that yields the first result: of those that yield one none has a smaller key, and
of those with its key it stands first in the list. -/
theorem findSome?_sortBy {β : Type*} {key : α → κ} {xs : List α} {f : α → Option β} {b : β}
    (hnodup : xs.Nodup) (h : (sortBy key xs).findSome? f = some b) :
    ∃ x ∈ xs, f x = some b ∧ ∀ y ∈ xs, (f y).isSome = true →
      y = x ∨ key x < key y ∨ key x = key y ∧ [x, y].Sublist xs := by
  obtain ⟨front, x, back, hsplit, hx, hfront⟩ := List.findSome?_eq_some_iff.mp h
  have hsorted := sortBy_sorted key xs
  have hunique := (sortBy_perm key xs).nodup_iff.mpr hnodup
  have hmem : ∀ y, y ∈ xs ↔ y ∈ front ++ x :: back := fun y => by rw [← hsplit, mem_sortBy]
  refine ⟨x, (hmem x).mpr (by simp), hx, ?_⟩
  intro y hy hyields
  by_cases hne : y = x
  · exact .inl hne
  have hback : y ∈ back := by
    rcases List.mem_append.mp ((hmem y).mp hy) with hin | hin
    · rw [hfront y hin] at hyields
      cases hyields
    · exact (List.mem_cons.mp hin).resolve_left hne
  have hpair : [x, y].Sublist (sortBy key xs) := by
    rw [hsplit]
    exact ((List.singleton_sublist.mpr hback).cons_cons x).trans
      (List.sublist_append_right front (x :: back))
  have hle : key x ≤ key y := by
    rw [hsplit] at hsorted
    exact List.rel_of_pairwise_cons (List.pairwise_append.mp hsorted).2.1 hback
  rcases hle.lt_or_eq with hlt | heq
  · exact .inr (.inl hlt)
  · -- the sort is stable, so a tie is in the order of the list
    refine .inr (.inr ⟨heq, ?_⟩)
    rcases pair_sublist_or_swap ((hmem x).mpr (by simp)) hy (Ne.symm hne) with hfirst | hswap
    · exact hfirst
    · have hsortedSwap : [y, x].Sublist (sortBy key xs) :=
        List.pair_sublist_insertionSort (r := fun a b => key a ≤ key b) heq.ge hswap
      exact absurd hsortedSwap (not_pair_sublist_swap hunique hpair)

/-- The front of a sorted list are the least of its elements. -/
theorem take_sortBy_le {key : α → κ} {xs : List α} (n : ℕ) {a b : α}
    (ha : a ∈ (sortBy key xs).take n) (hb : b ∈ (sortBy key xs).drop n) : key a ≤ key b := by
  have hsorted := sortBy_sorted key xs
  rw [← List.take_append_drop n (sortBy key xs)] at hsorted
  exact (List.pairwise_append.mp hsorted).2.2 a ha b hb

/-- Where a property holds of a front of the list, it holds of as many elements as
it counts. -/
theorem getElem_front_iff {l : List α} {p : α → Bool}
    (hp : l.Pairwise fun a b => p b = true → p a = true) :
    ∀ {i : ℕ} (hi : i < l.length), p l[i] = true ↔ i < l.countP p := by
  induction l with
  | nil => intro i hi; cases hi
  | cons a l ih =>
    obtain ⟨hhead, hrest⟩ := List.pairwise_cons.mp hp
    intro i hi
    by_cases ha : p a = true
    · rw [List.countP_cons_of_pos ha]
      cases i with
      | zero => simpa using ha
      | succ i =>
        rw [List.getElem_cons_succ, ih hrest (Nat.lt_of_succ_lt_succ hi)]
        exact Nat.succ_lt_succ_iff.symm
    · have hnone : ∀ b ∈ a :: l, p b ≠ true := by
        intro b hb
        rcases List.mem_cons.mp hb with rfl | hb
        · exact ha
        · exact mt (hhead b hb) ha
      rw [List.countP_eq_zero.mpr hnone]
      exact iff_of_false (hnone _ (List.getElem_mem hi)) (Nat.not_lt_zero i)

section Blocks

variable {key : α → κ} {l : List α} {n : ℕ} {k : κ}

theorem front_le (hl : l.Pairwise fun a b => key a ≤ key b) (k : κ) :
    l.Pairwise fun a b => decide (key b ≤ k) = true → decide (key a ≤ k) = true := by
  refine hl.imp fun hab hb => ?_
  exact decide_eq_true (hab.trans (of_decide_eq_true hb))

theorem front_lt (hl : l.Pairwise fun a b => key a ≤ key b) (k : κ) :
    l.Pairwise fun a b => decide (key b < k) = true → decide (key a < k) = true := by
  refine hl.imp fun hab hb => ?_
  exact decide_eq_true (hab.trans_lt (of_decide_eq_true hb))

/-- The elements of a key are all among the first `n`, where those up to the key are
no more. -/
theorem mem_take_of_countP_le (hl : l.Pairwise fun a b => key a ≤ key b)
    (h : (l.countP fun x => key x ≤ k) ≤ n) {x : α} (hx : x ∈ l) (hk : key x = k) :
    x ∈ l.take n := by
  obtain ⟨i, hi, rfl⟩ := List.mem_iff_getElem.mp hx
  have hcount := (getElem_front_iff (front_le hl k) hi).mp (decide_eq_true hk.le)
  exact List.mem_take_iff_getElem.mpr ⟨i, by omega, rfl⟩

/-- None of them is, where those before the key are as many. -/
theorem not_mem_take_of_le_countP (hl : l.Pairwise fun a b => key a ≤ key b)
    (h : n ≤ l.countP fun x => key x < k) {x : α} (hk : key x = k) : x ∉ l.take n := by
  intro hx
  obtain ⟨i, hi, rfl⟩ := List.mem_take_iff_getElem.mp hx
  have hlength : i < l.length := by omega
  have hlt := (getElem_front_iff (front_lt hl k) hlength).mpr (by omega)
  exact absurd hk (of_decide_eq_true hlt).ne

/-- Otherwise some are and some are not. -/
theorem exists_take_and_drop (hl : l.Pairwise fun a b => key a ≤ key b)
    (hbefore : (l.countP fun x => key x < k) < n) (hthrough : n < l.countP fun x => key x ≤ k) :
    (∃ x ∈ l.take n, key x = k) ∧ ∃ x ∈ l.drop n, key x = k := by
  have hlength := List.countP_le_length (p := fun x => decide (key x ≤ k)) (l := l)
  have hkey : ∀ {i : ℕ} (hi : i < l.length), (l.countP fun x => key x < k) ≤ i →
      (i < l.countP fun x => key x ≤ k) → key l[i] = k := by
    intro i hi hge hlt
    have hle := (getElem_front_iff (front_le hl k) hi).mpr hlt
    have hnot := mt (getElem_front_iff (front_lt hl k) hi).mp (by omega)
    exact le_antisymm (of_decide_eq_true hle) (not_lt.mp fun hlt' => hnot (decide_eq_true hlt'))
  constructor
  · have hi : (l.countP fun x => decide (key x < k)) < l.length := by omega
    exact ⟨l[l.countP fun x => decide (key x < k)],
      List.mem_take_iff_getElem.mpr ⟨_, by omega, rfl⟩, hkey hi le_rfl (by omega)⟩
  · have hi : n < l.length := by omega
    exact ⟨l[n], List.mem_drop_iff_getElem.mpr ⟨0, by omega, by simp⟩, hkey hi hbefore.le hthrough⟩

end Blocks

/-- `sorted(set(xs))` -/
def sortedSet (xs : List κ) : List κ := sortBy id xs.dedup

theorem nodup_sortedSet (xs : List κ) : (sortedSet xs).Nodup :=
  (sortBy_perm id xs.dedup).nodup_iff.mpr (List.nodup_dedup xs)

theorem sortedSet_sortedSet (xs : List κ) :
    sortedSet (sortedSet xs) = sortedSet xs := by
  have hdedup : (sortedSet xs).dedup = sortedSet xs := (nodup_sortedSet xs).dedup
  unfold sortedSet at hdedup ⊢
  rw [hdedup]
  exact sortBy_of_sorted (sortBy_sorted _ _)

@[simp] theorem mem_sortedSet {xs : List κ} {x : κ} : x ∈ sortedSet xs ↔ x ∈ xs := by
  simp [sortedSet]

end PrinterV1
