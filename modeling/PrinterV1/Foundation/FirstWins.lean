import Mathlib.Data.List.Dedup
import Mathlib.Data.List.Perm.Basic

/-!
# The first element of each key

A pass over a list that keeps an element when its key was not seen before. What
it keeps has pairwise different keys and every key of the list; where the
elements of one key agree on a view, the views it keeps are the views of the
list, each once, whatever the order of the list. Where elements clash rather
than share a key, the pass keeps elements that do not clash, and an element it
leaves out clashes with one it keeps.
-/

namespace PrinterV1.FirstWins

variable {α κ β : Type*} [DecidableEq κ] (key : α → κ)

/-- The elements whose key was not seen before. -/
def firsts : List κ → List α → List α
  | _, [] => []
  | seen, x :: xs =>
    if key x ∈ seen then firsts seen xs else x :: firsts (key x :: seen) xs

variable {key}

@[simp] theorem firsts_nil (seen : List κ) : firsts key seen [] = [] := rfl

theorem firsts_cons (seen : List κ) (x : α) (xs : List α) :
    firsts key seen (x :: xs) =
      if key x ∈ seen then firsts key seen xs else x :: firsts key (key x :: seen) xs := rfl

theorem firsts_sublist (xs : List α) : ∀ seen, (firsts key seen xs).Sublist xs := by
  induction xs with
  | nil => intro seen; exact List.Sublist.refl _
  | cons x xs ih =>
    intro seen
    rw [firsts_cons]
    split_ifs with hx
    · exact (ih seen).cons x
    · exact (ih (key x :: seen)).cons_cons x

theorem key_mem_firsts {k : κ} (xs : List α) : ∀ seen,
    k ∈ (firsts key seen xs).map key ↔ k ∉ seen ∧ k ∈ xs.map key := by
  induction xs with
  | nil => intro seen; simp
  | cons x xs ih =>
    intro seen
    rw [firsts_cons]
    by_cases hx : key x ∈ seen
    · rw [if_pos hx, ih, List.map_cons, List.mem_cons]
      constructor
      · rintro ⟨hk, hmem⟩
        exact ⟨hk, .inr hmem⟩
      · rintro ⟨hk, rfl | hmem⟩
        · exact absurd hx hk
        · exact ⟨hk, hmem⟩
    · rw [if_neg hx]
      simp only [List.map_cons, List.mem_cons, ih, not_or]
      constructor
      · rintro (rfl | ⟨⟨_, hk⟩, hmem⟩)
        · exact ⟨hx, .inl rfl⟩
        · exact ⟨hk, .inr hmem⟩
      · rintro ⟨hk, heq | hmem⟩
        · exact .inl heq
        · by_cases heq : k = key x
          · exact .inl heq
          · exact .inr ⟨⟨heq, hk⟩, hmem⟩

theorem nodup_firsts (xs : List α) : ∀ seen, ((firsts key seen xs).map key).Nodup := by
  induction xs with
  | nil => intro seen; exact List.nodup_nil
  | cons x xs ih =>
    intro seen
    rw [firsts_cons]
    split_ifs with hx
    · exact ih seen
    · have hfresh : key x ∉ (firsts key (key x :: seen) xs).map key := fun h =>
        ((key_mem_firsts xs _).mp h).1 List.mem_cons_self
      exact List.nodup_cons.mpr ⟨hfresh, ih _⟩

/-- Where a view tells the keys apart and the elements of one key agree on it, the pass keeps each
view once. -/
theorem map_firsts_perm [DecidableEq β] {view : α → β} {xs : List α}
    (hagree : ∀ a ∈ xs, ∀ b ∈ xs, key a = key b → view a = view b)
    (hkey : ∀ a b, view a = view b → key a = key b) :
    ((firsts key [] xs).map view).Perm (xs.map view).dedup := by
  have hnodup : ((firsts key [] xs).map view).Nodup := by
    apply List.Nodup.map_on _ ((nodup_firsts xs []).of_map)
    intro a ha b hb hview
    exact List.inj_on_of_nodup_map (nodup_firsts xs []) ha hb (hkey a b hview)
  rw [List.perm_ext_iff_of_nodup hnodup (List.nodup_dedup _)]
  intro v
  rw [List.mem_dedup]
  constructor
  · intro hv
    obtain ⟨a, ha, rfl⟩ := List.mem_map.mp hv
    exact List.mem_map_of_mem ((firsts_sublist xs []).subset ha)
  · intro hv
    obtain ⟨a, ha, rfl⟩ := List.mem_map.mp hv
    have hkept : key a ∈ (firsts key [] xs).map key :=
      (key_mem_firsts xs []).mpr ⟨List.not_mem_nil, List.mem_map_of_mem ha⟩
    obtain ⟨b, hb, hsame⟩ := List.mem_map.mp hkept
    have hview : view b = view a := hagree b ((firsts_sublist xs []).subset hb) a ha hsame
    exact List.mem_map.mpr ⟨b, hb, hview⟩

/-- What was taken from a list and what is left of it, told apart by a view. -/
theorem perm_append_remainder {view : α → β} {taken xs : List α} {left : α → Bool}
    (hview : (xs.map view).Nodup) (htaken : taken.Nodup) (hsub : taken ⊆ xs)
    (hleft : ∀ x, left x = true ↔ view x ∉ taken.map view) :
    (taken ++ xs.filter left).Perm xs := by
  have hnodup : (taken ++ xs.filter left).Nodup := by
    apply List.Nodup.append htaken (hview.of_map.filter _)
    intro x hx hrest
    exact (hleft x).mp (List.mem_filter.mp hrest).2 (List.mem_map_of_mem hx)
  rw [List.perm_ext_iff_of_nodup hnodup hview.of_map]
  intro x
  rw [List.mem_append, List.mem_filter, hleft]
  constructor
  · rintro (hx | ⟨hx, _⟩)
    · exact hsub hx
    · exact hx
  · intro hx
    by_cases hmem : view x ∈ taken.map view
    · obtain ⟨y, hy, hsame⟩ := List.mem_map.mp hmem
      have heq : y = x := List.inj_on_of_nodup_map hview (hsub hy) hx hsame
      exact .inl (heq ▸ hy)
    · exact .inr ⟨hx, hmem⟩

section Clashes

variable (clash : α → α → Prop) [DecidableRel clash]

/-- The elements that clash with none that was kept. -/
def kept : List α → List α → List α
  | _, [] => []
  | before, x :: xs =>
    if ∃ k ∈ before, clash k x then kept before xs else x :: kept (x :: before) xs

variable {clash}

@[simp] theorem kept_nil (before : List α) : kept clash before [] = [] := rfl

theorem kept_cons (before : List α) (x : α) (xs : List α) :
    kept clash before (x :: xs) =
      if ∃ k ∈ before, clash k x then kept clash before xs
      else x :: kept clash (x :: before) xs := rfl

theorem kept_sublist (xs : List α) : ∀ before, (kept clash before xs).Sublist xs := by
  induction xs with
  | nil => intro before; exact List.Sublist.refl _
  | cons x xs ih =>
    intro before
    rw [kept_cons]
    split_ifs with hx
    · exact (ih before).cons x
    · exact (ih (x :: before)).cons_cons x

theorem not_clash_kept (xs : List α) : ∀ before, ∀ k ∈ before, ∀ x ∈ kept clash before xs,
    ¬clash k x := by
  induction xs with
  | nil => intro before k _ x hx; simp at hx
  | cons y xs ih =>
    intro before k hk x hx
    rw [kept_cons] at hx
    split_ifs at hx with hy
    · exact ih before k hk x hx
    · rcases List.mem_cons.mp hx with rfl | hx
      · intro hclash
        exact hy ⟨k, hk, hclash⟩
      · exact ih (y :: before) k (List.mem_cons_of_mem y hk) x hx

theorem pairwise_kept (xs : List α) : ∀ before,
    (kept clash before xs).Pairwise fun a b => ¬clash a b := by
  induction xs with
  | nil => intro before; exact List.Pairwise.nil
  | cons x xs ih =>
    intro before
    rw [kept_cons]
    split_ifs with hx
    · exact ih before
    · have hfirst : ∀ y ∈ kept clash (x :: before) xs, ¬clash x y :=
        not_clash_kept xs (x :: before) x List.mem_cons_self
      exact List.pairwise_cons.mpr ⟨hfirst, ih (x :: before)⟩

/-- What is left out clashes with something kept. -/
theorem mem_kept_or_clash {x : α} (xs : List α) : ∀ before, x ∈ xs →
    x ∈ kept clash before xs ∨ ∃ k ∈ before ++ kept clash before xs, clash k x := by
  induction xs with
  | nil => intro before hx; cases hx
  | cons y xs ih =>
    intro before hx
    rw [kept_cons]
    split_ifs with hy
    · rcases List.mem_cons.mp hx with rfl | hx
      · obtain ⟨k, hk, hclash⟩ := hy
        exact .inr ⟨k, List.mem_append_left _ hk, hclash⟩
      · exact ih before hx
    · rcases List.mem_cons.mp hx with rfl | hx
      · exact .inl List.mem_cons_self
      · obtain hkept | ⟨k, hk, hclash⟩ := ih (y :: before) hx
        · exact .inl (List.mem_cons_of_mem y hkept)
        · refine .inr ⟨k, ?_, hclash⟩
          simp only [List.mem_append, List.mem_cons] at hk ⊢
          tauto

theorem kept_singleton (before : List α) (x : α) :
    kept clash before [x] = if ∃ k ∈ before, clash k x then [] else [x] := rfl

theorem kept_eq_nil_iff (xs : List α) : ∀ before,
    kept clash before xs = [] ↔ ∀ x ∈ xs, ∃ k ∈ before, clash k x := by
  induction xs with
  | nil => intro before; simp
  | cons x xs ih =>
    intro before
    rw [kept_cons]
    split_ifs with hx
    · rw [ih, List.forall_mem_cons, and_iff_right hx]
    · simp [hx]

/-- Two elements are kept where one goes with the first. -/
theorem two_le_length_kept_iff (hrefl : ∀ a, clash a a) {xs : List α} :
    2 ≤ (kept clash [] xs).length ↔ ∃ a, xs.head? = some a ∧ ∃ b ∈ xs, ¬clash a b := by
  cases xs with
  | nil => simp
  | cons a rest =>
    have hrest : kept clash [a] rest ≠ [] ↔ ∃ b ∈ a :: rest, ¬clash a b := by
      rw [ne_eq, kept_eq_nil_iff]
      simp [hrefl a]
    rw [kept_cons, if_neg (by simp), List.length_cons]
    simp only [List.head?_cons, Option.some.injEq, exists_eq_left']
    rw [← hrest, ← List.length_pos_iff]
    omega

/-- What is kept depends on the members of what was kept before. -/
theorem kept_congr (xs : List α) : ∀ {before before' : List α},
    (∀ k, k ∈ before ↔ k ∈ before') → kept clash before xs = kept clash before' xs := by
  induction xs with
  | nil => intro before before' _; rfl
  | cons x xs ih =>
    intro before before' h
    have hcons : ∀ k, k ∈ x :: before ↔ k ∈ x :: before' := by
      intro k
      rw [List.mem_cons, List.mem_cons, h k]
    simp only [kept_cons, h, ih h, ih hcons]

theorem kept_append (xs ys : List α) : ∀ before,
    kept clash before (xs ++ ys) =
      kept clash before xs ++ kept clash (before ++ kept clash before xs) ys := by
  induction xs with
  | nil => intro before; simp
  | cons x xs ih =>
    intro before
    rw [List.cons_append, kept_cons, kept_cons]
    split_ifs with hx
    · exact ih before
    · rw [ih, List.cons_append]
      have hsame : ∀ k, k ∈ x :: (before ++ kept clash (x :: before) xs) ↔
          k ∈ before ++ x :: kept clash (x :: before) xs := by
        intro k
        simp only [List.mem_cons, List.mem_append]
        tauto
      rw [kept_congr ys hsame, List.cons_append]

/-- A loop that keeps the new elements of every pass keeps those of the whole
list. -/
theorem foldl_kept {σ ι : Type*} {step : σ → ι → σ} (view : σ → List α) (items : ι → List α)
    (hstep : ∀ s x, view (step s x) = view s ++ kept clash (view s) (items x)) (xs : List ι) :
    ∀ s, view (xs.foldl step s) = view s ++ kept clash (view s) (xs.flatMap items) := by
  induction xs with
  | nil => intro s; simp
  | cons x xs ih =>
    intro s
    rw [List.foldl_cons, ih, hstep, List.flatMap_cons, kept_append, List.append_assoc]

/-- An element that comes first is kept. -/
theorem mem_kept_head (x : α) (xs : List α) : x ∈ kept clash [] (x :: xs) := by
  simp [kept_cons]

end Clashes

end PrinterV1.FirstWins
