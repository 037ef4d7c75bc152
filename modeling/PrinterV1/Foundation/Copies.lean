import Mathlib.Data.List.Perm.Basic
import Mathlib.Tactic.Common

/-!
# The copies of one key

A loop that holds the first good copy of a key and gives the key up at a copy
that differs from it, but keeps nothing of the bad copies before. Where a key has
one good value and bad copies as well, what stands at the end depends on which
copy came first, and nowhere else.
-/

namespace PrinterV1

/-- What a loop keeps of one key. -/
inductive Standing (α : Type*)
  | unseen
  | held (a : α)
  | conflicting

variable {α : Type*} [DecidableEq α] (good : α → Bool)

/-- One more copy. -/
def Standing.see : Standing α → α → Standing α
  | .unseen, x => if good x then .held x else .unseen
  | .held a, x => if a = x then .held a else .conflicting
  | .conflicting, _ => .conflicting

def standing (xs : List α) : Standing α := xs.foldl (Standing.see good) .unseen

variable {good}

theorem foldl_conflicting (xs : List α) :
    xs.foldl (Standing.see good) .conflicting = .conflicting := by
  induction xs with
  | nil => rfl
  | cons x xs ih => exact ih

theorem foldl_held (a : α) (xs : List α) :
    xs.foldl (Standing.see good) (.held a) = if ∀ x ∈ xs, x = a then .held a else .conflicting := by
  induction xs with
  | nil => simp
  | cons x xs ih =>
    rw [List.foldl_cons, Standing.see]
    by_cases hx : a = x
    · subst hx
      simp [ih]
    · rw [if_neg hx, foldl_conflicting, if_neg]
      intro h
      exact hx (h x List.mem_cons_self).symm

/-- Bad copies in front say nothing. -/
theorem standing_bad_append {xs : List α} (h : ∀ x ∈ xs, good x = false) (ys : List α) :
    standing good (xs ++ ys) = standing good ys := by
  induction xs with
  | nil => rfl
  | cons x xs ih =>
    have hx : good x = false := h x List.mem_cons_self
    have hsee : Standing.see good .unseen x = .unseen := by simp [Standing.see, hx]
    rw [standing, List.cons_append, List.foldl_cons, hsee]
    exact ih fun y hy => h y (List.mem_cons_of_mem x hy)

theorem standing_bad {xs : List α} (h : ∀ x ∈ xs, good x = false) : standing good xs = .unseen := by
  have happend := standing_bad_append h []
  rwa [List.append_nil] at happend

theorem standing_good_cons {a : α} (ha : good a = true) (xs : List α) :
    standing good (a :: xs) = if ∀ x ∈ xs, x = a then .held a else .conflicting := by
  have hsee : Standing.see good .unseen a = .held a := by simp [Standing.see, ha]
  rw [standing, List.foldl_cons, hsee, foldl_held]

/-- Two good values conflict in every order. -/
theorem standing_conflicting {a b : α} (ha : good a = true) (hb : good b = true) (hne : a ≠ b)
    (xs : List α) (hmem : a ∈ xs) (hmem' : b ∈ xs) : standing good xs = .conflicting := by
  induction xs with
  | nil => simp at hmem
  | cons x xs ih =>
    by_cases hx : good x = true
    · rw [standing_good_cons hx, if_neg]
      intro hall
      have heq : ∀ y ∈ x :: xs, y = x := by
        intro y hy
        rcases List.mem_cons.mp hy with rfl | hy
        · rfl
        · exact hall y hy
      exact hne ((heq a hmem).trans (heq b hmem').symm)
    · have hxa : a ≠ x := fun h => hx (h ▸ ha)
      have hxb : b ≠ x := fun h => hx (h ▸ hb)
      have hbad : ∀ y ∈ [x], good y = false := by simpa using hx
      rw [← List.singleton_append, standing_bad_append hbad]
      exact ih (List.mem_of_ne_of_mem hxa hmem) (List.mem_of_ne_of_mem hxb hmem')

theorem standing_held {a : α} (ha : good a = true) {xs : List α} (hmem : a ∈ xs)
    (hall : ∀ x ∈ xs, x = a) : standing good xs = .held a := by
  cases xs with
  | nil => simp at hmem
  | cons x xs =>
    obtain rfl := hall x List.mem_cons_self
    rw [standing_good_cons ha, if_pos fun y hy => hall y (List.mem_cons_of_mem x hy)]

/-- A key of one good value has no bad copies. -/
def Unmixed (good : α → Bool) (xs : List α) : Prop :=
  ∀ a ∈ xs, good a = true → ∀ x ∈ xs, good x = false → ∃ b ∈ xs, good b = true ∧ b ≠ a

/-- What stands of an unmixed key: nothing, its only value, or a conflict. -/
theorem Unmixed.cases {xs : List α} (h : Unmixed good xs) :
    (∀ x ∈ xs, good x = false) ∨ (∃ a ∈ xs, good a = true ∧ ∀ x ∈ xs, x = a) ∨
      ∃ a ∈ xs, ∃ b ∈ xs, good a = true ∧ good b = true ∧ a ≠ b := by
  by_cases hbad : ∀ x ∈ xs, good x = false
  · exact .inl hbad
  right
  push Not at hbad
  obtain ⟨a, ha, hgood⟩ := hbad
  rw [ne_eq, Bool.not_eq_false] at hgood
  by_cases hother : ∃ b ∈ xs, good b = true ∧ b ≠ a
  · obtain ⟨b, hb, hgood', hne⟩ := hother
    exact .inr ⟨a, ha, b, hb, hgood, hgood', hne.symm⟩
  · refine .inl ⟨a, ha, hgood, ?_⟩
    intro x hx
    by_contra hne
    by_cases hx' : good x = true
    · exact hother ⟨x, hx, hx', hne⟩
    · exact hother (h a ha hgood x hx (by simpa using hx'))

/-- Of an unmixed key the same stands in every order. -/
theorem Unmixed.standing_eq {xs ys : List α} (h : Unmixed good xs) (hperm : ys.Perm xs) :
    standing good ys = standing good xs := by
  rcases h.cases with hbad | ⟨a, ha, hgood, hall⟩ | ⟨a, ha, b, hb, hgood, hgood', hne⟩
  · rw [standing_bad hbad, standing_bad fun x hx => hbad x (hperm.mem_iff.mp hx)]
  · rw [standing_held hgood ha hall,
      standing_held hgood (hperm.mem_iff.mpr ha) fun x hx => hall x (hperm.mem_iff.mp hx)]
  · rw [standing_conflicting hgood hgood' hne xs ha hb,
      standing_conflicting hgood hgood' hne ys (hperm.mem_iff.mpr ha) (hperm.mem_iff.mpr hb)]

/-- The good copies behind the bad ones, and in front of them. -/
theorem standing_bad_good (bads goods : List α) (hbads : ∀ x ∈ bads, good x = false)
    (hgoods : ∀ x ∈ goods, good x = true) {a : α}
    (h : standing good (goods ++ bads) = .held a) : standing good (bads ++ goods) = .held a := by
  rw [standing_bad_append hbads]
  cases goods with
  | nil =>
    rw [List.nil_append, standing_bad hbads] at h
    cases h
  | cons g goods =>
    have hg : good g = true := hgoods g List.mem_cons_self
    rw [List.cons_append, standing_good_cons hg] at h
    by_cases hall : ∀ x ∈ goods ++ bads, x = g
    · rw [if_pos hall] at h
      rw [standing_good_cons hg, if_pos fun x hx => hall x (List.mem_append_left _ hx)]
      exact h
    · rw [if_neg hall] at h
      cases h

/-- A bad copy behind the only good value is a conflict, and in front of it is none. -/
theorem standing_mixed (bads goods : List α) (hbads : ∀ x ∈ bads, good x = false)
    {a x : α} (ha : good a = true) (hmem : a ∈ goods) (hall : ∀ y ∈ goods, y = a) (hx : x ∈ bads) :
    standing good (bads ++ goods) = .held a ∧ standing good (goods ++ bads) = .conflicting := by
  constructor
  · rw [standing_bad_append hbads, standing_held ha hmem hall]
  · cases goods with
    | nil => simp at hmem
    | cons g goods =>
      obtain rfl := hall g List.mem_cons_self
      rw [List.cons_append, standing_good_cons ha, if_neg]
      intro hsame
      have hxa := hsame x (List.mem_append_right _ hx)
      have hbad := hbads x hx
      rw [hxa, ha] at hbad
      cases hbad

end PrinterV1
