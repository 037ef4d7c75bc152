import Mathlib.Data.Int.Notation
import Mathlib.Data.List.Basic
import Mathlib.Tactic.Common

/-!
# Gaps between points in order

The differences of neighbours in a list of points, and the open intervals no
point lies in. Between two ends every gap is the length of such an interval,
and every such interval is no longer than some gap, so a bound on lengths holds
of the gaps exactly when it holds of the free intervals.
-/

namespace PrinterV1.Gaps

/-- The differences of neighbours, from a first point on. -/
def gaps : ℤ → List ℤ → List ℤ
  | _, [] => []
  | p, t :: ts => (t - p) :: gaps t ts

/-- No point lies strictly between. -/
def Free (ts : List ℤ) (a b : ℤ) : Prop := ∀ t ∈ ts, ¬(a < t ∧ t < b)

theorem Free.mono {ts us : List ℤ} {a b : ℤ} (h : Free us a b) (hsub : ts ⊆ us) : Free ts a b :=
  fun t ht => h t (hsub ht)

/-- A gap is the length of a free interval. -/
theorem exists_free_of_gap {stop g : ℤ} {ts : List ℤ} : ∀ {start : ℤ}, start ≤ stop →
    ts.Pairwise (· ≤ ·) → (∀ t ∈ ts, start ≤ t ∧ t ≤ stop) → g ∈ gaps start (ts ++ [stop]) →
      ∃ a b, start ≤ a ∧ a ≤ b ∧ b ≤ stop ∧ Free ts a b ∧ b - a = g := by
  induction ts with
  | nil =>
    intro start hle _ _ hg
    have hg : g = stop - start := by simpa [gaps] using hg
    exact ⟨start, stop, Int.le_refl _, hle, Int.le_refl _, by simp [Free], hg.symm⟩
  | cons t ts ih =>
    intro start hle hsorted hin hg
    obtain ⟨hfirst, hrest⟩ := List.pairwise_cons.mp hsorted
    obtain ⟨hlow, hhigh⟩ := hin t List.mem_cons_self
    rw [List.cons_append, gaps, List.mem_cons] at hg
    rcases hg with rfl | hg
    · refine ⟨start, t, Int.le_refl _, hlow, hhigh, ?_, rfl⟩
      intro u hu hbetween
      rcases List.mem_cons.mp hu with rfl | hu
      · omega
      · have := hfirst u hu
        omega
    · have hin' : ∀ u ∈ ts, t ≤ u ∧ u ≤ stop := fun u hu =>
        ⟨hfirst u hu, (hin u (List.mem_cons_of_mem t hu)).2⟩
      obtain ⟨a, b, ha, hab, hb, hfree, hlength⟩ := ih hhigh hrest hin' hg
      refine ⟨a, b, by omega, hab, hb, ?_, hlength⟩
      intro u hu hbetween
      rcases List.mem_cons.mp hu with rfl | hu
      · omega
      · exact hfree u hu hbetween

/-- A free interval is no longer than some gap. -/
theorem exists_gap_of_free {stop a b : ℤ} {ts : List ℤ} : ∀ {start : ℤ}, start ≤ a → a ≤ b →
    b ≤ stop → Free ts a b → ∃ g ∈ gaps start (ts ++ [stop]), b - a ≤ g := by
  induction ts with
  | nil =>
    intro start ha _ hb _
    exact ⟨stop - start, by simp [gaps], by omega⟩
  | cons t ts ih =>
    intro start ha hab hb hfree
    have hrest : Free ts a b := hfree.mono (List.subset_cons_self t ts)
    have ht := hfree t List.mem_cons_self
    by_cases hle : t ≤ a
    · obtain ⟨g, hg, hlength⟩ := ih hle hab hb hrest
      exact ⟨g, List.mem_cons_of_mem _ hg, hlength⟩
    · exact ⟨t - start, List.mem_cons_self, by omega⟩

/-- A property of lengths that shorter ones inherit holds of the gaps exactly when it holds of the
free intervals. -/
theorem forall_gap_iff {P : ℤ → Prop} (hdown : ∀ {g h}, h ≤ g → P g → P h) {start stop : ℤ}
    {ts : List ℤ} (hle : start ≤ stop) (hsorted : ts.Pairwise (· ≤ ·))
    (hin : ∀ t ∈ ts, start ≤ t ∧ t ≤ stop) :
    (∀ g ∈ gaps start (ts ++ [stop]), P g) ↔
      ∀ a b, start ≤ a → a ≤ b → b ≤ stop → Free ts a b → P (b - a) := by
  constructor
  · intro h a b ha hab hb hfree
    obtain ⟨g, hg, hlength⟩ := exists_gap_of_free ha hab hb hfree
    exact hdown hlength (h g hg)
  · intro h g hg
    obtain ⟨a, b, ha, hab, hb, hfree, rfl⟩ := exists_free_of_gap hle hsorted hin hg
    exact h a b ha hab hb hfree

/-- Points moved to the nearest point of an interval leave the same parts of it free. -/
theorem free_clamp_iff {start stop a b : ℤ} {ts : List ℤ} (ha : start ≤ a) (hb : b ≤ stop) :
    Free (ts.map fun t => min (max t start) stop) a b ↔ Free ts a b := by
  unfold Free
  simp only [List.forall_mem_map]
  constructor
  · intro h t ht hbetween
    exact h t ht (by omega)
  · intro h t ht hbetween
    exact h t ht (by omega)

/-- The greatest of the numbers has a property that smaller ones inherit when all have it. -/
theorem of_max_iff {P : ℤ → Prop} (hdown : ∀ {g h}, h ≤ g → P g → P h) {gs : List ℤ}
    (hne : gs ≠ []) : P (gs.max?.getD 0) ↔ ∀ g ∈ gs, P g := by
  cases hmax : gs.max? with
  | none => exact absurd (List.max?_eq_none_iff.mp hmax) hne
  | some m =>
    obtain ⟨hmem, hle⟩ := List.max?_eq_some_iff.mp hmax
    exact ⟨fun h g hg => hdown (hle g hg) h, fun h => h m hmem⟩

end PrinterV1.Gaps
