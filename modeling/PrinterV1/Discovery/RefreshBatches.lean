import PrinterV1.Discovery.SeededOrder

/-!
# Refresh batches

One evaluation batch is chosen from the registry rows that were not evaluated
before: a share of the latest mints, a share of the persisted ones, and a refill
of what a short share leaves over. Both shares are at least one row, so a batch
of one row becomes two where both kinds are there; every other batch has the
size it was asked for.
-/

namespace PrinterV1.Discovery

variable {ρ : Type*}

/-- `xs[a:b]`, for bounds that are not negative. -/
def slice (xs : List ρ) (a b : ℤ) : List ρ := (xs.take b.toNat).drop a.toNat

theorem slice_zero (xs : List ρ) (b : ℤ) : slice xs 0 b = xs.take b.toNat := rfl

/-- A slice continues the one that ends where it starts. -/
theorem take_append_slice (xs : List ρ) {a r : ℤ} (hr : 0 ≤ r) :
    xs.take a.toNat ++ slice xs a (a + r) = xs.take (a + r).toNat := by
  have hle : a.toNat ≤ (a + r).toNat := Int.toNat_le_toNat (by omega)
  have htake : xs.take a.toNat = (xs.take (a + r).toNat).take a.toNat := by
    rw [List.take_take, min_eq_left hle]
  rw [slice, htake, List.take_append_drop]

theorem length_slice (xs : List ρ) {a b : ℤ} :
    (slice xs a b).length = min b.toNat xs.length - a.toNat := by
  rw [slice, List.length_drop, List.length_take]

/-- The two shares and the refills. -/
def mixedBatch (latest persisted : List ρ) (maxCandidates : ℤ) : List ρ :=
  let latestCap := max 1 (maxCandidates / 2)
  let persistedCap := max 1 (maxCandidates - latestCap)
  let selected := slice latest 0 latestCap ++ slice persisted 0 persistedCap
  let remaining := maxCandidates - selected.length
  let (selected, remaining) :=
    if 0 < remaining then
      let selected := selected ++ slice latest latestCap (latestCap + remaining)
      (selected, maxCandidates - selected.length)
    else (selected, remaining)
  if 0 < remaining then selected ++ slice persisted persistedCap (persistedCap + remaining)
  else selected

/-- The batch of the two kinds in their seeded orders. -/
def chosenBatch (latest persisted : List ρ) (maxCandidates : ℤ) : List ρ :=
  if latest.isEmpty || persisted.isEmpty then
    slice (if latest.isEmpty then persisted else latest) 0 maxCandidates
  else mixedBatch latest persisted maxCandidates

/-- `_bounded_refresh_rows` -/
def boundedRefreshRows (D : Digests) (mintIdentity : ρ → String) (rows : List ρ)
    (latestMints : List String) (cycleSeed : String) (maxCandidates : ℤ)
    (excludeMints : List String) : List ρ :=
  if maxCandidates ≤ 0 then []
  else
    let filtered := rows.filter fun row => mintIdentity row ∉ excludeMints
    let latest := sortBy mintIdentity (filtered.filter fun row => mintIdentity row ∈ latestMints)
    let persisted := sortBy mintIdentity (filtered.filter fun row => mintIdentity row ∉ latestMints)
    let latest := fisherYates D latest (cycleSeed ++ "|REFRESH_LATEST")
    let persisted := fisherYates D persisted (cycleSeed ++ "|REFRESH_PERSISTED")
    chosenBatch latest persisted maxCandidates

/-- The front of a list is continued behind another one. -/
theorem append_slice_perm (xs ys : List ρ) {a r : ℤ} (hr : 0 ≤ r) :
    ((xs.take a.toNat ++ ys) ++ slice xs a (a + r)).Perm (xs.take (a + r).toNat ++ ys) := by
  rw [← take_append_slice xs hr, List.append_assoc, List.append_assoc]
  exact List.perm_append_comm.append_left _

/-- A mixed batch is the front of either kind, each with one row at least, and
together the rows asked for, or two. -/
theorem mixedBatch_fronts {latest persisted : List ρ} {n : ℤ} (hn : 1 ≤ n)
    (hlatest : latest ≠ []) (hpersisted : persisted ≠ []) :
    ∃ k m, (mixedBatch latest persisted n).Perm (latest.take k ++ persisted.take m) ∧
      1 ≤ k ∧ 1 ≤ m ∧
      ((mixedBatch latest persisted n).length : ℤ) =
        min (max 2 n) (latest.length + persisted.length) := by
  have hl : 0 < latest.length := List.length_pos_iff.mpr hlatest
  have hp : 0 < persisted.length := List.length_pos_iff.mpr hpersisted
  unfold mixedBatch
  dsimp only
  set a := max 1 (n / 2) with ha
  set b := max 1 (n - a) with hb
  rw [slice_zero, slice_zero]
  set shares := latest.take a.toNat ++ persisted.take b.toNat with hshares
  have hlength : shares.length = min a.toNat latest.length + min b.toNat persisted.length := by
    simp [hshares]
  by_cases hr : 0 < n - shares.length
  · rw [if_pos hr]
    dsimp only
    set r := n - (shares.length : ℤ)
    set refilled := shares ++ slice latest a (a + r) with hrefilled
    have hperm : refilled.Perm (latest.take (a + r).toNat ++ persisted.take b.toNat) :=
      append_slice_perm latest _ hr.le
    have hrefilledLength : refilled.length =
        min (a + r).toNat latest.length + min b.toNat persisted.length := by
      simpa using hperm.length_eq
    by_cases hr' : 0 < n - refilled.length
    · rw [if_pos hr']
      set r' := n - (refilled.length : ℤ)
      have hfull : (refilled ++ slice persisted b (b + r')).Perm
          (latest.take (a + r).toNat ++ persisted.take (b + r').toNat) := by
        rw [← take_append_slice persisted hr'.le, ← List.append_assoc]
        exact hperm.append_right _
      refine ⟨(a + r).toNat, (b + r').toNat, hfull, by omega, by omega, ?_⟩
      have hfullLength := hfull.length_eq
      simp only [List.length_append, List.length_take] at hfullLength ⊢
      omega
    · rw [if_neg hr']
      exact ⟨(a + r).toNat, b.toNat, hperm, by omega, by omega, by omega⟩
  · rw [if_neg hr]
    dsimp only
    rw [if_neg hr]
    exact ⟨a.toNat, b.toNat, List.Perm.refl _, by omega, by omega, by omega⟩

/-- A batch is the front of either kind, and together the rows asked for; where
both kinds are there it has a row of each. -/
theorem chosenBatch_fronts (latest persisted : List ρ) {n : ℤ} (hn : 1 ≤ n) :
    ∃ k m, (chosenBatch latest persisted n).Perm (latest.take k ++ persisted.take m) ∧
      (latest ≠ [] → persisted ≠ [] → 1 ≤ k ∧ 1 ≤ m) ∧
      ((chosenBatch latest persisted n).length : ℤ) =
        min (if latest ≠ [] ∧ persisted ≠ [] then max 2 n else n)
          (latest.length + persisted.length) := by
  rcases eq_or_ne latest [] with rfl | hlatest
  · refine ⟨0, n.toNat, ?_, fun h => absurd rfl h, ?_⟩ <;> simp [chosenBatch, slice_zero]
    omega
  · rcases eq_or_ne persisted [] with rfl | hpersisted
    · refine ⟨n.toNat, 0, ?_, fun _ h => absurd rfl h, ?_⟩ <;>
        simp [chosenBatch, slice_zero, hlatest]
      omega
    · obtain ⟨k, m, hfronts, hk, hm, hlength⟩ := mixedBatch_fronts hn hlatest hpersisted
      have hchosen : chosenBatch latest persisted n = mixedBatch latest persisted n := by
        simp [chosenBatch, hlatest, hpersisted]
      rw [hchosen, if_pos ⟨hlatest, hpersisted⟩]
      exact ⟨k, m, hfronts, fun _ _ => ⟨hk, hm⟩, hlength⟩

section Batch

variable (mintIdentity : ρ → String) (rows : List ρ) (latestMints excludeMints : List String)

/-- The row was not evaluated before. -/
def Available (row : ρ) : Prop := row ∈ rows ∧ mintIdentity row ∉ excludeMints

/-- Rows of either kind are available. -/
def BothKinds : Prop :=
  (∃ row, Available mintIdentity rows excludeMints row ∧ mintIdentity row ∈ latestMints) ∧
    ∃ row, Available mintIdentity rows excludeMints row ∧ mintIdentity row ∉ latestMints

/-- What a batch of `maxCandidates` rows is: that many available rows, or all of
them, no mint twice, and a row of either kind where there is room for both. -/
structure ExactBatch (maxCandidates : ℤ) (batch : List ρ) : Prop where
  length_eq : (batch.length : ℤ) =
    min maxCandidates (rows.filter fun row => mintIdentity row ∉ excludeMints).length
  distinct : (batch.map mintIdentity).Nodup
  available : ∀ row ∈ batch, Available mintIdentity rows excludeMints row
  bothKinds : 2 ≤ maxCandidates → BothKinds mintIdentity rows latestMints excludeMints →
    (∃ row ∈ batch, mintIdentity row ∈ latestMints) ∧ ∃ row ∈ batch, mintIdentity row ∉ latestMints

/-- The batch is exact, and it is the batch of the rows in any order. -/
def ExactRefresh (D : Digests) (cycleSeed : String) (maxCandidates : ℤ) : Prop :=
  ExactBatch mintIdentity rows latestMints excludeMints maxCandidates
      (boundedRefreshRows D mintIdentity rows latestMints cycleSeed maxCandidates excludeMints) ∧
    ∀ rows', rows'.Perm rows →
      boundedRefreshRows D mintIdentity rows' latestMints cycleSeed maxCandidates excludeMints =
        boundedRefreshRows D mintIdentity rows latestMints cycleSeed maxCandidates excludeMints

end Batch

section Refresh

variable {mintIdentity : ρ → String} {rows rows' : List ρ} {latestMints excludeMints : List String}
variable {D : Digests} {cycleSeed : String} {maxCandidates : ℤ}

/-- Rows with distinct mints are sorted to one list, whichever are kept. -/
theorem sortBy_filter_eq_of_perm (hdistinct : (rows.map mintIdentity).Nodup)
    (h : rows'.Perm rows) (p : ρ → Bool) :
    sortBy mintIdentity (rows'.filter p) = sortBy mintIdentity (rows.filter p) := by
  apply sortBy_eq_of_perm (h.filter p)
  intro a ha b hb hab
  have ha' := h.mem_iff.mp (List.mem_filter.mp ha).1
  have hb' := h.mem_iff.mp (List.mem_filter.mp hb).1
  exact List.inj_on_of_nodup_map hdistinct ha' hb' hab

/-- The order of the rows is lost. -/
theorem boundedRefreshRows_eq_of_perm (hdistinct : (rows.map mintIdentity).Nodup)
    (h : rows'.Perm rows) :
    boundedRefreshRows D mintIdentity rows' latestMints cycleSeed maxCandidates excludeMints =
      boundedRefreshRows D mintIdentity rows latestMints cycleSeed maxCandidates excludeMints := by
  unfold boundedRefreshRows
  simp only [List.filter_filter, sortBy_filter_eq_of_perm hdistinct h]

theorem mem_filter_available {p : ρ → Prop} [DecidablePred p] {row : ρ} :
    row ∈ (rows.filter fun row => mintIdentity row ∉ excludeMints).filter (fun row => p row) ↔
      Available mintIdentity rows excludeMints row ∧ p row := by
  rw [List.mem_filter, List.mem_filter, Available]
  simp

/-- What the fronts of the latest and of the persisted rows make of a batch. -/
theorem exactBatch_of_fronts {latest persisted batch : List ρ} {k m : ℕ}
    (hdistinct : (rows.map mintIdentity).Nodup)
    (hlatest : latest.Perm ((rows.filter fun row => mintIdentity row ∉ excludeMints).filter
      fun row => mintIdentity row ∈ latestMints))
    (hpersisted : persisted.Perm ((rows.filter fun row => mintIdentity row ∉ excludeMints).filter
      fun row => mintIdentity row ∉ latestMints))
    (hbatch : batch.Perm (latest.take k ++ persisted.take m))
    (hlength : (batch.length : ℤ) =
      min maxCandidates (rows.filter fun row => mintIdentity row ∉ excludeMints).length)
    (hfull : latest ≠ [] → persisted ≠ [] → 1 ≤ k ∧ 1 ≤ m) :
    ExactBatch mintIdentity rows latestMints excludeMints maxCandidates batch := by
  constructor
  · exact hlength
  · have hall : ((latest ++ persisted).map mintIdentity).Nodup := by
      have hsplit : (latest ++ persisted).Perm
          (rows.filter fun row => mintIdentity row ∉ excludeMints) := by
        apply (hlatest.append hpersisted).trans
        simpa using List.filter_append_perm (fun row => decide (mintIdentity row ∈ latestMints))
          (rows.filter fun row => mintIdentity row ∉ excludeMints)
      apply (hsplit.map mintIdentity).nodup_iff.mpr
      exact hdistinct.sublist (List.filter_sublist.map mintIdentity)
    apply (hbatch.map mintIdentity).nodup_iff.mpr
    exact hall.sublist
      (((List.take_sublist k latest).append (List.take_sublist m persisted)).map mintIdentity)
  · intro row hrow
    rcases List.mem_append.mp (hbatch.mem_iff.mp hrow) with h | h
    · exact (mem_filter_available.mp (hlatest.mem_iff.mp (List.mem_of_mem_take h))).1
    · exact (mem_filter_available.mp (hpersisted.mem_iff.mp (List.mem_of_mem_take h))).1
  · rintro _ ⟨⟨a, ha, halatest⟩, b, hb, hblatest⟩
    have hmemLatest : a ∈ latest := hlatest.mem_iff.mpr (mem_filter_available.mpr ⟨ha, halatest⟩)
    have hmemPersisted : b ∈ persisted :=
      hpersisted.mem_iff.mpr (mem_filter_available.mpr ⟨hb, hblatest⟩)
    obtain ⟨hk, hm⟩ := hfull (List.ne_nil_of_mem hmemLatest) (List.ne_nil_of_mem hmemPersisted)
    obtain ⟨x, xs, rfl⟩ := List.exists_cons_of_ne_nil (List.ne_nil_of_mem hmemLatest)
    obtain ⟨y, ys, rfl⟩ := List.exists_cons_of_ne_nil (List.ne_nil_of_mem hmemPersisted)
    obtain ⟨k, rfl⟩ := Nat.exists_eq_add_of_le' hk
    obtain ⟨m, rfl⟩ := Nat.exists_eq_add_of_le' hm
    have hx := mem_filter_available.mp (hlatest.mem_iff.mp List.mem_cons_self)
    have hy := mem_filter_available.mp (hpersisted.mem_iff.mp List.mem_cons_self)
    exact ⟨⟨x, hbatch.mem_iff.mpr (by simp), hx.2⟩, y, hbatch.mem_iff.mpr (by simp), hy.2⟩

theorem bothKinds_iff {latest persisted : List ρ}
    (hlatest : latest.Perm ((rows.filter fun row => mintIdentity row ∉ excludeMints).filter
      fun row => mintIdentity row ∈ latestMints))
    (hpersisted : persisted.Perm ((rows.filter fun row => mintIdentity row ∉ excludeMints).filter
      fun row => mintIdentity row ∉ latestMints)) :
    BothKinds mintIdentity rows latestMints excludeMints ↔ latest ≠ [] ∧ persisted ≠ [] := by
  simp only [ne_eq, List.eq_nil_iff_forall_not_mem, not_forall, not_not, hlatest.mem_iff,
    hpersisted.mem_iff, mem_filter_available, BothKinds]

/-- A refresh batch is exact, whatever the order of the rows, unless it is to
have one row and both kinds are there. -/
theorem boundedRefreshRows_exact_iff (hdistinct : (rows.map mintIdentity).Nodup)
    (hmax : 1 ≤ maxCandidates) :
    ExactRefresh mintIdentity rows latestMints excludeMints D cycleSeed maxCandidates ↔
      ¬(maxCandidates = 1 ∧ BothKinds mintIdentity rows latestMints excludeMints) := by
  have horder : ∀ rows' : List ρ, rows'.Perm rows →
      boundedRefreshRows D mintIdentity rows' latestMints cycleSeed maxCandidates excludeMints =
        boundedRefreshRows D mintIdentity rows latestMints cycleSeed maxCandidates excludeMints :=
    fun rows' h => boundedRefreshRows_eq_of_perm hdistinct h
  set available := rows.filter fun row => mintIdentity row ∉ excludeMints with havailable
  set latest := fisherYates D
    (sortBy mintIdentity (available.filter fun row => mintIdentity row ∈ latestMints))
    (cycleSeed ++ "|REFRESH_LATEST") with hlatestDef
  set persisted := fisherYates D
    (sortBy mintIdentity (available.filter fun row => mintIdentity row ∉ latestMints))
    (cycleSeed ++ "|REFRESH_PERSISTED") with hpersistedDef
  have hlatest : latest.Perm (available.filter fun row => mintIdentity row ∈ latestMints) :=
    (fisherYates_perm D _ _).trans (sortBy_perm _ _)
  have hpersisted : persisted.Perm (available.filter fun row => mintIdentity row ∉ latestMints) :=
    (fisherYates_perm D _ _).trans (sortBy_perm _ _)
  have hsum : latest.length + persisted.length = available.length := by
    have hsplit := List.filter_append_perm
      (fun row => decide (mintIdentity row ∈ latestMints)) available
    have htotal := ((hlatest.append hpersisted).trans (by simpa using hsplit)).length_eq
    simpa using htotal
  have hbatch : boundedRefreshRows D mintIdentity rows latestMints cycleSeed maxCandidates
      excludeMints = chosenBatch latest persisted maxCandidates := by
    rw [boundedRefreshRows, if_neg (by omega)]
  rw [ExactRefresh, and_iff_left horder, hbatch, bothKinds_iff hlatest hpersisted]
  obtain ⟨k, m, hfronts, hfull, hlength⟩ := chosenBatch_fronts latest persisted hmax
  have htotal : (latest.length : ℤ) + persisted.length = available.length := by omega
  rw [htotal] at hlength
  constructor
  · rintro hexact ⟨hone, hlatestFull, hpersistedFull⟩
    rw [hexact.length_eq, if_pos ⟨hlatestFull, hpersistedFull⟩] at hlength
    have hl := List.length_pos_iff.mpr hlatestFull
    have hp := List.length_pos_iff.mpr hpersistedFull
    omega
  · intro hroom
    apply exactBatch_of_fronts hdistinct hlatest hpersisted hfronts _ hfull
    rw [hlength]
    congr 1
    split_ifs with hboth
    · have hne : maxCandidates ≠ 1 := fun hone => hroom ⟨hone, hboth⟩
      omega
    · rfl

end Refresh

/-- A batch of two rows has a latest and a persisted one. -/
theorem boundedRefreshRows_exact_pair :
    ExactRefresh id ["A", "B", "C"] ["A"] [] firstChoices "seed" 2 := by
  have htwo : ¬((2 : ℤ) = 1 ∧ BothKinds id ["A", "B", "C"] ["A"] []) := fun h => by
    simpa using h.1
  exact (boundedRefreshRows_exact_iff (by decide) (by decide)).mpr htwo

/-- A batch of one row, where a latest and a persisted row are left, has two. -/
theorem boundedRefreshRows_not_exact_single :
    ¬ExactRefresh id ["A", "B"] ["A"] [] firstChoices "seed" 1 := by
  intro hexact
  have hlength : (boundedRefreshRows firstChoices id ["A", "B"] ["A"] "seed" 1 []).length = 2 := by
    decide
  have hone := hexact.1.length_eq
  rw [hlength] at hone
  exact absurd hone (by decide)

end PrinterV1.Discovery
