import PrinterV1.Discovery.AcquisitionEffects
import PrinterV1.Discovery.Admission
import PrinterV1.Discovery.Replay

/-!
# Claims on the reserve

An execution that admits a pair requalifies it: the row of the pair takes the new
certificate, its version goes up and its claim is dropped, until the manifest of
the same execution claims it anew. Every other execution leaves the row as it is.
-/

namespace PrinterV1.Discovery

open Python Faults Runs

variable {L : Library} {plan : Plan}

/-! ## What is claimed -/

/-- The certificate admits a candidate of the mint and the pool. -/
def Store.admits (store : Store) (mint pool : String) (row : CertificateRow) : Bool :=
  row.admitted && store.identities.any fun i =>
    i.candidateId = row.candidateId && i.identity.mint = mint && i.identity.pool = some pool

/-- How often the pair was admitted. -/
def Store.admissions (store : Store) (mint pool : String) : ℕ :=
  store.certificates.countP (store.admits mint pool)

/-- The manifest is persisted, and has an item with exactly the mint and the pool. -/
def Store.Claims (store : Store) (manifestId mint pool : String) : Prop :=
  (∃ m ∈ store.manifests, m.manifestId = manifestId) ∧
    ∃ row ∈ store.manifestItems, row.manifestId = manifestId ∧ row.item.mint = mint ∧
      row.item.pool = some pool

/-- The versions count the admissions, and a claim names a manifest with the pair. -/
structure ReserveLedger (store : Store) : Prop where
  versions : ∀ r ∈ store.reserve, r.reserveVersion = store.admissions r.mintIdentity r.poolAddress
  present : ∀ mint pool, 0 < store.admissions mint pool →
    ∃ r ∈ store.reserve, r.isOf mint pool = true
  claims : ∀ r ∈ store.reserve, r.reserveStatus = .claimedNeutral →
    ∃ manifestId, r.claimedManifestId = some manifestId ∧
      store.Claims manifestId r.mintIdentity r.poolAddress
  fresh : ∀ r ∈ store.reserve, r.reserveStatus = .eligibleFresh → r.claimedManifestId = none

/-- The rows of a pair. -/
def Store.pairRows (store : Store) (mint pool : String) : List ReserveRow :=
  store.reserve.filter (ReserveRow.isOf mint pool)

/-- A call leaves a pair as it is, or admits it once more; its row is then free, or claimed for
the manifest of the same execution. -/
def ReserveStep (L : Library) (db : Database) : Event → Prop
  | .outside _ => True
  | .call plan observations =>
    let store' := (db.after L (.call plan observations)).store
    ∀ mint pool,
      (store'.admissions mint pool = db.store.admissions mint pool ∧
        store'.pairRows mint pool = db.store.pairRows mint pool) ∨
      (store'.admissions mint pool = db.store.admissions mint pool + 1 ∧
        ∀ r ∈ store'.pairRows mint pool,
          (r.reserveStatus = .eligibleFresh ∧ r.claimedManifestId = none) ∨
          (r.reserveStatus = .claimedNeutral ∧ ∃ m ∈ store'.manifests,
            m.executionId = plan.executionId ∧ r.claimedManifestId = some m.manifestId))

/-! ## Rows of a pair -/

@[simp] theorem ReserveRow.isOf_iff {mint pool : String} {r : ReserveRow} :
    r.isOf mint pool = true ↔ r.mintIdentity = mint ∧ r.poolAddress = pool := by
  simp [ReserveRow.isOf]

theorem filter_map_of_apart {α : Type} {p : α → Bool} {f : α → α} {xs : List α}
    (h : ∀ x ∈ xs, f x = x ∨ p x = false ∧ p (f x) = false) :
    (xs.map f).filter p = xs.filter p := by
  induction xs with
  | nil => rfl
  | cons x xs ih =>
    have hrest := ih fun y hy => h y (List.mem_cons_of_mem _ hy)
    rcases h x List.mem_cons_self with hx | ⟨hx, hfx⟩
    · simp [List.filter_cons, hx, hrest]
    · simp [hx, hfx, hrest]

/-- The candidate is an admission of the pair. -/
def Candidate.Admits (c : Candidate) (mint pool : String) : Prop :=
  c.admitted = true ∧ c.mint = mint ∧ c.pool = some pool

instance (c : Candidate) (mint pool : String) : Decidable (c.Admits mint pool) :=
  inferInstanceAs (Decidable (_ ∧ _))

/-- The row that an admission leaves. -/
def requalifiedRow (rows : List ReserveRow) (c : Candidate) (pool : String) : ReserveRow where
  mintIdentity := c.mint
  poolAddress := pool
  currentCertificateId := c.certificateId
  currentCertificateHash := c.certificateHash
  reserveVersion :=
    ((rows.find? (ReserveRow.isOf c.mint pool)).map ReserveRow.reserveVersion).getD 0 + 1
  reserveStatus := .eligibleFresh
  issuedAt := c.issuedAt
  expiresAt := c.expiresAt
  claimedManifestId := none

theorem upsertReserve_eq (rows : List ReserveRow) (c : Candidate) (pool : String) :
    upsertReserve c pool rows =
      if rows.any (ReserveRow.isOf c.mint pool) then
        rows.map fun old =>
          if old.isOf c.mint pool then requalifiedRow rows c pool else old
      else rows ++ [requalifiedRow rows c pool] := rfl

theorem mem_upsertReserve {rows : List ReserveRow} {c : Candidate} {pool : String}
    {r : ReserveRow} : r ∈ upsertReserve c pool rows ↔
      (r ∈ rows ∧ r.isOf c.mint pool = false) ∨ r = requalifiedRow rows c pool := by
  rw [upsertReserve_eq]
  by_cases hany : rows.any (ReserveRow.isOf c.mint pool) = true
  · rw [if_pos hany, List.mem_map]
    constructor
    · rintro ⟨old, hold, rfl⟩
      cases hof : old.isOf c.mint pool with
      | true => exact Or.inr (if_pos rfl)
      | false => exact Or.inl ⟨by simpa using hold, by simpa using hof⟩
    · rintro (⟨hr, hof⟩ | rfl)
      · exact ⟨r, hr, by simp [hof]⟩
      · obtain ⟨old, hold, hof⟩ := List.any_eq_true.mp hany
        exact ⟨old, hold, if_pos hof⟩
  · rw [if_neg hany, List.mem_append, List.mem_singleton]
    refine or_congr (and_iff_left_of_imp fun hr => ?_).symm Iff.rfl
    rw [Bool.not_eq_true, List.any_eq_false] at hany
    exact Bool.not_eq_true _ ▸ hany r hr

theorem reserveAfter_of_admits {rows : List ReserveRow} {c : Candidate} {mint pool : String}
    (h : c.Admits mint pool) : reserveAfter rows c = upsertReserve c pool rows := by
  obtain ⟨hadmitted, _, hpool⟩ := h
  simp only [reserveAfter, hadmitted, hpool]

/-- The rows of a pair that is not admitted stay. -/
theorem reserveAfter_pairRows {rows : List ReserveRow} {c : Candidate} {mint pool : String}
    (h : ¬ c.Admits mint pool) :
    (reserveAfter rows c).filter (ReserveRow.isOf mint pool) =
      rows.filter (ReserveRow.isOf mint pool) := by
  unfold reserveAfter
  split
  · rename_i pool' hadmitted hpool
    have hapart : ∀ r : ReserveRow, r.isOf c.mint pool' = true → r.isOf mint pool = false := by
      intro r hr
      obtain ⟨hmint, hpool'⟩ := ReserveRow.isOf_iff.mp hr
      rw [← Bool.not_eq_true, ReserveRow.isOf_iff]
      rintro ⟨rfl, rfl⟩
      exact h ⟨hadmitted, hmint.symm, by rw [hpool, hpool']⟩
    have hnew : (requalifiedRow rows c pool').isOf mint pool = false :=
      hapart _ (ReserveRow.isOf_iff.mpr ⟨rfl, rfl⟩)
    rw [upsertReserve_eq]
    split
    · refine filter_map_of_apart fun old _ => ?_
      cases hof : old.isOf c.mint pool' with
      | true => exact Or.inr ⟨hapart old hof, by simpa using hnew⟩
      | false => exact Or.inl (by simp)
    · simp [hnew]
  · rfl

/-! ## Admissions -/

theorem admissions_congr {store store' : Store}
    (hidentities : store'.identities = store.identities)
    (hcertificates : store'.certificates = store.certificates) (mint pool : String) :
    store'.admissions mint pool = store.admissions mint pool := by
  unfold Store.admissions Store.admits
  rw [hidentities, hcertificates]

/-- Every certificate is one of a candidate. -/
def Store.Certified (store : Store) : Prop :=
  ∀ row ∈ store.certificates, ∃ i ∈ store.identities, i.candidateId = row.candidateId

/-- An identity that no certificate is about changes no count. -/
theorem admits_append {store : Store} (hcertified : store.Certified) {c : Candidate}
    (hfree : ∀ old ∈ store.identities, old.candidateId ≠ c.candidateId) (mint pool : String)
    {row : CertificateRow} (hrow : row ∈ store.certificates) :
    ({ store with identities := store.identities ++ [identityRow plan c] } : Store).admits mint pool
      row = store.admits mint pool row := by
  obtain ⟨i, hi, hid⟩ := hcertified row hrow
  have hne : c.candidateId ≠ row.candidateId := fun h => hfree i hi (hid.trans h.symm)
  simp [Store.admits, identityRow, hne]

/-- The certificate of a candidate counts where the candidate admits the pair. -/
theorem admits_certificateRow (plan : Plan) {store : Store} {c : Candidate}
    (hfree : ∀ old ∈ store.identities, old.candidateId ≠ c.candidateId) (mint pool : String) :
    ({ store with identities := store.identities ++ [identityRow plan c] } : Store).admits mint pool
      (certificateRow plan c) = decide (c.Admits mint pool) := by
  have hnone : ∀ old ∈ store.identities, (old.candidateId = c.candidateId &&
      old.identity.mint = mint && old.identity.pool = some pool) = false := by
    intro old hold
    simp [hfree old hold]
  have hany : (store.identities.any fun old => old.candidateId = c.candidateId &&
      old.identity.mint = mint && old.identity.pool = some pool) = false :=
    List.any_eq_false.mpr fun old hold => by simpa using hnone old hold
  have hown : ((store.identities ++ [identityRow plan c]).any fun old =>
      old.candidateId = c.candidateId && old.identity.mint = mint &&
        old.identity.pool = some pool) =
      (decide (c.mint = mint) && decide (c.pool = some pool)) := by
    rw [List.any_append, hany]
    simp [identityRow]
  have hadmits : (c.admitted && (decide (c.mint = mint) && decide (c.pool = some pool))) =
      decide (c.Admits mint pool) := by
    rw [Bool.eq_iff_iff]
    simp only [Bool.and_eq_true, decide_eq_true_eq]
    exact Iff.rfl
  exact (congrArg (c.admitted && ·) hown).trans hadmits

theorem insertCandidate_admissions {c : Candidate} {store store' : Store}
    (hcertified : store.Certified) (h : insertCandidate L plan store c = .ok store') :
    store'.Certified ∧ ∀ mint pool, store'.admissions mint pool =
      store.admissions mint pool + if c.Admits mint pool then 1 else 0 := by
  obtain ⟨rfl, hfree⟩ := insertCandidate_writes h
  replace hfree : ∀ old ∈ store.identities, old.candidateId ≠ c.candidateId :=
    fun old hold => (hfree old hold).1
  constructor
  · intro row hrow
    rcases List.mem_append.mp hrow with hrow | hrow
    · obtain ⟨i, hi, hid⟩ := hcertified row hrow
      exact ⟨i, List.mem_append_left _ hi, hid⟩
    · obtain rfl := List.mem_singleton.mp hrow
      exact ⟨identityRow plan c, by simp, rfl⟩
  · intro mint pool
    have hold : store.certificates.countP (Store.admits
        { store with identities := store.identities ++ [identityRow plan c] } mint pool) =
        store.certificates.countP (store.admits mint pool) :=
      List.countP_congr fun row hrow => by rw [admits_append hcertified hfree mint pool hrow]
    have hnew := admits_certificateRow plan hfree mint pool
    have hcount : (store.certificates ++ [certificateRow plan c]).countP (Store.admits
        { store with identities := store.identities ++ [identityRow plan c] } mint pool) =
        store.certificates.countP (store.admits mint pool) +
          if c.Admits mint pool then 1 else 0 := by
      rw [List.countP_append, hold, List.countP_singleton, hnew]
      simp
    exact hcount

/-- Over the candidates of an execution, the count goes up by those that admit the pair. -/
theorem insertCandidates_admissions (candidates : List Candidate) : ∀ {store store' : Store},
    store.Certified → candidates.foldlM (insertCandidate L plan) store = .ok store' →
      store'.Certified ∧ ∀ mint pool, store'.admissions mint pool =
        store.admissions mint pool + candidates.countP fun c => c.Admits mint pool := by
  induction candidates with
  | nil =>
    intro store store' hcertified h
    obtain rfl := Except.ok.inj h
    exact ⟨hcertified, fun mint pool => by simp⟩
  | cons c rest ih =>
    intro store store' hcertified h
    rw [List.foldlM_cons] at h
    obtain ⟨mid, hmid, h⟩ := bind_ok h
    obtain ⟨hcertified', hfirst⟩ := insertCandidate_admissions hcertified hmid
    obtain ⟨hcertified'', hrest⟩ := ih hcertified' h
    refine ⟨hcertified'', fun mint pool => ?_⟩
    rw [hrest, hfirst, List.countP_cons]
    simp only [decide_eq_true_eq]
    omega

/-! ## The ledger behind a candidate -/

/-- The fields of the ledger that no manifest is in. -/
structure Counted (store : Store) : Prop where
  certified : store.Certified
  versions : ∀ r ∈ store.reserve, r.reserveVersion = store.admissions r.mintIdentity r.poolAddress
  present : ∀ mint pool, 0 < store.admissions mint pool →
    ∃ r ∈ store.reserve, r.isOf mint pool = true

/-- The version of a pair, where there is one. -/
theorem Counted.version {store : Store} (h : Counted store) (mint pool : String) :
    ((store.reserve.find? (ReserveRow.isOf mint pool)).map ReserveRow.reserveVersion).getD 0 =
      store.admissions mint pool := by
  cases hfind : store.reserve.find? (ReserveRow.isOf mint pool) with
  | some r =>
    obtain ⟨hmint, hpool⟩ := ReserveRow.isOf_iff.mp (List.find?_some hfind)
    have hversion := h.versions r (List.mem_of_find?_eq_some hfind)
    rw [hmint, hpool] at hversion
    exact hversion
  | none =>
    by_contra hne
    obtain ⟨r, hr, hof⟩ := h.present mint pool (Nat.pos_of_ne_zero (Ne.symm hne))
    exact List.find?_eq_none.mp hfind r hr hof

/-- A row of the reserve behind a candidate: one from before, or the candidate's. -/
theorem mem_reserveAfter {rows : List ReserveRow} {c : Candidate} {r : ReserveRow}
    (hr : r ∈ reserveAfter rows c) :
    (r ∈ rows ∧ ¬ c.Admits r.mintIdentity r.poolAddress) ∨
      c.Admits r.mintIdentity r.poolAddress ∧ r = requalifiedRow rows c r.poolAddress := by
  by_cases hadmits : c.Admits r.mintIdentity r.poolAddress
  · rw [reserveAfter_of_admits hadmits, mem_upsertReserve] at hr
    rcases hr with ⟨_, hof⟩ | hnew
    · rw [← Bool.not_eq_true, ReserveRow.isOf_iff] at hof
      exact absurd ⟨hadmits.2.1.symm, rfl⟩ hof
    · exact Or.inr ⟨hadmits, hnew⟩
  · have hmem : r ∈ rows.filter (ReserveRow.isOf r.mintIdentity r.poolAddress) := by
      rw [← reserveAfter_pairRows hadmits]
      exact List.mem_filter.mpr ⟨hr, ReserveRow.isOf_iff.mpr ⟨rfl, rfl⟩⟩
    exact Or.inl ⟨List.mem_of_mem_filter hmem, hadmits⟩

theorem exists_reserveAfter {rows : List ReserveRow} {c : Candidate} {mint pool : String}
    (h : c.Admits mint pool ∨ ∃ r ∈ rows, r.isOf mint pool = true) :
    ∃ r ∈ reserveAfter rows c, r.isOf mint pool = true := by
  by_cases hadmits : c.Admits mint pool
  · rw [reserveAfter_of_admits hadmits]
    exact ⟨_, mem_upsertReserve.mpr (Or.inr rfl), ReserveRow.isOf_iff.mpr ⟨hadmits.2.1, rfl⟩⟩
  · obtain ⟨r, hr, hof⟩ := h.resolve_left hadmits
    have hmem : r ∈ (reserveAfter rows c).filter (ReserveRow.isOf mint pool) := by
      rw [reserveAfter_pairRows hadmits]
      exact List.mem_filter.mpr ⟨hr, hof⟩
    exact ⟨r, List.mem_of_mem_filter hmem, hof⟩

theorem insertCandidate_counted {c : Candidate} {store store' : Store} (hcounted : Counted store)
    (h : insertCandidate L plan store c = .ok store') : Counted store' := by
  obtain ⟨hcertified, hadmissions⟩ := insertCandidate_admissions hcounted.certified h
  have hreserve : store'.reserve = reserveAfter store.reserve c := by
    obtain ⟨rfl, _⟩ := insertCandidate_writes h
    rfl
  refine ⟨hcertified, fun r hr => ?_, fun mint pool hpos => ?_⟩
  · rw [hreserve] at hr
    rw [hadmissions]
    rcases mem_reserveAfter hr with ⟨hold, hadmits⟩ | ⟨hadmits, hnew⟩
    · rw [if_neg hadmits, hcounted.versions r hold]
      omega
    · have hversion := hcounted.version r.mintIdentity r.poolAddress
      rw [if_pos hadmits, ← hversion, ← hadmits.2.1]
      rw [hnew]
      rfl
  · rw [hreserve]
    rw [hadmissions] at hpos
    refine exists_reserveAfter ?_
    by_cases hadmits : c.Admits mint pool
    · exact Or.inl hadmits
    · rw [if_neg hadmits] at hpos
      exact Or.inr (hcounted.present mint pool (by omega))

theorem insertCandidates_counted (candidates : List Candidate) : ∀ {store store' : Store},
    Counted store → candidates.foldlM (insertCandidate L plan) store = .ok store' →
      Counted store' := by
  induction candidates with
  | nil =>
    intro store store' hcounted h
    obtain rfl := Except.ok.inj h
    exact hcounted
  | cons c rest ih =>
    intro store store' hcounted h
    rw [List.foldlM_cons] at h
    obtain ⟨mid, hmid, h⟩ := bind_ok h
    exact ih (insertCandidate_counted hcounted hmid) h

/-- Behind the candidates a row is as it was, or free under an admission of the execution. -/
theorem mem_candidates_reserve (candidates : List Candidate) : ∀ {rows : List ReserveRow}
    {r : ReserveRow}, r ∈ candidates.foldl reserveAfter rows →
      (r ∈ rows ∧ ∀ c ∈ candidates, ¬ c.Admits r.mintIdentity r.poolAddress) ∨
        r.reserveStatus = .eligibleFresh ∧ r.claimedManifestId = none := by
  induction candidates with
  | nil =>
    intro rows r hr
    exact Or.inl ⟨hr, by simp⟩
  | cons c rest ih =>
    intro rows r hr
    rcases ih hr with ⟨hr, hrest⟩ | hfree
    · rcases mem_reserveAfter hr with ⟨hr, hadmits⟩ | ⟨_, hnew⟩
      · exact Or.inl ⟨hr, List.forall_mem_cons.mpr ⟨hadmits, hrest⟩⟩
      · refine Or.inr ?_
        rw [hnew]
        exact ⟨rfl, rfl⟩
    · exact Or.inr hfree

theorem candidates_pairRows (candidates : List Candidate) {mint pool : String} :
    ∀ {rows : List ReserveRow}, (∀ c ∈ candidates, ¬ c.Admits mint pool) →
      (candidates.foldl reserveAfter rows).filter (ReserveRow.isOf mint pool) =
        rows.filter (ReserveRow.isOf mint pool) := by
  induction candidates with
  | nil =>
    intro rows _
    rfl
  | cons c rest ih =>
    intro rows h
    obtain ⟨hfirst, hrest⟩ := List.forall_mem_cons.mp h
    rw [List.foldl_cons, ih hrest, reserveAfter_pairRows hfirst]

/-! ## The ledger behind an execution -/

theorem claimedRow_pair (manifestId : String) (selected : List SelectedItem) (row : ReserveRow) :
    (claimedRow manifestId selected row).mintIdentity = row.mintIdentity ∧
      (claimedRow manifestId selected row).poolAddress = row.poolAddress ∧
      (claimedRow manifestId selected row).reserveVersion = row.reserveVersion := by
  unfold claimedRow
  split <;> exact ⟨rfl, rfl, rfl⟩

@[simp] theorem claimedRow_isOf (manifestId : String) (selected : List SelectedItem)
    (row : ReserveRow) (mint pool : String) :
    (claimedRow manifestId selected row).isOf mint pool = row.isOf mint pool := by
  obtain ⟨hmint, hpool, _⟩ := claimedRow_pair manifestId selected row
  simp only [ReserveRow.isOf, hmint, hpool]

/-- The claims of a manifest leave the rows of a pair that none of its items is of. -/
theorem claimedRow_pairRows {selected : List SelectedItem} {mint pool : String}
    (hquiet : ∀ item ∈ selected, item.mint = mint → item.pool ≠ some pool) (manifestId : String)
    (rows : List ReserveRow) :
    (rows.map (claimedRow manifestId selected)).filter (ReserveRow.isOf mint pool) =
      rows.filter (ReserveRow.isOf mint pool) := by
  refine filter_map_of_apart fun r _ => ?_
  by_cases hof : r.isOf mint pool = true
  · left
    refine if_neg fun hany => ?_
    obtain ⟨item, hitem, htakes⟩ := List.any_eq_true.mp hany
    simp only [SelectedItem.takes, Bool.and_eq_true, decide_eq_true_eq] at htakes
    obtain ⟨hmint, hpool⟩ := ReserveRow.isOf_iff.mp hof
    exact hquiet item hitem (htakes.1.trans hmint) (by rw [htakes.2, hpool])
  · right
    rw [Bool.not_eq_true] at hof
    exact ⟨hof, by rw [claimedRow_isOf, hof]⟩

/-- The items of a selection are admitted candidates. -/
theorem selection_admitted {admitted : List Candidate} {item : SelectedItem}
    (h : item ∈ (selection L plan admitted).1) :
    ∃ c ∈ admitted, c.mint = item.mint ∧ c.pool = item.pool := by
  unfold selection at h
  by_cases hshort : (admitted.length : ℤ) < plan.selectionCapacity
  · rw [if_pos hshort] at h
    cases h
  · rw [if_neg hshort] at h
    obtain ⟨entry, hentry, rfl⟩ := List.mem_map.mp h
    have hmem := List.mem_of_mem_take (List.fst_mem_of_mem_zipIdx hentry)
    exact ⟨entry.1, mem_sortBy.mp hmem, rfl, rfl⟩

/-- What an execution worked out, as the parts of its transaction use it. -/
theorem acquire_selected {items : List Item} {a : Acquisition}
    (h : acquire L plan items = .ok a) {item : SelectedItem} (hitem : item ∈ a.selected) :
    ∃ c ∈ a.candidates, c.admitted = true ∧ c.mint = item.mint ∧ c.pool = item.pool := by
  unfold acquire at h
  obtain ⟨candidates, _, h⟩ := bind_ok h
  obtain rfl := Except.ok.inj h
  obtain ⟨c, hc, hmint, hpool⟩ := selection_admitted hitem
  obtain ⟨hmem, hadmitted⟩ := List.mem_filter.mp hc
  exact ⟨c, hmem, hadmitted, hmint, hpool⟩

/-- The tables that the ledger is about. -/
structure Holdings where
  identities : List IdentityRow
  certificates : List CertificateRow
  reserve : List ReserveRow
  manifests : List ManifestRow
  manifestItems : List ManifestItemRow

def Store.holdings (store : Store) : Holdings :=
  ⟨store.identities, store.certificates, store.reserve, store.manifests, store.manifestItems⟩

theorem persistSources_holdings {cursorTable : Bool} {a : Acquisition} {store mid : Store}
    (h : persistSources L cursorTable plan a store = .ok mid) : mid.holdings = store.holdings := by
  obtain ⟨_, _, _, rfl, _, _, _⟩ := persistSources_writes h
  rfl

/-- The rest of the transaction: the candidates, then the manifest where there is one. -/
theorem persistResults_holdings {a : Acquisition} {report : Value} {store store' : Store}
    (h : persistResults L plan a report store = .ok store') :
    ∃ mid, a.candidates.foldlM (insertCandidate L plan) store = .ok mid ∧
      ((∃ m, store'.holdings =
          { mid.holdings with
            manifests := mid.manifests ++ [manifestRow plan (manifestId L m) m a.selected]
            manifestItems :=
              mid.manifestItems ++ a.selected.map fun item => ⟨manifestId L m, item⟩
            reserve := mid.reserve.map (claimedRow (manifestId L m) a.selected) }) ∨
        store'.holdings = mid.holdings) := by
  unfold persistResults at h
  obtain ⟨mid, hcandidates, h⟩ := bind_ok h
  obtain ⟨store₂, hmanifest, h⟩ := bind_ok h
  obtain ⟨store₃, hfailure, h⟩ := bind_ok h
  obtain ⟨rfl, _⟩ := insertReport_writes h
  have hkept : store₃.holdings = store₂.holdings := by
    rcases persistFailure_writes hfailure with ⟨_, _, _, rfl⟩ | ⟨_, rfl⟩ <;> rfl
  refine ⟨mid, hcandidates, ?_⟩
  rcases persistManifest_writes hmanifest with ⟨m, _, _, rfl, _⟩ | ⟨_, rfl⟩
  · exact Or.inl ⟨m, hkept⟩
  · exact Or.inr hkept

/-- The ledger, with what it rests on. -/
structure LedgerInvariant (store : Store) : Prop where
  counted : Counted store
  claims : ∀ r ∈ store.reserve, r.reserveStatus = .claimedNeutral →
    ∃ manifestId, r.claimedManifestId = some manifestId ∧
      store.Claims manifestId r.mintIdentity r.poolAddress
  fresh : ∀ r ∈ store.reserve, r.reserveStatus = .eligibleFresh → r.claimedManifestId = none

theorem LedgerInvariant.ledger {store : Store} (h : LedgerInvariant store) : ReserveLedger store :=
  ⟨h.counted.versions, h.counted.present, h.claims, h.fresh⟩

/-- It reads nothing but the holdings. -/
theorem LedgerInvariant.of_holdings {store store' : Store} (h : LedgerInvariant store)
    (hsame : store'.holdings = store.holdings) : LedgerInvariant store' := by
  obtain ⟨hidentities, hcertificates, hreserve, hmanifests, hitems⟩ := Holdings.mk.inj hsame
  have hadmissions := admissions_congr hidentities hcertificates
  refine ⟨⟨?_, ?_, ?_⟩, ?_, ?_⟩
  · unfold Store.Certified
    rw [hidentities, hcertificates]
    exact h.counted.certified
  · intro r hr
    rw [hreserve] at hr
    rw [hadmissions]
    exact h.counted.versions r hr
  · intro mint pool hpos
    rw [hadmissions] at hpos
    rw [hreserve]
    exact h.counted.present mint pool hpos
  · unfold Store.Claims
    rw [hreserve, hmanifests, hitems]
    exact h.claims
  · rw [hreserve]
    exact h.fresh

theorem insertCandidates_invariant {candidates : List Candidate} {store mid : Store}
    (hinvariant : LedgerInvariant store)
    (h : candidates.foldlM (insertCandidate L plan) store = .ok mid) : LedgerInvariant mid := by
  have hcounted := insertCandidates_counted candidates hinvariant.counted h
  have hmid := insertCandidates_writes candidates h
  have hreserve : mid.reserve = candidates.foldl reserveAfter store.reserve := by
    rw [hmid]
  have hclaims : ∀ m mint pool, store.Claims m mint pool → mid.Claims m mint pool := by
    intro m mint pool hclaim
    rw [hmid]
    exact hclaim
  refine ⟨hcounted, fun r hr hclaimed => ?_, fun r hr hfresh => ?_⟩
  · rw [hreserve] at hr
    rcases mem_candidates_reserve candidates hr with ⟨hold, _⟩ | ⟨hfree, _⟩
    · obtain ⟨m, hm, hclaim⟩ := hinvariant.claims r hold hclaimed
      exact ⟨m, hm, hclaims _ _ _ hclaim⟩
    · rw [hfree] at hclaimed
      cases hclaimed
  · rw [hreserve] at hr
    rcases mem_candidates_reserve candidates hr with ⟨hold, _⟩ | ⟨_, hnone⟩
    · exact hinvariant.fresh r hold hfresh
    · exact hnone

/-- Items and claims of a manifest that is persisted beside them. -/
theorem claims_invariant {id : String} {manifest : ManifestRow} (hid : manifest.manifestId = id)
    {selected : List SelectedItem} {mid store' : Store} (hmid : LedgerInvariant mid)
    (h : store'.holdings = { mid.holdings with
      manifests := mid.manifests ++ [manifest]
      manifestItems := mid.manifestItems ++ selected.map fun item => ⟨id, item⟩
      reserve := mid.reserve.map (claimedRow id selected) }) : LedgerInvariant store' := by
  obtain ⟨hidentities, hcertificates, hreserve, hmanifests, hitems⟩ := Holdings.mk.inj h
  dsimp only [Store.holdings] at hidentities hcertificates
  have hadmissions := admissions_congr hidentities hcertificates
  have hkept : ∀ m mint pool, mid.Claims m mint pool → store'.Claims m mint pool := by
    rintro m mint pool ⟨⟨row, hrow, hrowId⟩, item, hitem, hclaim⟩
    refine ⟨⟨row, ?_, hrowId⟩, item, ?_, hclaim⟩
    · rw [hmanifests]
      exact List.mem_append_left _ hrow
    · rw [hitems]
      exact List.mem_append_left _ hitem
  have hrow : ∀ r ∈ store'.reserve, ∃ old ∈ mid.reserve, r = claimedRow id selected old := by
    intro r hr
    rw [hreserve] at hr
    obtain ⟨old, hold, rfl⟩ := List.mem_map.mp hr
    exact ⟨old, hold, rfl⟩
  refine ⟨⟨?_, ?_, ?_⟩, ?_, ?_⟩
  · unfold Store.Certified
    rw [hidentities, hcertificates]
    exact hmid.counted.certified
  · intro r hr
    obtain ⟨old, hold, rfl⟩ := hrow r hr
    obtain ⟨hmint, hpool, hversion⟩ := claimedRow_pair id selected old
    rw [hadmissions, hmint, hpool, hversion]
    exact hmid.counted.versions old hold
  · intro mint pool hpos
    rw [hadmissions] at hpos
    obtain ⟨old, hold, hof⟩ := hmid.counted.present mint pool hpos
    obtain ⟨hmint, hpool, _⟩ := claimedRow_pair id selected old
    refine ⟨claimedRow id selected old, ?_, ?_⟩
    · rw [hreserve]
      exact List.mem_map_of_mem hold
    · rw [ReserveRow.isOf_iff] at hof ⊢
      rw [hmint, hpool]
      exact hof
  · intro r hr hclaimed
    obtain ⟨old, hold, rfl⟩ := hrow r hr
    by_cases htakes : (selected.any fun item => item.takes old) = true
    · -- a row that the manifest claims: the item that takes it is persisted with it
      obtain ⟨item, hitem, hpair⟩ := List.any_eq_true.mp htakes
      simp only [SelectedItem.takes, Bool.and_eq_true, decide_eq_true_eq] at hpair
      have hclaim : claimedRow id selected old = old.claim id := if_pos htakes
      rw [hclaim]
      refine ⟨id, rfl, ⟨manifest, ?_, hid⟩, ⟨id, item⟩, ?_, rfl, hpair⟩
      · rw [hmanifests]
        exact List.mem_append_right _ (List.mem_singleton.mpr rfl)
      · rw [hitems]
        exact List.mem_append_right _ (List.mem_map_of_mem hitem)
    · have hsame : claimedRow id selected old = old := if_neg htakes
      rw [hsame] at hclaimed ⊢
      obtain ⟨m, hm, hclaim⟩ := hmid.claims old hold hclaimed
      exact ⟨m, hm, hkept _ _ _ hclaim⟩
  · intro r hr hfresh
    obtain ⟨old, hold, rfl⟩ := hrow r hr
    by_cases htakes : (selected.any fun item => item.takes old) = true
    · have hclaim : claimedRow id selected old = old.claim id := if_pos htakes
      rw [hclaim] at hfresh
      cases hfresh
    · have hsame : claimedRow id selected old = old := if_neg htakes
      rw [hsame] at hfresh ⊢
      exact hmid.fresh old hold hfresh

/-- A call that writes: its candidates, and its manifest where it has one. -/
theorem run_holdings {db db' : Database} {observations : List Dict} {report : Value}
    (h : runCandidateAcquisition L db plan observations = .ok (report, db')) :
    db' = db ∨ ∃ a items start mid, acquire L plan items = .ok a ∧
      start.holdings = db.store.holdings ∧
      a.candidates.foldlM (insertCandidate L plan) start = .ok mid ∧
      ((∃ m, db'.store.holdings =
          { mid.holdings with
            manifests := mid.manifests ++ [manifestRow plan (manifestId L m) m a.selected]
            manifestItems :=
              mid.manifestItems ++ a.selected.map fun item => ⟨manifestId L m, item⟩
            reserve := mid.reserve.map (claimedRow (manifestId L m) a.selected) }) ∨
        db'.store.holdings = mid.holdings) := by
  obtain ⟨_, items, _, ⟨_, _, _, rfl⟩ | ⟨_, hfirst⟩⟩ := run_ok h
  · exact Or.inl rfl
  · obtain ⟨a, start, store', ha, hsources, hresults, rfl, _⟩ := executeFirst_parts hfirst
    obtain ⟨mid, hcandidates, hmanifest⟩ := persistResults_holdings hresults
    exact Or.inr ⟨a, items, start, mid, ha, persistSources_holdings hsources, hcandidates,
      hmanifest⟩

theorem after_invariant (db : Database) (event : Event) (h : LedgerInvariant db.store) :
    LedgerInvariant (db.after L event).store := by
  cases event with
  | outside surroundings => exact h
  | call plan observations =>
    simp only [Database.after, afterCall]
    cases hrun : runCandidateAcquisition L db plan observations with
    | error fault => exact h
    | ok r =>
      obtain ⟨report, db'⟩ := r
      rcases run_holdings hrun with hsame | ⟨a, items, start, mid, _, hstart, hmid, hmanifest⟩
      · rw [hsame]
        exact h
      · have hbefore := insertCandidates_invariant (h.of_holdings hstart) hmid
        rcases hmanifest with ⟨m, hclaims⟩ | hsame
        · refine claims_invariant ?_ hbefore hclaims
          rfl
        · exact hbefore.of_holdings hsame

/-! ## What a call does to a pair -/

/-- The mint has one candidate, so the pair is admitted at most once. -/
theorem countP_admits_le_one {candidates : List Candidate}
    (hnodup : (candidates.map fun c => c.mint).Nodup) (mint pool : String) :
    (candidates.countP fun c => c.Admits mint pool) ≤ 1 := by
  have hle : (candidates.countP fun c => c.Admits mint pool) ≤
      (candidates.map fun c => c.mint).count mint := by
    rw [List.count_eq_countP, List.countP_map]
    refine List.countP_mono_left fun c _ hadmits => ?_
    simpa using (of_decide_eq_true hadmits).2.1
  exact hle.trans (List.nodup_iff_count_le_one.mp hnodup mint)

/-- An execution that does not admit the pair leaves it as it is. -/
theorem pair_of_quiet {a : Acquisition} {items : List Item} {start mid store' : Store}
    {mint pool : String} (ha : acquire L plan items = .ok a)
    (hmid : a.candidates.foldlM (insertCandidate L plan) start = .ok mid)
    (hmanifest : (∃ id, store'.reserve = mid.reserve.map (claimedRow id a.selected)) ∨
      store'.reserve = mid.reserve)
    (hquiet : ∀ c ∈ a.candidates, ¬ c.Admits mint pool) :
    store'.pairRows mint pool = start.pairRows mint pool := by
  have hreserve : mid.reserve = a.candidates.foldl reserveAfter start.reserve := by
    rw [insertCandidates_writes a.candidates hmid]
  have hpair : mid.pairRows mint pool = start.pairRows mint pool := by
    unfold Store.pairRows
    rw [hreserve, candidates_pairRows a.candidates hquiet]
  rw [← hpair]
  unfold Store.pairRows
  rcases hmanifest with ⟨id, hmap⟩ | hsame
  · rw [hmap]
    refine claimedRow_pairRows (fun item hitem hmint hpool => ?_) id mid.reserve
    obtain ⟨c, hc, hadmitted, hcmint, hcpool⟩ := acquire_selected ha hitem
    exact hquiet c hc ⟨hadmitted, hcmint.trans hmint, hcpool.trans hpool⟩
  · rw [hsame]

/-- An execution that admits the pair leaves its row free, or claims it for its own manifest. -/
theorem pair_of_admits {a : Acquisition} {start mid store' : Store} {mint pool : String}
    (hmid : a.candidates.foldlM (insertCandidate L plan) start = .ok mid)
    (hmanifest : (∃ m, store'.reserve = mid.reserve.map (claimedRow (manifestId L m) a.selected) ∧
        store'.manifests = mid.manifests ++ [manifestRow plan (manifestId L m) m a.selected]) ∨
      store'.reserve = mid.reserve)
    (hadmits : ∃ c ∈ a.candidates, c.Admits mint pool) :
    ∀ r ∈ store'.pairRows mint pool,
      (r.reserveStatus = .eligibleFresh ∧ r.claimedManifestId = none) ∨
      (r.reserveStatus = .claimedNeutral ∧ ∃ m ∈ store'.manifests,
        m.executionId = plan.executionId ∧ r.claimedManifestId = some m.manifestId) := by
  have hreserve : mid.reserve = a.candidates.foldl reserveAfter start.reserve := by
    rw [insertCandidates_writes a.candidates hmid]
  have hfree : ∀ old ∈ mid.reserve, old.isOf mint pool = true →
      old.reserveStatus = .eligibleFresh ∧ old.claimedManifestId = none := by
    intro old hold hof
    rw [hreserve] at hold
    obtain ⟨hmint, hpool⟩ := ReserveRow.isOf_iff.mp hof
    rcases mem_candidates_reserve a.candidates hold with ⟨_, hquiet⟩ | hfree
    · rw [hmint, hpool] at hquiet
      obtain ⟨c, hc, hadmits⟩ := hadmits
      exact absurd hadmits (hquiet c hc)
    · exact hfree
  intro r hr
  obtain ⟨hmem, hof⟩ := List.mem_filter.mp hr
  rcases hmanifest with ⟨m, hmap, hmanifests⟩ | hsame
  · rw [hmap] at hmem
    obtain ⟨old, hold, rfl⟩ := List.mem_map.mp hmem
    rw [claimedRow_isOf] at hof
    by_cases htakes : (a.selected.any fun item => item.takes old) = true
    · right
      have hclaim : claimedRow (manifestId L m) a.selected old = old.claim (manifestId L m) :=
        if_pos htakes
      rw [hclaim, hmanifests]
      exact ⟨rfl, _, List.mem_append_right _ (List.mem_singleton.mpr rfl), rfl, rfl⟩
    · left
      have hsame : claimedRow (manifestId L m) a.selected old = old := if_neg htakes
      rw [hsame]
      exact hfree old hold hof
  · rw [hsame] at hmem
    exact Or.inl (hfree r hmem hof)

/-- The pair is left as it is, or admitted once more and free or claimed anew. -/
theorem run_pair {db db' : Database} {observations : List Dict} {report : Value}
    (hledger : LedgerInvariant db.store)
    (h : runCandidateAcquisition L db plan observations = .ok (report, db')) (mint pool : String) :
    (db'.store.admissions mint pool = db.store.admissions mint pool ∧
      db'.store.pairRows mint pool = db.store.pairRows mint pool) ∨
    (db'.store.admissions mint pool = db.store.admissions mint pool + 1 ∧
      ∀ r ∈ db'.store.pairRows mint pool,
        (r.reserveStatus = .eligibleFresh ∧ r.claimedManifestId = none) ∨
        (r.reserveStatus = .claimedNeutral ∧ ∃ m ∈ db'.store.manifests,
          m.executionId = plan.executionId ∧ r.claimedManifestId = some m.manifestId)) := by
  rcases run_holdings h with rfl | ⟨a, items, start, mid, ha, hstart, hmid, hmanifest⟩
  · exact Or.inl ⟨rfl, rfl⟩
  obtain ⟨hidentities, hcertificates, hreserve, _, _⟩ := Holdings.mk.inj hstart
  have hbegin := hledger.of_holdings hstart
  have hcount :=
    (insertCandidates_admissions a.candidates hbegin.counted.certified hmid).2 mint pool
  rw [admissions_congr hidentities hcertificates] at hcount
  have hafter : db'.store.admissions mint pool = mid.admissions mint pool := by
    rcases hmanifest with ⟨m, hholdings⟩ | hholdings
    · obtain ⟨hidentities', hcertificates', _, _, _⟩ := Holdings.mk.inj hholdings
      exact admissions_congr hidentities' hcertificates' mint pool
    · obtain ⟨hidentities', hcertificates', _, _, _⟩ := Holdings.mk.inj hholdings
      exact admissions_congr hidentities' hcertificates' mint pool
  by_cases hadmits : ∃ c ∈ a.candidates, c.Admits mint pool
  · right
    have hle := countP_admits_le_one (insertCandidates_mints a.candidates hmid).1 mint pool
    have hpos : 0 < a.candidates.countP fun c => c.Admits mint pool := by
      refine List.countP_pos_iff.mpr ?_
      simpa using hadmits
    refine ⟨by omega, pair_of_admits hmid ?_ hadmits⟩
    rcases hmanifest with ⟨m, hholdings⟩ | hholdings
    · obtain ⟨_, _, hmap, hmanifests, _⟩ := Holdings.mk.inj hholdings
      exact Or.inl ⟨m, hmap, hmanifests⟩
    · exact Or.inr (congrArg Holdings.reserve hholdings)
  · left
    have hquiet : ∀ c ∈ a.candidates, ¬ c.Admits mint pool := fun c hc h => hadmits ⟨c, hc, h⟩
    have hzero : (a.candidates.countP fun c => c.Admits mint pool) = 0 :=
      List.countP_eq_zero.mpr fun c hc => by simpa using hquiet c hc
    have hsame : start.pairRows mint pool = db.store.pairRows mint pool := by
      unfold Store.pairRows
      rw [hreserve]
    refine ⟨by omega, (pair_of_quiet ha hmid ?_ hquiet).trans hsame⟩
    rcases hmanifest with ⟨m, hholdings⟩ | hholdings
    · exact Or.inl ⟨_, congrArg Holdings.reserve hholdings⟩
    · exact Or.inr (congrArg Holdings.reserve hholdings)

theorem reserveStep_of_ledger (db : Database) (event : Event) (h : LedgerInvariant db.store) :
    ReserveStep L db event := by
  cases event with
  | outside surroundings => trivial
  | call plan observations =>
    simp only [ReserveStep, Database.after, afterCall]
    cases hrun : runCandidateAcquisition L db plan observations with
    | error fault => exact fun mint pool => Or.inl ⟨rfl, rfl⟩
    | ok r =>
      obtain ⟨report, db'⟩ := r
      exact run_pair h hrun

/-! ## Every run -/

/-- A database with nothing acquired yet. -/
def Database.start (surroundings : Surroundings) (cursorTable : Bool) : Database :=
  ⟨surroundings, cursorTable, Store.empty⟩

theorem ledgerInvariant_empty : LedgerInvariant Store.empty := by
  refine ⟨⟨?_, ?_, ?_⟩, ?_, ?_⟩
  · intro row hrow
    cases hrow
  · intro r hr
    cases hr
  · intro mint pool hpos
    cases hpos
  · intro r hr
    cases hr
  · intro r hr
    cases hr

/-- In every run the ledger holds throughout, and every call leaves a pair as it is or
requalifies it. -/
theorem reserve_ledger_runs (L : Library) (surroundings : Surroundings) (cursorTable : Bool)
    (events : List Event) :
    Throughout (Database.after L) (fun db => ReserveLedger db.store)
        (Database.start surroundings cursorTable) events ∧
      Along (Database.after L) (ReserveStep L) (Database.start surroundings cursorTable)
        events := by
  have hall : Along (Database.after L) (fun _ _ => True)
      (Database.start surroundings cursorTable) events :=
    along_trivial _ (fun _ _ => trivial) _ _
  constructor
  · intro pre _
    have hinvariant : LedgerInvariant
        (run (Database.after L) (Database.start surroundings cursorTable) pre).store :=
      Runs.invariant (I := fun db : Database => LedgerInvariant db.store) after_invariant
        ledgerInvariant_empty pre
    exact hinvariant.ledger
  · exact along_of_invariant (I := fun db : Database => LedgerInvariant db.store)
      (fun db event h _ => after_invariant db event h)
      (fun db event h _ => reserveStep_of_ledger db event h) ledgerInvariant_empty hall

/-! ## A claim that is moved -/

/-- A claimed pair stays claimed for the same manifest. -/
def ClaimKept (L : Library) (db : Database) (event : Event) : Prop :=
  ∀ r ∈ db.store.reserve, r.reserveStatus = .claimedNeutral →
    ∃ r' ∈ (db.after L event).store.reserve, r'.isOf r.mintIdentity r.poolAddress = true ∧
      r'.reserveStatus = .claimedNeutral ∧ r'.claimedManifestId = r.claimedManifestId

instance (db : Database) (event : Event) : Decidable (ClaimKept L db event) :=
  inferInstanceAs (Decidable (∀ r ∈ db.store.reserve, _))

def quietSurroundings : Surroundings := ⟨[], [], Table.empty, [], fun _ => 0⟩

set_option maxRecDepth 4000 in
/-- A second execution that admits the pair claims it for a manifest of its own. -/
theorem not_claimKept_requalified :
    ¬ Along (Database.after checksumLibrary) (ClaimKept checksumLibrary)
      (Database.start quietSurroundings true)
      [.call (samplePlan "e1") [poolObservation], .call (samplePlan "e2") [poolObservation]] := by
  decide +kernel

end PrinterV1.Discovery
