import PrinterV1.Discovery.SelectionCooldown
import PrinterV1.Foundation.Faults
import PrinterV1.Foundation.Runs

/-!
# Selections are a window apart

What a batch records, the gates find: a mint or a pair that an assembled batch
recorded is selected again only a window of batches later, when every assembled
batch stores what its gates let through. Items the rotation state leaves out,
audit-only ones and ones without a mint or a pair, hold nothing back.
-/

namespace PrinterV1.Discovery

open Python Runs

section Rotation

theorem mem_upsertRotation {rotation : List RotationRow} {new row : RotationRow} :
    row ∈ upsertRotation rotation new ↔
      (row ∈ rotation ∧ ¬(row.tokenMint = new.tokenMint ∧ row.pairAddress = new.pairAddress)) ∨
        row = new := by
  unfold upsertRotation
  dsimp only
  split_ifs with h
  · obtain ⟨held, hheld, hsame⟩ := List.any_eq_true.mp h
    rw [List.mem_map]
    constructor
    · rintro ⟨old, hold, rfl⟩
      by_cases hkey : old.tokenMint = new.tokenMint ∧ old.pairAddress = new.pairAddress
      · exact .inr (by simp [hkey])
      · exact .inl (by simpa [hkey] using hold)
    · rintro (⟨hrow, hkey⟩ | rfl)
      · exact ⟨row, hrow, by simp [hkey]⟩
      · exact ⟨held, hheld, by rw [if_pos hsame]⟩
  · have hnone : ∀ old ∈ rotation,
        ¬(old.tokenMint = new.tokenMint ∧ old.pairAddress = new.pairAddress) := by
      intro old hold hkey
      exact h (List.any_eq_true.mpr ⟨old, hold, by simpa using hkey⟩)
    rw [List.mem_append, List.mem_singleton]
    constructor
    · rintro (hrow | rfl)
      · exact .inl ⟨hrow, hnone row hrow⟩
      · exact .inr rfl
    · rintro (⟨hrow, -⟩ | rfl)
      · exact .inl hrow
      · exact .inr rfl

variable {columns : ItemColumns}

/-- The rotation state after a batch: the rows of the recorded items, under the
number of the batch, and the rows of every other pair as they were. -/
theorem mem_recordSelectionRotationState {items : List BatchItem} {seq : ℤ} {row : RotationRow} :
    ∀ {rotation rotation' : List RotationRow},
    recordSelectionRotationState columns rotation items seq = .ok rotation' →
    (row ∈ rotation' ↔
      (row ∈ rotation ∧ ∀ i ∈ items, i.recorded = true →
        ¬(row.tokenMint = i.tokenMint.getD "" ∧ row.pairAddress = i.pairAddress.getD "")) ∨
      ∃ i ∈ items, i.recorded = true ∧ row = i.rotationRow seq) := by
  unfold recordSelectionRotationState
  induction items with
  | nil =>
    intro rotation rotation' h
    obtain rfl := Except.ok.inj h
    simp
  | cons item items ih =>
    intro rotation rotation' h
    by_cases hrec : item.recorded = true
    · rw [List.filter_cons_of_pos hrec, List.foldlM_cons] at h
      obtain ⟨mid, hmid, h⟩ := Faults.bind_ok h
      obtain ⟨fingerprint, _, hmid⟩ := Faults.bind_ok hmid
      obtain rfl := Except.ok.inj hmid
      rw [ih h, mem_upsertRotation]
      have hkey : ¬(row.tokenMint = (item.rotationRow seq).tokenMint ∧
            row.pairAddress = (item.rotationRow seq).pairAddress) ↔
          ¬(row.tokenMint = item.tokenMint.getD "" ∧
            row.pairAddress = item.pairAddress.getD "") := Iff.rfl
      rw [hkey]
      constructor
      · rintro (⟨⟨hrow, hother⟩ | heq, hrest⟩ | ⟨i, hi, hi_rec, heq⟩)
        · exact .inl ⟨hrow, by simpa [hrec] using ⟨fun h1 h2 => hother ⟨h1, h2⟩,
            fun i hi hr h1 h2 => hrest i hi hr ⟨h1, h2⟩⟩⟩
        · exact .inr ⟨item, by simp, hrec, heq⟩
        · exact .inr ⟨i, by simp [hi], hi_rec, heq⟩
      · rintro (⟨hrow, hother⟩ | ⟨i, hi, hi_rec, heq⟩)
        · refine .inl ⟨.inl ⟨hrow, hother item (by simp) hrec⟩, ?_⟩
          intro i hi
          exact hother i (by simp [hi])
        · rcases List.mem_cons.mp hi with rfl | hi
          · by_cases hagain : ∃ j ∈ items, j.recorded = true ∧
                (row.tokenMint = j.tokenMint.getD "" ∧ row.pairAddress = j.pairAddress.getD "")
            · obtain ⟨j, hj, hj_rec, hmint, hpair⟩ := hagain
              refine .inr ⟨j, hj, hj_rec, ?_⟩
              have hseq : row.lastSelectedBatchSeq = some seq := by rw [heq]; rfl
              obtain ⟨mint, pair, last⟩ := row
              simp only at hmint hpair hseq
              rw [hmint, hpair, hseq]
              rfl
            · refine .inl ⟨.inr heq, ?_⟩
              intro j hj hj_rec hj_key
              exact hagain ⟨j, hj, hj_rec, hj_key⟩
          · exact .inr ⟨i, hi, hi_rec, heq⟩
    · have hskip : (item :: items).filter BatchItem.recorded = items.filter BatchItem.recorded :=
        List.filter_cons_of_neg hrec
      rw [hskip] at h
      rw [ih h]
      simp [hrec]

/-- Rows that hold a recent selection refuse. -/
theorem selectedWithin_of_mem {rows : List RotationRow} {row : RotationRow} (hrow : row ∈ rows)
    {s seq window : ℤ} (hs : row.lastSelectedBatchSeq = some s) (hrecent : seq - s < window) :
    selectedWithin rows seq window = true := by
  have hmem : s ∈ rows.filterMap fun row => row.lastSelectedBatchSeq :=
    List.mem_filterMap.mpr ⟨row, hrow, hs⟩
  unfold selectedWithin
  cases hmax : (rows.filterMap fun row => row.lastSelectedBatchSeq).max? with
  | none =>
    rw [List.max?_eq_none_iff.mp hmax] at hmem
    cases hmem
  | some last =>
    have hle : s ≤ last := (List.max?_eq_some_iff.mp hmax).2 s hmem
    simp only [Option.any_some, decide_eq_true_eq]
    omega

/-- An earlier batch, or a longer window, refuses no less. -/
theorem selectedWithin_mono {rows : List RotationRow} {seq seq' window window' : ℤ}
    (hseq : seq' ≤ seq) (hwindow : window ≤ window') (h : selectedWithin rows seq window = true) :
    selectedWithin rows seq' window' = true := by
  unfold selectedWithin at h ⊢
  cases hmax : (rows.filterMap fun row => row.lastSelectedBatchSeq).max? with
  | none => simp [hmax] at h
  | some last =>
    rw [hmax] at h
    simp only [Option.any_some, decide_eq_true_eq] at h ⊢
    omega

/-- A candidate the gates let through was not recorded lately. -/
theorem gateReason_eq_none {rotation : List RotationRow} {seq window : ℤ} {c : BatchItem}
    (h : gateReason rotation seq window c = none) {row : RotationRow} (hrow : row ∈ rotation)
    (hkey : row.tokenMint = c.tokenMint.getD "" ∨ row.pairAddress = c.pairAddress.getD "")
    {s : ℤ} (hs : row.lastSelectedBatchSeq = some s) : window ≤ seq - s := by
  by_contra hlt
  have hrecent : seq - s < window := by omega
  unfold gateReason checkTokenSelectionCooldown checkPairSelectionCooldown at h
  rcases hkey with hmint | hpair
  · have hmem : row ∈ rotation.filter fun row => row.tokenMint = c.tokenMint.getD "" := by
      simp [hrow, hmint]
    rw [if_pos (selectedWithin_of_mem hmem hs hrecent)] at h
    cases h
  · have hmem : row ∈ rotation.filter fun row => row.pairAddress = c.pairAddress.getD "" := by
      simp [hrow, hpair]
    rw [if_pos (selectedWithin_of_mem hmem hs hrecent)] at h
    split at h <;> cases h

end Rotation

section Runs

/-- One call of `persist_selection_batch`, with the candidates its items were
made of. -/
structure PersistCall where
  columns : ItemColumns
  batchId : Option String
  uuid : String
  candidates : List BatchItem
  items : List BatchItem
  batchStatus : String := batchAssembled

def afterPersist (store : SelectionStore) (call : PersistCall) : SelectionStore :=
  match persistSelectionBatch call.columns store call.batchId call.uuid call.items
      call.batchStatus with
  | .ok r => r.2
  | .error _ => store

/-- The active items of an assembled batch are candidates that the gates let
through under the number the batch gets. -/
def Gated (window : ℤ) (store : SelectionStore) (call : PersistCall) : Prop :=
  call.batchStatus = batchAssembled → ∀ i ∈ call.items, i.active = true →
    ∃ c ∈ (applySelectionCooldownGates store.rotation call.candidates store.nextSeq window).1,
      c.tokenMint = i.tokenMint ∧ c.pairAddress = i.pairAddress

/-- A selection of an assembled batch. -/
structure SelectionStore.Selects (store : SelectionStore) (seq : ℤ) (i : BatchItem) : Prop where
  row : ∃ b ∈ store.batches, b.id = seq ∧ b.batchStatus = batchAssembled ∧
    ⟨b.batchId, i⟩ ∈ store.items

/-- After an earlier selection of the kind, a mint or a pair is actively selected
only a window of batches later. -/
def SelectionStore.Spaced (earlier : BatchItem → Bool) (window : ℤ) (store : SelectionStore) :
    Prop :=
  ∀ seq₁ seq₂ i₁ i₂, store.Selects seq₁ i₁ → store.Selects seq₂ i₂ → seq₁ < seq₂ →
    earlier i₁ = true → i₂.active = true →
    (i₁.tokenMint = i₂.tokenMint ∨ i₁.pairAddress = i₂.pairAddress) → window ≤ seq₂ - seq₁

/-- What the rotation state knows of the batches stored. -/
structure SelectionStore.Tracked (store : SelectionStore) : Prop where
  named : ∀ row ∈ store.items, ∃ b ∈ store.batches, b.batchId = row.batchId
  covered : ∀ seq i, store.Selects seq i → i.recorded = true →
    ∃ row ∈ store.rotation, row.tokenMint = i.tokenMint.getD "" ∧
      row.pairAddress = i.pairAddress.getD "" ∧
      ∃ s, row.lastSelectedBatchSeq = some s ∧ seq ≤ s
  bounded : ∀ row ∈ store.rotation, ∀ s, row.lastSelectedBatchSeq = some s → s < store.nextSeq

variable {store : SelectionStore} {call : PersistCall}

theorem insertBatchItems_ok {columns : ItemColumns} {name : String} {items : List BatchItem} :
    ∀ {rows rows' : List BatchItemRow},
    items.foldlM (insertBatchItem columns name) rows = .ok rows' →
    rows' = rows ++ items.map fun i => ⟨name, i⟩ := by
  induction items with
  | nil =>
    intro rows rows' h
    obtain rfl := Except.ok.inj h
    simp
  | cons item items ih =>
    intro rows rows' h
    rw [List.foldlM_cons] at h
    obtain ⟨mid, hmid, h⟩ := Faults.bind_ok h
    unfold insertBatchItem at hmid
    obtain ⟨_, hmid⟩ := Faults.check_ok hmid
    obtain ⟨_, hmid⟩ := Faults.check_ok hmid
    cases hrefuse : columns.refuses item with
    | some e =>
      rw [hrefuse] at hmid
      cases hmid
    | none =>
      rw [hrefuse] at hmid
      obtain rfl := Except.ok.inj hmid
      rw [ih h]
      simp

/-- All that a call does: nothing, or it stores one batch under a new name. -/
theorem afterPersist_cases (store : SelectionStore) (call : PersistCall) :
    afterPersist store call = store ∨
    ∃ name rotation, (∀ b ∈ store.batches, b.batchId ≠ name) ∧
      afterPersist store call =
        { batches := store.batches ++ [⟨store.nextSeq, name, call.batchStatus⟩]
          items := store.items ++ call.items.map fun i => ⟨name, i⟩
          rotation } ∧
      rotationAfter call.columns store.rotation call.items call.batchStatus store.nextSeq =
        .ok rotation := by
  unfold afterPersist
  cases h : persistSelectionBatch call.columns store call.batchId call.uuid call.items
      call.batchStatus with
  | error e => exact .inl rfl
  | ok r =>
    refine .inr ?_
    unfold persistSelectionBatch at h
    obtain ⟨_, h⟩ := Faults.check_ok h
    dsimp only at h
    obtain ⟨hname, h⟩ := Faults.check_ok h
    obtain ⟨rows, hrows, h⟩ := Faults.bind_ok h
    obtain ⟨rotation, hrotation, h⟩ := Faults.bind_ok h
    obtain rfl := Except.ok.inj h
    refine ⟨batchName call.batchId call.uuid, rotation, ?_, ?_, hrotation⟩
    · intro b hb heq
      exact hname (List.any_eq_true.mpr ⟨b, hb, by simpa using heq⟩)
    · rw [insertBatchItems_ok hrows]

/-- The rotation state keeps the row of a pair no item of the batch records. -/
theorem mem_rotationAfter {columns : ItemColumns} {rotation rotation' : List RotationRow}
    {items : List BatchItem} {status : String} {seq : ℤ}
    (h : rotationAfter columns rotation items status seq = .ok rotation') (row : RotationRow) :
    row ∈ rotation' ↔
      (row ∈ rotation ∧ (status = batchAssembled → ∀ i ∈ items, i.recorded = true →
        ¬(row.tokenMint = i.tokenMint.getD "" ∧ row.pairAddress = i.pairAddress.getD ""))) ∨
      (status = batchAssembled ∧ ∃ i ∈ items, i.recorded = true ∧ row = i.rotationRow seq) := by
  unfold rotationAfter at h
  by_cases hstatus : status = batchAssembled
  · rw [if_pos hstatus] at h
    rw [mem_recordSelectionRotationState h]
    simp [hstatus]
  · rw [if_neg hstatus] at h
    obtain rfl := Except.ok.inj h
    simp [hstatus]

/-- The selections of a store that has one more batch. -/
theorem selects_stored {name : String} {rotation : List RotationRow}
    (ht : store.Tracked) (hname : ∀ b ∈ store.batches, b.batchId ≠ name) {seq : ℤ} {i : BatchItem}
    (h : SelectionStore.Selects
      { batches := store.batches ++ [⟨store.nextSeq, name, call.batchStatus⟩]
        items := store.items ++ call.items.map fun i => ⟨name, i⟩
        rotation } seq i) :
    store.Selects seq i ∨
      (seq = store.nextSeq ∧ call.batchStatus = batchAssembled ∧ i ∈ call.items) := by
  obtain ⟨b, hb, hseq, hstatus, hitem⟩ := h.row
  rcases List.mem_append.mp hb with hb | hb
  · rcases List.mem_append.mp hitem with hitem | hitem
    · exact .inl ⟨b, hb, hseq, hstatus, hitem⟩
    · obtain ⟨j, _, hrow⟩ := List.mem_map.mp hitem
      exact absurd (congrArg BatchItemRow.batchId hrow).symm (hname b hb)
  · obtain rfl := List.mem_singleton.mp hb
    rcases List.mem_append.mp hitem with hitem | hitem
    · obtain ⟨old, hold, hsame⟩ := ht.named _ hitem
      exact absurd hsame (hname old hold)
    · obtain ⟨j, hj, hrow⟩ := List.mem_map.mp hitem
      obtain rfl : j = i := congrArg BatchItemRow.item hrow
      exact .inr ⟨hseq.symm, hstatus, hj⟩

theorem selects_lt_nextSeq {seq : ℤ} {i : BatchItem} (h : store.Selects seq i) :
    seq < store.nextSeq := by
  obtain ⟨b, hb, rfl, _⟩ := h.row
  exact lt_nextRowid (List.mem_map_of_mem hb)

theorem nextSeq_lt_append (store : SelectionStore) (b : BatchRow) (items : List BatchItemRow)
    (rotation : List RotationRow) (hb : b.id = store.nextSeq) :
    store.nextSeq < SelectionStore.nextSeq ⟨store.batches ++ [b], items, rotation⟩ := by
  rw [← hb]
  exact lt_nextRowid (by simp)

theorem afterPersist_tracked (ht : store.Tracked) : (afterPersist store call).Tracked := by
  rcases afterPersist_cases store call with h | ⟨name, rotation, hname, h, hrotation⟩
  · rwa [h]
  · rw [h]
    have hnext := nextSeq_lt_append store ⟨store.nextSeq, name, call.batchStatus⟩
      (store.items ++ call.items.map fun i => ⟨name, i⟩) rotation rfl
    constructor
    · intro row hrow
      rcases List.mem_append.mp hrow with hrow | hrow
      · obtain ⟨b, hb, hsame⟩ := ht.named row hrow
        exact ⟨b, List.mem_append_left _ hb, hsame⟩
      · obtain ⟨i, _, rfl⟩ := List.mem_map.mp hrow
        exact ⟨_, List.mem_append_right _ (List.mem_singleton_self _), rfl⟩
    · intro seq i hsel hrec
      rcases selects_stored ht hname hsel with hold | ⟨rfl, hstatus, hi⟩
      · obtain ⟨row, hrow, hmint, hpair, s, hs, hle⟩ := ht.covered seq i hold hrec
        -- the row is still there, or an item of this batch has taken its place
        by_cases htaken : call.batchStatus = batchAssembled ∧ ∃ j ∈ call.items,
            j.recorded = true ∧ row.tokenMint = j.tokenMint.getD "" ∧
              row.pairAddress = j.pairAddress.getD ""
        · obtain ⟨hstatus, j, hj, hj_rec, hj_mint, hj_pair⟩ := htaken
          refine ⟨j.rotationRow store.nextSeq,
            (mem_rotationAfter hrotation _).mpr (.inr ⟨hstatus, j, hj, hj_rec, rfl⟩),
            hj_mint.symm.trans hmint, hj_pair.symm.trans hpair, store.nextSeq, rfl, ?_⟩
          exact le_of_lt (selects_lt_nextSeq hold)
        · refine ⟨row, (mem_rotationAfter hrotation row).mpr (.inl ⟨hrow, ?_⟩), hmint, hpair, s,
            hs, hle⟩
          intro hstatus j hj hj_rec hkey
          exact htaken ⟨hstatus, j, hj, hj_rec, hkey⟩
      · exact ⟨i.rotationRow store.nextSeq,
          (mem_rotationAfter hrotation _).mpr (.inr ⟨hstatus, i, hi, hrec, rfl⟩), rfl, rfl,
          store.nextSeq, rfl, le_refl _⟩
    · intro row hrow s hs
      rcases (mem_rotationAfter hrotation row).mp hrow with ⟨hold, -⟩ | ⟨-, i, -, -, rfl⟩
      · exact (ht.bounded row hold s hs).trans hnext
      · obtain rfl := Option.some.inj hs
        exact hnext

theorem afterPersist_spaced {window : ℤ} (ht : store.Tracked)
    (hs : store.Spaced BatchItem.recorded window) (hg : Gated window store call) :
    (afterPersist store call).Spaced BatchItem.recorded window := by
  rcases afterPersist_cases store call with h | ⟨name, rotation, hname, h, -⟩
  · rwa [h]
  · rw [h]
    intro seq₁ seq₂ i₁ i₂ h₁ h₂ hlt hrec hactive hkey
    rcases selects_stored ht hname h₁ with hold₁ | ⟨hnew₁, -⟩
    · rcases selects_stored ht hname h₂ with hold₂ | ⟨hnew₂, hstatus, hmem⟩
      · exact hs seq₁ seq₂ i₁ i₂ hold₁ hold₂ hlt hrec hactive hkey
      · -- the later selection went through the gates, which saw the earlier one
        obtain ⟨row, hrow, hmint, hpair, s, hlast, hle⟩ := ht.covered seq₁ i₁ hold₁ hrec
        obtain ⟨c, hc, hc_mint, hc_pair⟩ := hg hstatus i₂ hmem hactive
        have hpass : gateReason store.rotation store.nextSeq window c = none := by
          simpa [applySelectionCooldownGates] using (List.mem_filter.mp hc).2
        have hsame : row.tokenMint = c.tokenMint.getD "" ∨ row.pairAddress = c.pairAddress.getD "" := by
          rcases hkey with hkey | hkey
          · exact .inl (by rw [hmint, hkey, hc_mint])
          · exact .inr (by rw [hpair, hkey, hc_pair])
        have hspace := gateReason_eq_none hpass hrow hsame hlast
        omega
    · -- nothing is selected after the newest batch
      have hlast : seq₂ ≤ store.nextSeq := by
        rcases selects_stored ht hname h₂ with hold₂ | ⟨hnew₂, -⟩
        · exact le_of_lt (selects_lt_nextSeq hold₂)
        · exact le_of_eq hnew₂
      omega

theorem empty_tracked : SelectionStore.Tracked {} := by
  refine ⟨by simp, ?_, by simp⟩
  intro seq i h
  obtain ⟨b, hb, _⟩ := h.row
  simp at hb

theorem empty_spaced {earlier : BatchItem → Bool} {window : ℤ} :
    SelectionStore.Spaced earlier window {} := by
  intro seq₁ seq₂ i₁ i₂ h
  obtain ⟨b, hb, _⟩ := h.row
  simp at hb

end Runs

section Recheck

theorem exists_of_selectedWithin {rows : List RotationRow} {seq window : ℤ}
    (h : selectedWithin rows seq window = true) :
    ∃ row ∈ rows, ∃ s, row.lastSelectedBatchSeq = some s := by
  unfold selectedWithin at h
  cases hmax : (rows.filterMap fun row => row.lastSelectedBatchSeq).max? with
  | none => simp [hmax] at h
  | some last =>
    obtain ⟨row, hrow, hlast⟩ := List.mem_filterMap.mp (List.max?_mem hmax)
    exact ⟨row, hrow, last, hlast⟩

variable {store : SelectionStore} {s : Surroundings}

/-- The recheck counts from the last batch recorded, the gates from the last
batch stored. -/
theorem nextBatchSeq_le (ht : store.Tracked) (hs : s.rotation = store.rotation)
    {row : RotationRow} (hrow : row ∈ store.rotation) {last : ℤ}
    (hlast : row.lastSelectedBatchSeq = some last) : s.nextBatchSeq ≤ store.nextSeq := by
  have hmem : last ∈ store.rotation.filterMap fun row => row.lastSelectedBatchSeq :=
    List.mem_filterMap.mpr ⟨row, hrow, hlast⟩
  unfold Surroundings.nextBatchSeq
  rw [hs]
  cases hmax : (store.rotation.filterMap fun row => row.lastSelectedBatchSeq).max? with
  | none =>
    rw [List.max?_eq_none_iff.mp hmax] at hmem
    cases hmem
  | some largest =>
    obtain ⟨r, hr, hlargest⟩ := List.mem_filterMap.mp (List.max?_mem hmax)
    have hlt := ht.bounded r hr largest hlargest
    simp only [Option.getD_some]
    omega

/-- A window that refuses in the gates refuses in the recheck. -/
theorem inCooldown_of_selectedWithin (ht : store.Tracked) (hs : s.rotation = store.rotation)
    {window : ℤ} (hwindow : window ≤ cooldownWindow) {p : RotationRow → Bool}
    (h : selectedWithin (store.rotation.filter p) store.nextSeq window = true) :
    inCooldown (s.rotation.filter p) s.nextBatchSeq = true := by
  obtain ⟨row, hrow, last, hlast⟩ := exists_of_selectedWithin h
  rw [hs]
  exact selectedWithin_mono (nextBatchSeq_le ht hs (List.mem_filter.mp hrow).1 hlast) hwindow h

/-- A mint or a pool the gates refuse for the next batch is refused by the
recheck. -/
theorem gateReason_refused (ht : store.Tracked) (hs : s.rotation = store.rotation) {window : ℤ}
    (hwindow : window ≤ cooldownWindow) {c : BatchItem} {mint pool reason : String}
    (hmint : c.tokenMint = some mint) (hpool : c.pairAddress = some pool)
    (h : gateReason store.rotation store.nextSeq window c = some reason) (instant : Instant) :
    reason ∈ s.refusals mint pool instant := by
  unfold gateReason checkTokenSelectionCooldown checkPairSelectionCooldown at h
  rw [hmint, hpool] at h
  unfold Surroundings.refusals
  rw [mem_sortedSet, List.mem_append, List.mem_append]
  by_cases htoken : selectedWithin
      (store.rotation.filter fun row => row.tokenMint = mint) store.nextSeq window = true
  · have hcool := inCooldown_of_selectedWithin ht hs hwindow htoken
    simp only [Option.getD_some, htoken, if_true, Option.some.injEq] at h
    refine .inl (.inr ?_)
    rw [Surroundings.tokenCooldown, if_pos hcool, ← h]
    exact List.mem_singleton_self _
  · by_cases hpair : selectedWithin
        (store.rotation.filter fun row => row.pairAddress = pool) store.nextSeq window = true
    · have hcool := inCooldown_of_selectedWithin ht hs hwindow hpair
      simp only [Option.getD_some, htoken, Bool.false_eq_true, if_false, hpair, if_true,
        Option.some.injEq] at h
      refine .inr ?_
      rw [Surroundings.pairCooldown, if_pos hcool, ← h]
      exact List.mem_singleton_self _
    · simp [htoken, hpair] at h

/-- The facts of an observation that the recheck failed for the reason. -/
def FailedFor (reason : String) (facts : Dict) : Prop :=
  Dict.get facts "tracking_status" = .str "FAIL" ∧
    ∃ reasons : List String,
      Dict.get facts "tracking_atomic_recheck_reasons" = .list (reasons.map .str) ∧
        reason ∈ reasons


theorem recheckItem_of_refused {L : Library} {assessedAt : String} {instant : Instant}
    {executionId mint pool reason : String} {item : Item} (hmint : item.mint = some mint)
    (hpool : item.pool = some pool) (h : reason ∈ s.refusals mint pool instant) :
    FailedFor reason (recheckItem L s assessedAt instant executionId item).facts := by
  unfold FailedFor
  rw [recheckItem_facts hmint hpool]
  have hsome : s.refusals mint pool instant ≠ [] := List.ne_nil_of_mem h
  refine ⟨?_, s.refusals mint pool instant, ?_, h⟩
  · simp [gateFacts, hsome]
  · simp [gateFacts]

end Recheck

section Spacing

/-- Over any batches, of which the assembled ones store what their gates let
through: a recorded selection keeps its mint and its pair out of the active
selections of the next batches of the window; a batch that is not assembled and
a pair that no item records leave the rotation state alone; and what the gates
refuse for the next batch, the recheck of candidate acquisition refuses. -/
theorem selections_spaced (window : ℤ) (calls : List PersistCall)
    (hgated : Along afterPersist (Gated window) {} calls) :
    let store := run afterPersist {} calls
    store.Spaced BatchItem.recorded window ∧
    (∀ call : PersistCall, call.batchStatus ≠ batchAssembled →
      (afterPersist store call).rotation = store.rotation) ∧
    (∀ (call : PersistCall) (row : RotationRow), (∀ i ∈ call.items, i.recorded = true →
        ¬(row.tokenMint = i.tokenMint.getD "" ∧ row.pairAddress = i.pairAddress.getD "")) →
      (row ∈ (afterPersist store call).rotation ↔ row ∈ store.rotation)) ∧
    (∀ (L : Library) (s : Surroundings) (assessedAt : String) (instant : Instant)
      (executionId : String) (item : Item) (c : BatchItem) (mint pool reason : String),
      s.rotation = store.rotation → window ≤ cooldownWindow → c.tokenMint = some mint →
      c.pairAddress = some pool → item.mint = some mint → item.pool = some pool →
      gateReason store.rotation store.nextSeq window c = some reason →
      FailedFor reason (recheckItem L s assessedAt instant executionId item).facts) := by
  intro store
  have hinv : store.Tracked ∧ store.Spaced BatchItem.recorded window :=
    invariant_along (I := fun s => s.Tracked ∧ s.Spaced BatchItem.recorded window)
      (fun _ _ h hg => ⟨afterPersist_tracked h.1, afterPersist_spaced h.1 h.2 hg⟩)
      ⟨empty_tracked, empty_spaced⟩ hgated
  refine ⟨hinv.2, ?_, ?_, ?_⟩
  · intro call hstatus
    rcases afterPersist_cases store call with h | ⟨name, rotation, -, h, hrotation⟩
    · rw [h]
    · rw [rotationAfter, if_neg hstatus] at hrotation
      rw [h]
      exact (Except.ok.inj hrotation).symm
  · intro call row hother
    rcases afterPersist_cases store call with h | ⟨name, rotation, -, h, hrotation⟩
    · rw [h]
    · rw [h]
      change row ∈ rotation ↔ _
      rw [mem_rotationAfter hrotation]
      constructor
      · rintro (⟨hrow, -⟩ | ⟨-, i, hi, hi_rec, rfl⟩)
        · exact hrow
        · exact absurd ⟨rfl, rfl⟩ (hother i hi hi_rec)
      · intro hrow
        exact .inl ⟨hrow, fun _ => hother⟩
  · intro L s assessedAt instant executionId item c mint pool reason hs hwindow hmint hpool
      hitem_mint hitem_pool h
    exact recheckItem_of_refused hitem_mint hitem_pool
      (gateReason_refused hinv.1 hs hwindow hmint hpool h instant)

/-- Columns that refuse nothing. -/
def openColumns : ItemColumns := ⟨fun _ => none, fun _ => .ok "{}"⟩

/-- A batch of one selected candidate. -/
def batchOf (name : String) (item : BatchItem) : PersistCall :=
  { columns := openColumns, batchId := some name, uuid := "", candidates := [item], items := [item] }

def trackedItem (mint pair : String) : BatchItem :=
  { itemStatus := some itemSelected, tokenMint := some mint, pairAddress := some pair
    trackingLane := some "TRACK_FAST" }

instance (window : ℤ) (store : SelectionStore) (call : PersistCall) :
    Decidable (Gated window store call) := by
  unfold Gated
  infer_instance

theorem selections_spaced_two :
    let store := run afterPersist {} [batchOf "b1" (trackedItem "m1" "p1"),
      batchOf "b2" (trackedItem "m2" "p2")]
    store.Spaced BatchItem.recorded 3 :=
  (selections_spaced 3 [batchOf "b1" (trackedItem "m1" "p1"), batchOf "b2" (trackedItem "m2" "p2")]
    ⟨by decide, by decide, trivial⟩).1

/-- An item without a pair, and one that supports a quota. -/
def pairlessItem : BatchItem := trackedItem "m1" ""

def quotaItem : BatchItem :=
  { trackedItem "m1" "p1" with selectionReason := some auditOnlyQuotaSupport }

/-- Either is selected by two batches in a row, both of which passed the gates. -/
theorem unrecorded_not_spaced :
    (Along afterPersist (Gated cooldownWindow) {}
        [batchOf "b1" pairlessItem, batchOf "b2" pairlessItem] ∧
      ¬(run afterPersist {} [batchOf "b1" pairlessItem, batchOf "b2" pairlessItem]).Spaced
        BatchItem.active cooldownWindow) ∧
    (Along afterPersist (Gated cooldownWindow) {}
        [batchOf "b1" quotaItem, batchOf "b2" quotaItem] ∧
      ¬(run afterPersist {} [batchOf "b1" quotaItem, batchOf "b2" quotaItem]).Spaced
        BatchItem.active cooldownWindow) := by
  refine ⟨⟨⟨by decide, by decide, trivial⟩, fun h => ?_⟩,
    ⟨⟨by decide, by decide, trivial⟩, fun h => ?_⟩⟩
  · have hspace := h 1 2 pairlessItem pairlessItem
      ⟨⟨1, "b1", batchAssembled⟩, by decide⟩ ⟨⟨2, "b2", batchAssembled⟩, by decide⟩
      (by decide) rfl rfl (.inl rfl)
    exact absurd hspace (by decide)
  · have hspace := h 1 2 quotaItem quotaItem
      ⟨⟨1, "b1", batchAssembled⟩, by decide⟩ ⟨⟨2, "b2", batchAssembled⟩, by decide⟩
      (by decide) rfl rfl (.inl rfl)
    exact absurd hspace (by decide)

end Spacing

end PrinterV1.Discovery
