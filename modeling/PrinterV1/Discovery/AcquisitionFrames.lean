import PrinterV1.Discovery.AcquisitionRun
import PrinterV1.Foundation.Faults

/-!
# What a run writes where

Later executions read the cursor ranges, the cursor heads and the reports of the
store. Each part of the transaction writes at most one of the three and leaves
the others alone.
-/

namespace PrinterV1.Discovery

open Python Faults

variable {L : Library} {plan : Plan}

/-- The tables that later executions read. -/
structure Journal where
  ranges : List RangeRow
  cursors : List CursorRow
  reports : List ReportRow

def Store.journal (store : Store) : Journal := ⟨store.ranges, store.cursors, store.reports⟩

theorem insertPolicy_journal (store : Store) :
    (insertPolicy plan store).journal = store.journal := by
  unfold insertPolicy
  dsimp only
  split_ifs <;> rfl

theorem insertExecution_keeps (row : ExecutionRow) :
    Keeps Store.journal (insertExecution row) := by
  intro store store' h
  unfold insertExecution at h
  obtain ⟨_, _, h⟩ := bind_ok h
  obtain ⟨_, _, h⟩ := bind_ok h
  obtain rfl := Except.ok.inj h
  rfl

theorem insertRound_keeps (item : Item) : Keeps Store.journal (insertRound L plan item) := by
  intro store store' h
  unfold insertRound at h
  obtain ⟨_, _, h⟩ := bind_ok h
  obtain ⟨_, _, h⟩ := bind_ok h
  obtain rfl := Except.ok.inj h
  rfl

theorem insertObservation_keeps (item : Item) (roundId : String) :
    Keeps Store.journal (insertObservation plan item roundId) := by
  intro store store' h
  unfold insertObservation at h
  obtain ⟨_, _, h⟩ := bind_ok h
  obtain rfl := Except.ok.inj h
  rfl

theorem insertRounds_keeps {items : List Item} : ∀ roundIds : List (ℤ × String),
    Keeps Store.journal (insertRounds L plan roundIds items) := by
  induction items with
  | nil =>
    intro roundIds
    exact keeps_ok
  | cons item rest ih =>
    intro roundIds store store' h
    simp only [insertRounds] at h
    split at h
    · exact ((insertObservation_keeps item _).bind (ih roundIds)) store store' h
    · exact ((insertRound_keeps item).bind ((insertObservation_keeps item _).bind (ih _)))
        store store' h

theorem insertIdentity_keeps (c : Candidate) : Keeps Store.journal (insertIdentity plan c) := by
  intro store store' h
  unfold insertIdentity at h
  obtain ⟨_, _, h⟩ := bind_ok h
  obtain rfl := Except.ok.inj h
  rfl

theorem insertLink_keeps (c : Candidate) (item : Item) :
    Keeps Store.journal fun store => insertLink c store item := by
  intro store store' h
  unfold insertLink at h
  obtain ⟨_, _, h⟩ := bind_ok h
  obtain rfl := Except.ok.inj h
  rfl

theorem insertEvidence_keeps (c : Candidate) (stage : Stage) :
    Keeps Store.journal fun store => insertEvidence L c store stage := by
  intro store store' h
  unfold insertEvidence at h
  obtain ⟨_, _, h⟩ := bind_ok h
  obtain rfl := Except.ok.inj h
  rfl

theorem insertCertificate_keeps (c : Candidate) :
    Keeps Store.journal (insertCertificate plan c) := by
  intro store store' h
  unfold insertCertificate at h
  obtain ⟨_, _, h⟩ := bind_ok h
  obtain rfl := Except.ok.inj h
  rfl

theorem reserveCandidate_keeps (c : Candidate) : Keeps Store.journal (reserveCandidate c) := by
  intro store store' h
  unfold reserveCandidate at h
  split_ifs at h
  · split at h
    · obtain rfl := Except.ok.inj h
      rfl
    · cases h
  · obtain rfl := Except.ok.inj h
    rfl

theorem insertCandidate_keeps (c : Candidate) :
    Keeps Store.journal fun store => insertCandidate L plan store c := by
  unfold insertCandidate
  exact (insertIdentity_keeps c).bind ((keeps_foldlM (insertLink_keeps c) _).bind
    ((keeps_foldlM (insertEvidence_keeps c) _).bind
      ((insertCertificate_keeps c).bind (reserveCandidate_keeps c))))

theorem insertManifest_keeps (manifestId : String) (m : Manifest) (selected : List SelectedItem) :
    Keeps Store.journal (insertManifest plan manifestId m selected) := by
  intro store store' h
  unfold insertManifest at h
  obtain ⟨_, _, h⟩ := bind_ok h
  obtain rfl := Except.ok.inj h
  rfl

theorem claimItem_keeps (manifestId : String) (item : SelectedItem) :
    Keeps Store.journal fun store => claimItem manifestId store item := by
  intro store store' h
  unfold claimItem at h
  split at h
  · cases h
  · obtain ⟨_, _, h⟩ := bind_ok h
    obtain rfl := Except.ok.inj h
    rfl

theorem persistManifest_keeps (a : Acquisition) :
    Keeps Store.journal (persistManifest L plan a) := by
  intro store store' h
  unfold persistManifest at h
  split at h
  · exact ((insertManifest_keeps _ _ _).bind (keeps_foldlM (claimItem_keeps _) _)) store store' h
  · obtain rfl := Except.ok.inj h
    rfl

theorem insertFailure_keeps (failure : Failure) (admittedCount : ℕ) :
    Keeps Store.journal (insertFailure L plan failure admittedCount) := by
  intro store store' h
  unfold insertFailure at h
  obtain ⟨_, _, h⟩ := bind_ok h
  obtain rfl := Except.ok.inj h
  rfl

theorem persistFailure_keeps (a : Acquisition) : Keeps Store.journal (persistFailure L plan a) := by
  intro store store' h
  unfold persistFailure at h
  split at h
  · split_ifs at h
    · exact insertFailure_keeps _ _ store store' h
    · obtain rfl := Except.ok.inj h
      rfl
  · obtain rfl := Except.ok.inj h
    rfl

/-- The rows of a table after an insertion. -/
theorem insertRow_ok {ρ : Type} {rows rows' : List ρ} {row : ρ} {conflicts : ρ → Bool}
    {checks : Bool} (h : insertRow rows row conflicts checks = .ok rows') :
    rows' = rows ++ [row] ∧ (∀ old ∈ rows, conflicts old = false) ∧ checks = true := by
  unfold insertRow at h
  split_ifs at h with hrefused
  obtain rfl := Except.ok.inj h
  simp only [not_or, Bool.not_eq_true, List.any_eq_false, Bool.not_eq_false] at hrefused
  exact ⟨rfl, hrefused.1, hrefused.2⟩

theorem insertReport_writes {row : ReportRow} {store store' : Store}
    (h : insertReport row store = .ok store') :
    store' = { store with reports := store.reports ++ [row] } ∧
      ∀ old ∈ store.reports, old.executionId ≠ row.executionId := by
  unfold insertReport at h
  obtain ⟨reports, hreports, h⟩ := bind_ok h
  obtain rfl := Except.ok.inj h
  obtain ⟨rfl, hfree, _⟩ := insertRow_ok hreports
  refine ⟨rfl, fun old hold hid => ?_⟩
  have hconflict := hfree old hold
  simp [hid] at hconflict

/-- The row is the one of an item's range. -/
def RangeRow.isOf (L : Library) (plan : Plan) (items : List Item) (r : RangeRow) : Prop :=
  ∃ item ∈ items, ∃ cursor, item.cursorRange = some cursor ∧
    r = rangeRow L plan item.roundOrdinal cursor

theorem insertRange_writes {ordinal : ℤ} {cursor : Dict} {store store' : Store}
    (h : insertRange L plan ordinal cursor store = .ok store') :
    store' = { store with ranges := store.ranges ++ [rangeRow L plan ordinal cursor] } := by
  unfold insertRange at h
  obtain ⟨_, _, h⟩ := bind_ok h
  obtain ⟨ranges, hranges, h⟩ := bind_ok h
  obtain rfl := Except.ok.inj h
  obtain ⟨rfl, _, _⟩ := insertRow_ok hranges
  rfl

/-- The ranges gain rows of the items. -/
theorem insertRanges_writes {items : List Item} : ∀ {persisted : List ℤ} {store store' : Store},
    insertRanges L plan persisted items store = .ok store' →
      ∃ added, store' = { store with ranges := store.ranges ++ added } ∧
        ∀ r ∈ added, r.isOf L plan items := by
  induction items with
  | nil =>
    intro persisted store store' h
    obtain rfl := Except.ok.inj h
    exact ⟨[], by simp, by simp⟩
  | cons item rest ih =>
    have hmore : ∀ r : RangeRow, r.isOf L plan rest → r.isOf L plan (item :: rest) := by
      rintro r ⟨i, hi, cursor, hcursor, hr⟩
      exact ⟨i, List.mem_cons_of_mem _ hi, cursor, hcursor, hr⟩
    intro persisted store store' h
    unfold insertRanges at h
    split at h
    · obtain ⟨added, hstore, hadded⟩ := ih h
      exact ⟨added, hstore, fun r hr => hmore r (hadded r hr)⟩
    · rename_i cursor hcursor
      split_ifs at h
      · obtain ⟨added, hstore, hadded⟩ := ih h
        exact ⟨added, hstore, fun r hr => hmore r (hadded r hr)⟩
      · obtain ⟨mid, hmid, h⟩ := bind_ok h
        obtain rfl := insertRange_writes hmid
        obtain ⟨added, hstore, hadded⟩ := ih h
        refine ⟨rangeRow L plan item.roundOrdinal cursor :: added, by simp [hstore], ?_⟩
        intro r hr
        rcases List.mem_cons.mp hr with rfl | hr
        · exact ⟨item, List.mem_cons_self, cursor, hcursor, rfl⟩
        · exact hmore r (hadded r hr)

/-- The head of a namespace at the end of a range. -/
def advancedHead (L : Library) (plan : Plan) (ordinal : ℤ) (cursor : Dict) (ns : Namespace)
    (prior : Option CursorRow) : CursorRow where
  namespaceKey := ns
  boundarySlot := L.integerColumn (cursor.get "end_slot")
  boundarySignature := L.textColumn (cursor.get "end_signature")
  lastRangeId := rangeId L plan ordinal cursor
  lastExecutionId := plan.executionId
  cursorVersion := (prior.map CursorRow.cursorVersion).getD 0 + 1

theorem advanceHead_ok {item : Item} {cursor : Dict} {ns : Namespace} {store store' : Store}
    (h : advanceHead L plan item cursor ns store = .ok store') :
    cursor.get "continuity_state" = .str "CONTIGUOUS" ∧
      (∃ r ∈ store.ranges, r.rangeId = rangeId L plan item.roundOrdinal cursor) ∧
      store' = { store with
        cursors := upsertHead store.cursors
          (advancedHead L plan item.roundOrdinal cursor ns (store.head? ns)) } := by
  unfold advanceHead at h
  dsimp only at h
  by_cases hcontiguous : cursor.get "continuity_state" = .str "CONTIGUOUS"
  · rw [if_neg (not_not.mpr hcontiguous)] at h
    by_cases hend : cursor.get "end_slot" = .none ∧ (cursor.get "end_signature").truthy = false
    · rw [if_pos hend] at h
      cases h
    · rw [if_neg hend] at h
      obtain ⟨_, _, hwrite⟩ := bind_ok h
      split_ifs at hwrite with hrange
      obtain rfl := Except.ok.inj hwrite
      refine ⟨hcontiguous, ?_, rfl⟩
      simpa using hrange
  · rw [if_pos hcontiguous] at h
    cases h

/-- The heads are all that the advance writes. -/
theorem advanceCurrentCursorHeads_writes {items : List Item} : ∀ {seen : List Namespace}
    {store store' : Store}, advanceCurrentCursorHeads L plan seen items store = .ok store' →
      ∃ cursors, store' = { store with cursors } := by
  induction items with
  | nil =>
    intro seen store store' h
    obtain rfl := Except.ok.inj h
    exact ⟨_, rfl⟩
  | cons item rest ih =>
    intro seen store store' h
    unfold advanceCurrentCursorHeads at h
    split at h
    · exact ih h
    · dsimp only at h
      split_ifs at h
      · exact ih h
      · exact ih h
      · obtain ⟨mid, hmid, hrest⟩ := bind_ok h
        obtain ⟨_, _, rfl⟩ := advanceHead_ok hmid
        obtain ⟨cursors, rfl⟩ := ih hrest
        exact ⟨cursors, rfl⟩

/-- The ranges first, then the heads, where there is a table for them. -/
theorem persistSources_ok {cursorTable : Bool} {a : Acquisition} {store store' : Store}
    (h : persistSources L cursorTable plan a store = .ok store') :
    ∃ added mid, mid.journal = { store.journal with ranges := store.ranges ++ added } ∧
      (∀ r ∈ added, r.isOf L plan a.observations) ∧
      (cursorTable = false → store' = mid) ∧
      (cursorTable = true →
        advanceCurrentCursorHeads L plan [] a.observations mid = .ok store') := by
  unfold persistSources at h
  dsimp only at h
  obtain ⟨store₁, hexecution, h⟩ := bind_ok h
  obtain ⟨store₂, hrounds, h⟩ := bind_ok h
  obtain ⟨mid, hranges, h⟩ := bind_ok h
  have hkept : store₂.journal = store.journal :=
    ((insertRounds_keeps _ _ _ hrounds).trans (insertExecution_keeps _ _ _ hexecution)).trans
      (insertPolicy_journal store)
  obtain ⟨added, hmid, hadded⟩ := insertRanges_writes hranges
  have hjournal : mid.journal = { store₂.journal with ranges := store₂.ranges ++ added } :=
    congrArg Store.journal hmid
  have hold : store₂.ranges = store.ranges := congrArg Journal.ranges hkept
  refine ⟨added, mid, by rw [hjournal, hkept, hold], hadded, ?_, ?_⟩
  · rintro rfl
    exact (Except.ok.inj h).symm
  · rintro rfl
    exact h

/-- The report is all that the rest of the transaction writes of the journal. -/
theorem persistResults_ok {a : Acquisition} {report : Value} {store store' : Store}
    (h : persistResults L plan a report store = .ok store') :
    store'.journal =
      { store.journal with reports := store.reports ++ [reportRow L plan a report] } := by
  unfold persistResults at h
  obtain ⟨store₁, hcandidates, h⟩ := bind_ok h
  obtain ⟨store₂, hmanifest, h⟩ := bind_ok h
  obtain ⟨store₃, hfailure, h⟩ := bind_ok h
  have hkept : store₃.journal = store.journal :=
    ((persistFailure_keeps a _ _ hfailure).trans (persistManifest_keeps a _ _ hmanifest)).trans
      (keeps_foldlM insertCandidate_keeps _ _ _ hcandidates)
  have hold : store₃.reports = store.reports := congrArg Journal.reports hkept
  have hjournal : store'.journal =
      { store₃.journal with reports := store₃.reports ++ [reportRow L plan a report] } :=
    congrArg Store.journal (insertReport_writes h).1
  rw [hjournal, hkept, hold]

/-- What a first execution has passed and where it has written. -/
theorem executeFirst_ok {db db' : Database} {items : List Item} {report : Value}
    (h : executeFirst L db plan items = .ok (report, db')) :
    ∃ a mid store', a.observations = items ∧ a.inputHash = inputHash L plan items ∧
      (db.cursorTable = true → validateCurrentCursorHeads L db.store [] items = .ok ()) ∧
      persistSources L db.cursorTable plan a db.store = .ok mid ∧
      store'.journal = { mid.journal with reports := mid.reports ++ [reportRow L plan a report] } ∧
      db' = { db with store := store' } := by
  unfold executeFirst at h
  have hvalid : db.cursorTable = true → validateCurrentCursorHeads L db.store [] items = .ok () := by
    intro htable
    dsimp only at h
    rw [if_pos htable] at h
    obtain ⟨_, hvalid, _⟩ := bind_ok h
    exact hvalid
  replace h : (do
      let a ← acquire L plan items
      let store ← persistSources L db.cursorTable plan a db.store
      let store ← persistResults L plan a
        (buildReport L plan a (capabilityDeltas db.surroundings db.surroundings)) store
      return (buildReport L plan a (capabilityDeltas db.surroundings db.surroundings),
        { db with store })) = Except.ok (report, db') := by
    dsimp only at h
    split_ifs at h
    · obtain ⟨_, _, hrest⟩ := bind_ok h
      exact hrest
    · exact h
  obtain ⟨a, ha, h⟩ := bind_ok h
  obtain ⟨mid, hsources, h⟩ := bind_ok h
  obtain ⟨store', hresults, h⟩ := bind_ok h
  obtain ⟨rfl, rfl⟩ := Prod.mk.inj (Except.ok.inj h)
  unfold acquire at ha
  obtain ⟨candidates, _, ha⟩ := bind_ok ha
  obtain rfl := Except.ok.inj ha
  exact ⟨_, mid, store', rfl, rfl, hvalid, hsources, persistResults_ok hresults, rfl⟩

/-- What the checks of a plan leave of its numbers, its network and its identity. -/
structure Plan.Valid (L : Library) (p : Plan) : Prop where
  capacity : 1 ≤ p.selectionCapacity
  acquisition : p.candidateAcquisitionCapacity = 2 * p.selectionCapacity
  reserve : p.candidateReserveTarget = p.selectionCapacity + (p.selectionCapacity + 1) / 2
  network : p.network = solanaMainnet
  policyHash : p.policyHash = sha L p.policyPayload

theorem validatePlan_valid {frozen : Plan} (h : validatePlan L plan = .ok frozen) :
    plan.Valid L := by
  unfold validatePlan checkPlan at h
  obtain ⟨_, hchecks, _⟩ := bind_ok h
  obtain ⟨hcapacity, hchecks⟩ := check_ok hchecks
  obtain ⟨hacquisition, hchecks⟩ := check_ok hchecks
  obtain ⟨hreserve, hchecks⟩ := check_ok hchecks
  -- the approved capacity, the owner and the bounds of the sources
  obtain ⟨_, hchecks⟩ := check_ok hchecks
  obtain ⟨_, hchecks⟩ := check_ok hchecks
  obtain ⟨_, hchecks⟩ := check_ok hchecks
  obtain ⟨hcontract, hchecks⟩ := check_ok hchecks
  -- the window, the cutoff and the sources
  obtain ⟨_, _, hchecks⟩ := bind_ok hchecks
  obtain ⟨_, hchecks⟩ := check_ok hchecks
  obtain ⟨_, hchecks⟩ := check_ok hchecks
  obtain ⟨_, hchecks⟩ := check_ok hchecks
  refine ⟨(not_not.mp hcapacity).1, not_not.mp hacquisition, not_not.mp hreserve, ?_, ?_⟩
  · exact not_not.mp fun hnetwork => hcontract (.inl hnetwork)
  · by_contra hpolicy
    rw [if_pos (.inl hpolicy)] at hchecks
    cases hchecks

/-- The observations of a call, normalized and bound to the surroundings. -/
def frozenItems (L : Library) (s : Surroundings) (plan : Plan) (observations : List Dict) :
    Except Fault (List Item) := do
  let normalized ← normalizeObservations L plan observations
  atomicTrackingAndCooldownRecheck L s normalized plan.cutoffAt plan.executionId

theorem frozenItems_ok_iff {s : Surroundings} {observations : List Dict} {items : List Item} :
    frozenItems L s plan observations = .ok items ↔
      ∃ normalized instant, normalizeObservations L plan observations = .ok normalized ∧
        iso plan.cutoffAt = .ok instant ∧
        items = sortBy Item.sortKey
          (normalized.map (recheckItem L s plan.cutoffAt instant plan.executionId)) := by
  unfold frozenItems atomicTrackingAndCooldownRecheck
  constructor
  · intro h
    obtain ⟨normalized, hnormalized, h⟩ := bind_ok h
    obtain ⟨instant, hinstant, h⟩ := bind_ok h
    exact ⟨normalized, instant, hnormalized, hinstant, (Except.ok.inj h).symm⟩
  · rintro ⟨normalized, instant, hnormalized, hinstant, rfl⟩
    rw [hnormalized, hinstant]
    rfl

/-- A run on a plan that is valid. -/
theorem run_eq {db : Database} {observations : List Dict} (hplan : validatePlan L plan = .ok plan) :
    runCandidateAcquisition L db plan observations = (do
      let items ← frozenItems L db.surroundings plan observations
      match db.store.reportOf plan.executionId with
      | some row => do
        let report ← replay L (inputHash L plan items) row
        return (report, db)
      | none => executeFirst L db plan items) := by
  unfold runCandidateAcquisition frozenItems
  simp only [hplan, bind, Except.bind]
  cases normalizeObservations L plan observations with
  | error fault => rfl
  | ok normalized => rfl

/-- A call that returns has replayed a report or committed a first execution. -/
theorem run_ok {db db' : Database} {observations : List Dict} {report : Value}
    (h : runCandidateAcquisition L db plan observations = .ok (report, db')) :
    validatePlan L plan = .ok plan ∧
      ∃ items, frozenItems L db.surroundings plan observations = .ok items ∧
        ((∃ row, db.store.reportOf plan.executionId = some row ∧
            replay L (inputHash L plan items) row = .ok report ∧ db' = db) ∨
          (db.store.reportOf plan.executionId = none ∧
            executeFirst L db plan items = .ok (report, db'))) := by
  have hplan : validatePlan L plan = .ok plan := by
    unfold runCandidateAcquisition at h
    obtain ⟨frozenPlan, hfrozen, _⟩ := bind_ok h
    rw [hfrozen, validatePlan_ok hfrozen]
  rw [run_eq hplan] at h
  obtain ⟨items, hitems, hbody⟩ := bind_ok h
  refine ⟨hplan, items, hitems, ?_⟩
  cases hprior : db.store.reportOf plan.executionId with
  | some row =>
    rw [hprior] at hbody
    obtain ⟨text, htext, hpair⟩ := bind_ok hbody
    obtain ⟨rfl, rfl⟩ := Prod.mk.inj (Except.ok.inj hpair)
    exact .inl ⟨row, rfl, htext, rfl⟩
  | none =>
    rw [hprior] at hbody
    exact .inr ⟨rfl, hbody⟩

/-- A first execution keeps every report and appends its own. -/
theorem executeFirst_reports {db db' : Database} {items : List Item} {report : Value}
    (h : executeFirst L db plan items = .ok (report, db')) :
    ∃ a : Acquisition, a.inputHash = inputHash L plan items ∧
      db'.store.reports = db.store.reports ++ [reportRow L plan a report] := by
  obtain ⟨a, mid, store', _, hhash, _, hsources, hresults, rfl⟩ := executeFirst_ok h
  obtain ⟨added, ranged, hranged, _, hnoTable, htable⟩ := persistSources_ok hsources
  have hmid : mid.reports = ranged.reports := by
    cases hcursor : db.cursorTable with
    | false => rw [hnoTable hcursor]
    | true =>
      obtain ⟨_, hwrites⟩ := advanceCurrentCursorHeads_writes (htable hcursor)
      rw [hwrites]
  have hold : ranged.reports = db.store.reports := congrArg Journal.reports hranged
  have hnew : store'.reports = mid.reports ++ [reportRow L plan a report] :=
    congrArg Journal.reports hresults
  exact ⟨a, hhash, by rw [hnew, hmid, hold]⟩

end PrinterV1.Discovery
