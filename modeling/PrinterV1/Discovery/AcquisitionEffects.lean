import PrinterV1.Discovery.AcquisitionFrames

/-!
# What the transaction writes

Each part of the transaction as an equation between the store it finds and the
store it leaves, with what its constraints say about the rows it found.
-/

namespace PrinterV1.Discovery

open Python Faults

variable {L : Library} {plan : Plan}

/-! ## Policy and execution -/

theorem insertPolicy_writes (plan : Plan) (store : Store) :
    ∃ added, insertPolicy plan store = { store with policies := store.policies ++ added } ∧
      ∀ r ∈ added, r.policyHash = plan.policyHash := by
  unfold insertPolicy
  dsimp only
  split_ifs
  · exact ⟨[], by rw [List.append_nil], by simp⟩
  · refine ⟨_, rfl, fun r hr => ?_⟩
    rw [List.mem_singleton.mp hr]

theorem insertExecution_writes {row : ExecutionRow} {store store' : Store}
    (h : insertExecution row store = .ok store') :
    store' = { store with executions := store.executions ++ [row] } ∧
      ∀ old ∈ store.executions, old.executionId ≠ row.executionId := by
  unfold insertExecution at h
  obtain ⟨_, _, h⟩ := bind_ok h
  obtain ⟨executions, hexecutions, h⟩ := bind_ok h
  obtain rfl := Except.ok.inj h
  obtain ⟨rfl, hfree, _⟩ := insertRow_ok hexecutions
  refine ⟨rfl, fun old hold hid => ?_⟩
  have hconflict := hfree old hold
  simp [hid] at hconflict

/-! ## Rounds and observations -/

/-- The row of the round that an item opens. -/
def roundRow (L : Library) (plan : Plan) (item : Item) : RoundRow where
  roundId := identifier L "carnd" (roundPayload plan item)
  executionId := plan.executionId
  roundOrdinal := item.roundOrdinal
  roundMode := item.roundMode
  sourceName := item.sourceName
  requestKind := item.requestKind
  sourceStatus := item.sourceStatus
  failureReason := L.textColumn item.failureReason
  governedRequestsUsed := item.governedRequestsUsed
  transportOperationsUsed := item.transportOperationsUsed
  bytesUsed := item.bytesUsed
  rowsUsed := item.rowsUsed
  durationMilliseconds := item.durationMilliseconds
  contentHash := sha L (roundPayload plan item)

theorem insertRound_writes {item : Item} {store store' : Store}
    (h : insertRound L plan item store = .ok store') :
    store' = { store with rounds := store.rounds ++ [roundRow L plan item] } ∧
      ∀ old ∈ store.rounds, old.roundId ≠ (roundRow L plan item).roundId := by
  unfold insertRound at h
  obtain ⟨_, _, h⟩ := bind_ok h
  obtain ⟨rounds, hrounds, h⟩ := bind_ok h
  obtain rfl := Except.ok.inj h
  obtain ⟨rfl, hfree, _⟩ := insertRow_ok hrounds
  refine ⟨rfl, fun old hold hid => ?_⟩
  have hconflict := hfree old hold
  simp only [Bool.or_eq_false_iff, decide_eq_false_iff_not] at hconflict
  exact hconflict.1 hid

theorem insertObservation_writes {item : Item} {roundId : String} {store store' : Store}
    (h : insertObservation plan item roundId store = .ok store') :
    store' =
        { store with observations := store.observations ++ [⟨item, plan.executionId, roundId⟩] } ∧
      ∀ old ∈ store.observations, old.item.observationId ≠ item.observationId := by
  unfold insertObservation at h
  obtain ⟨observations, hobservations, h⟩ := bind_ok h
  obtain rfl := Except.ok.inj h
  obtain ⟨rfl, hfree, _⟩ := insertRow_ok hobservations
  refine ⟨rfl, fun old hold hid => ?_⟩
  have hconflict := hfree old hold
  simp only [Bool.or_eq_false_iff, decide_eq_false_iff_not] at hconflict
  exact hconflict.1 hid

/-- The rounds that the items open; `roundIds` are those opened before. -/
def roundRows (L : Library) (plan : Plan) : List (ℤ × String) → List Item → List RoundRow
  | _, [] => []
  | roundIds, item :: rest =>
    match roundIds.lookup item.roundOrdinal with
    | some _ => roundRows L plan roundIds rest
    | none => roundRow L plan item ::
        roundRows L plan ((item.roundOrdinal, (roundRow L plan item).roundId) :: roundIds) rest

/-- The rows of the items. -/
def observationRows (L : Library) (plan : Plan) :
    List (ℤ × String) → List Item → List ObservationRow
  | _, [] => []
  | roundIds, item :: rest =>
    match roundIds.lookup item.roundOrdinal with
    | some roundId => ⟨item, plan.executionId, roundId⟩ :: observationRows L plan roundIds rest
    | none => ⟨item, plan.executionId, (roundRow L plan item).roundId⟩ ::
        observationRows L plan ((item.roundOrdinal, (roundRow L plan item).roundId) :: roundIds)
          rest

theorem roundRows_opened (L : Library) (plan : Plan) {roundIds : List (ℤ × String)}
    {item : Item} {roundId : String}
    (h : roundIds.lookup item.roundOrdinal = some roundId) (rest : List Item) :
    roundRows L plan roundIds (item :: rest) = roundRows L plan roundIds rest ∧
      observationRows L plan roundIds (item :: rest) =
        ⟨item, plan.executionId, roundId⟩ :: observationRows L plan roundIds rest := by
  simp [roundRows, observationRows, h]

theorem roundRows_opening (L : Library) (plan : Plan) {roundIds : List (ℤ × String)}
    {item : Item}
    (h : roundIds.lookup item.roundOrdinal = none) (rest : List Item) :
    let opened := (item.roundOrdinal, (roundRow L plan item).roundId) :: roundIds
    roundRows L plan roundIds (item :: rest) =
        roundRow L plan item :: roundRows L plan opened rest ∧
      observationRows L plan roundIds (item :: rest) =
        ⟨item, plan.executionId, (roundRow L plan item).roundId⟩ ::
          observationRows L plan opened rest := by
  simp [roundRows, observationRows, h]

theorem insertRounds_writes {items : List Item} : ∀ {roundIds : List (ℤ × String)}
    {store store' : Store}, insertRounds L plan roundIds items store = .ok store' →
      store' = { store with
        rounds := store.rounds ++ roundRows L plan roundIds items
        observations := store.observations ++ observationRows L plan roundIds items } := by
  induction items with
  | nil =>
    intro roundIds store store' h
    obtain rfl := Except.ok.inj h
    simp [roundRows, observationRows]
  | cons item rest ih =>
    intro roundIds store store' h
    cases hlookup : roundIds.lookup item.roundOrdinal with
    | some roundId =>
      simp only [insertRounds, hlookup] at h
      obtain ⟨mid, hmid, h⟩ := bind_ok h
      obtain ⟨rfl, _⟩ := insertObservation_writes hmid
      obtain ⟨hrounds, hobservations⟩ := roundRows_opened L plan hlookup rest
      rw [hrounds, hobservations, ih h]
      simp
    | none =>
      simp only [insertRounds, hlookup] at h
      obtain ⟨first, hfirst, h⟩ := bind_ok h
      obtain ⟨mid, hmid, h⟩ := bind_ok h
      obtain ⟨rfl, _⟩ := insertRound_writes hfirst
      obtain ⟨rfl, _⟩ := insertObservation_writes hmid
      obtain ⟨hrounds, hobservations⟩ := roundRows_opening L plan hlookup rest
      rw [hrounds, hobservations, ih h]
      simp [roundRow]

/-! ## Sources -/

/-- The first part of the transaction. -/
theorem persistSources_writes {cursorTable : Bool} {a : Acquisition} {store store' : Store}
    (h : persistSources L cursorTable plan a store = .ok store') :
    ∃ policies ranges cursors,
      store' = { store with
        policies := store.policies ++ policies
        executions := store.executions ++ [executionRow L plan a]
        rounds := store.rounds ++ roundRows L plan [] a.observations
        observations := store.observations ++ observationRows L plan [] a.observations
        ranges := store.ranges ++ ranges
        cursors } ∧
      (∀ r ∈ policies, r.policyHash = plan.policyHash) ∧
      (∀ r ∈ ranges, r.isOf L plan a.observations) ∧
      ∀ old ∈ store.executions, old.executionId ≠ plan.executionId := by
  unfold persistSources at h
  dsimp only at h
  obtain ⟨policies, hpolicies, hhashes⟩ := insertPolicy_writes plan store
  rw [hpolicies] at h
  obtain ⟨store₁, hexecution, h⟩ := bind_ok h
  obtain ⟨store₂, hrounds, h⟩ := bind_ok h
  obtain ⟨mid, hranges, h⟩ := bind_ok h
  obtain ⟨rfl, hfree⟩ := insertExecution_writes hexecution
  obtain rfl := insertRounds_writes hrounds
  obtain ⟨ranges, rfl, hisOf⟩ := insertRanges_writes hranges
  split_ifs at h
  · obtain ⟨cursors, rfl⟩ := advanceCurrentCursorHeads_writes h
    exact ⟨policies, ranges, cursors, rfl, hhashes, hisOf, hfree⟩
  · obtain rfl := Except.ok.inj h
    exact ⟨policies, ranges, store.cursors, rfl, hhashes, hisOf, hfree⟩

/-! ## Candidates -/

def identityRow (plan : Plan) (c : Candidate) : IdentityRow :=
  ⟨c.candidateId, plan.executionId, c.toIdentity, c.identityHash⟩

def evidenceRow (L : Library) (c : Candidate) (stage : Stage) : EvidenceRow where
  evidenceId := identifier L "caevi" (evidencePayload c stage)
  candidateId := c.candidateId
  stage := stage
  evidenceHash := sha L (evidencePayload c stage)
  evidenceJson := evidencePayload c stage

def certificateRow (plan : Plan) (c : Candidate) : CertificateRow where
  certificateId := c.certificateId
  candidateId := c.candidateId
  executionId := plan.executionId
  policyHash := plan.policyHash
  admitted := c.admitted
  admissionReason := c.admissionReason
  issuedAt := c.issuedAt
  expiresAt := c.expiresAt
  certificateJson := c.certificateJson
  certificateHash := c.certificateHash

def linkRows (c : Candidate) : List LinkRow :=
  c.observations.map fun item => ⟨c.candidateId, item.observationId⟩

/-- The reserve behind a candidate. -/
def reserveAfter (rows : List ReserveRow) (c : Candidate) : List ReserveRow :=
  match c.admitted, c.pool with
  | true, some pool => upsertReserve c pool rows
  | _, _ => rows

theorem insertIdentity_writes {c : Candidate} {store store' : Store}
    (h : insertIdentity plan c store = .ok store') :
    store' = { store with identities := store.identities ++ [identityRow plan c] } ∧
      ∀ old ∈ store.identities, old.candidateId ≠ c.candidateId ∧
        (old.executionId = plan.executionId → old.identity.mint ≠ c.mint) := by
  unfold insertIdentity at h
  obtain ⟨identities, hidentities, h⟩ := bind_ok h
  obtain rfl := Except.ok.inj h
  obtain ⟨rfl, hfree, _⟩ := insertRow_ok hidentities
  refine ⟨rfl, fun old hold => ?_⟩
  have hconflict := hfree old hold
  simp only [Bool.or_eq_false_iff, Bool.and_eq_false_imp, decide_eq_false_iff_not,
    decide_eq_true_eq] at hconflict
  exact ⟨hconflict.1, fun hexecution => (hconflict.2 hexecution).1⟩

theorem insertLinks_writes {c : Candidate} (items : List Item) : ∀ {store store' : Store},
    items.foldlM (insertLink c) store = .ok store' →
      store' = { store with
        links := store.links ++ items.map fun item => ⟨c.candidateId, item.observationId⟩ } := by
  induction items with
  | nil =>
    intro store store' h
    obtain rfl := Except.ok.inj h
    simp
  | cons item rest ih =>
    intro store store' h
    rw [List.foldlM_cons] at h
    obtain ⟨mid, hmid, h⟩ := bind_ok h
    unfold insertLink at hmid
    obtain ⟨links, hlinks, hmid⟩ := bind_ok hmid
    obtain rfl := Except.ok.inj hmid
    obtain ⟨rfl, _, _⟩ := insertRow_ok hlinks
    rw [ih h]
    simp

theorem insertEvidences_writes {c : Candidate} (stages : List Stage) : ∀ {store store' : Store},
    stages.foldlM (insertEvidence L c) store = .ok store' →
      store' = { store with evidence := store.evidence ++ stages.map (evidenceRow L c) } := by
  induction stages with
  | nil =>
    intro store store' h
    obtain rfl := Except.ok.inj h
    simp
  | cons stage rest ih =>
    intro store store' h
    rw [List.foldlM_cons] at h
    obtain ⟨mid, hmid, h⟩ := bind_ok h
    unfold insertEvidence at hmid
    obtain ⟨evidence, hevidence, hmid⟩ := bind_ok hmid
    obtain rfl := Except.ok.inj hmid
    obtain ⟨rfl, _, _⟩ := insertRow_ok hevidence
    rw [ih h]
    simp [evidenceRow]

theorem insertCertificate_writes {c : Candidate} {store store' : Store}
    (h : insertCertificate plan c store = .ok store') :
    store' = { store with certificates := store.certificates ++ [certificateRow plan c] } := by
  unfold insertCertificate at h
  obtain ⟨certificates, hcertificates, h⟩ := bind_ok h
  obtain rfl := Except.ok.inj h
  obtain ⟨rfl, _, _⟩ := insertRow_ok hcertificates
  rfl

theorem reserveCandidate_writes {c : Candidate} {store store' : Store}
    (h : reserveCandidate c store = .ok store') :
    store' = { store with reserve := reserveAfter store.reserve c } := by
  unfold reserveCandidate at h
  unfold reserveAfter
  split_ifs at h with hadmitted
  · split at h
    · rename_i pool hpool
      rw [hadmitted, hpool]
      exact (Except.ok.inj h).symm
    · cases h
  · rw [Bool.not_eq_true] at hadmitted
    rw [hadmitted]
    exact (Except.ok.inj h).symm

theorem insertCandidate_writes {c : Candidate} {store store' : Store}
    (h : insertCandidate L plan store c = .ok store') :
    store' = { store with
        identities := store.identities ++ [identityRow plan c]
        links := store.links ++ linkRows c
        evidence := store.evidence ++ c.stages.map (evidenceRow L c)
        certificates := store.certificates ++ [certificateRow plan c]
        reserve := reserveAfter store.reserve c } ∧
      ∀ old ∈ store.identities, old.candidateId ≠ c.candidateId ∧
        (old.executionId = plan.executionId → old.identity.mint ≠ c.mint) := by
  unfold insertCandidate at h
  obtain ⟨store₁, hidentity, h⟩ := bind_ok h
  obtain ⟨store₂, hlinks, h⟩ := bind_ok h
  obtain ⟨store₃, hevidence, h⟩ := bind_ok h
  obtain ⟨store₄, hcertificate, h⟩ := bind_ok h
  obtain ⟨rfl, hfree⟩ := insertIdentity_writes hidentity
  obtain rfl := insertLinks_writes _ hlinks
  obtain rfl := insertEvidences_writes _ hevidence
  obtain rfl := insertCertificate_writes hcertificate
  exact ⟨reserveCandidate_writes h, hfree⟩

theorem insertCandidates_writes (candidates : List Candidate) : ∀ {store store' : Store},
    candidates.foldlM (insertCandidate L plan) store = .ok store' →
      store' = { store with
        identities := store.identities ++ candidates.map (identityRow plan)
        links := store.links ++ candidates.flatMap linkRows
        evidence := store.evidence ++ candidates.flatMap fun c => c.stages.map (evidenceRow L c)
        certificates := store.certificates ++ candidates.map (certificateRow plan)
        reserve := candidates.foldl reserveAfter store.reserve } := by
  induction candidates with
  | nil =>
    intro store store' h
    obtain rfl := Except.ok.inj h
    simp
  | cons c rest ih =>
    intro store store' h
    rw [List.foldlM_cons] at h
    obtain ⟨mid, hmid, h⟩ := bind_ok h
    obtain ⟨rfl, _⟩ := insertCandidate_writes hmid
    rw [ih h]
    simp

/-- A mint has one candidate in an execution. -/
theorem insertCandidates_mints (candidates : List Candidate) : ∀ {store store' : Store},
    candidates.foldlM (insertCandidate L plan) store = .ok store' →
      (candidates.map fun c => c.mint).Nodup ∧ ∀ c ∈ candidates, ∀ old ∈ store.identities,
        old.executionId = plan.executionId → old.identity.mint ≠ c.mint := by
  induction candidates with
  | nil => simp
  | cons c rest ih =>
    intro store store' h
    rw [List.foldlM_cons] at h
    obtain ⟨mid, hmid, h⟩ := bind_ok h
    obtain ⟨rfl, hfree⟩ := insertCandidate_writes hmid
    obtain ⟨hnodup, hrest⟩ := ih h
    constructor
    · refine List.nodup_cons.mpr ⟨fun hmem => ?_, hnodup⟩
      obtain ⟨c', hc', hmint⟩ := List.mem_map.mp hmem
      exact hrest c' hc' (identityRow plan c) (by simp) rfl hmint.symm
    · intro c' hc' old hold hexecution
      rcases List.mem_cons.mp hc' with rfl | hc'
      · exact (hfree old hold).2 hexecution
      · exact hrest c' hc' old (by simp [hold]) hexecution

/-! ## Manifest, failure and report -/

def manifestRow (plan : Plan) (manifestId : String) (m : Manifest) (selected : List SelectedItem) :
    ManifestRow where
  manifestId := manifestId
  executionId := plan.executionId
  policyId := plan.policyId
  selectionCapacity := plan.selectionCapacity
  itemCount := selected.length
  readiness := m.readiness
  selectionSeed := plan.selectionSeed
  orderedItemHashes := selected.map SelectedItem.itemHash
  manifestHash := m.manifestHash

/-- The item is of the pair of the row. -/
def SelectedItem.takes (item : SelectedItem) (row : ReserveRow) : Bool :=
  item.mint = row.mintIdentity && item.pool = some row.poolAddress

def ReserveRow.claim (manifestId : String) (row : ReserveRow) : ReserveRow :=
  { row with reserveStatus := .claimedNeutral, claimedManifestId := some manifestId }

@[simp] theorem takes_claim (item : SelectedItem) (manifestId : String) (row : ReserveRow) :
    item.takes (row.claim manifestId) = item.takes row := rfl

@[simp] theorem claim_claim (manifestId : String) (row : ReserveRow) :
    (row.claim manifestId).claim manifestId = row.claim manifestId := rfl

/-- A row behind the claims of a manifest on the pairs of its items. -/
def claimedRow (manifestId : String) (selected : List SelectedItem) (row : ReserveRow) :
    ReserveRow :=
  if selected.any fun item => item.takes row then row.claim manifestId else row

theorem claimedRow_cons (manifestId : String) (item : SelectedItem) (rest : List SelectedItem)
    (row : ReserveRow) :
    claimedRow manifestId rest (claimedRow manifestId [item] row) =
      claimedRow manifestId (item :: rest) row := by
  by_cases hfirst : item.takes row = true <;> simp [claimedRow, hfirst]

theorem insertManifest_writes {manifestId : String} {m : Manifest} {selected : List SelectedItem}
    {store store' : Store} (h : insertManifest plan manifestId m selected store = .ok store') :
    store' = { store with
        manifests := store.manifests ++ [manifestRow plan manifestId m selected] } ∧
      (selected.length : ℤ) = plan.selectionCapacity ∧
      ∀ old ∈ store.manifests,
        old.manifestId ≠ manifestId ∧ old.executionId ≠ plan.executionId := by
  unfold insertManifest at h
  obtain ⟨manifests, hmanifests, h⟩ := bind_ok h
  obtain rfl := Except.ok.inj h
  obtain ⟨rfl, hfree, hlength⟩ := insertRow_ok hmanifests
  refine ⟨rfl, of_decide_eq_true hlength, fun old hold => ?_⟩
  have hconflict := hfree old hold
  simp only [Bool.or_eq_false_iff, decide_eq_false_iff_not] at hconflict
  exact hconflict.1

/-- The claim of one item is on the rows of its pair. -/
theorem claimedRow_of_pool {manifestId pool : String} {item : SelectedItem}
    (hpool : item.pool = some pool) (row : ReserveRow) :
    claimedRow manifestId [item] row =
      if row.isOf item.mint pool then row.claim manifestId else row := by
  have htakes : item.takes row = row.isOf item.mint pool := by
    simp only [SelectedItem.takes, ReserveRow.isOf, hpool, Option.some.injEq]
    rw [Bool.eq_iff_iff]
    simp only [Bool.and_eq_true, decide_eq_true_eq]
    exact and_congr eq_comm eq_comm
  simp [claimedRow, htakes]

theorem claimItem_writes {manifestId : String} {item : SelectedItem} {store store' : Store}
    (h : claimItem manifestId store item = .ok store') :
    store' = { store with
        manifestItems := store.manifestItems ++ [⟨manifestId, item⟩]
        reserve := store.reserve.map (claimedRow manifestId [item]) } := by
  unfold claimItem at h
  split at h
  · cases h
  · rename_i pool hpool
    obtain ⟨items, hitems, h⟩ := bind_ok h
    obtain rfl := Except.ok.inj h
    obtain ⟨rfl, _, _⟩ := insertRow_ok hitems
    rw [funext (claimedRow_of_pool hpool)]
    rfl

theorem claimItems_writes {manifestId : String} (selected : List SelectedItem) :
    ∀ {store store' : Store}, selected.foldlM (claimItem manifestId) store = .ok store' →
      store' = { store with
        manifestItems := store.manifestItems ++ selected.map fun item => ⟨manifestId, item⟩
        reserve := store.reserve.map (claimedRow manifestId selected) } := by
  induction selected with
  | nil =>
    intro store store' h
    obtain rfl := Except.ok.inj h
    have hnone : claimedRow manifestId [] = id := by
      funext row
      rfl
    simp [hnone]
  | cons item rest ih =>
    intro store store' h
    rw [List.foldlM_cons] at h
    obtain ⟨mid, hmid, h⟩ := bind_ok h
    obtain rfl := claimItem_writes hmid
    rw [ih h]
    simp [claimedRow_cons]

def failureRow (L : Library) (plan : Plan) (failure : Failure) (admittedCount : ℕ) :
    FailureRow where
  failureId := identifier L "cafail" (failurePayload plan failure admittedCount)
  executionId := plan.executionId
  failure := failure
  failureJson := failurePayload plan failure admittedCount
  failureHash := sha L (failurePayload plan failure admittedCount)

theorem insertFailure_writes {failure : Failure} {admittedCount : ℕ} {store store' : Store}
    (h : insertFailure L plan failure admittedCount store = .ok store') :
    store' = { store with
      failures := store.failures ++ [failureRow L plan failure admittedCount] } := by
  unfold insertFailure at h
  dsimp only at h
  obtain ⟨failures, hfailures, h⟩ := bind_ok h
  obtain rfl := Except.ok.inj h
  obtain ⟨rfl, _, _⟩ := insertRow_ok hfailures
  rfl

/-- The manifest with its items and their claims, in an execution that succeeds. -/
theorem persistManifest_writes {a : Acquisition} {store store' : Store}
    (h : persistManifest L plan a store = .ok store') :
    (∃ m, a.failure = none ∧ a.manifest = some m ∧
        store' = { store with
          manifests := store.manifests ++ [manifestRow plan (manifestId L m) m a.selected]
          manifestItems :=
            store.manifestItems ++ a.selected.map fun item => ⟨manifestId L m, item⟩
          reserve := store.reserve.map (claimedRow (manifestId L m) a.selected) } ∧
        ∀ old ∈ store.manifests, old.manifestId ≠ manifestId L m ∧
          old.executionId ≠ plan.executionId) ∨
      (a.failure = none → a.manifest = none) ∧ store' = store := by
  unfold persistManifest at h
  split at h
  · rename_i m hfailure hmanifest
    obtain ⟨mid, hmid, h⟩ := bind_ok h
    obtain ⟨rfl, _, hfree⟩ := insertManifest_writes hmid
    exact Or.inl ⟨m, hfailure, hmanifest, claimItems_writes _ h, hfree⟩
  · rename_i hnot
    refine Or.inr ⟨fun hfailure => ?_, (Except.ok.inj h).symm⟩
    cases hmanifest : a.manifest with
    | none => rfl
    | some m => exact absurd hmanifest (hnot m hfailure)

/-- The failure row of an execution that fails with a reason. -/
theorem persistFailure_writes {a : Acquisition} {store store' : Store}
    (h : persistFailure L plan a store = .ok store') :
    (∃ failure, a.failure = some failure ∧ failure.reason ≠ "" ∧ store' = { store with
        failures := store.failures ++ [failureRow L plan failure a.admitted.length] }) ∨
      (∀ failure, a.failure = some failure → failure.reason = "") ∧ store' = store := by
  unfold persistFailure at h
  split at h
  · rename_i failure hfailure
    split_ifs at h with hreason
    · exact Or.inl ⟨failure, hfailure, hreason, insertFailure_writes h⟩
    · refine Or.inr ⟨fun other hother => ?_, (Except.ok.inj h).symm⟩
      rw [hfailure] at hother
      obtain rfl := Option.some.inj hother
      exact not_not.mp hreason
  · rename_i hnone
    refine Or.inr ⟨fun other hother => ?_, (Except.ok.inj h).symm⟩
    rw [hnone] at hother
    cases hother

/-! ## The execution -/

/-- What a first execution worked out, and the two parts of its transaction. -/
theorem executeFirst_parts {db db' : Database} {items : List Item} {report : Value}
    (h : executeFirst L db plan items = .ok (report, db')) :
    ∃ a mid store', acquire L plan items = .ok a ∧
      persistSources L db.cursorTable plan a db.store = .ok mid ∧
      persistResults L plan a report mid = .ok store' ∧ db' = { db with store := store' } ∧
      report = buildReport L plan a (capabilityDeltas db.surroundings db.surroundings) := by
  unfold executeFirst at h
  replace h : (do
      let a ← acquire L plan items
      let store ← persistSources L db.cursorTable plan a db.store
      let store ← persistResults L plan a
        (buildReport L plan a (capabilityDeltas db.surroundings db.surroundings)) store
      return (buildReport L plan a (capabilityDeltas db.surroundings db.surroundings),
        { db with store })) = Except.ok (report, db') := by
    dsimp only at h
    split_ifs at h
    · obtain ⟨_, _, hrest⟩ := bind_ok h
      exact hrest
    · exact h
  obtain ⟨a, ha, h⟩ := bind_ok h
  obtain ⟨mid, hsources, h⟩ := bind_ok h
  obtain ⟨store', hresults, h⟩ := bind_ok h
  obtain ⟨rfl, rfl⟩ := Prod.mk.inj (Except.ok.inj h)
  exact ⟨a, mid, store', ha, hsources, hresults, rfl, rfl⟩

end PrinterV1.Discovery
