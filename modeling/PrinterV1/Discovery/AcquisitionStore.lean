import PrinterV1.Discovery.Selection
import PrinterV1.Discovery.TrackingRecheck

/-!
# The acquisition tables

The rows an execution persists, with the constraints of the schema that can
refuse them. An insertion that breaks a constraint raises, and the transaction
around it is lost. The foreign keys that are checked here are the two that do
not point at a row of the same execution written just before.
-/

namespace PrinterV1.Discovery

open Python

structure PolicyRow where
  policyId : String
  policyHash : String
  selectionCapacity : ℤ
  candidateAcquisitionCapacity : ℤ
  candidateReserveTarget : ℤ
  selectionSeed : String
  seedDomain : String
  allowedSources : List String
  sourceBudgets : Value
  gitProvenance : String
  deriving DecidableEq, Repr

structure ExecutionRow where
  executionId : String
  policyId : String
  inputHash : String
  replayIdentity : String
  windowStart : String
  windowEnd : String
  cutoffAt : String
  finalizedCutoffSlot : ℤ
  succeeded : Bool
  failureFamily : Option FailureFamily
  certificateCount : ℕ
  admittedCount : ℕ
  selectedCount : ℕ
  manifestId : Option String
  deriving DecidableEq, Repr

structure RoundRow where
  roundId : String
  executionId : String
  roundOrdinal : ℤ
  roundMode : String
  sourceName : String
  requestKind : String
  sourceStatus : String
  failureReason : Value
  governedRequestsUsed : ℤ
  transportOperationsUsed : ℤ
  bytesUsed : ℤ
  rowsUsed : ℤ
  durationMilliseconds : ℤ
  contentHash : String
  deriving DecidableEq, Repr

/-- A row of `printer_candidate_source_observations`: the item and its round. -/
structure ObservationRow where
  item : Item
  executionId : String
  roundId : String
  deriving DecidableEq, Repr

structure RangeRow where
  rangeId : String
  executionId : String
  network : String
  indexedAddress : Value
  contractPin : Value
  decoderVersion : Value
  direction : Value
  startSlot : Value
  startSignature : Value
  endSlot : Value
  endSignature : Value
  continuityState : Value
  cursorAdvanced : Bool
  unresolvedReason : Value
  rangeHash : String
  deriving DecidableEq, Repr

/-- The key of a cursor head. -/
structure Namespace where
  network : String
  indexedAddress : String
  contractPin : String
  decoderVersion : String
  direction : String
  deriving DecidableEq, Repr

/-- A row of `printer_candidate_acquisition_cursors`. -/
structure CursorRow where
  namespaceKey : Namespace
  boundarySlot : Value
  boundarySignature : Value
  lastRangeId : String
  lastExecutionId : String
  cursorVersion : ℕ
  deriving DecidableEq, Repr

/-- A row of `printer_candidate_identities`. -/
structure IdentityRow where
  candidateId : String
  executionId : String
  identity : Identity
  identityHash : String
  deriving DecidableEq, Repr

structure LinkRow where
  candidateId : String
  observationId : String
  deriving DecidableEq, Repr

structure EvidenceRow where
  evidenceId : String
  candidateId : String
  stage : Stage
  evidenceHash : String
  evidenceJson : Value
  deriving DecidableEq, Repr

structure CertificateRow where
  certificateId : String
  candidateId : String
  executionId : String
  policyHash : String
  admitted : Bool
  admissionReason : String
  issuedAt : String
  expiresAt : String
  certificateJson : Value
  certificateHash : String
  deriving DecidableEq, Repr

inductive ReserveStatus
  | eligibleFresh | claimedNeutral
  deriving DecidableEq, Repr

structure ReserveRow where
  mintIdentity : String
  poolAddress : String
  currentCertificateId : String
  currentCertificateHash : String
  reserveVersion : ℕ
  reserveStatus : ReserveStatus
  issuedAt : String
  expiresAt : String
  claimedManifestId : Option String
  deriving DecidableEq, Repr

structure ManifestRow where
  manifestId : String
  executionId : String
  policyId : String
  selectionCapacity : ℤ
  itemCount : ℕ
  readiness : Readiness
  selectionSeed : String
  orderedItemHashes : List String
  manifestHash : String
  deriving DecidableEq, Repr

structure ManifestItemRow where
  manifestId : String
  item : SelectedItem
  deriving DecidableEq, Repr

structure FailureRow where
  failureId : String
  executionId : String
  failure : Failure
  failureJson : Value
  failureHash : String
  deriving DecidableEq, Repr

structure ReportRow where
  executionId : String
  policyHash : String
  inputHash : String
  replayIdentity : String
  reportJson : Value
  reportHash : String
  deriving DecidableEq, Repr

structure Store where
  policies : List PolicyRow
  executions : List ExecutionRow
  rounds : List RoundRow
  observations : List ObservationRow
  ranges : List RangeRow
  cursors : List CursorRow
  identities : List IdentityRow
  links : List LinkRow
  evidence : List EvidenceRow
  certificates : List CertificateRow
  reserve : List ReserveRow
  manifests : List ManifestRow
  manifestItems : List ManifestItemRow
  failures : List FailureRow
  reports : List ReportRow

def Store.empty : Store := ⟨[], [], [], [], [], [], [], [], [], [], [], [], [], [], []⟩

/-- The database; the cursor table is there from migration 049 on. -/
structure Database where
  surroundings : Surroundings
  cursorTable : Bool
  store : Store

/-! ## Statements -/

/-- `INSERT`: refused when a row conflicts with the new one or a check fails. -/
def insertRow {ρ : Type} (rows : List ρ) (row : ρ) (conflicts : ρ → Bool) (checks : Bool) :
    Except Fault (List ρ) :=
  if rows.any conflicts = true ∨ checks = false then .error (.database "constraint failed")
  else .ok (rows ++ [row])

def maxInteger : ℤ := 9223372036854775807

/-- Lists, mappings and integers beyond 64 bits cannot be bound to a statement. -/
def bindValue (v : Value) : Except Fault Unit :=
  match v with
  | .list _ => .error (.database "Error binding parameter: type 'list' is not supported")
  | .dict _ => .error (.database "Error binding parameter: type 'dict' is not supported")
  | .int n =>
    if n < -maxInteger - 1 ∨ maxInteger < n then
      .error (.python (.overflowError "Python int too large to convert to SQLite INTEGER"))
    else .ok ()
  | _ => .ok ()

def bindValues (vs : List Value) : Except Fault Unit := vs.forM bindValue

/-- `NULL`; a not-a-number is stored as one. -/
def isNull (v : Value) : Bool := v = .none || v = .nan

/-- The text is blank for SQLite's `trim`, which takes off spaces alone. -/
def blank (s : String) : Bool := s.toList.all fun c => c = ' '

variable (L : Library)

/-- `INSERT OR IGNORE`: a conflict or a failed check leaves the table alone. -/
def insertPolicy (plan : Plan) (store : Store) : Store :=
  let row : PolicyRow :=
    { policyId := plan.policyId, policyHash := plan.policyHash
      selectionCapacity := plan.selectionCapacity
      candidateAcquisitionCapacity := plan.candidateAcquisitionCapacity
      candidateReserveTarget := plan.candidateReserveTarget
      selectionSeed := plan.selectionSeed, seedDomain := plan.seedDomain
      allowedSources := plan.allowedSources, sourceBudgets := plan.sourceBudgets
      gitProvenance := plan.gitProvenance }
  if (store.policies.any fun old =>
      old.policyId = row.policyId || old.policyHash = row.policyHash) = true ∨
      blank plan.selectionSeed = true ∨ blank plan.gitProvenance = true then store
  else { store with policies := store.policies ++ [row] }

def insertExecution (row : ExecutionRow) (store : Store) : Except Fault Store := do
  bindValues [.int row.finalizedCutoffSlot]
  let executions ← insertRow store.executions row
    (fun old => old.executionId = row.executionId || old.replayIdentity = row.replayIdentity)
    (store.policies.any fun policy => policy.policyId = row.policyId)
  return { store with executions }

/-- `round_payload` -/
def roundPayload (plan : Plan) (item : Item) : Value :=
  .dict
    [("execution_id", .str plan.executionId), ("kind", .str item.requestKind),
      ("ordinal", .int item.roundOrdinal), ("source", .str item.sourceName)]

def insertRound (plan : Plan) (item : Item) (store : Store) : Except Fault Store := do
  let row : RoundRow :=
    { roundId := identifier L "carnd" (roundPayload plan item), executionId := plan.executionId
      roundOrdinal := item.roundOrdinal, roundMode := item.roundMode
      sourceName := item.sourceName, requestKind := item.requestKind
      sourceStatus := item.sourceStatus, failureReason := L.textColumn item.failureReason
      governedRequestsUsed := item.governedRequestsUsed
      transportOperationsUsed := item.transportOperationsUsed, bytesUsed := item.bytesUsed
      rowsUsed := item.rowsUsed, durationMilliseconds := item.durationMilliseconds
      contentHash := sha L (roundPayload plan item) }
  bindValues [.int item.roundOrdinal, item.failureReason, .int item.governedRequestsUsed,
    .int item.transportOperationsUsed, .int item.bytesUsed, .int item.rowsUsed,
    .int item.durationMilliseconds]
  let rounds ← insertRow store.rounds row
    (fun old => old.roundId = row.roundId ||
      (old.executionId = row.executionId && old.roundOrdinal = row.roundOrdinal)) true
  return { store with rounds }

def insertObservation (plan : Plan) (item : Item) (roundId : String) (store : Store) :
    Except Fault Store := do
  let observations ← insertRow store.observations ⟨item, plan.executionId, roundId⟩
    (fun old => old.item.observationId = item.observationId ||
      (old.executionId = plan.executionId && old.item.sourceName = item.sourceName &&
        old.item.contentHash = item.contentHash)) true
  return { store with observations }

/-- The loop over the items: the round of each, when it is the first of its
ordinal, and the observation. -/
def insertRounds (plan : Plan) : List (ℤ × String) → List Item → Store → Except Fault Store
  | _, [], store => .ok store
  | roundIds, item :: rest, store =>
    match roundIds.lookup item.roundOrdinal with
    | some roundId => do
      let store ← insertObservation plan item roundId store
      insertRounds plan roundIds rest store
    | none => do
      let roundId := identifier L "carnd" (roundPayload plan item)
      let store ← insertRound L plan item store
      let store ← insertObservation plan item roundId store
      insertRounds plan ((item.roundOrdinal, roundId) :: roundIds) rest store

/-! ## Cursor ranges and heads -/

/-- `cursor_payload`: the items of the range come last. -/
def cursorPayload (plan : Plan) (ordinal : ℤ) (cursor : Dict) : Dict :=
  Dict.merge [("execution_id", .str plan.executionId), ("round_ordinal", .int ordinal)] cursor

def rangeId (plan : Plan) (ordinal : ℤ) (cursor : Dict) : String :=
  identifier L "cange" (.dict (cursorPayload plan ordinal cursor))

/-- The row of a cursor range. -/
def rangeRow (plan : Plan) (ordinal : ℤ) (cursor : Dict) : RangeRow where
  rangeId := rangeId L plan ordinal cursor
  executionId := plan.executionId
  network := plan.network
  indexedAddress := L.textColumn (cursor.get "indexed_address")
  contractPin := L.textColumn (cursor.get "contract_pin")
  decoderVersion := L.textColumn (cursor.get "decoder_version")
  direction := L.textColumn (cursor.get "direction")
  startSlot := L.integerColumn (cursor.get "start_slot")
  startSignature := L.textColumn (cursor.get "start_signature")
  endSlot := L.integerColumn (cursor.get "end_slot")
  endSignature := L.textColumn (cursor.get "end_signature")
  continuityState := L.textColumn (cursor.get "continuity_state")
  cursorAdvanced := (cursor.get "cursor_advanced").truthy
  unresolvedReason := L.textColumn (cursor.get "unresolved_reason")
  rangeHash := sha L (.dict (cursorPayload plan ordinal cursor))

/-- The `NOT NULL` columns and the `CHECK` clauses of a range. -/
def RangeRow.checks (r : RangeRow) : Bool :=
  !isNull r.indexedAddress && !isNull r.contractPin && !isNull r.decoderVersion &&
    (r.direction = .str "FORWARD" || r.direction = .str "BACKWARD") &&
    (continuityStates.any fun state => r.continuityState = .str state) &&
    (!r.cursorAdvanced || r.continuityState = .str "CONTIGUOUS")

def insertRange (plan : Plan) (ordinal : ℤ) (cursor : Dict) (store : Store) :
    Except Fault Store := do
  let row := rangeRow L plan ordinal cursor
  bindValues (["indexed_address", "contract_pin", "decoder_version", "direction", "start_slot",
    "start_signature", "end_slot", "end_signature", "continuity_state", "unresolved_reason"].map
      cursor.get)
  let ranges ← insertRow store.ranges row
    (fun old => old.rangeId = row.rangeId || old.rangeHash = row.rangeHash) row.checks
  return { store with ranges }

/-- The first cursor range of every round is persisted. -/
def insertRanges (plan : Plan) : List ℤ → List Item → Store → Except Fault Store
  | _, [], store => .ok store
  | persisted, item :: rest, store =>
    match item.cursorRange with
    | none => insertRanges plan persisted rest store
    | some cursor =>
      if item.roundOrdinal ∈ persisted then insertRanges plan persisted rest store
      else do
        let store ← insertRange L plan item.roundOrdinal cursor store
        insertRanges plan (item.roundOrdinal :: persisted) rest store

def cursorNamespace (network : String) (cursor : Dict) : Namespace where
  network := network
  indexedAddress := (cursor.get "indexed_address").text L.rendering
  contractPin := (cursor.get "contract_pin").text L.rendering
  decoderVersion := (cursor.get "decoder_version").text L.rendering
  direction := (cursor.get "direction").text L.rendering

/-- `range_identity` -/
def rangeIdentity (cursor : Dict) : List Value :=
  [cursor.get "start_slot", cursor.get "start_signature", cursor.get "end_slot",
    cursor.get "end_signature", cursor.get "continuity_state",
    .bool (cursor.get "cursor_advanced").truthy, cursor.get "unresolved_reason",
    cursor.get "range_mode"]

/-- The head of a namespace. -/
def Store.head? (store : Store) (ns : Namespace) : Option CursorRow :=
  store.cursors.find? fun head => head.namespaceKey = ns

/-- The cursor range of an item, where it is not empty. -/
def itemCursor (item : Item) : Option Dict := item.cursorRange.filter fun cursor => cursor ≠ []

/-- The range starts where the head stands. -/
def startsAtHead (cursor : Dict) (head : CursorRow) : Bool :=
  Value.pyEq (cursor.get "start_slot") head.boundarySlot &&
    Value.pyEq (cursor.get "start_signature") head.boundarySignature

/-- `_validate_current_cursor_heads`; `seen` holds the ranges met before, by
namespace. -/
def validateCurrentCursorHeads (store : Store) :
    List (Namespace × List Value) → List Item → Except Fault Unit
  | _, [] => .ok ()
  | seen, item :: rest =>
    match itemCursor item with
    | none => validateCurrentCursorHeads store seen rest
    | some cursor =>
      let ns := cursorNamespace L solanaMainnet cursor
      let address := (cursor.get "indexed_address").text L.rendering
      match seen.lookup ns with
      | some identity =>
        if Value.pyEqList identity (rangeIdentity cursor) then
          validateCurrentCursorHeads store seen rest
        else .error (.acquisition "CURSOR_NAMESPACE_RANGE_CONFLICT" address)
      | none =>
        if (store.head? ns).any fun head => !startsAtHead cursor head then
          .error (.acquisition "CURSOR_START_MISMATCH" address)
        else validateCurrentCursorHeads store ((ns, rangeIdentity cursor) :: seen) rest

/-- `INSERT ... ON CONFLICT DO UPDATE` of a head. -/
def upsertHead (cursors : List CursorRow) (row : CursorRow) : List CursorRow :=
  if cursors.any fun old => old.namespaceKey = row.namespaceKey then
    cursors.map fun old => if old.namespaceKey = row.namespaceKey then row else old
  else cursors ++ [row]

/-- A head moved to the end of an advanced range. -/
def advanceHead (plan : Plan) (item : Item) (cursor : Dict) (ns : Namespace) (store : Store) :
    Except Fault Store := do
  if cursor.get "continuity_state" ≠ .str "CONTIGUOUS" then
    throw (.acquisition "CURSOR_ADVANCED_PAST_UNRESOLVED_EVIDENCE" "")
  if cursor.get "end_slot" = .none ∧ (cursor.get "end_signature").truthy = false then
    throw (.acquisition "CURSOR_END_BOUNDARY_REQUIRED" "")
  bindValues [cursor.get "end_slot", cursor.get "end_signature"]
  let row : CursorRow :=
    { namespaceKey := ns
      boundarySlot := L.integerColumn (cursor.get "end_slot")
      boundarySignature := L.textColumn (cursor.get "end_signature")
      lastRangeId := rangeId L plan item.roundOrdinal cursor
      lastExecutionId := plan.executionId
      cursorVersion := ((store.head? ns).map CursorRow.cursorVersion).getD 0 + 1 }
  if store.ranges.any fun range => range.rangeId = row.lastRangeId then
    return { store with cursors := upsertHead store.cursors row }
  else throw (.database "FOREIGN KEY constraint failed")

/-- `_advance_current_cursor_heads`: the first range of every namespace counts. -/
def advanceCurrentCursorHeads (plan : Plan) :
    List Namespace → List Item → Store → Except Fault Store
  | _, [], store => .ok store
  | seen, item :: rest, store =>
    match itemCursor item with
    | none => advanceCurrentCursorHeads plan seen rest store
    | some cursor =>
      let ns := cursorNamespace L plan.network cursor
      if ns ∈ seen then advanceCurrentCursorHeads plan seen rest store
      else if (cursor.get "cursor_advanced").truthy = false then
        advanceCurrentCursorHeads plan (ns :: seen) rest store
      else do
        let store ← advanceHead L plan item cursor ns store
        advanceCurrentCursorHeads plan (ns :: seen) rest store

/-! ## Candidates, manifest and failure -/

def insertIdentity (plan : Plan) (c : Candidate) (store : Store) : Except Fault Store := do
  let identities ← insertRow store.identities
    ⟨c.candidateId, plan.executionId, c.toIdentity, c.identityHash⟩
    (fun old => old.candidateId = c.candidateId ||
      (old.executionId = plan.executionId &&
        (old.identity.mint = c.mint || (c.pool.isSome && old.identity.pool = c.pool)))) true
  return { store with identities }

def insertLink (c : Candidate) (store : Store) (item : Item) : Except Fault Store := do
  let row : LinkRow := ⟨c.candidateId, item.observationId⟩
  let links ← insertRow store.links row (fun old => old = row) true
  return { store with links }

/-- `evidence_payload` -/
def evidencePayload (c : Candidate) (stage : Stage) : Value :=
  .dict (Dict.set stage.payload "candidate_id" (.str c.candidateId))

def insertEvidence (c : Candidate) (store : Store) (stage : Stage) : Except Fault Store := do
  let row : EvidenceRow :=
    { evidenceId := identifier L "caevi" (evidencePayload c stage), candidateId := c.candidateId
      stage, evidenceHash := sha L (evidencePayload c stage)
      evidenceJson := evidencePayload c stage }
  let evidence ← insertRow store.evidence row
    (fun old => old.evidenceId = row.evidenceId ||
      (old.candidateId = row.candidateId && old.stage.stageOrdinal = stage.stageOrdinal)) true
  return { store with evidence }

def insertCertificate (plan : Plan) (c : Candidate) (store : Store) : Except Fault Store := do
  let row : CertificateRow :=
    { certificateId := c.certificateId, candidateId := c.candidateId
      executionId := plan.executionId, policyHash := plan.policyHash, admitted := c.admitted
      admissionReason := c.admissionReason, issuedAt := c.issuedAt, expiresAt := c.expiresAt
      certificateJson := c.certificateJson, certificateHash := c.certificateHash }
  let certificates ← insertRow store.certificates row
    (fun old => old.certificateId = row.certificateId ||
      old.certificateHash = row.certificateHash) true
  return { store with certificates }

/-- The row is the one of the mint and the pool. -/
def ReserveRow.isOf (mint pool : String) (row : ReserveRow) : Bool :=
  row.mintIdentity = mint && row.poolAddress = pool

/-- The reserve row of an admitted candidate, which is fresh again. -/
def upsertReserve (c : Candidate) (pool : String) (rows : List ReserveRow) : List ReserveRow :=
  let version := ((rows.find? (ReserveRow.isOf c.mint pool)).map ReserveRow.reserveVersion).getD 0 + 1
  let row : ReserveRow :=
    { mintIdentity := c.mint, poolAddress := pool, currentCertificateId := c.certificateId
      currentCertificateHash := c.certificateHash, reserveVersion := version
      reserveStatus := .eligibleFresh, issuedAt := c.issuedAt, expiresAt := c.expiresAt
      claimedManifestId := none }
  if rows.any (ReserveRow.isOf c.mint pool) then
    rows.map fun old => if old.isOf c.mint pool then row else old
  else rows ++ [row]

/-- The reserve of a candidate; the column of its pool is `NOT NULL`. -/
def reserveCandidate (c : Candidate) (store : Store) : Except Fault Store :=
  if c.admitted then
    match c.pool with
    | some pool => .ok { store with reserve := upsertReserve c pool store.reserve }
    | none => .error (.database "constraint failed")
  else .ok store

/-- Everything that is persisted for one candidate. -/
def insertCandidate (plan : Plan) (store : Store) (c : Candidate) : Except Fault Store := do
  let store ← insertIdentity plan c store
  let store ← c.observations.foldlM (insertLink c) store
  let store ← c.stages.foldlM (insertEvidence L c) store
  let store ← insertCertificate plan c store
  reserveCandidate c store

def insertManifest (plan : Plan) (manifestId : String) (m : Manifest)
    (selected : List SelectedItem) (store : Store) : Except Fault Store := do
  let row : ManifestRow :=
    { manifestId, executionId := plan.executionId, policyId := plan.policyId
      selectionCapacity := plan.selectionCapacity, itemCount := selected.length
      readiness := m.readiness, selectionSeed := plan.selectionSeed
      orderedItemHashes := selected.map SelectedItem.itemHash, manifestHash := m.manifestHash }
  let manifests ← insertRow store.manifests row
    (fun old => old.manifestId = row.manifestId || old.executionId = row.executionId ||
      old.manifestHash = row.manifestHash) ((selected.length : ℤ) = plan.selectionCapacity)
  return { store with manifests }

/-- An item of the manifest, and the claim on its reserve row. -/
def claimItem (manifestId : String) (store : Store) (item : SelectedItem) : Except Fault Store := do
  match item.pool with
  | none => throw (.database "constraint failed")
  | some pool =>
    let manifestItems ← insertRow store.manifestItems ⟨manifestId, item⟩
      (fun old => old.manifestId = manifestId && (old.item.itemOrdinal = item.itemOrdinal ||
        old.item.mint = item.mint || old.item.pool = item.pool ||
        old.item.itemHash = item.itemHash)) true
    return { store with
      manifestItems
      reserve := store.reserve.map fun row =>
        if row.isOf item.mint pool then
          { row with reserveStatus := .claimedNeutral, claimedManifestId := some manifestId }
        else row }

/-- `failure_payload` -/
def failurePayload (plan : Plan) (failure : Failure) (admittedCount : ℕ) : Value :=
  .dict
    [("admitted_count", .int admittedCount), ("execution_id", .str plan.executionId),
      ("failure_family", .str failure.family.value), ("reason_code", .str failure.reason),
      ("required_n", .int plan.selectionCapacity)]

def insertFailure (plan : Plan) (failure : Failure) (admittedCount : ℕ) (store : Store) :
    Except Fault Store := do
  let payload := failurePayload plan failure admittedCount
  let row : FailureRow :=
    { failureId := identifier L "cafail" payload, executionId := plan.executionId, failure
      failureJson := payload, failureHash := sha L payload }
  let failures ← insertRow store.failures row
    (fun old => old.failureId = row.failureId || old.failureHash = row.failureHash) true
  return { store with failures }

def insertReport (row : ReportRow) (store : Store) : Except Fault Store := do
  let reports ← insertRow store.reports row
    (fun old => old.executionId = row.executionId || old.replayIdentity = row.replayIdentity ||
      old.reportHash = row.reportHash) true
  return { store with reports }

end PrinterV1.Discovery
