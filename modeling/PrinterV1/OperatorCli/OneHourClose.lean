import PrinterV1.Foundation.Tables
import PrinterV1.Snapshots.FirstHour

/-!
# Closing a one hour window

`close_1h_memory_window_from_snapshot` checks the closing snapshot, looks for an
earlier window under the start that was asked for, and writes one row. The
bounds of the row are those of the snapshots, or those of the fifteen minute
window it continues. The letters of the two mints are compared in lower case;
`lower` stands for `str.lower`, and `clock` is that of the host.
-/

namespace PrinterV1.OperatorCli.OneHourClose

open Python Snapshots.FirstHour

structure TokenRow where
  id : ℤ
  tokenMint : String
  chain : String
  deriving DecidableEq, Repr

structure SnapshotRow where
  id : ℤ
  tokenId : ℤ
  pairId : Option ℤ
  capturedAt : String
  trackingLane : String
  snapshotMode : String
  sourceStatus : String
  dataQualityLabel : String
  deriving DecidableEq, Repr

/-- What `supporting_context_json` holds. -/
structure WindowContext where
  snapshotId : ℤ
  trackingLane : String
  snapshotMode : String
  approvedMint : String
  createdBy : String
  continuity : Option ContinuityResult := none
  continuationRunId : Option String := none
  continuationOfWindowId : Option ℤ := none
  linkedClosingSnapshotId : Option ℤ := none
  linkedFirstSnapshotId : Option ℤ := none
  deriving DecidableEq, Repr

structure WindowRow where
  id : ℤ
  tokenId : ℤ
  pairId : Option ℤ
  windowKind : String
  openedAt : String
  closedAt : Option String
  memoryStatus : String
  dataQualityLabel : String
  doNotTrain : Bool
  windowStatus : Option String
  supportingContext : Option WindowContext
  createdByPhase : Option String
  createdAt : String
  updatedAt : String
  windowStartAt : Option String
  windowEndAt : Option String
  snapshotStartId : Option ℤ
  snapshotEndId : Option ℤ
  deriving DecidableEq, Repr

structure Db where
  tokens : Table TokenRow.id
  snapshots : Table SnapshotRow.id
  windows : Table WindowRow.id

/-- `_load_snapshot_captured_at` -/
def loadSnapshotCapturedAt (db : Db) (snapshotId : ℤ) : Option String :=
  (db.snapshots.find? snapshotId).map SnapshotRow.capturedAt

/-- `_load_snapshot_with_token` -/
def loadSnapshotWithToken (db : Db) (snapshotId : ℤ) : Option (SnapshotRow × TokenRow) := do
  let snapshot ← db.snapshots.find? snapshotId
  let token ← db.tokens.find? snapshot.tokenId
  return (snapshot, token)

/-- `_compute_elapsed_seconds`, in microseconds: clocks are compared where only one of the two has
an offset. -/
def computeElapsedSeconds (startTs endTs : String) : Option ℤ := do
  let s ← fromisoformat startTs
  let e ← fromisoformat endTs
  if s.utcoffset.isSome = e.utcoffset.isSome then return e.instantUtc - s.instantUtc
  else return e.wall - s.wall

def minElapsedSeconds : ℤ := 2700

/-- `elapsed_seconds is not None and elapsed_seconds >= _MIN_ELAPSED_SECONDS` -/
def longEnough (elapsed : Option ℤ) : Bool := elapsed.any fun e => e ≥ seconds minElapsedSeconds

/-- `COALESCE(pair_id, -1)` -/
def coalescePair (pairId : Option ℤ) : ℤ := pairId.getD (-1)

def windowKind1h : String := "WINDOW_1H"

/-- The row was made for the token, the pair and the start. -/
def WindowRow.isFor (w : WindowRow) (tokenId : ℤ) (pairId : Option ℤ) (snapshotStartId : ℤ) :
    Bool :=
  w.tokenId = tokenId ∧ coalescePair w.pairId = coalescePair pairId ∧
    w.windowKind = windowKind1h ∧ w.snapshotStartId = some snapshotStartId

/-- `_find_existing_1h_window` -/
def findExisting1hWindow (db : Db) (tokenId : ℤ) (pairId snapshotStartId : Option ℤ) : Option ℤ :=
  match snapshotStartId with
  | none => none
  | some sid => (db.windows.rows.find? fun w => w.isFor tokenId pairId sid).map WindowRow.id

/-- The arguments of a call, and the time it writes. -/
structure Call where
  snapshotId : ℤ
  approvedMint : String
  snapshotStartId : Option ℤ := none
  expectedPairId : Option ℤ := none
  continuationOf15m : Option FifteenM := none
  consumed15mWindowIds : List ℤ := []
  now : String
  deriving DecidableEq, Repr

inductive BlockedReason
  | sourceStatus (got : String)
  | dataQuality (got : String)
  | trackingLane (got : String)
  | chain (got : String)
  | mint (tokenMint approvedMint : String)
  | pairDrift (expected : ℤ) (got : Option ℤ)
  deriving DecidableEq, Repr

inductive NotEligibleReason
  | startNotFound (snapshotStartId : ℤ)
  | elapsedTooShort (elapsed : Option ℤ)
  | startNotProvided
  deriving DecidableEq, Repr

/-- The audit of a call that wrote a row. -/
structure Created where
  windowId : ℤ
  tokenId : ℤ
  pairId : Option ℤ
  approvedMint : String
  snapshotId : ℤ
  snapshotStartId : Option ℤ
  snapshotEndId : Option ℤ
  trackingLane : String
  snapshotMode : String
  openedAt : String
  closedAt : String
  windowStartAt : Option String
  windowEndAt : Option String
  elapsedSeconds : Option ℤ
  laneQIntegrityEligible : Bool
  doNotTrain : Bool
  continuity : Option ContinuityResult
  notEligibleReason : Option NotEligibleReason
  deriving DecidableEq, Repr

inductive Answer
  | notFound (snapshotId : ℤ)
  | blocked (reasons : List BlockedReason) (pairDriftDetected : Bool)
  | duplicate (existingWindowId tokenId : ℤ) (pairId : Option ℤ)
  | continuityBlocked (continuity : ContinuityResult)
  | created (audit : Created)
  deriving DecidableEq, Repr

variable (clock : LocalClock) (lower : String → String)

/-- `blocked_reasons` of the closing snapshot. -/
def blockedReasons (call : Call) (snapshot : SnapshotRow) (token : TokenRow) :
    List BlockedReason :=
  (if snapshot.sourceStatus ≠ "COMPLETE" then [.sourceStatus snapshot.sourceStatus] else []) ++
    (if snapshot.dataQualityLabel ≠ "CLEAN_DATA" then [.dataQuality snapshot.dataQualityLabel]
      else []) ++
    (if snapshot.trackingLane ∉ ["TRACK_FAST", "TRACK_NORMAL"] then
      [.trackingLane snapshot.trackingLane] else []) ++
    (if token.chain ≠ "solana" then [.chain token.chain] else []) ++
    (if lower token.tokenMint ≠ lower call.approvedMint then
      [.mint token.tokenMint call.approvedMint] else []) ++
    match call.expectedPairId with
      | some expected =>
        if snapshot.pairId ≠ some expected then [.pairDrift expected snapshot.pairId] else []
      | none => []

/-- The bounds of a row, and what the audit says of them. -/
structure Bounds where
  windowStartAt : Option String := none
  windowEndAt : Option String := none
  snapshotStartId : Option ℤ := none
  snapshotEndId : Option ℤ := none
  elapsedSeconds : Option ℤ := none
  laneQIntegrityEligible : Bool := false
  notEligibleReason : Option NotEligibleReason := none
  deriving DecidableEq, Repr

/-- The bounds from the times of the two snapshots. -/
def snapshotBounds (db : Db) (call : Call) (snapshot : SnapshotRow) : Bounds :=
  match call.snapshotStartId with
  | none => { notEligibleReason := some .startNotProvided }
  | some sid =>
    match loadSnapshotCapturedAt db sid with
    | none => { notEligibleReason := some (.startNotFound sid) }
    | some startCapturedAt =>
      let elapsed := computeElapsedSeconds startCapturedAt snapshot.capturedAt
      { windowStartAt := some startCapturedAt
        windowEndAt := some snapshot.capturedAt
        snapshotStartId := some sid
        snapshotEndId := some call.snapshotId
        elapsedSeconds := elapsed
        laneQIntegrityEligible := longEnough elapsed
        notEligibleReason := if longEnough elapsed then none else some (.elapsedTooShort elapsed) }

/-- `one_h_link` -/
def oneHLink (fifteenM : FifteenM) (snapshot : SnapshotRow) (bounds : Bounds)
    (deadline : Option Instant) : OneH where
  runId := fifteenM.runId
  tokenId := some snapshot.tokenId
  pairId := snapshot.pairId
  trackingLane := some snapshot.trackingLane
  continuationOfWindowId := fifteenM.id
  linkedClosingSnapshotId := fifteenM.snapshotEndId
  linkedFirstSnapshotId := bounds.snapshotStartId
  firstSnapshotAt := bounds.windowStartAt
  deadlineAt := deadline.map isoformat

/-- The bounds of a continuation: from the close of the fifteen minute window to the deadline. -/
def anchoredBounds (bounds : Bounds) (closeAt : Option String) (deadline : Option Instant) :
    Bounds :=
  match closeAt, deadline with
  | some closeAt, some deadline =>
    let elapsed := computeElapsedSeconds closeAt (isoformat deadline)
    { bounds with
      windowStartAt := some closeAt
      windowEndAt := some (isoformat deadline)
      elapsedSeconds := elapsed
      laneQIntegrityEligible := longEnough elapsed }
  | _, _ => bounds

/-- The row of `_insert_1h_memory_window`. -/
def windowRow (db : Db) (call : Call) (snapshot : SnapshotRow) (bounds : Bounds)
    (continuity : Option (FifteenM × ContinuityResult)) : WindowRow :=
  let doNotTrain := continuity.any fun c => c.2.status = .dirty ∨ c.2.doNotTrain
  { id := nextRowid (db.windows.rows.map WindowRow.id)
    tokenId := snapshot.tokenId
    pairId := snapshot.pairId
    windowKind := windowKind1h
    openedAt := bounds.windowStartAt.getD snapshot.capturedAt
    closedAt := some snapshot.capturedAt
    memoryStatus := "PARTIAL_MEMORY"
    dataQualityLabel := if doNotTrain then "DIRTY_DATA" else "CLEAN_DATA"
    doNotTrain := doNotTrain
    windowStatus := some "WINDOW_CLOSED"
    supportingContext := some
      { snapshotId := call.snapshotId
        trackingLane := snapshot.trackingLane
        snapshotMode := snapshot.snapshotMode
        approvedMint := call.approvedMint
        createdBy := "lane_e2o_1h"
        continuity := continuity.map Prod.snd
        continuationRunId := continuity.bind fun c => c.1.runId
        continuationOfWindowId := continuity.bind fun c => c.1.id
        linkedClosingSnapshotId := continuity.bind fun c => c.1.snapshotEndId
        linkedFirstSnapshotId := continuity.bind fun _ => bounds.snapshotStartId }
    createdByPhase := some "lane_e2o_1h"
    createdAt := call.now
    updatedAt := call.now
    windowStartAt := bounds.windowStartAt
    windowEndAt := bounds.windowEndAt
    snapshotStartId := bounds.snapshotStartId
    snapshotEndId := bounds.snapshotEndId }

theorem windowRow_fresh (db : Db) (call : Call) (snapshot : SnapshotRow) (bounds : Bounds)
    (continuity : Option (FifteenM × ContinuityResult)) :
    ∀ old ∈ db.windows.rows, old.id ≠ (windowRow db call snapshot bounds continuity).id := by
  intro old hold
  exact ne_of_lt (lt_nextRowid (List.mem_map_of_mem hold))

/-- `_insert_1h_memory_window` and the audit of the call. -/
def insert1hMemoryWindow (db : Db) (call : Call) (snapshot : SnapshotRow) (bounds : Bounds)
    (continuity : Option (FifteenM × ContinuityResult)) : Db × Created :=
  let row := windowRow db call snapshot bounds continuity
  ({ db with windows := db.windows.insert row (windowRow_fresh db call snapshot bounds continuity) },
    { windowId := row.id
      tokenId := row.tokenId
      pairId := row.pairId
      approvedMint := call.approvedMint
      snapshotId := call.snapshotId
      snapshotStartId := bounds.snapshotStartId
      snapshotEndId := bounds.snapshotEndId
      trackingLane := snapshot.trackingLane
      snapshotMode := snapshot.snapshotMode
      openedAt := row.openedAt
      closedAt := snapshot.capturedAt
      windowStartAt := bounds.windowStartAt
      windowEndAt := bounds.windowEndAt
      elapsedSeconds := bounds.elapsedSeconds
      laneQIntegrityEligible := bounds.laneQIntegrityEligible
      doNotTrain := row.doNotTrain
      continuity := continuity.map Prod.snd
      notEligibleReason := bounds.notEligibleReason })

/-- The judgement on a continuation and its bounds. -/
def continueFrom (call : Call) (snapshot : SnapshotRow) (bounds : Bounds) (fifteenM : FifteenM) :
    Except String (ContinuityResult × Bounds) := do
  let deadline ← compute1hContinuationDeadline clock fifteenM.closeAt
  let continuity ← evaluate15mTo1hContinuity clock fifteenM
    (oneHLink fifteenM snapshot bounds deadline) snapshot.trackingLane call.consumed15mWindowIds
  return (continuity, anchoredBounds bounds fifteenM.closeAt deadline)

/-- `close_1h_memory_window_from_snapshot`; an error is what the call raises, and then nothing is
written. -/
def close1hMemoryWindowFromSnapshot (db : Db) (call : Call) : Db × Except String Answer :=
  match loadSnapshotWithToken db call.snapshotId with
  | none => (db, .ok (.notFound call.snapshotId))
  | some (snapshot, token) =>
    let reasons := blockedReasons lower call snapshot token
    if reasons ≠ [] then
      (db, .ok (.blocked reasons
        (call.expectedPairId.any fun expected => snapshot.pairId ≠ some expected)))
    else
      match findExisting1hWindow db snapshot.tokenId snapshot.pairId call.snapshotStartId with
      | some existing => (db, .ok (.duplicate existing snapshot.tokenId snapshot.pairId))
      | none =>
        let bounds := snapshotBounds db call snapshot
        match call.continuationOf15m with
        | none =>
          let (db', audit) := insert1hMemoryWindow db call snapshot bounds none
          (db', .ok (.created audit))
        | some fifteenM =>
          match continueFrom clock call snapshot bounds fifteenM with
          | .error e => (db, .error e)
          | .ok (continuity, anchored) =>
            if continuity.status = .blocked then (db, .ok (.continuityBlocked continuity))
            else
              let (db', audit) :=
                insert1hMemoryWindow db call snapshot anchored (some (fifteenM, continuity))
              (db', .ok (.created audit))

end PrinterV1.OperatorCli.OneHourClose
