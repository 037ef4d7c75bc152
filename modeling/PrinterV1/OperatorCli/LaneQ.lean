import PrinterV1.Foundation.Faults
import PrinterV1.Foundation.Sqlite
import PrinterV1.Foundation.Tables
import PrinterV1.Snapshots.PolicyTable
import Mathlib.Data.Prod.Lex

/-!
# The integrity guard of candidate windows

`guard_candidate_windows` reads the requested windows and sorts their ids into the
valid and the blocked ones: by a check of the stored row alone, and for a row that
passes it by the cadence of the snapshots between its snapshot ids.
-/

namespace PrinterV1.OperatorCli.LaneQ

open Python Snapshots Snapshots.Cadence

structure WindowRow where
  id : ℤ
  tokenId : ℤ
  pairId : Option ℤ
  windowKind : String
  dataQualityLabel : String
  doNotTrain : ℤ
  memoryStatus : String
  memoryQualityLabel : Option String
  windowStartAt : Option String
  windowEndAt : Option String
  snapshotStartId : Option ℤ
  snapshotEndId : Option ℤ
  deriving DecidableEq, Repr

structure TokenRow where
  id : ℤ
  tokenStatus : Option String
  deriving DecidableEq, Repr

structure SnapshotRow where
  id : ℤ
  tokenId : ℤ
  pairId : Option ℤ
  capturedAt : String
  deriving DecidableEq, Repr

/-- The tables of a database file; `none` is one whose reading raises. -/
structure Database where
  windows : Option (Table WindowRow.id)
  tokens : Option (Table TokenRow.id)
  snapshots : Option (Table SnapshotRow.id)

/-- The host: its files, its local clock, and how many variables a statement may bind. -/
structure Host where
  open? : String → Option Database
  clock : LocalClock
  variableLimit : ℕ

/-- `_MIN_ELAPSED_BY_WINDOW`, in seconds. -/
def minElapsedByWindow : List (String × ℤ) := [("WINDOW_15M", 900), ("WINDOW_4H", 10800)]

inductive LaneQStatus
  | valid | blocked
  deriving DecidableEq, Repr

/-- A reason of the row itself, or the one of the cadence. -/
inductive BlockedReason
  | text (s : String)
  | coverage (reason : Option Reason)
  deriving DecidableEq, Repr

/-- A verdict, with the row whose fields it repeats. -/
structure Verdict where
  windowId : ℤ
  laneQStatus : LaneQStatus
  integrityProven : Bool
  blockedReasons : List BlockedReason
  elapsed : Option ℤ := none
  row : Option WindowRow := none
  cadencePolicyEvaluation : Option CadenceEvaluation := none
  deriving DecidableEq, Repr

/-- `_parse_ts` of the guard -/
def parseTs (s : String) : Option Datetime := fromisoformat (strip s)

/-- `_elapsed_seconds`, in microseconds: where one of the two alone has an offset, it is dropped. -/
def elapsedSeconds (start stop : Datetime) : ℤ :=
  if start.utcoffset.isSome = stop.utcoffset.isSome then stop.instantUtc - start.instantUtc
  else stop.wall - start.wall

/-- A boundary of the window: what is wrong with it, or its time. -/
def readBoundary (field : String) : Option String → List String × Option Datetime
  | none => (["missing_" ++ field], none)
  | some s =>
    if s = "" then (["missing_" ++ field], none)
    else
      match parseTs s with
      | none => (["invalid_" ++ field], none)
      | some d => ([], some d)

def elapsedReasons (windowKind : String) (elapsed : Option ℤ) : List String :=
  match elapsed, minElapsedByWindow.lookup windowKind with
  | some elapsed, some minimum =>
    if elapsed < seconds minimum then ["elapsed_seconds_below_" ++ toString minimum] else []
  | _, _ => []

def snapshotReasons : Option ℤ → Option ℤ → List String
  | some start, some stop => if stop < start then ["invalid_snapshot_order"] else []
  | none, some _ => ["missing_snapshot_start_id"]
  | some _, none => ["missing_snapshot_end_id"]
  | none, none => ["missing_snapshot_start_id", "missing_snapshot_end_id"]

/-- `reasons` and `elapsed` of a row. -/
def integrityReasons (row : WindowRow) : List String × Option ℤ :=
  let start := readBoundary "window_start_at" row.windowStartAt
  let stop := readBoundary "window_end_at" row.windowEndAt
  let elapsed := match start.2, stop.2 with
    | some s, some e => some (elapsedSeconds s e)
    | _, _ => none
  ((if (minElapsedByWindow.lookup row.windowKind).isNone then
      ["not_window_15m", "unsupported_window_kind"] else []) ++
    (if row.doNotTrain ≠ 0 ∨ row.dataQualityLabel ≠ "CLEAN_DATA" then
      ["dirty_or_do_not_train_window"] else []) ++
    (if row.memoryStatus ≠ "PARTIAL_MEMORY" ∧ row.memoryQualityLabel ≠ some "PARTIAL_MEMORY" then
      ["unsupported_memory_status"] else []) ++
    start.1 ++ stop.1 ++ elapsedReasons row.windowKind elapsed ++
    snapshotReasons row.snapshotStartId row.snapshotEndId, elapsed)

def checkWindowIntegrity (row : WindowRow) : Verdict :=
  let found := integrityReasons row
  let status := if found.1 = [] then LaneQStatus.valid else .blocked
  { windowId := row.id
    laneQStatus := status
    integrityProven := status = .valid
    blockedReasons := found.1.map .text
    elapsed := found.2
    row := some row }

/-- What a call can raise. -/
inductive LaneQFault
  | operational (text : String)
  | overflow (text : String)
  deriving DecidableEq, Repr

/-- `_fetch_windows` -/
def fetchWindows (host : Host) (db : Database) (windowIds : List ℤ) :
    Except LaneQFault (List WindowRow) :=
  if windowIds = [] then .ok []
  else
    match db.windows with
    | none => .error (.operational "unreadable printer_memory_windows")
    | some windows =>
      if windowIds.length > host.variableLimit then
        .error (.operational "too many SQL variables")
      else if windowIds.all Sqlite.storable then
        .ok (windows.rows.filter fun w => w.id ∈ windowIds)
      else .error (.overflow "Python int too large to convert to SQLite INTEGER")

/-- `_get_token_tracking_lane`; a read that raises finds no lane. -/
def getTokenTrackingLane (db : Database) (tokenId : ℤ) : Option String := do
  let tokens ← db.tokens
  let token ← tokens.rows.find? fun t => t.id = tokenId
  token.tokenStatus.filter (· ≠ "")

/-- `COALESCE(pair_id, -1)` -/
def coalescePair (pairId : Option ℤ) : ℤ := pairId.getD (-1)

def between (start stop : Option ℤ) (id : ℤ) : Bool :=
  match start, stop with
  | some start, some stop => start ≤ id ∧ id ≤ stop
  | _, _ => false

/-- `_fetch_window_snapshots`; a read that raises finds none. -/
def fetchWindowSnapshots (db : Database) (row : WindowRow) : List SnapshotRow :=
  match db.snapshots with
  | none => []
  | some snapshots =>
    sortBy (fun s => toLex (s.capturedAt, s.id)) (snapshots.rows.filter fun s =>
      s.tokenId = row.tokenId ∧ coalescePair s.pairId = coalescePair row.pairId ∧
        between row.snapshotStartId row.snapshotEndId s.id)

def stored : Option String → TimeValue
  | none => .none
  | some s => .text s

/-- `_evaluate_coverage_for_window` -/
def evaluateCoverageForWindow (host : Host) (db : Database) (row : WindowRow)
    (productionMode allowDisabled : Bool) : Except String CadenceEvaluation :=
  evaluateCadencePolicy host.clock
    ((fetchWindowSnapshots db row).map fun s => .text s.capturedAt)
    (stored row.windowStartAt) (stored row.windowEndAt)
    (getPolicy row.windowKind (getTokenTrackingLane db row.tokenId)) productionMode allowDisabled

/-- A verdict with the evaluation, which blocks it where it is blocked or dirty. -/
def withCoverage (verdict : Verdict) (evaluation : CadenceEvaluation) : Verdict :=
  if evaluation.cadencePolicyStatus = .blocked ∨ evaluation.cadencePolicyStatus = .dirty then
    { verdict with
      laneQStatus := .blocked
      integrityProven := false
      blockedReasons := verdict.blockedReasons ++ [.coverage evaluation.blockedReason]
      cadencePolicyEvaluation := some evaluation }
  else { verdict with cadencePolicyEvaluation := some evaluation }

/-- One turn of the loop over the stored windows. -/
def judgeWindow (host : Host) (db : Database) (productionMode allowDisabled : Bool)
    (row : WindowRow) : Except LaneQFault Verdict :=
  let verdict := checkWindowIntegrity row
  if verdict.laneQStatus = .valid then do
    let evaluation ←
      (evaluateCoverageForWindow host db row productionMode allowDisabled).mapError .overflow
    return withCoverage verdict evaluation
  else .ok verdict

def missingVerdict (windowId : ℤ) : Verdict where
  windowId := windowId
  laneQStatus := .blocked
  integrityProven := false
  blockedReasons := [.text "window_not_found_in_db"]

inductive GuardStatus
  | completed | blocked
  deriving DecidableEq, Repr

structure GuardReport where
  laneQGuardStatus : GuardStatus
  operatorApproved : Bool
  dbPath : Option String := none
  blockedReasons : List String
  validWindowIds : List ℤ
  blockedWindowIds : List ℤ
  windowVerdicts : List Verdict
  validCount : ℕ
  blockedCount : ℕ
  deriving DecidableEq, Repr

/-- The report of a guard that did not run. -/
def refused (windowIds : List ℤ) (operatorApproved : Bool) (reason : String) : GuardReport where
  laneQGuardStatus := .blocked
  operatorApproved := operatorApproved
  blockedReasons := [reason]
  validWindowIds := []
  blockedWindowIds := windowIds
  windowVerdicts := []
  validCount := 0
  blockedCount := windowIds.length

def idsOf (status : LaneQStatus) (verdicts : List Verdict) : List ℤ :=
  (verdicts.filter fun v => v.laneQStatus = status).map Verdict.windowId

/-- The report on a database that was opened. -/
def guardDatabase (host : Host) (path : String) (db : Database) (windowIds : List ℤ)
    (productionMode allowDisabled : Bool) : Except LaneQFault GuardReport := do
  let rows ← fetchWindows host db windowIds
  let verdicts ← rows.mapM (judgeWindow host db productionMode allowDisabled)
  let missing := (windowIds.filter fun wid => wid ∉ rows.map WindowRow.id).map missingVerdict
  let validIds := idsOf .valid verdicts
  let blockedIds := idsOf .blocked verdicts ++ missing.map Verdict.windowId
  return {
    laneQGuardStatus := .completed
    operatorApproved := true
    dbPath := some path
    blockedReasons := []
    validWindowIds := validIds
    blockedWindowIds := blockedIds
    windowVerdicts := verdicts ++ missing
    validCount := validIds.length
    blockedCount := blockedIds.length }

def guardCandidateWindows (host : Host) (dbPath : Option String) (windowIds : List ℤ)
    (operatorApproved productionMode allowDisabled : Bool) : Except LaneQFault GuardReport :=
  if !operatorApproved then
    .ok (refused windowIds false "operator_approved must be True")
  else
    match dbPath with
    | none => .ok (refused windowIds true "db_path is required")
    | some path =>
      match host.open? path with
      | none => .ok (refused windowIds true ("db_path not found: " ++ path))
      | some db => guardDatabase host path db windowIds productionMode allowDisabled

end PrinterV1.OperatorCli.LaneQ
