import PrinterV1.Foundation.Sqlite
import PrinterV1.Python.Value
import PrinterV1.Scheduler.Jobs

/-!
# Long windows and their predecessors

How `snapshots/lifecycle_continuity.py` finds the window that a long window continues,
which windows it takes for consumed, and how it blocks a transition for good. A JSON
column is what `json.loads` makes of it, and `none` where the code goes on with an empty
mapping: for NULL, an empty text and one that is no JSON.
-/

namespace PrinterV1.Snapshots

open Python Scheduler

structure MemoryWindow where
  id : ℤ
  tokenId : ℤ
  pairId : Option ℤ
  windowKind : String
  windowStatus : Option String
  snapshotEndId : Option ℤ
  closedAt : Option String
  windowEndAt : Option String
  supportingContext : Option Value
  deriving DecidableEq, Repr

structure RunStep where
  id : ℤ
  runId : String
  stepKey : String
  stepKind : String
  stepStatus : String
  tokenId : Option ℤ
  pairId : Option ℤ
  trackingLane : Option String
  schedulerJobId : Option ℤ
  snapshotId : Option ℤ
  memoryWindowId : Option ℤ
  result : Option Value
  errorOrSkipReason : Option String
  finishedAt : Option String
  updatedAt : String
  deriving DecidableEq, Repr

structure ContinuityDb where
  windows : Table MemoryWindow.id
  steps : Table RunStep.id
  jobs : Jobs

/-- What a call can raise. -/
inductive ContinuityFault
  | attributeError (text : String)
  | python (e : PyError)
  | database (text : String)
  deriving DecidableEq, Repr

/-- The mapping that a JSON column holds; `.get` of anything else raises. -/
def mapping : Option Value → Except ContinuityFault Dict
  | none => .ok []
  | some (.dict entries) => .ok entries
  | some v => .error (.attributeError ("'" ++ v.typeName ++ "' object has no attribute 'get'"))

variable (R : Value.Rendering)

/-- `int(value)` of an identifier that is there. -/
def identifier (v : Value) : Except ContinuityFault (Option ℤ) :=
  if v = .none then .ok none else (v.toInt R).mapError .python |>.map some

/-- The identifier at the top level, or the one inside the continuity block. -/
def linkedId (context : Option Value) : Except ContinuityFault (Option ℤ) := do
  let entries ← mapping context
  let top := entries.get "continuation_of_window_id"
  if top ≠ .none then identifier R top
  else
    let continuity := entries.get "continuity"
    let block ← mapping (if continuity.truthy then some continuity else none)
    identifier R (block.get "continuation_of_window_id")

/-- `_consumed_long_predecessor_ids` -/
def consumedLongPredecessorIds (db : ContinuityDb) (tokenId pairId : ℤ) (successorKind : String) :
    Except ContinuityFault (List ℤ) := do
  let ids ← (db.windows.rows.filter fun w => w.tokenId = tokenId ∧ w.pairId = some pairId ∧
    w.windowKind = successorKind).mapM fun w => linkedId R w.supportingContext
  return ids.reduceOption

/-- The identifier at the top level alone. -/
def topLinkedId (context : Option Value) : Except ContinuityFault (Option ℤ) := do
  let entries ← mapping context
  identifier R (entries.get "continuation_of_window_id")

/-- `_consumed_15m_ids` -/
def consumed15mIds (db : ContinuityDb) (tokenId pairId : ℤ) (exclude1h : Option ℤ) :
    Except ContinuityFault (List ℤ) := do
  let ids ← (db.windows.rows.filter fun w => w.windowKind = "WINDOW_1H" ∧ w.tokenId = tokenId ∧
    w.pairId = some pairId ∧ exclude1h ≠ some w.id).mapM fun w => topLinkedId R w.supportingContext
  return ids.reduceOption

structure LongWindowTransitionSpec where
  predecessorKind : String
  successorKind : String
  stage : String
  deriving DecidableEq, Repr

def longWindowTransitions : List LongWindowTransitionSpec :=
  [⟨"WINDOW_1H", "WINDOW_4H", "1H_TO_4H"⟩, ⟨"WINDOW_4H", "WINDOW_12H", "4H_TO_12H"⟩,
    ⟨"WINDOW_12H", "WINDOW_24H", "12H_TO_24H"⟩]

/-- `get_long_window_transition_spec` -/
def getLongWindowTransitionSpec (predecessorKind successorKind : String) :
    Option LongWindowTransitionSpec :=
  longWindowTransitions.find? fun spec =>
    spec.predecessorKind = predecessorKind ∧ spec.successorKind = successorKind

/-- `_spec_for_successor` -/
def specForSuccessor (successorKind : String) : Option LongWindowTransitionSpec :=
  match longWindowTransitions.filter fun spec => spec.successorKind = successorKind with
  | [spec] => some spec
  | _ => none

/-- The columns of the cadence policies that a plan reads. -/
structure SnapshotCadencePolicy where
  windowKind : String
  trackingLane : String
  windowCloseIntervalSeconds : ℤ
  minimumRequiredSnapshots : ℤ
  enabledForRealCollection : Bool
  deriving DecidableEq, Repr

def policies : List SnapshotCadencePolicy :=
  [⟨"WINDOW_5M_MICRO_EVENT", "TRACK_FAST", 300, 11, false⟩,
    ⟨"WINDOW_5M_MICRO_EVENT", "TRACK_NORMAL", 300, 6, false⟩,
    ⟨"WINDOW_15M", "TRACK_FAST", 900, 16, true⟩, ⟨"WINDOW_15M", "TRACK_NORMAL", 900, 9, true⟩,
    ⟨"WINDOW_1H", "TRACK_FAST", 2700, 24, true⟩, ⟨"WINDOW_1H", "TRACK_NORMAL", 2700, 13, true⟩,
    ⟨"WINDOW_4H", "TRACK_FAST", 10800, 61, false⟩,
    ⟨"WINDOW_4H", "TRACK_NORMAL", 10800, 31, false⟩,
    ⟨"WINDOW_12H", "TRACK_FAST", 28800, 97, false⟩,
    ⟨"WINDOW_12H", "TRACK_NORMAL", 28800, 49, false⟩,
    ⟨"WINDOW_24H", "TRACK_FAST", 43200, 145, false⟩,
    ⟨"WINDOW_24H", "TRACK_NORMAL", 43200, 73, false⟩]

/-- `get_policy` of a lane that is given. -/
def getPolicy (windowKind trackingLane : String) : Option SnapshotCadencePolicy :=
  let lane := if trackingLane = "" then "*" else trackingLane
  (policies.find? fun p => p.windowKind = windowKind ∧ p.trackingLane = lane) <|>
    policies.find? fun p => p.windowKind = windowKind ∧ p.trackingLane = "*"

def allowedLanes : List String := ["TRACK_FAST", "TRACK_NORMAL"]

/-- `_parse_ts(value) is not None` of a text column. -/
def parsesTs (value : Option String) : Bool :=
  value.any fun text => (fromisoformat (replaceZulu (strip text))).isSome

/-- `closed_at or window_end_at` -/
def MemoryWindow.closeAt (w : MemoryWindow) : Option String :=
  if w.closedAt.getD "" = "" then w.windowEndAt else w.closedAt

/-- A plan, without the texts of its times. -/
structure LongWindowPlan where
  reasons : List String
  predecessorKind : String
  successorKind : String
  stage : Option String
  runId : String
  tokenId : ℤ
  pairId : Option ℤ
  trackingLane : String
  continuationOfWindowId : ℤ
  linkedClosingSnapshotId : Option ℤ
  continuationSeconds : Option ℤ
  expectedSnapshots : Option ℤ
  enabledForRealCollection : Option Bool
  deriving DecidableEq, Repr

/-- `build_long_window_continuation_plan` for a window, its run and its lane. -/
def buildLongWindowContinuationPlan (w : MemoryWindow) (runId lane successorKind : String) :
    LongWindowPlan :=
  let spec := getLongWindowTransitionSpec w.windowKind successorKind
  let policy := getPolicy successorKind lane
  { reasons :=
      (if spec = none then ["unsupported_predecessor_successor_chain"] else []) ++
      (if lane ∉ allowedLanes ∨ policy = none then
        ["unsupported_tracking_lane_or_missing_successor_policy"] else []) ++
      (if w.snapshotEndId = none then ["missing_predecessor_closing_snapshot"] else []) ++
      (if w.windowStatus ≠ some "WINDOW_CLOSED" then ["predecessor_not_terminally_closed"]
        else []) ++
      (if !parsesTs w.closeAt then ["missing_predecessor_close_timestamp"] else []) ++
      (if policy.any (·.enabledForRealCollection) then
        ["successor_not_disabled_for_real_collection"] else [])
    predecessorKind := w.windowKind
    successorKind := successorKind
    stage := spec.map (·.stage)
    runId := runId
    tokenId := w.tokenId
    pairId := w.pairId
    trackingLane := lane
    continuationOfWindowId := w.id
    linkedClosingSnapshotId := w.snapshotEndId
    continuationSeconds := policy.map (·.windowCloseIntervalSeconds)
    expectedSnapshots := policy.map (·.minimumRequiredSnapshots)
    enabledForRealCollection := policy.map (·.enabledForRealCollection) }

/-- `_long_block_step_key` -/
def longBlockStepKey (tokenId pairId : ℤ) (successorKind : String) : String :=
  let suffix := if successorKind.startsWith "WINDOW_" then
    String.ofList (successorKind.toList.drop 7) else successorKind
  "t" ++ toString tokenId ++ "_p" ++ toString pairId ++ "_" ++ lower suffix ++
    "_long_continuity_block"

structure Resolution where
  resolved : Bool
  reasons : List String
  windowId : Option ℤ := none
  plan : Option LongWindowPlan := none
  consumedIds : List ℤ := []
  deriving DecidableEq, Repr

/-- A closing step of the target in the run, joined with its window. -/
def RunStep.closes (s : RunStep) (w : MemoryWindow) (runId : String) (tokenId pairId : ℤ)
    (trackingLane : String) (currentCloseStepId : Option ℤ) : Bool :=
  s.memoryWindowId = some w.id ∧ s.runId = runId ∧ s.tokenId = some tokenId ∧
    s.pairId = some pairId ∧ s.trackingLane = some trackingLane ∧
    (s.stepStatus = "SUCCEEDED" ∨
      s.id = (if currentCloseStepId.getD 0 = 0 then -1 else currentCloseStepId.getD 0) ∧
        s.stepStatus = "RUNNING") ∧
    s.stepKind ∈ ["CONTINUATION_CLOSE", "LONG_CONTINUATION_CLOSE"]

/-- The windows of the kind with a closing step. Of the steps of one window the engine takes
any. -/
def closedPredecessors (choice : ℕ) (db : ContinuityDb) (runId : String) (tokenId pairId : ℤ)
    (trackingLane : String) (currentCloseStepId : Option ℤ) (predecessorKind : String) :
    List (MemoryWindow × RunStep) :=
  (db.windows.rows.filter fun w => w.windowKind = predecessorKind).filterMap fun w =>
    let steps := db.steps.rows.filter fun s =>
      s.closes w runId tokenId pairId trackingLane currentCloseStepId
    (steps[choice % steps.length]?).map fun s => (w, s)

/-- A terminal block of the transition is recorded in the run. -/
def RunStep.blocks (s : RunStep) (runId : String) (tokenId pairId : ℤ) (successorKind : String) :
    Bool :=
  s.runId = runId ∧ s.tokenId = some tokenId ∧ s.pairId = some pairId ∧
    s.stepKind = "LONG_CONTINUITY_BLOCK" ∧ s.stepKey = longBlockStepKey tokenId pairId successorKind

/-- What stands against a predecessor. -/
def predecessorReasons (db : ContinuityDb) (w : MemoryWindow) (s : RunStep) (runId : String)
    (tokenId pairId : ℤ) (trackingLane successorKind : String) (consumed : List ℤ) : List String :=
  (if w.windowStatus ≠ some "WINDOW_CLOSED" then ["current_run_predecessor_not_terminally_closed"]
    else []) ++
  (if w.snapshotEndId = none ∨ s.snapshotId = none then
      ["missing_current_run_predecessor_closing_snapshot"]
    else if w.snapshotEndId ≠ s.snapshotId then
      ["current_run_predecessor_closing_snapshot_mismatch"]
    else []) ++
  (if w.tokenId ≠ tokenId ∨ w.pairId ≠ some pairId then ["current_run_predecessor_target_mismatch"]
    else []) ++
  (if s.trackingLane ≠ some trackingLane then ["current_run_predecessor_lane_mismatch"] else []) ++
  (if w.id ∈ consumed then ["current_run_predecessor_already_consumed"] else []) ++
  (if db.steps.rows.any fun s => s.blocks runId tokenId pairId successorKind then
    ["token_successor_transition_already_terminally_blocked"] else [])

/-- `resolve_current_run_long_predecessor` -/
def resolveCurrentRunLongPredecessor (choice : ℕ) (db : ContinuityDb) (runId : String)
    (tokenId pairId : ℤ) (trackingLane successorKind : String) (currentCloseStepId : Option ℤ) :
    Except ContinuityFault Resolution :=
  match specForSuccessor successorKind with
  | none => .ok { resolved := false, reasons := ["unsupported_successor_kind"] }
  | some spec =>
    match closedPredecessors choice db runId tokenId pairId trackingLane currentCloseStepId
        spec.predecessorKind with
    | [(w, s)] =>
      if w.tokenId = tokenId ∧ w.pairId = none then
        .error (.python (.typeError ("int() argument must be a string, a bytes-like object or a " ++
          "real number, not 'NoneType'")))
      else do
        let consumed ← consumedLongPredecessorIds R db tokenId pairId successorKind
        let reasons := predecessorReasons db w s runId tokenId pairId trackingLane successorKind
          consumed
        let plan := buildLongWindowContinuationPlan w runId trackingLane successorKind
        if reasons ≠ [] then
          return { resolved := false, reasons, windowId := some w.id, consumedIds := consumed }
        else if plan.reasons ≠ [] then
          return { resolved := false, reasons := plan.reasons, windowId := some w.id }
        else
          return { resolved := true, reasons := [], windowId := some w.id, plan := some plan
                   consumedIds := consumed }
    | rows => .ok { resolved := false, reasons := ["current_run_terminal_" ++
        spec.predecessorKind ++ "_count=" ++ toString rows.length ++ " expected=1"] }

/-- The transition that a block is about. -/
structure BlockTarget where
  runId : String
  tokenId : ℤ
  pairId : ℤ
  successorKind : String
  deriving DecidableEq, Repr

structure BlockResult where
  terminallyBlocked : Bool
  alreadyTerminal : Bool
  cancelledJobs : ℕ
  blockStepId : ℤ
  deriving DecidableEq, Repr

/-- The `UPDATE` of a step that is cancelled. -/
def cancelledStep (reason sqlNow : String) (s : RunStep) : RunStep :=
  { s with
    stepStatus := "CANCELLED"
    errorOrSkipReason := some reason
    finishedAt := some sqlNow
    updatedAt := sqlNow }

/-- The steps that a block looks at. -/
def RunStep.pendingLong (s : RunStep) (t : BlockTarget) : Bool :=
  s.runId = t.runId ∧ s.tokenId = some t.tokenId ∧ s.pairId = some t.pairId ∧
    s.stepStatus = "PENDING" ∧
    Sqlite.likePrefix "LONG_CONTINUATION_".toList s.stepKind.toList = true

/-- The clocks that a call reads: of the process, and of the database. -/
structure Clocks where
  now : Instant
  sqlNow : String

/-- One pending step and its job, cancelled. -/
def ContinuityDb.cancel (db : ContinuityDb) (row : RunStep) (reason : String) (clocks : Clocks) :
    ContinuityDb :=
  { db with
    jobs := match row.schedulerJobId with
      | some jobId => cancelJob db.jobs jobId clocks.now
      | none => db.jobs
    steps := db.steps.updateKey row.id ⟨cancelledStep reason clocks.sqlNow, fun _ => rfl⟩ }

/-- The loop over the pending steps; where it raises, what it did stays. -/
def cancelLong (successorKind reason : String) (clocks : Clocks) :
    List RunStep → ContinuityDb → ContinuityDb × Except ContinuityFault ℕ
  | [], db => (db, .ok 0)
  | row :: rows, db =>
    match mapping row.result with
    | .error e => (db, .error e)
    | .ok payload =>
      if payload.get "successor_window_kind" ≠ .str successorKind then
        cancelLong successorKind reason clocks rows db
      else
        let r := cancelLong successorKind reason clocks rows (db.cancel row reason clocks)
        (r.1, r.2.map (· + 1))

def ContinuityDb.nextStepId (db : ContinuityDb) : ℤ := nextRowid (db.steps.rows.map (·.id))

/-- The step that records a block. -/
def blockStep (t : BlockTarget) (trackingLane reason sqlNow : String) (id : ℤ) : RunStep where
  id := id
  runId := t.runId
  stepKey := longBlockStepKey t.tokenId t.pairId t.successorKind
  stepKind := "LONG_CONTINUITY_BLOCK"
  stepStatus := "FAILED"
  tokenId := some t.tokenId
  pairId := some t.pairId
  trackingLane := some trackingLane
  schedulerJobId := none
  snapshotId := none
  memoryWindowId := none
  result := some (.dict [("continuity_status", .str "CONTINUITY_BLOCKED"),
    ("successor_window_kind", .str t.successorKind)])
  errorOrSkipReason := some reason
  finishedAt := some sqlNow
  updatedAt := sqlNow

def ContinuityDb.insertStep (db : ContinuityDb) (s : ℤ → RunStep) (hs : ∀ id, (s id).id = id) :
    ContinuityDb :=
  { db with
    steps := db.steps.insert (s db.nextStepId) fun old hold => by
      have hlt : old.id < db.nextStepId := lt_nextRowid (List.mem_map_of_mem hold)
      rw [hs]
      exact Int.ne_of_lt hlt }

/-- `terminally_block_long_continuation`; the database may refuse the step at the end. -/
def terminallyBlockLongContinuation (db : ContinuityDb) (t : BlockTarget)
    (trackingLane reason : String) (clocks : Clocks) (refusal : Option String) :
    ContinuityDb × Except ContinuityFault BlockResult :=
  match db.steps.rows.find? fun s => s.runId = t.runId ∧
      s.stepKey = longBlockStepKey t.tokenId t.pairId t.successorKind with
  | some existing => (db, .ok ⟨true, true, 0, existing.id⟩)
  | none =>
    let r := cancelLong t.successorKind reason clocks
      (db.steps.rows.filter fun s => s.pendingLong t) db
    match r.2, refusal with
    | .error e, _ => (r.1, .error e)
    | .ok _, some text => (r.1, .error (.database text))
    | .ok cancelled, none =>
      (r.1.insertStep (blockStep t trackingLane reason clocks.sqlNow) fun _ => rfl,
        .ok ⟨true, false, cancelled, r.1.nextStepId⟩)

end PrinterV1.Snapshots
