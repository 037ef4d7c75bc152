import PrinterV1.Discovery.AcquisitionStore

/-!
# One acquisition execution

`run_candidate_acquisition`: the plan and the observations are checked, the
tracking gate is bound to the current state under the write lock, a report of
the same execution is replayed, and otherwise the candidates, the selection and
the report are computed and persisted in one transaction.
-/

namespace PrinterV1.Discovery

open Python

def reliabilityStatus : String := "UNPROVEN_NO_INDEPENDENT_SAMPLE"

def forbiddenCapabilityTables : List String :=
  ["printer_memory_windows", "printer_episodes", "printer_memory_retrieval_queries",
    "printer_memory_retrieval_matches", "printer_paper_decisions", "printer_paper_positions",
    "printer_paper_trade_events", "printer_paper_trade_audits", "printer_paper_audit_reports",
    "printer_memory_factory_runs", "printer_memory_factory_campaign_token_slots",
    "printer_tracking_queue", "printer_scheduler_jobs"]

/-- `_table_counts` -/
def tableCount (s : Surroundings) (table : String) : ℤ :=
  if table = "printer_tracking_queue" then s.queue.rows.length else s.rowCounts table

/-- What an execution works out before it writes. -/
structure Acquisition where
  observations : List Item
  inputHash : String
  replayIdentity : String
  candidates : List Candidate
  selected : List SelectedItem
  manifest : Option Manifest
  failure : Option Failure
  deriving DecidableEq, Repr

def Acquisition.admitted (a : Acquisition) : List Candidate := a.candidates.filter fun c => c.admitted

variable (L : Library)

/-- `input_payload` -/
def inputPayload (plan : Plan) (items : List Item) : Value :=
  .dict [("observations", .list (items.map Item.payload)), ("plan", plan.payload)]

def inputHash (plan : Plan) (items : List Item) : String := sha L (inputPayload plan items)

def replayIdentity (plan : Plan) (inputHash : String) : String :=
  sha L
    (.dict
      [("execution_id", .str plan.executionId), ("input_hash", .str inputHash),
        ("policy_hash", .str plan.policyHash)])

def manifestId (m : Manifest) : String := identifier L "caman" (.str m.manifestHash)

/-- The candidates of the observations, and the selection or the failure. -/
def acquire (plan : Plan) (items : List Item) : Except Fault Acquisition := do
  let candidates ← buildCandidates L plan items
  let (selected, manifest) := selection L plan (candidates.filter fun c => c.admitted)
  let success := (selected.length : ℤ) = plan.selectionCapacity
  return {
    observations := items
    inputHash := inputHash L plan items
    replayIdentity := replayIdentity L plan (inputHash L plan items)
    candidates
    selected
    manifest
    failure := if success then none else some (failureFamily L items candidates) }

/-- What an execution works out of the observations in the surroundings it finds. -/
def frozenAcquisition (s : Surroundings) (plan : Plan) (observations : List Dict) :
    Except Fault Acquisition := do
  let normalized ← normalizeObservations L plan observations
  let items ← atomicTrackingAndCooldownRecheck L s normalized plan.cutoffAt plan.executionId
  acquire L plan items

def optionalField {α : Type} (f : α → Value) : Option α → Value
  | none => .none
  | some x => f x

/-- The stage that failed, for each candidate that was not admitted. -/
def exclusions (candidates : List Candidate) : List String :=
  (candidates.filter fun c => !c.admitted).filterMap fun c =>
    (c.stages.find? fun stage => stage.stageOutcome = .fail).map fun stage => stage.stageName.value

/-- The continuity of the observations with a cursor range. -/
def cursorContinuity (items : List Item) : List String :=
  items.filterMap fun item =>
    (itemCursor item).map fun cursor => (cursor.get "continuity_state").text L.rendering

/-- An observation whose source did not complete. -/
def sourceFailureEntry (item : Item) : Option Value :=
  if item.sourceStatus ≠ "COMPLETE" then
    some (.dict [("failure_reason", item.failureReason), ("source_name", .str item.sourceName),
      ("source_status", .str item.sourceStatus)])
  else none

/-- The rows each capability table gained; no statement of the run writes one. -/
def capabilityDeltas (before after : Surroundings) : List (String × Value) :=
  sortBy Prod.fst (forbiddenCapabilityTables.map fun table =>
    (table, .int (tableCount after table - tableCount before table)))

def buildReport (plan : Plan) (a : Acquisition) (deltas : List (String × Value)) : Value :=
  let success := a.failure = none
  .dict
    [("active_capacity_lock", .int 2),
      ("capacity", .dict [("approved_active_memory_capacity", .int 2),
        ("candidate_acquisition_capacity", .int plan.candidateAcquisitionCapacity),
        ("candidate_reserve_capacity", .int plan.candidateReserveTarget),
        ("selection_capacity", .int plan.selectionCapacity)]),
      ("certificates_admitted", .int a.admitted.length),
      ("certificates_issued", .int a.candidates.length),
      ("certificates_rejected", .int (a.candidates.length - a.admitted.length)),
      ("cursor_continuity", countTexts (cursorContinuity L a.observations)),
      ("exact_n_selection_result", .str (if success then "SUCCESS" else "ALL_OR_NONE_FAILURE")),
      ("exclusions_by_funnel_stage", countTexts (exclusions a.candidates)),
      ("execution_id", .str plan.executionId),
      ("failure_family", optionalField (fun f : Failure => .str f.family.value) a.failure),
      ("failure_reason", optionalField (fun f : Failure => .str f.reason) a.failure),
      ("fixture_evidence_role", .str "SYNTHETIC_MECHANICS_ONLY"),
      ("forbidden_capability_deltas", .dict deltas), ("input_hash", .str a.inputHash),
      ("manifest_hash", optionalField (fun m : Manifest => .str m.manifestHash) a.manifest),
      ("manifest_id", optionalField (fun m => .str (manifestId L m)) a.manifest),
      ("ordered_item_hashes", .list (a.selected.map fun item => .str item.itemHash)),
      ("policy_hash", .str plan.policyHash), ("policy_id", .str plan.policyId),
      ("reliability_claim_status", .str reliabilityStatus),
      ("replay_identity", .str a.replayIdentity),
      ("reserve_readiness", optionalField (fun m : Manifest => .str m.readiness.value) a.manifest),
      ("reserve_size", .int a.admitted.length), ("runtime_handoff_count", .int 0),
      ("runtime_neutral", .bool true), ("selected_count", .int a.selected.length),
      ("source_contribution", sourceReport a.observations),
      ("source_failures", .list (a.observations.filterMap sourceFailureEntry)),
      ("stale_or_expired_evidence_count",
        .int (a.candidates.countP fun c => c.admissionReason = "STALE_OR_EXPIRED_EVIDENCE")),
      ("verdict", .str (if success then "EXACT_N_MANIFEST_READY" else
        "EXACT_N_MANIFEST_NOT_CREATED"))]

def executionRow (plan : Plan) (a : Acquisition) : ExecutionRow where
  executionId := plan.executionId
  policyId := plan.policyId
  inputHash := a.inputHash
  replayIdentity := a.replayIdentity
  windowStart := plan.windowStart
  windowEnd := plan.windowEnd
  cutoffAt := plan.cutoffAt
  finalizedCutoffSlot := plan.finalizedCutoffSlot
  succeeded := a.failure = none
  failureFamily := a.failure.map Failure.family
  certificateCount := a.candidates.length
  admittedCount := a.admitted.length
  selectedCount := a.selected.length
  manifestId := a.manifest.map (manifestId L)

def reportRow (plan : Plan) (a : Acquisition) (report : Value) : ReportRow where
  executionId := plan.executionId
  policyHash := plan.policyHash
  inputHash := a.inputHash
  replayIdentity := a.replayIdentity
  reportJson := report
  reportHash := sha L report

/-- The manifest with its items, when the selection succeeded. -/
def persistManifest (plan : Plan) (a : Acquisition) (store : Store) : Except Fault Store :=
  match a.failure, a.manifest with
  | none, some m => do
    let store ← insertManifest plan (manifestId L m) m a.selected store
    a.selected.foldlM (claimItem (manifestId L m)) store
  | _, _ => .ok store

/-- The failure row, when it did not. -/
def persistFailure (plan : Plan) (a : Acquisition) (store : Store) : Except Fault Store :=
  match a.failure with
  | some failure =>
    if failure.reason ≠ "" then insertFailure L plan failure a.admitted.length store else .ok store
  | none => .ok store

/-- The part of the transaction up to the cursor heads. -/
def persistSources (cursorTable : Bool) (plan : Plan) (a : Acquisition) (store : Store) :
    Except Fault Store := do
  let store := insertPolicy plan store
  let store ← insertExecution (executionRow L plan a) store
  let store ← insertRounds L plan [] a.observations store
  let store ← insertRanges L plan [] a.observations store
  if cursorTable then advanceCurrentCursorHeads L plan [] a.observations store else return store

/-- The rest of the transaction. -/
def persistResults (plan : Plan) (a : Acquisition) (report : Value) (store : Store) :
    Except Fault Store := do
  let store ← a.candidates.foldlM (insertCandidate L plan) store
  let store ← persistManifest L plan a store
  let store ← persistFailure L plan a store
  insertReport (reportRow L plan a report) store

/-- The report of an earlier execution under the plan's id. -/
def Store.reportOf (store : Store) (executionId : String) : Option ReportRow :=
  store.reports.find? fun row => row.executionId = executionId

/-- The report the prior row holds, if it is one of the same input. -/
def replay (hash : String) (row : ReportRow) : Except Fault Value :=
  if row.inputHash ≠ hash ∨ sha L row.reportJson ≠ row.reportHash then
    .error (.acquisition "REPLAY_IDENTITY_CONFLICT" "")
  else .ok row.reportJson

/-- A first execution: computed, then persisted in one transaction. -/
def executeFirst (db : Database) (plan : Plan) (items : List Item) :
    Except Fault (Value × Database) := do
  if db.cursorTable then validateCurrentCursorHeads L db.store [] items else pure ()
  let a ← acquire L plan items
  let deltas := capabilityDeltas db.surroundings db.surroundings
  let report := buildReport L plan a deltas
  let store ← persistSources L db.cursorTable plan a db.store
  let store ← persistResults L plan a report store
  return (report, { db with store })

/-- The run under the write lock: what it returns and the database it leaves. A
raised error rolls the transaction back. -/
def executeFrozen (db : Database) (plan : Plan) (normalized : List Item) :
    Except Fault (Value × Database) := do
  let items ← atomicTrackingAndCooldownRecheck L db.surroundings normalized plan.cutoffAt
    plan.executionId
  match db.store.reportOf plan.executionId with
  | some row => do
    let report ← replay L (inputHash L plan items) row
    return (report, db)
  | none => executeFirst L db plan items

def runCandidateAcquisition (db : Database) (plan : Plan) (observations : List Dict) :
    Except Fault (Value × Database) := do
  let frozenPlan ← validatePlan L plan
  let normalized ← normalizeObservations L frozenPlan observations
  executeFrozen L db frozenPlan normalized

/-- The database after a call, whether it returned or raised. -/
def afterCall (db : Database) (call : Plan × List Dict) : Database :=
  match runCandidateAcquisition L db call.1 call.2 with
  | .ok (_, db') => db'
  | .error _ => db

end PrinterV1.Discovery
