import PrinterV1.OperatorCli.CampaignDatabase

/-!
# Projection of scheduler jobs into campaign ownership

`project_campaign_scheduler_work` records an existing scheduler job as one work
row. What it records comes from the job, or from the owner of its scope; a
repeated projection compares, and follows the job through `transition_state`.
-/

namespace PrinterV1.OperatorCli

open Python Scheduler

/-! ## Arguments -/

/-- `SchedulerCleanupCapture` -/
structure SchedulerCleanupCapture where
  campaignId : String
  runId : String
  cycleId : String
  capturedAt : String
  jobStates : List (ℤ × JobStatus)
  deriving DecidableEq, Repr

def SchedulerCleanupCapture.preState (c : SchedulerCleanupCapture) (schedulerJobId : ℤ) :
    Option JobStatus :=
  (c.jobStates.find? fun entry => entry.1 = schedulerJobId).map (·.2)

/-- The arguments of `project_campaign_scheduler_work`. -/
structure ProjectionArgs where
  schedulerWorkId : String
  campaignId : String
  runId : String
  cycleId : String
  workScope : String
  stageId : String
  workIntent : String
  deadlineAt : String
  schedulerJobId : Option ℤ
  targetCategory : String
  targetIdentity : String
  tokenSlotId : Option String := none
  windowId : Option String := none
  factoryRunId : Option String := none
  sourceRequestId : Option ℤ := none
  sourceResponseId : Option ℤ := none
  sourceFailureId : Option ℤ := none
  workState : Option String := none
  firstTerminalCause : Option String := none
  terminalAt : Option String := none
  cleanupCapture : Option SchedulerCleanupCapture := none
  now : Option String := none
  deriving DecidableEq, Repr

/-- `SchedulerWorkProjectionResult` -/
structure ProjectionResult where
  schedulerWorkId : String
  campaignId : String
  workScope : WorkScope
  stageId : String
  schedulerJobId : ℤ
  workState : WorkState
  created : Bool
  deriving DecidableEq, Repr

/-- The arguments that passed the checks before the transaction. -/
structure Projection where
  schedulerWorkId : String
  campaignId : String
  runId : String
  cycleId : String
  workScope : WorkScope
  stageId : String
  workIntent : String
  deadlineAt : String
  schedulerJobId : ℤ
  targetCategory : String
  targetIdentity : String
  tokenSlotId : Option String
  windowId : Option String
  factoryRunId : Option String
  sourceRequestId : Option ℤ
  sourceResponseId : Option ℤ
  sourceFailureId : Option ℤ
  deriving DecidableEq, Repr

/-- `desired` -/
def Projection.desired (p : Projection) : WorkIdentity where
  campaignId := p.campaignId
  runId := p.runId
  cycleId := p.cycleId
  tokenSlotId := p.tokenSlotId
  windowId := p.windowId
  workIntent := p.workIntent
  deadlineAt := p.deadlineAt
  schedulerJobId := some p.schedulerJobId
  sourceRequestId := p.sourceRequestId
  sourceResponseId := p.sourceResponseId
  sourceFailureId := p.sourceFailureId
  ownershipContractVersion := .v2StageScoped
  stageId := some p.stageId
  workScope := some p.workScope
  targetCategory := some p.targetCategory
  targetIdentity := some p.targetIdentity
  factoryRunId := p.factoryRunId

/-- `_required` -/
def required (value label : String) : Except String String :=
  if strip value = "" then throw (label ++ " is required") else return strip value

/-- `value if value else None` -/
def optionalText (value : Option String) : Option String := value.filter (· ≠ "")

/-- `_SCOPE_TARGET_CATEGORIES`, sorted. -/
def scopeTargetCategories : WorkScope → List String
  | .discoverySelection => ["DISCOVERY_WORK"]
  | .first15mHandoff => ["MERGED_CANDIDATE", "SELECTED_ITEM"]
  | .windowLifecycle => ["CAMPAIGN_WINDOW"]
  | .terminalCleanup => ["SCHEDULER_JOB"]

/-- The scope-conditional nullability; the message when it is broken. -/
def shapeFault (scope : WorkScope) (tokenSlotId windowId factoryRunId : Option String) :
    Option String :=
  match scope with
  | .discoverySelection =>
    if tokenSlotId ≠ none ∨ windowId ≠ none ∨ factoryRunId ≠ none then
      some "DISCOVERY_SELECTION cannot carry a slot, window, or factory run"
    else none
  | .first15mHandoff =>
    if windowId ≠ none ∨ factoryRunId ≠ none then
      some "FIRST_15M_HANDOFF cannot carry a window or factory run"
    else none
  | .windowLifecycle =>
    if tokenSlotId = none ∨ windowId = none ∨ factoryRunId = none then
      some "WINDOW_LIFECYCLE requires exact factory run, slot, and window"
    else none
  | .terminalCleanup =>
    if windowId ≠ none ∨ factoryRunId ≠ none then
      some "TERMINAL_CLEANUP cannot carry a window or factory run"
    else none

def workStates : List WorkState :=
  [.pending, .running, .cooldown, .succeeded, .failed, .skipped, .cancelled]

/-- The asserted state is none of `_NON_TERMINAL_WORK_STATES | _TERMINAL_WORK_STATES`. -/
def invalidAssertion (workState : Option String) : Bool :=
  workState.any fun text => text ∉ workStates.map workTable.value

/-- The checks before the transaction. -/
def validateProjection (a : ProjectionArgs) : Except String Projection := do
  let schedulerWorkId ← required a.schedulerWorkId "scheduler_work_id"
  let campaignId ← required a.campaignId "campaign_id"
  let runId ← required a.runId "run_id"
  let cycleId ← required a.cycleId "cycle_id"
  let stageId ← required a.stageId "stage_id"
  let workIntent ← required a.workIntent "work_intent"
  let deadlineAt ← required a.deadlineAt "deadline_at"
  let targetCategory ← required a.targetCategory "target_category"
  let targetIdentity ← required a.targetIdentity "target_identity"
  let some workScope := workScopes.find? fun scope => scope.value = a.workScope
    | throw ("unsupported work scope: " ++ a.workScope)
  let some schedulerJobId := a.schedulerJobId
    | throw "scheduler_job_id is required for projection"
  if invalidAssertion a.workState then throw ("invalid work_state: " ++ a.workState.getD "")
  if targetCategory ∉ scopeTargetCategories workScope then
    throw (workScope.value ++ " target_category must be one of " ++
      listText (scopeTargetCategories workScope))
  let p : Projection :=
    { schedulerWorkId, campaignId, runId, cycleId, workScope, stageId, workIntent, deadlineAt
      schedulerJobId, targetCategory, targetIdentity
      tokenSlotId := optionalText a.tokenSlotId
      windowId := optionalText a.windowId
      factoryRunId := optionalText a.factoryRunId
      sourceRequestId := a.sourceRequestId
      sourceResponseId := a.sourceResponseId
      sourceFailureId := a.sourceFailureId }
  match shapeFault workScope p.tokenSlotId p.windowId p.factoryRunId with
  | some message => throw message
  | none => return p

/-! ## The owner of a scope -/

/-- `_ExactOwnerStateEvidence` -/
structure OwnerEvidence where
  workState : WorkState
  firstTerminalCause : Option String
  terminalAt : Option String
  deriving DecidableEq, Repr

def stateEvidence (r : StateRow WorkState) : OwnerEvidence :=
  ⟨r.state, r.firstTerminalCause, r.terminalAt⟩

/-- `_validate_discovery_selection_ownership` -/
def validateDiscoverySelectionOwnership (db : CampaignDb) (p : Projection) :
    Except String OwnerEvidence := do
  if p.targetCategory ≠ "DISCOVERY_WORK" then
    throw ("DISCOVERY_SELECTION target_category must be DISCOVERY_WORK " ++
      "(the exact printer_discovery_work owner carrying scheduler_job_id)")
  match db.discoveryWork.rows.filter fun r =>
      r.identity = p.targetIdentity ∧ r.campaignId = p.campaignId ∧ r.runId = p.runId ∧
        r.cycleId = p.cycleId ∧ r.schedulerJobId = p.schedulerJobId with
  | [] =>
    throw ("no exact printer_discovery_work lineage binding this Scheduler job " ++
      "to the discovery/selection identity for DISCOVERY_SELECTION")
  | [r] => return stateEvidence r.toStateRow
  | _ => throw "multiple exact discovery/selection terminal-evidence rows"

/-- The links that hand the job over under the target. An integer column is
compared with the target's text; another spelling of the integer is refused by
the identity check that follows. -/
def handoffLinks (db : CampaignDb) (p : Projection) : List SelectedItemLink :=
  db.selectedItemLinks.rows.filter fun l =>
    l.firstWindow15mSchedulerJobId = some p.schedulerJobId ∧ l.campaignId = p.campaignId ∧
      l.runId = p.runId ∧ l.cycleId = p.cycleId ∧
      if p.targetCategory = "SELECTED_ITEM" then toString l.selectionItemId = p.targetIdentity
      else l.mergedCandidateId = p.targetIdentity

/-- `_validate_first_15m_handoff_ownership` -/
def validateFirst15mHandoffOwnership (db : CampaignDb) (p : Projection) : Except String Unit := do
  match handoffLinks db p with
  | [] => throw "no lawful first-15m handoff owner for scheduler job"
  | [link] =>
    if p.tokenSlotId ≠ none ∧ link.tokenSlotId ≠ p.tokenSlotId then
      throw "first-15m handoff token slot ownership mismatch"
    if p.targetCategory = "SELECTED_ITEM" then
      if p.targetIdentity ≠ toString link.selectionItemId then
        throw "first-15m handoff target identity mismatch"
    else if p.targetCategory = "MERGED_CANDIDATE" then
      if p.targetIdentity ≠ link.mergedCandidateId then
        throw "first-15m handoff target identity mismatch"
    else
      throw "FIRST_15M_HANDOFF target_category must be SELECTED_ITEM or MERGED_CANDIDATE"
  | _ => throw "multiple conflicting exact first-15m handoff owners"

/-- `_validate_window_lifecycle_ownership` -/
def validateWindowLifecycleOwnership (db : CampaignDb) (p : Projection) : Except String Unit := do
  if some p.targetIdentity ≠ p.windowId then
    throw "WINDOW_LIFECYCLE target_identity must equal the window_id"
  if ¬ ∃ w ∈ db.windows.rows, some w.identity = p.windowId ∧ some w.tokenSlotId = p.tokenSlotId ∧
      w.cycleId = p.cycleId ∧ w.runId = p.runId ∧ w.campaignId = p.campaignId then
    throw "no exact campaign window/slot for WINDOW_LIFECYCLE"
  match (db.runs.find? p.runId).filter fun r => r.campaignId = p.campaignId with
  | none => throw "campaign run does not belong to the campaign for WINDOW_LIFECYCLE"
  | some campaignRun =>
    if campaignRun.authoritativeRunId = none ∨ campaignRun.authoritativeRunId ≠ p.factoryRunId then
      throw ("campaign run authoritative_run_id does not equal the supplied " ++
        "factory_run_id for WINDOW_LIFECYCLE")
    if ¬ ∃ step ∈ db.runSteps.rows, some step.runId = p.factoryRunId ∧
        step.schedulerJobId = some p.schedulerJobId then
      throw "no exact factory run-step linkage for WINDOW_LIFECYCLE"

/-- The discovery rows of the exact scope, the job's own. -/
def cleanupDiscoveryRows (db : CampaignDb) (p : Projection) : List DiscoveryWork :=
  db.discoveryWork.rows.filter fun r =>
    r.schedulerJobId = p.schedulerJobId ∧ r.campaignId = p.campaignId ∧ r.runId = p.runId ∧
      r.cycleId = p.cycleId

def cleanupWorkRows (db : CampaignDb) (p : Projection) : List SchedulerWork :=
  db.schedulerWork.rows.filter fun r =>
    r.schedulerJobId = some p.schedulerJobId ∧ r.campaignId = p.campaignId ∧ r.runId = p.runId ∧
      r.cycleId = p.cycleId ∧ r.ownershipContractVersion = .v2StageScoped

def cleanupHandoffs (db : CampaignDb) (p : Projection) : List SelectedItemLink :=
  db.selectedItemLinks.rows.filter fun l =>
    l.firstWindow15mSchedulerJobId = some p.schedulerJobId ∧ l.campaignId = p.campaignId ∧
      l.runId = p.runId ∧ l.cycleId = p.cycleId

/-- `evidence` of `_cleanup_exact_owner_evidence`; both tables are read in the
order of their keys, which decides nothing once the entries agree. -/
def cleanupEvidence (db : CampaignDb) (p : Projection) : List OwnerEvidence :=
  (cleanupDiscoveryRows db p).map (fun r => stateEvidence r.toStateRow) ++
    (cleanupWorkRows db p).map fun r => stateEvidence r.toStateRow

/-- `_cleanup_exact_owner_evidence` -/
def cleanupExactOwnerEvidence (db : CampaignDb) (p : Projection) :
    Except String (Option OwnerEvidence) := do
  if cleanupEvidence db p = [] ∧ cleanupHandoffs db p = [] then
    throw "cleanup Scheduler job has no exact durable campaign/run/cycle owner"
  match cleanupEvidence db p with
  | [] => return none
  | first :: rest =>
    if ∃ e ∈ rest, e ≠ first then
      throw "multiple conflicting exact cleanup terminal-evidence rows"
    return some first

/-- `_validate_cleanup_token_slot` -/
def validateCleanupTokenSlot (db : CampaignDb) (p : Projection) : Except String Unit := do
  if p.tokenSlotId = none then return ()
  if ¬ ∃ slot ∈ db.tokenSlots.rows, some slot.identity = p.tokenSlotId ∧
      slot.campaignId = p.campaignId ∧ slot.runId = p.runId ∧ slot.cycleId = p.cycleId then
    throw "cleanup token_slot_id is not in the exact campaign/run/cycle"
  if ¬ ((∃ l ∈ cleanupHandoffs db p, l.tokenSlotId = p.tokenSlotId) ∨
      ∃ r ∈ cleanupWorkRows db p, r.tokenSlotId = p.tokenSlotId) then
    throw "cleanup Scheduler job has no durable link to token_slot_id; omit it"

/-- `_validate_terminal_cleanup_ownership` -/
def validateTerminalCleanupOwnership (db : CampaignDb) (p : Projection)
    (capture : Option SchedulerCleanupCapture) : Except String (Option OwnerEvidence) := do
  let some capture := capture
    | throw ("TERMINAL_CLEANUP requires an immutable SchedulerCleanupCapture from " ++
        "the campaign active-work owner")
  if capture.campaignId ≠ p.campaignId ∨ capture.runId ≠ p.runId ∨ capture.cycleId ≠ p.cycleId then
    throw "cleanup capture belongs to a different campaign/run/cycle"
  if p.targetCategory ≠ "SCHEDULER_JOB" then
    throw "TERMINAL_CLEANUP target_category must be SCHEDULER_JOB"
  if p.targetIdentity ≠ toString p.schedulerJobId then
    throw "TERMINAL_CLEANUP target_identity must equal the exact Scheduler job id"
  let evidence ← cleanupExactOwnerEvidence db p
  validateCleanupTokenSlot db p
  match capture.preState p.schedulerJobId with
  | none => throw "cleanup Scheduler job was not present in the pre-cancellation capture"
  | some preState =>
    if mirroredState preState ∉ activeWorkStates then
      throw "cleanup capture pre-state is not active; capture was taken after cancellation"
    return evidence

/-- The owner of the projection's scope, with the state evidence it carries. -/
def validateOwnership (db : CampaignDb) (p : Projection) (capture : Option SchedulerCleanupCapture) :
    Except String (Option OwnerEvidence) :=
  match p.workScope with
  | .discoverySelection => some <$> validateDiscoverySelectionOwnership db p
  | .first15mHandoff => (fun _ => none) <$> validateFirst15mHandoffOwnership db p
  | .windowLifecycle => (fun _ => none) <$> validateWindowLifecycleOwnership db p
  | .terminalCleanup => validateTerminalCleanupOwnership db p capture

/-! ## `_resolve_scheduler_state` -/

/-- The cause and the time that the job's own columns give once it has ended. -/
def schedulerEvidence (job : Job) : Option String × Option String :=
  (if job.status = .failed then job.lastError.filter fun text => strip text ≠ ""
    else some ("SCHEDULER_JOB_" ++ workTable.value (mirroredState job.status)),
    optionalText job.finishedAt)

/-- The evidence of an ended job, from its exact owner where the scope has one. -/
def canonicalEvidence (job : Job) : Option OwnerEvidence → Except String (Option String × Option String)
  | none => .ok (schedulerEvidence job)
  | some owner =>
    if owner.workState ≠ mirroredState job.status then
      .error "exact owner work_state contradicts terminal Scheduler status"
    else .ok (owner.firstTerminalCause, owner.terminalAt)

/-- The checks on the evidence of an ended job. -/
def checkEvidence (cause terminalAt requestedCause requestedTerminalAt : Option String) :
    Except String Unit := do
  if terminalAt = none then throw "terminal Scheduler job lacks a canonical terminal time"
  if strip (cause.getD "") = "" then throw "terminal Scheduler job lacks a canonical terminal cause"
  if requestedCause ≠ none ∧ requestedCause ≠ cause then
    throw "requested first_terminal_cause contradicts canonical Scheduler evidence"
  if requestedTerminalAt ≠ none ∧ requestedTerminalAt ≠ terminalAt then
    throw "requested terminal_at contradicts canonical Scheduler evidence"

/-- `_resolve_scheduler_state`: the state, the cause and the time to record. -/
def resolveSchedulerState (jobs : Jobs) (schedulerJobId : ℤ)
    (requestedState requestedCause requestedTerminalAt : Option String)
    (owner : Option OwnerEvidence) : Except String (Move WorkState) := do
  let some job := jobs.find? schedulerJobId
    | throw "scheduler job does not exist; projection cannot create one"
  let status := mirroredState job.status
  if requestedState ≠ none ∧ requestedState ≠ some (workTable.value status) then
    throw ("requested work_state '" ++ requestedState.getD "" ++ "' contradicts actual " ++
      "Scheduler state '" ++ workTable.value status ++ "'")
  if status ∈ activeWorkStates then
    if ∃ e ∈ owner, e.workState ≠ status then
      throw "exact owner work_state contradicts active Scheduler status"
    if requestedCause ≠ none ∨ requestedTerminalAt ≠ none then
      throw "active Scheduler job cannot carry a terminal cause or terminal_at"
    return ⟨status, none, none⟩
  else
    let evidence ← canonicalEvidence job owner
    checkEvidence evidence.1 evidence.2 requestedCause requestedTerminalAt
    return ⟨status, evidence.1, evidence.2⟩

/-! ## `project_campaign_scheduler_work` -/

/-- What the projection would record, from the job and the owner of its scope. -/
def canonicalState (db : CampaignDb) (p : Projection) (a : ProjectionArgs) :
    Except String (Move WorkState) := do
  let owner ← validateOwnership db p a.cleanupCapture
  let resolved ← resolveSchedulerState db.jobs p.schedulerJobId a.workState a.firstTerminalCause
    a.terminalAt owner
  if p.workScope = .terminalCleanup ∧ resolved.state ∈ activeWorkStates then
    throw "cleanup Scheduler job is not terminal"
  return resolved

def schedulerOwnershipStateDrift : String := "SCHEDULER_OWNERSHIP_STATE_DRIFT"

def drift (message : String) : String := schedulerOwnershipStateDrift ++ ": " ++ message

def Projection.result (p : Projection) (state : WorkState) (created : Bool) : ProjectionResult where
  schedulerWorkId := p.schedulerWorkId
  campaignId := p.campaignId
  workScope := p.workScope
  stageId := p.stageId
  schedulerJobId := p.schedulerJobId
  workState := state
  created := created

/-- The `CHECK`s on the evidence of a work row. -/
def evidenceCheck (state : WorkState) (cause terminalAt : Option String) : Bool :=
  if state ∈ activeWorkStates then cause = none ∧ terminalAt = none
  else cause.any Sqlite.filled && terminalAt.isSome

/-- The `CHECK`s on the identity of a work row. -/
def WorkIdentity.checks (w : WorkIdentity) : Bool :=
  (w.sourceResponseId = none ∨ w.sourceRequestId ≠ none) &&
  (w.sourceFailureId = none ∨ w.sourceRequestId ≠ none) &&
  (w.sourceResponseId = none ∨ w.sourceFailureId = none) &&
  match w.ownershipContractVersion with
  | .v1WindowBound =>
    w.windowId ≠ none ∧ w.tokenSlotId ≠ none ∧ w.workScope = none ∧ w.stageId = none ∧
      w.targetCategory = none ∧ w.targetIdentity = none ∧ w.factoryRunId = none
  | .v2StageScoped =>
    (w.workScope.any fun scope =>
      match scope with
      | .windowLifecycle => w.factoryRunId ≠ none ∧ w.tokenSlotId ≠ none ∧ w.windowId ≠ none
      | .first15mHandoff => w.windowId = none ∧ w.factoryRunId = none
      | .discoverySelection => w.windowId = none ∧ w.tokenSlotId = none ∧ w.factoryRunId = none
      | .terminalCleanup => w.windowId = none ∧ w.factoryRunId = none) &&
    w.stageId.any Sqlite.filled && w.targetCategory.any Sqlite.filled &&
    w.targetIdentity.any Sqlite.filled && w.schedulerJobId.isSome

/-- The rows that a work row refers to are there, and its response is one to its
request. -/
def CampaignDb.refersToRows (db : CampaignDb) (w : WorkIdentity) : Bool :=
  (w.windowId.all fun windowId => w.tokenSlotId.all fun tokenSlotId => db.windows.rows.any fun r =>
    r.identity = windowId ∧ r.tokenSlotId = tokenSlotId ∧ r.cycleId = w.cycleId ∧
      r.runId = w.runId ∧ r.campaignId = w.campaignId) &&
  (w.schedulerJobId.all fun id => (db.jobs.find? id).isSome) &&
  (w.sourceRequestId.all fun id => id ∈ db.sources.requests) &&
  (w.sourceResponseId.all fun id => db.sources.responses.any fun r =>
    r.1 = id ∧ some r.2 = w.sourceRequestId) &&
  (w.sourceFailureId.all fun id => id ∈ db.sources.failures) &&
  w.factoryRunId.all fun id => (db.factoryRuns.find? id).isSome

/-- The database takes the row: its checks, its references and its unique job. -/
def CampaignDb.acceptsWork (db : CampaignDb) (r : SchedulerWork) : Bool :=
  evidenceCheck r.state r.firstTerminalCause r.terminalAt && r.toWorkIdentity.checks &&
    db.refersToRows r.toWorkIdentity &&
    !db.schedulerWork.rows.any fun old => old.schedulerJobId ≠ none ∧
      old.schedulerJobId = r.schedulerJobId

/-- The row a first projection inserts. -/
def Projection.row (p : Projection) (m : Move WorkState) (timestamp : String) : SchedulerWork where
  identity := p.schedulerWorkId
  state := m.state
  firstTerminalCause := m.cause
  terminalAt := m.terminalAt
  updatedAt := timestamp
  toWorkIdentity := p.desired

/-- The projection under a work id that has no row yet. -/
def projectFirst (db : CampaignDb) (p : Projection) (a : ProjectionArgs) (timestamp : String)
    (fresh : db.schedulerWork.find? p.schedulerWorkId = none) :
    Except String (ProjectionResult × CampaignDb) := do
  if ∃ r ∈ db.schedulerWork.rows, r.schedulerJobId = some p.schedulerJobId ∧
      r.identity ≠ p.schedulerWorkId then
    throw "scheduler job already owned by another campaign work row"
  let resolved ← canonicalState db p a
  if db.acceptsWork (p.row resolved timestamp) then
    return (p.result resolved.state true,
      { db with
        schedulerWork := db.schedulerWork.insert (p.row resolved timestamp)
          (Table.find?_eq_none_iff.mp fresh) })
  else throw "the database refused the row"

/-- The call of `transition_state` that follows the job. -/
def Projection.transition (p : Projection) (existing : SchedulerWork) (resolved : Move WorkState)
    (timestamp utcNow : String) : TransitionCall where
  identity := p.schedulerWorkId
  expectedState := workTable.value existing.state
  newState := workTable.value resolved.state
  terminalCause := resolved.cause
  now := some (if resolved.terminalAt.getD "" = "" then timestamp else resolved.terminalAt.getD "")
  utcNow := utcNow
  accepted := resolved.cause.all fun cause => Sqlite.filled (strip cause)

/-- The projection under the work id of an existing row. -/
def projectAgain (db : CampaignDb) (p : Projection) (a : ProjectionArgs) (timestamp utcNow : String)
    (existing : SchedulerWork) : Except String (ProjectionResult × CampaignDb) := do
  if existing.ownershipContractVersion ≠ .v2StageScoped then
    throw "existing scheduler work is not a V2 stage-scoped row"
  if existing.toWorkIdentity ≠ p.desired then
    throw ("competing campaign/scope/stage/target/linkage ownership " ++
      "for scheduler_work_id")
  let resolved ← (canonicalState db p a).mapError drift
  if existing.state = resolved.state then
    if existing.firstTerminalCause ≠ resolved.cause ∨ existing.terminalAt ≠ resolved.terminalAt then
      throw (drift "canonical terminal evidence differs from stored ownership")
    return (p.result resolved.state false, db)
  else
    let transitioned ← (workOwner.transitionIn db.schedulerWork
      (p.transition existing resolved timestamp utcNow)).mapError drift
    return (p.result transitioned.1.currentState false, { db with schedulerWork := transitioned.2 })

/-- `now or _utc_now()` -/
def ProjectionArgs.timestamp (a : ProjectionArgs) (utcNow : String) : String :=
  if a.now.getD "" = "" then utcNow else a.now.getD ""

/-- `project_campaign_scheduler_work`; a call that raises changes nothing. -/
def projectCampaignSchedulerWork (db : CampaignDb) (a : ProjectionArgs) (utcNow : String) :
    Except String (ProjectionResult × CampaignDb) := do
  let p ← validateProjection a
  match h : db.schedulerWork.find? p.schedulerWorkId with
  | some existing => projectAgain db p a (a.timestamp utcNow) utcNow existing
  | none => projectFirst db p a (a.timestamp utcNow) h

end PrinterV1.OperatorCli
