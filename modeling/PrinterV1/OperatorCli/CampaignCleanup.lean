import PrinterV1.OperatorCli.CampaignDatabase
import PrinterV1.OperatorCli.CampaignSupervision

/-!
# Cleanup of a campaign run

`cleanup_campaign_supervision` ends the work, the discovery work, the jobs, the
windows, the cycles, the run and the campaign of a supervision in one
transaction, and releases the lease after it.
-/

namespace PrinterV1.OperatorCli

open Python Scheduler

/-- The campaign database with its supervisions, each of a run of its campaign. -/
structure SupervisedDb extends CampaignDb where
  supervision : Table fun r : Supervision => r.supervisionId
  linked : ∀ r ∈ supervision.rows, ∃ run, runs.find? r.runId = some run ∧
    run.campaignId = r.campaignId

/-- A change of a supervision that leaves its identity alone. -/
structure SupervisionUpdate where
  apply : Supervision → Supervision
  ids_apply : ∀ r, (apply r).toSupervisionIds = r.toSupervisionIds

def SupervisionUpdate.toUpdate (u : SupervisionUpdate) :
    Update fun r : Supervision => r.supervisionId :=
  ⟨u.apply, fun r => by rw [u.ids_apply r]⟩

/-- `UPDATE` of one supervision, where it is in one of the states. -/
def SupervisedDb.updateSupervision (db : SupervisedDb) (ids : SupervisionIds)
    (states : List SupervisionState) (u : SupervisionUpdate) : SupervisedDb where
  toCampaignDb := db.toCampaignDb
  supervision := db.supervision.updateWhere (fun r => r.supervisionId = ids.supervisionId ∧
    r.ownerId = ids.ownerId ∧ r.supervisionState ∈ states) u.toUpdate
  linked := by
    intro r hr
    obtain ⟨old, hold, rfl⟩ := Table.mem_updateWhere.mp hr
    obtain ⟨run, hrun, hcampaign⟩ := db.linked old hold
    have hids := u.ids_apply old
    split_ifs
    · refine ⟨run, ?_, ?_⟩
      · rw [← hrun, ← show (u.apply old).runId = old.runId by rw [hids]]
        rfl
      · rw [hcampaign, ← show (u.apply old).campaignId = old.campaignId by rw [hids]]
        rfl
    · exact ⟨run, hrun, hcampaign⟩

def CampaignDb.worksOn (db : CampaignDb) (campaignId runId : String) (jobId : ℤ) : Bool :=
  db.schedulerWork.rows.any fun w => w.campaignId = campaignId ∧ w.runId = runId ∧
    w.schedulerJobId = some jobId

def CampaignDb.discoversWith (db : CampaignDb) (campaignId runId : String) (jobId : ℤ) : Bool :=
  db.discoveryWork.rows.any fun w => w.campaignId = campaignId ∧ w.runId = runId ∧
    w.schedulerJobId = jobId

/-- The run owns the job through one of the two tables. -/
def CampaignDb.owns (db : CampaignDb) (campaignId runId : String) (jobId : ℤ) : Bool :=
  db.worksOn campaignId runId jobId || db.discoversWith campaignId runId jobId

/-- Another campaign or run owns the job through one of the two tables. -/
def CampaignDb.ownsElsewhere (db : CampaignDb) (campaignId runId : String) (jobId : ℤ) : Bool :=
  (db.schedulerWork.rows.any fun w => ¬(w.campaignId = campaignId ∧ w.runId = runId) ∧
    w.schedulerJobId = some jobId) ||
  db.discoveryWork.rows.any fun w => ¬(w.campaignId = campaignId ∧ w.runId = runId) ∧
    w.schedulerJobId = jobId

/-- `status IN ('PENDING','RUNNING','COOLDOWN') OR locked_at IS NOT NULL OR
lock_owner IS NOT NULL` -/
def uncleared (job : Job) : Bool :=
  job.status = .pending ∨ job.status = .running ∨ job.status = .cooldown ∨
    job.lockedAt ≠ none ∨ job.lockOwner ≠ none

/-- The check for shared jobs; it reads the work rows only. -/
def CampaignDb.sharesWork (db : CampaignDb) (campaignId runId : String) : Bool :=
  db.schedulerWork.rows.any fun work => work.campaignId = campaignId ∧ work.runId = runId ∧
    work.schedulerJobId ≠ none ∧ ∃ other ∈ db.schedulerWork.rows,
      other.schedulerJobId = work.schedulerJobId ∧
        (other.campaignId ≠ work.campaignId ∨ other.runId ≠ work.runId)

/-- `_terminal_targets` -/
def terminalTargets : TerminalStatus → RunState × CycleState
  | .completed => (.terminalCompleted, .terminalCompleted)
  | .cancelled => (.terminalStopped, .terminalStopped)
  | _ => (.terminalFailed, .terminalFailed)

/-- The columns that an ended row receives. -/
def endRow {σ : Type} (state : σ) (cause timestamp : String) (r : StateRow σ) : StateRow σ :=
  { r with
    state := state
    firstTerminalCause := some cause
    terminalAt := some timestamp
    updatedAt := timestamp }

def cancelWork (cause timestamp : String) : Update fun r : SchedulerWork => r.identity :=
  ⟨fun r => { r with toStateRow := endRow .cancelled cause timestamp r.toStateRow }, fun _ => rfl⟩

/-- The first cause and time stay where there are any. -/
def failDiscovery (cause timestamp : String) : Update fun r : DiscoveryWork => r.identity :=
  ⟨fun r => { r with
    state := .failed
    firstTerminalCause := some (r.firstTerminalCause.getD cause)
    terminalAt := some (r.terminalAt.getD timestamp)
    updatedAt := timestamp }, fun _ => rfl⟩

def failBatch (cause timestamp : String) : Update DiscoveryBatch.discoveryBatchId :=
  ⟨fun r => { r with
    batchState := .terminalFailed
    firstTerminalCause := some (r.firstTerminalCause.getD cause)
    terminalAt := some (r.terminalAt.getD timestamp) }, fun _ => rfl⟩

def cancelJob (cause timestamp : String) : Update Job.id :=
  ⟨fun r => { r with
    status := .cancelled
    finishedAt := some timestamp
    lockedAt := none
    lockOwner := none
    lastError := some (r.lastError.getD cause)
    updatedAt := timestamp }, fun _ => rfl⟩

def cancelWindow (cause timestamp : String) : Update fun r : CampaignWindow => r.identity :=
  ⟨fun r => { r with toStateRow := endRow .cancelled cause timestamp r.toStateRow }, fun _ => rfl⟩

def endCycle (state : CycleState) (cause timestamp : String) :
    Update fun r : CampaignCycle => r.identity :=
  ⟨fun r => { r with toStateRow := endRow state cause timestamp r.toStateRow }, fun _ => rfl⟩

def endRun (state : RunState) (cause timestamp : String) :
    Update fun r : CampaignRun => r.identity :=
  ⟨fun r => { r with toStateRow := endRow state cause timestamp r.toStateRow }, fun _ => rfl⟩

def endCampaign (state : RunState) (cause timestamp : String) :
    Update fun r : Campaign => r.identity :=
  ⟨fun r => { r with toStateRow := endRow state cause timestamp r.toStateRow }, fun _ => rfl⟩

/-- The updates of the transaction. None of them writes a column that says who owns
what, so the jobs are looked up in the tables as they were. -/
def cleanupTables (db : CampaignDb) (campaignId runId : String) (status : TerminalStatus)
    (cause timestamp : String) : CampaignDb :=
  { db with
    schedulerWork := db.schedulerWork.updateWhere (fun r => r.campaignId = campaignId ∧
      r.runId = runId ∧ r.state ∈ activeWorkStates) (cancelWork cause timestamp)
    discoveryWork := db.discoveryWork.updateWhere (fun r => r.campaignId = campaignId ∧
      r.runId = runId ∧ r.state ∈ activeWorkStates) (failDiscovery cause timestamp)
    discoveryBatches := db.discoveryBatches.updateWhere (fun r => r.campaignId = campaignId ∧
      r.runId = runId ∧ r.batchState ∉ terminalBatchStates) (failBatch cause timestamp)
    jobs := db.jobs.updateWhere (fun j => db.owns campaignId runId j.id ∧ uncleared j)
      (cancelJob cause timestamp)
    windows := db.windows.updateWhere (fun r => r.campaignId = campaignId ∧
      r.runId = runId ∧ r.state ∈ [.planned, .collecting, .closePending, .auditing])
      (cancelWindow cause timestamp)
    cycles := db.cycles.updateWhere (fun r => r.campaignId = campaignId ∧
      r.runId = runId ∧ r.state ∉ cycleTable.terminalStates)
      (endCycle (terminalTargets status).2 cause timestamp)
    runs := db.runs.updateKey runId (endRun (terminalTargets status).1 cause timestamp)
    campaigns := db.campaigns.updateKey campaignId
      (endCampaign (terminalTargets status).1 cause timestamp) }

/-- A row of the run that is active itself, or whose job is uncleared. -/
def CampaignDb.activeWork (db : CampaignDb) (campaignId runId : String) : ℕ :=
  db.schedulerWork.countWhere fun w => w.campaignId = campaignId ∧ w.runId = runId ∧
    (w.state ∈ activeWorkStates ∨ (w.schedulerJobId.bind db.jobs.find?).any uncleared)

def CampaignDb.activeDiscovery (db : CampaignDb) (campaignId runId : String) : ℕ :=
  db.discoveryWork.countWhere fun w => w.campaignId = campaignId ∧ w.runId = runId ∧
    (w.state ∈ activeWorkStates ∨ (db.jobs.find? w.schedulerJobId).any uncleared)

def TerminalStatus.value : TerminalStatus → String
  | .completed => "COMPLETED"
  | .failed => "FAILED"
  | .cancelled => "CANCELLED"
  | .leaseRenewalUnconfirmed => "LEASE_RENEWAL_UNCONFIRMED"

/-- `_TERMINAL_STATUSES` -/
def terminalStatuses : List TerminalStatus :=
  [.completed, .failed, .cancelled, .leaseRenewalUnconfirmed]

structure ReleaseFaults where
  lookup : Option String
  read : ReadFaults
  unlink : Option String
  /-- A file stands at the path after the unlinking. -/
  remains : Bool
  deriving DecidableEq, Repr

/-- What the steps of one call raise: a statement of the transaction, the reading of
what it left, the release of the lease, and the record of the release. -/
structure CleanupFaults where
  transaction : Option DbFault
  reading : Option DbFault
  release : ReleaseFaults
  finish : Option DbFault
  deriving DecidableEq, Repr

def CleanupFaults.quiet : CleanupFaults := ⟨none, none, ⟨none, .quiet, none, false⟩, none⟩

structure CleanupCall where
  ids : SupervisionIds
  terminalStatus : String
  firstTerminalCause : String
  now : Datetime
  localOffset : ℤ
  faults : CleanupFaults
  deriving DecidableEq

structure CleanupResult where
  terminalStatus : TerminalStatus
  firstTerminalCause : String
  cancelledCampaignWork : ℕ
  cancelledDiscoveryWork : ℕ
  terminalizedDiscoveryBatches : ℕ
  cancelledSchedulerJobs : ℕ
  cancelledWindows : ℕ
  terminalizedCycles : ℕ
  activeOwnedWorkAfter : ℕ
  idempotentReplay : Bool
  deriving DecidableEq, Repr

/-- The arguments that passed the checks before the transaction. -/
structure CleanupRequest where
  status : TerminalStatus
  cause : String
  timestamp : String
  deriving DecidableEq, Repr

/-- `_required` -/
def requiredText (value label : String) : Except Exn String :=
  if strip value = "" then .error (.supervision (label ++ " is required")) else .ok (strip value)

def cleanupRequest (c : CleanupCall) : Except Exn CleanupRequest := do
  let some status := terminalStatuses.find? fun status => status.value = c.terminalStatus
    | throw (.supervision "unsupported operational terminal status")
  let cause ← requiredText c.firstTerminalCause "first_terminal_cause"
  let timestamp ← iso c.now c.localOffset
  return ⟨status, cause, timestamp⟩

/-- The supervision after its cleanup. -/
def terminate (q : CleanupRequest) : SupervisionUpdate :=
  ⟨fun r => { r with
    supervisionState := .terminal
    terminalStatus := some q.status
    firstTerminalCause := some q.cause
    cleanupCompletedAt := some q.timestamp
    updatedAt := q.timestamp }, fun _ => rfl⟩

/-- The database after the cleanup of a supervision that was not terminal. -/
def cleaned (db : SupervisedDb) (ids : SupervisionIds) (q : CleanupRequest) : SupervisedDb :=
  let ended : SupervisedDb :=
    { toCampaignDb := cleanupTables db.toCampaignDb ids.campaignId ids.runId q.status q.cause
        q.timestamp
      supervision := db.supervision
      linked := by
        intro r hr
        obtain ⟨run, hrun, hcampaign⟩ := db.linked r hr
        simp only [cleanupTables, Table.find?_updateKey, hrun, Option.map_some]
        refine ⟨_, rfl, ?_⟩
        split_ifs <;> exact hcampaign }
  ended.updateSupervision ids [.active, .stopping] (terminate q)

/-- The run or the campaign is missing or has ended. -/
def CampaignDb.inconsistent (db : CampaignDb) (ids : SupervisionIds) : Bool :=
  ((db.runs.find? ids.runId).all fun r => r.state ∈ runTable.terminalStates) ||
    (db.campaigns.find? ids.campaignId).all fun r => r.state ∈ runTable.terminalStates

/-- The transaction on a supervision that is not terminal. The database refuses a
cause that is empty under its own trimming. -/
def cleanupActive (db : SupervisedDb) (ids : SupervisionIds) (q : CleanupRequest) :
    Except Exn SupervisedDb := do
  if db.sharesWork ids.campaignId ids.runId then
    throw (.supervision "scheduler job ownership is ambiguous")
  if db.inconsistent ids then
    throw (.supervision "campaign terminal ownership is inconsistent")
  if (cleaned db ids q).activeWork ids.campaignId ids.runId ≠ 0 ∨
      (cleaned db ids q).activeDiscovery ids.campaignId ids.runId ≠ 0 then
    throw (.supervision "campaign child-work cleanup is incomplete")
  if ¬Sqlite.filled q.cause then throw (.sqlite false "CHECK constraint failed")
  return cleaned db ids q

/-- The counts of the updates. -/
def cleanupResult (db : CampaignDb) (ids : SupervisionIds) (q : CleanupRequest) (after : ℕ) :
    CleanupResult where
  terminalStatus := q.status
  firstTerminalCause := q.cause
  cancelledCampaignWork := db.schedulerWork.countWhere fun r => r.campaignId = ids.campaignId ∧
    r.runId = ids.runId ∧ r.state ∈ activeWorkStates
  cancelledDiscoveryWork := db.discoveryWork.countWhere fun r => r.campaignId = ids.campaignId ∧
    r.runId = ids.runId ∧ r.state ∈ activeWorkStates
  terminalizedDiscoveryBatches := db.discoveryBatches.countWhere fun r =>
    r.campaignId = ids.campaignId ∧ r.runId = ids.runId ∧ r.batchState ∉ terminalBatchStates
  cancelledSchedulerJobs := db.jobs.countWhere fun j =>
    db.owns ids.campaignId ids.runId j.id ∧ uncleared j
  cancelledWindows := db.windows.countWhere fun r => r.campaignId = ids.campaignId ∧
    r.runId = ids.runId ∧ r.state ∈ [.planned, .collecting, .closePending, .auditing]
  terminalizedCycles := db.cycles.countWhere fun r => r.campaignId = ids.campaignId ∧
    r.runId = ids.runId ∧ r.state ∉ cycleTable.terminalStates
  activeOwnedWorkAfter := after
  idempotentReplay := false

/-- The result of a call on a supervision that has ended before. -/
def replayResult (row : Supervision) (q : CleanupRequest) (after : ℕ) : CleanupResult where
  terminalStatus := row.terminalStatus.getD q.status
  firstTerminalCause := row.firstTerminalCause.getD q.cause
  cancelledCampaignWork := 0
  cancelledDiscoveryWork := 0
  terminalizedDiscoveryBatches := 0
  cancelledSchedulerJobs := 0
  cancelledWindows := 0
  terminalizedCycles := 0
  activeOwnedWorkAfter := after
  idempotentReplay := true

/-- The transaction: the database it leaves, and the result of the call without the
count that is taken afterwards. -/
def cleanupTransaction (db : SupervisedDb) (c : CleanupCall) (q : CleanupRequest) :
    Except Exn (SupervisedDb × (ℕ → CleanupResult)) := do
  dbStep c.faults.transaction
  match db.supervision.find? c.ids.supervisionId with
  | none => throw (.supervision "campaign supervision ownership mismatch")
  | some row =>
    loadExact row c.ids
    if row.supervisionState = .terminal then return (db, replayResult row q)
    else
      let db' ← cleanupActive db c.ids q
      return (db', cleanupResult db.toCampaignDb c.ids q)

structure CleanupState where
  db : SupervisedDb
  locks : String → LockFile

/-- `_release_lock` -/
def releaseLock (f : ReleaseFaults) (file : LockFile) (ids : SupervisionIds) :
    Except Exn Bool × LockFile :=
  match f.lookup, file with
  | some message, _ => (.error (.os message), file)
  | none, .missing => (.ok true, file)
  | none, _ =>
    match readExact f.read file ids with
    | .error e => (.error e, file)
    | .ok _ =>
      match f.unlink with
      | some message => (.error (.os message), file)
      | none => (.ok !f.remains, .missing)

/-- `_finish_released_lease` -/
def releasedAt (timestamp : String) : SupervisionUpdate :=
  ⟨fun r => { r with
    leaseReleasedAt := some (r.leaseReleasedAt.getD timestamp)
    updatedAt := timestamp }, fun _ => rfl⟩

/-- What follows the transaction: the release of the lease of the row. -/
def finishCleanup (s : CleanupState) (c : CleanupCall) (q : CleanupRequest)
    (result : ℕ → CleanupResult) : Except Exn CleanupResult × CleanupState :=
  match dbStep c.faults.reading, s.db.supervision.find? c.ids.supervisionId with
  | .error e, _ => (.error e, s)
  | .ok _, none => (.error (.supervision "campaign supervision ownership mismatch"), s)
  | .ok _, some row =>
    let released := releaseLock c.faults.release (s.locks row.leaseLockPath) row.toSupervisionIds
    let s' := { s with locks := Function.update s.locks row.leaseLockPath released.2 }
    match released.1 with
    | .error e => (.error e, s')
    | .ok false => (.error (.supervision "operational campaign lease release failed"), s')
    | .ok true =>
      match dbStep c.faults.finish with
      | .error e => (.error e, s')
      | .ok _ =>
        (.ok (result (s.db.activeWork c.ids.campaignId c.ids.runId +
            s.db.activeDiscovery c.ids.campaignId c.ids.runId)),
          { s' with db := s'.db.updateSupervision c.ids [.terminal] (releasedAt q.timestamp) })

/-- `cleanup_campaign_supervision` -/
def cleanupCampaignSupervision (s : CleanupState) (c : CleanupCall) :
    Except Exn CleanupResult × CleanupState :=
  match cleanupRequest c with
  | .error e => (.error e, s)
  | .ok q =>
    match cleanupTransaction s.db c q with
    | .error e => (.error e, s)
    | .ok (db, result) => finishCleanup { s with db := db } c q result

def cleanupStep (s : CleanupState) (c : CleanupCall) : CleanupState :=
  (cleanupCampaignSupervision s c).2

end PrinterV1.OperatorCli
