import PrinterV1.Foundation.Sqlite
import PrinterV1.Lifecycle.TrackingQueue
import PrinterV1.OperatorCli.CampaignOwnership
import PrinterV1.Scheduler.Jobs

/-!
# The campaign database

The tables of the campaign ownership graph, with the columns that the functions
of this directory read or write. `transitionIn` is `transition_state` on a table
whose rows carry the columns of `StateRow`.
-/

namespace PrinterV1.OperatorCli

open Scheduler

inductive WorkScope
  | discoverySelection | first15mHandoff | windowLifecycle | terminalCleanup
  deriving DecidableEq, Repr

def WorkScope.value : WorkScope → String
  | .discoverySelection => "DISCOVERY_SELECTION"
  | .first15mHandoff => "FIRST_15M_HANDOFF"
  | .windowLifecycle => "WINDOW_LIFECYCLE"
  | .terminalCleanup => "TERMINAL_CLEANUP"

/-- `WORK_SCOPES` -/
def workScopes : List WorkScope :=
  [.discoverySelection, .first15mHandoff, .windowLifecycle, .terminalCleanup]

inductive OwnershipContract
  | v1WindowBound | v2StageScoped
  deriving DecidableEq, Repr

/-- `_PROJECTION_IDENTITY_COLUMNS` -/
structure WorkIdentity where
  campaignId : String
  runId : String
  cycleId : String
  tokenSlotId : Option String
  windowId : Option String
  workIntent : String
  deadlineAt : String
  schedulerJobId : Option ℤ
  sourceRequestId : Option ℤ
  sourceResponseId : Option ℤ
  sourceFailureId : Option ℤ
  ownershipContractVersion : OwnershipContract
  stageId : Option String
  workScope : Option WorkScope
  targetCategory : Option String
  targetIdentity : Option String
  factoryRunId : Option String
  deriving DecidableEq, Repr

/-- A row of `printer_memory_factory_campaign_scheduler_work`; its identity is
the `scheduler_work_id`. -/
structure SchedulerWork extends StateRow WorkState, WorkIdentity
  deriving DecidableEq, Repr

/-- A row of `printer_discovery_work`; its identity is the `discovery_work_id`. -/
structure DiscoveryWork extends StateRow WorkState where
  discoveryBatchId : String
  campaignId : String
  runId : String
  cycleId : String
  schedulerJobId : ℤ
  deriving DecidableEq, Repr

/-- A row of `printer_discovery_selected_item_links`. -/
structure SelectedItemLink where
  discoveryBatchId : String
  selectionItemId : ℤ
  mergedCandidateId : String
  campaignId : String
  runId : String
  cycleId : String
  tokenSlotId : Option String
  firstWindow15mSchedulerJobId : Option ℤ
  deriving DecidableEq, Repr

inductive BatchState
  | planned | discovering | merging | verifying | selecting | tracking
  | terminalCompleted | terminalStopped | terminalBlocked | terminalFailed
  deriving DecidableEq, Repr

def terminalBatchStates : List BatchState :=
  [.terminalCompleted, .terminalStopped, .terminalBlocked, .terminalFailed]

/-- A row of `printer_discovery_batches`. -/
structure DiscoveryBatch where
  discoveryBatchId : String
  campaignId : String
  runId : String
  batchState : BatchState
  firstTerminalCause : Option String
  terminalAt : Option String
  deriving DecidableEq, Repr

structure Campaign extends StateRow RunState
  deriving DecidableEq, Repr

structure CampaignRun extends StateRow RunState where
  campaignId : String
  authoritativeRunId : Option String
  deriving DecidableEq, Repr

structure CampaignCycle extends StateRow CycleState where
  campaignId : String
  runId : String
  deriving DecidableEq, Repr

structure TokenSlot extends StateRow TokenState where
  campaignId : String
  runId : String
  cycleId : String
  slotOrdinal : ℤ
  trackingQueueId : Option ℤ
  deriving DecidableEq, Repr

structure CampaignWindow extends StateRow WindowState where
  campaignId : String
  runId : String
  cycleId : String
  tokenSlotId : String
  deriving DecidableEq, Repr

/-- A row of `printer_memory_factory_runs`. -/
structure FactoryRun where
  runId : String
  runStatus : String
  stopReason : Option String
  finishedAt : Option String
  updatedAt : String
  deriving DecidableEq, Repr

/-- A row of `printer_memory_factory_run_steps`. -/
structure RunStep where
  id : ℤ
  runId : String
  schedulerJobId : Option ℤ
  stepStatus : String
  deriving DecidableEq, Repr

/-- The keys of the source ledger that a work row may refer to. -/
structure SourceLedger where
  requests : List ℤ
  /-- Responses, each with its request. -/
  responses : List (ℤ × ℤ)
  failures : List ℤ

structure CampaignDb where
  jobs : Jobs
  schedulerWork : Table fun r : SchedulerWork => r.identity
  discoveryWork : Table fun r : DiscoveryWork => r.identity
  discoveryBatches : Table DiscoveryBatch.discoveryBatchId
  selectedItemLinks : Table fun l : SelectedItemLink => (l.discoveryBatchId, l.selectionItemId)
  campaigns : Table fun r : Campaign => r.identity
  runs : Table fun r : CampaignRun => r.identity
  cycles : Table fun r : CampaignCycle => r.identity
  tokenSlots : Table fun r : TokenSlot => r.identity
  windows : Table fun r : CampaignWindow => r.identity
  factoryRuns : Table FactoryRun.runId
  runSteps : Table RunStep.id
  trackingQueue : Lifecycle.Queue
  sources : SourceLedger

def CampaignDb.empty : CampaignDb where
  jobs := Table.empty
  schedulerWork := Table.empty
  discoveryWork := Table.empty
  discoveryBatches := Table.empty
  selectedItemLinks := Table.empty
  campaigns := Table.empty
  runs := Table.empty
  cycles := Table.empty
  tokenSlots := Table.empty
  windows := Table.empty
  factoryRuns := Table.empty
  runSteps := Table.empty
  trackingQueue := Table.empty
  sources := ⟨[], [], []⟩

/-- The state of work that mirrors a job of the status. -/
def mirroredState : JobStatus → WorkState
  | .pending => .pending
  | .running => .running
  | .succeeded => .succeeded
  | .failed => .failed
  | .cooldown => .cooldown
  | .skipped => .skipped
  | .cancelled => .cancelled

theorem mirroredState_injective {a b : JobStatus} (h : mirroredState a = mirroredState b) :
    a = b := by
  cases a <;> cases b <;> first | rfl | cases h

/-- `IN ('PENDING', 'RUNNING', 'COOLDOWN')` -/
def activeWorkStates : List WorkState := [.pending, .running, .cooldown]

theorem not_active_iff_terminal (s : WorkState) :
    s ∉ activeWorkStates ↔ s ∈ workTable.terminalStates := by
  cases s <;> decide

/-- How the rows of a table carry the columns of `transition_state`. -/
structure StateOwner (ρ σ : Type) where
  kind : RecordKind
  table : StateTable σ
  row : ρ → StateRow σ
  setRow : StateRow σ → ρ → ρ
  row_setRow : ∀ s r, row (setRow s r) = s

abbrev workOwner : StateOwner SchedulerWork WorkState :=
  ⟨.schedulerWork, workTable, (·.toStateRow), fun s r => { r with toStateRow := s },
    fun _ _ => rfl⟩

namespace StateOwner

variable {ρ σ : Type}

abbrev key (o : StateOwner ρ σ) (r : ρ) : String := (o.row r).identity

def move (o : StateOwner ρ σ) (m : Move σ) (timestamp : String) : Update o.key :=
  ⟨fun r => o.setRow (moveRow m timestamp (o.row r)) r, fun r => by
    simp [key, o.row_setRow, moveRow]⟩

variable [DecidableEq σ]

def transitionIn (o : StateOwner ρ σ) (rows : Table o.key) (c : TransitionCall) :
    Except String (StateTransitionResult σ × Table o.key) :=
  match rows.find? c.identity with
  | none => .error ("unknown " ++ o.kind.value ++ " identity: " ++ c.identity)
  | some r =>
    match plannedMove o.kind o.table (o.row r) c with
    | .error message => .error message
    | .ok none => .ok (unchangedResult c (o.row r), rows)
    | .ok (some m) =>
      if c.accepted then
        .ok (movedResult c (o.row r) m, rows.updateKey c.identity (o.move m c.timestamp))
      else .error "the database refused the update"

theorem transitionIn_refused {o : StateOwner ρ σ} {rows : Table o.key} {c : TransitionCall} {r : ρ}
    {message : String} (hfind : rows.find? c.identity = some r)
    (hplan : plannedMove o.kind o.table (o.row r) c = .error message) :
    o.transitionIn rows c = .error message := by
  simp [transitionIn, hfind, hplan]

theorem transitionIn_moved {o : StateOwner ρ σ} {rows : Table o.key} {c : TransitionCall} {r : ρ}
    {m : Move σ} (hfind : rows.find? c.identity = some r)
    (hplan : plannedMove o.kind o.table (o.row r) c = .ok (some m)) :
    o.transitionIn rows c =
      if c.accepted then
        .ok (movedResult c (o.row r) m, rows.updateKey c.identity (o.move m c.timestamp))
      else .error "the database refused the update" := by
  simp [transitionIn, hfind, hplan]

/-- A call that succeeds moves one row, or changes nothing. -/
theorem transitionIn_cases {o : StateOwner ρ σ} {rows : Table o.key} {c : TransitionCall}
    {t : StateTransitionResult σ × Table o.key} (h : o.transitionIn rows c = .ok t) :
    (∃ m, t.2 = rows.updateKey c.identity (o.move m c.timestamp)) ∨ t.2 = rows := by
  unfold transitionIn at h
  cases hfind : rows.find? c.identity with
  | none => simp [hfind] at h
  | some r =>
    simp only [hfind] at h
    cases hplan : plannedMove o.kind o.table (o.row r) c with
    | error message => simp [hplan] at h
    | ok planned =>
      cases planned with
      | none =>
        simp only [hplan, Except.ok.injEq] at h
        exact Or.inr (by rw [← h])
      | some m =>
        simp only [hplan] at h
        by_cases haccepted : c.accepted = true
        · simp only [haccepted, if_true, Except.ok.injEq] at h
          exact Or.inl ⟨m, by rw [← h]⟩
        · simp [haccepted] at h

end StateOwner

end PrinterV1.OperatorCli
