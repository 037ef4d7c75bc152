import PrinterV1.Foundation.Faults
import PrinterV1.OperatorCli.SchedulerWork
import Mathlib.Data.List.Dedup

/-!
# The jobs of a campaign

`campaign_scoped_job_ids` attributes jobs to a campaign, a run, a cycle and a
factory run: broadly, or through rows that carry all three identities. The
capture before a cleanup uses the exact mode.
-/

namespace PrinterV1.OperatorCli

open Python Scheduler

structure ScopedJobIds where
  factoryRunStepJobs : List ℤ
  discoveryJobs : List ℤ
  campaignSchedulerWorkJobs : List ℤ
  first15mHandoffJobs : List ℤ
  deriving DecidableEq, Repr

def ScopedJobIds.all (ids : ScopedJobIds) : List ℤ :=
  ids.factoryRunStepJobs ++ ids.discoveryJobs ++ ids.campaignSchedulerWorkJobs ++
    ids.first15mHandoffJobs

/-- The clauses on the identities that were given, joined by `OR`. -/
def attributed (campaignId runId cycleId : Option String)
    (rowCampaignId rowRunId rowCycleId : String) : Bool :=
  optionalText campaignId = some rowCampaignId ∨ optionalText runId = some rowRunId ∨
    optionalText cycleId = some rowCycleId

def factoryRunStepJobs (db : CampaignDb) (factoryRunId : Option String) : List ℤ :=
  (db.runSteps.rows.filter fun step => optionalText factoryRunId = some step.runId).filterMap
    (·.schedulerJobId)

/-- `campaign_scoped_job_ids`, the broad mode. -/
def campaignScopedJobIds (db : CampaignDb) (factoryRunId campaignId runId cycleId : Option String) :
    ScopedJobIds where
  factoryRunStepJobs := factoryRunStepJobs db factoryRunId
  discoveryJobs := (db.discoveryWork.rows.filter fun w =>
    attributed campaignId runId cycleId w.campaignId w.runId w.cycleId).map (·.schedulerJobId)
  campaignSchedulerWorkJobs := (db.schedulerWork.rows.filter fun w =>
    attributed campaignId runId cycleId w.campaignId w.runId w.cycleId).filterMap (·.schedulerJobId)
  first15mHandoffJobs := []

/-- `_job_has_exact_scope_owner` -/
def jobHasExactScopeOwner (db : CampaignDb) (campaignId runId cycleId : String) (jobId : ℤ) :
    Bool :=
  (db.discoveryWork.rows.any fun w => w.schedulerJobId = jobId ∧ w.campaignId = campaignId ∧
    w.runId = runId ∧ w.cycleId = cycleId) ||
  (db.schedulerWork.rows.any fun w => w.schedulerJobId = some jobId ∧ w.campaignId = campaignId ∧
    w.runId = runId ∧ w.cycleId = cycleId ∧ w.ownershipContractVersion = .v2StageScoped) ||
  db.selectedItemLinks.rows.any fun l => l.firstWindow15mSchedulerJobId = some jobId ∧
    l.campaignId = campaignId ∧ l.runId = runId ∧ l.cycleId = cycleId

/-- `campaign_scoped_job_ids` with `exact_scope`. -/
def exactScopedJobIds (db : CampaignDb) (factoryRunId : Option String)
    (campaignId runId cycleId : String) : ScopedJobIds :=
  let owned (ids : List ℤ) := ids.filter (jobHasExactScopeOwner db campaignId runId cycleId)
  let broad := campaignScopedJobIds db factoryRunId (some campaignId) (some runId) (some cycleId)
  { factoryRunStepJobs := owned broad.factoryRunStepJobs
    discoveryJobs := owned broad.discoveryJobs
    campaignSchedulerWorkJobs := owned ((db.schedulerWork.rows.filter fun w =>
      attributed (some campaignId) (some runId) (some cycleId) w.campaignId w.runId w.cycleId ∧
        w.ownershipContractVersion = .v2StageScoped).filterMap (·.schedulerJobId))
    first15mHandoffJobs := owned ((db.selectedItemLinks.rows.filter fun l =>
      l.campaignId = campaignId ∧ l.runId = runId ∧ l.cycleId = cycleId).filterMap
      (·.firstWindow15mSchedulerJobId)) }

/-- The status of a captured job. -/
def capturedState (db : CampaignDb) (jobId : ℤ) : Except String (ℤ × JobStatus) :=
  match db.jobs.find? jobId with
  | none => .error ("captured campaign job " ++ toString jobId ++ " has no Scheduler row")
  | some job => .ok (jobId, job.status)

/-- `capture_campaign_active_scheduler_jobs` -/
def captureCampaignActiveSchedulerJobs (db : CampaignDb) (campaignId runId cycleId : String)
    (factoryRunId : Option String) (capturedAt : String) :
    Except String SchedulerCleanupCapture := do
  let campaignId ← required campaignId "campaign_id"
  let runId ← required runId "run_id"
  let cycleId ← required cycleId "cycle_id"
  let jobIds := (exactScopedJobIds db factoryRunId campaignId runId cycleId).all
  let states ← (jobIds.dedup.mergeSort (· ≤ ·)).mapM (capturedState db)
  return ⟨campaignId, runId, cycleId, capturedAt,
    states.filter fun entry => mirroredState entry.2 ∈ activeWorkStates⟩

/-- Every captured job has an exact owner and was active. -/
theorem mem_capture {db : CampaignDb} {campaignId runId cycleId : String}
    {factoryRunId : Option String} {capturedAt : String} {capture : SchedulerCleanupCapture}
    (h : captureCampaignActiveSchedulerJobs db campaignId runId cycleId factoryRunId capturedAt =
      .ok capture) {jobId : ℤ} {status : JobStatus} (hmem : (jobId, status) ∈ capture.jobStates) :
    mirroredState status ∈ activeWorkStates ∧
      (∃ job, db.jobs.find? jobId = some job ∧ job.status = status) ∧
      jobHasExactScopeOwner db capture.campaignId capture.runId capture.cycleId jobId = true := by
  obtain ⟨campaignId, _, h⟩ := Faults.bind_ok h
  obtain ⟨runId, _, h⟩ := Faults.bind_ok h
  obtain ⟨cycleId, _, h⟩ := Faults.bind_ok h
  obtain ⟨states, hstates, h⟩ := Faults.bind_ok h
  obtain rfl := Except.ok.inj h
  obtain ⟨hmem, hactive⟩ := List.mem_filter.mp hmem
  obtain ⟨id, hid, hcaptured⟩ := Faults.mem_mapM_ok hstates _ hmem
  have hall : id ∈ (exactScopedJobIds db factoryRunId campaignId runId cycleId).all :=
    List.mem_dedup.mp (List.mem_mergeSort.mp hid)
  unfold capturedState at hcaptured
  cases hjob : db.jobs.find? id with
  | none => simp [hjob] at hcaptured
  | some job =>
    simp only [hjob, Except.ok.injEq, Prod.mk.injEq] at hcaptured
    obtain ⟨rfl, hstatus⟩ := hcaptured
    refine ⟨of_decide_eq_true hactive, ⟨job, hjob, hstatus⟩, ?_⟩
    simp only [ScopedJobIds.all, exactScopedJobIds, List.mem_append, List.mem_filter] at hall
    rcases hall with ((⟨_, h⟩ | ⟨_, h⟩) | ⟨_, h⟩) | ⟨_, h⟩ <;> exact h

end PrinterV1.OperatorCli
