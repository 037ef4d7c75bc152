import PrinterV1.OperatorCli.CampaignActiveWork
import PrinterV1.OperatorCli.CleanupFrame
import PrinterV1.OperatorCli.SchedulerWorkRuns

/-!
# Projection of a job that a cleanup has cancelled

A cleanup ends the work rows, the discovery rows and the jobs of a run. A later
projection of one of the jobs demands that its row, its owner and the job agree,
word for word; they do so only where the cleanup left what the projection would
have recorded.
-/

namespace PrinterV1.OperatorCli

open Python Scheduler

/-! ## What a projection records of a cancelled job -/

/-- The call asserts neither a state nor evidence. -/
structure Unasserted (a : ProjectionArgs) : Prop where
  workState : a.workState = none
  firstTerminalCause : a.firstTerminalCause = none
  terminalAt : a.terminalAt = none

/-- The evidence for a cancelled job: its owner's, or the job's own. -/
def cancelledEvidence (job : Job) : Option OwnerEvidence → OwnerEvidence
  | none => ⟨.cancelled, some "SCHEDULER_JOB_CANCELLED", optionalText job.finishedAt⟩
  | some evidence => evidence

/-- The evidence is of a cancellation, with a time and a cause that is no blank. -/
structure CancellationEvidence (e : OwnerEvidence) : Prop where
  state : e.workState = .cancelled
  terminalAt : e.terminalAt ≠ none
  cause : strip (e.firstTerminalCause.getD "") ≠ ""

section

variable {db : CampaignDb} {a : ProjectionArgs} {p : Projection} {job : Job}

theorem resolveSchedulerState_cancelled_iff (hfind : db.jobs.find? p.schedulerJobId = some job)
    (hcancelled : job.status = .cancelled) {owner : Option OwnerEvidence} {m : Move WorkState} :
    resolveSchedulerState db.jobs p.schedulerJobId none none none owner = .ok m ↔
      CancellationEvidence (cancelledEvidence job owner) ∧
        m = ⟨.cancelled, (cancelledEvidence job owner).firstTerminalCause,
          (cancelledEvidence job owner).terminalAt⟩ := by
  have hactive : WorkState.cancelled ∉ activeWorkStates := by decide
  have hmirrored : mirroredState job.status = .cancelled := by rw [hcancelled]; rfl
  have hcanonical : canonicalEvidence job owner =
      if (cancelledEvidence job owner).workState = .cancelled then
        .ok ((cancelledEvidence job owner).firstTerminalCause,
          (cancelledEvidence job owner).terminalAt)
      else .error "exact owner work_state contradicts terminal Scheduler status" := by
    cases owner with
    | none =>
      have hcause : "SCHEDULER_JOB_" ++ workTable.value .cancelled = "SCHEDULER_JOB_CANCELLED" :=
        rfl
      simp [canonicalEvidence, cancelledEvidence, schedulerEvidence, hcancelled, mirroredState,
        hcause]
    | some e => by_cases he : e.workState = .cancelled <;>
        simp [canonicalEvidence, cancelledEvidence, hmirrored, he]
  have hcheck := checkEvidence_iff (cancelledEvidence job owner).firstTerminalCause
    (cancelledEvidence job owner).terminalAt
  unfold resolveSchedulerState
  simp only [hfind, hmirrored, hcanonical, hactive, if_false]
  by_cases hstate : (cancelledEvidence job owner).workState = .cancelled
  · simp only [hstate, if_true]
    cases hevidence : checkEvidence (cancelledEvidence job owner).firstTerminalCause
        (cancelledEvidence job owner).terminalAt none none with
    | error message =>
      rw [hevidence] at hcheck
      refine iff_of_false ?_ ?_
      · simp [hevidence, bind, Except.bind]
      · rintro ⟨h, _⟩
        cases hcheck.mpr ⟨h.terminalAt, h.cause⟩
    | ok u =>
      obtain ⟨hat, hcause⟩ := hcheck.mp hevidence
      have hevidenced : CancellationEvidence (cancelledEvidence job owner) := ⟨hstate, hat, hcause⟩
      simp [hevidence, hevidenced, bind, Except.bind, pure, Except.pure, eq_comm]
  · refine iff_of_false ?_ fun h => hstate h.1.state
    simp [hstate, bind, Except.bind]

/-- The canonical state of a cancelled job, once its owner was found. -/
theorem canonicalState_cancelled_iff (ha : Unasserted a)
    (hfind : db.jobs.find? p.schedulerJobId = some job) (hcancelled : job.status = .cancelled)
    {owner : Option OwnerEvidence} (howner : validateOwnership db p a.cleanupCapture = .ok owner)
    {m : Move WorkState} :
    canonicalState db p a = .ok m ↔
      CancellationEvidence (cancelledEvidence job owner) ∧
        m = ⟨.cancelled, (cancelledEvidence job owner).firstTerminalCause,
          (cancelledEvidence job owner).terminalAt⟩ := by
  rw [← resolveSchedulerState_cancelled_iff hfind hcancelled]
  unfold canonicalState
  rw [howner, ha.workState, ha.firstTerminalCause, ha.terminalAt]
  simp only [bind, Except.bind]
  cases hresolve : resolveSchedulerState db.jobs p.schedulerJobId none none none owner with
  | error message => simp
  | ok resolved =>
    have hstate := ((resolveSchedulerState_cancelled_iff hfind hcancelled).mp hresolve).2
    have hactive : ¬(p.workScope = .terminalCleanup ∧ resolved.state ∈ activeWorkStates) := by
      rintro ⟨_, hmem⟩
      rw [hstate] at hmem
      simp [activeWorkStates] at hmem
    simp [hactive, pure, Except.pure]

theorem transitionIn_ended {existing : SchedulerWork} {m : Move WorkState}
    (hexisting : db.schedulerWork.find? p.schedulerWorkId = some existing)
    (hended : existing.state ∉ activeWorkStates) (hne : existing.state ≠ m.state)
    (timestamp utcNow : String) :
    ∃ message, workOwner.transitionIn db.schedulerWork
      (p.transition existing m timestamp utcNow) = .error message := by
  have hterminal := (not_active_iff_terminal _).mp hended
  have hvalue : workTable.value existing.state ≠ workTable.value m.state := by
    intro h
    apply hne
    revert h
    cases existing.state <;> cases m.state <;> decide
  refine ⟨"terminal state and first cause are immutable",
    StateOwner.transitionIn_refused hexisting ?_⟩
  unfold plannedMove
  rw [if_pos hterminal, if_neg (by simp [Projection.transition, hvalue])]

/-- A repeated projection of an ended row compares, and changes nothing. -/
theorem projectAgain_ended_iff {existing : SchedulerWork}
    (hexisting : db.schedulerWork.find? p.schedulerWorkId = some existing)
    (hidentity : existing.toWorkIdentity = p.desired) (hended : existing.state ∉ activeWorkStates)
    (timestamp utcNow : String) {t : ProjectionResult × CampaignDb} :
    projectAgain db p a timestamp utcNow existing = .ok t ↔
      canonicalState db p a =
          .ok ⟨existing.state, existing.firstTerminalCause, existing.terminalAt⟩ ∧
        t = (p.result existing.state false, db) := by
  have hcontract : existing.ownershipContractVersion = .v2StageScoped := by
    rw [show existing.ownershipContractVersion = existing.toWorkIdentity.ownershipContractVersion
      from rfl, hidentity]
    rfl
  unfold projectAgain
  rw [if_neg (not_not.mpr hcontract), if_neg (not_not.mpr hidentity)]
  cases hcanonical : canonicalState db p a with
  | error message => simp [Except.mapError, bind, Except.bind]
  | ok m =>
    obtain ⟨state, cause, terminalAt⟩ := m
    by_cases hstate : existing.state = state
    · by_cases hsame : existing.firstTerminalCause = cause ∧ existing.terminalAt = terminalAt
      · obtain ⟨rfl, rfl⟩ := hsame
        subst hstate
        simp [Except.mapError, bind, Except.bind, pure, Except.pure, eq_comm]
      · have hdiffers : existing.firstTerminalCause ≠ cause ∨ existing.terminalAt ≠ terminalAt := by
          by_contra h
          rw [not_or, not_not, not_not] at h
          exact hsame h
        refine iff_of_false ?_ ?_
        · simp [Except.mapError, bind, Except.bind, hstate, hdiffers]
        · rintro ⟨h, _⟩
          simp only [Except.ok.injEq, Move.mk.injEq] at h
          exact hsame ⟨h.2.1.symm, h.2.2.symm⟩
    · obtain ⟨message, hmessage⟩ :=
        transitionIn_ended (m := ⟨state, cause, terminalAt⟩) hexisting hended hstate timestamp
          utcNow
      refine iff_of_false ?_ ?_
      · simp [Except.mapError, bind, Except.bind, hstate, hmessage]
      · rintro ⟨h, _⟩
        simp only [Except.ok.injEq, Move.mk.injEq] at h
        exact hstate h.1.symm

end

/-! ## The tables after a cleanup -/

section Cleaned

variable {db : CampaignDb} {ids : SupervisionIds} {q : CleanupRequest} {p : Projection}

/-- The tables that the cleanup of the run leaves. -/
abbrev afterCleanup (db : CampaignDb) (ids : SupervisionIds) (q : CleanupRequest) : CampaignDb :=
  cleanupTables db ids.campaignId ids.runId q.status q.cause q.timestamp

/-- The row ends with the cause and the time: it is cancelled by the cleanup, or was before. -/
def EndsAs (q : CleanupRequest) (r : StateRow WorkState) (cause terminalAt : Option String) :
    Prop :=
  r.state ∈ activeWorkStates ∧ cause = some q.cause ∧ terminalAt = some q.timestamp ∨
    r.state = .cancelled ∧ r.firstTerminalCause = cause ∧ r.terminalAt = terminalAt

/-- A work row of the run after its cleanup. -/
theorem find?_schedulerWork_afterCleanup {existing : SchedulerWork}
    (hexisting : db.schedulerWork.find? p.schedulerWorkId = some existing)
    (hcampaign : existing.campaignId = ids.campaignId) (hrun : existing.runId = ids.runId) :
    ∃ ended, (afterCleanup db ids q).schedulerWork.find? p.schedulerWorkId = some ended ∧
      ended.toWorkIdentity = existing.toWorkIdentity ∧ ended.state ∉ activeWorkStates ∧
      ∀ cause terminalAt, (ended.state = .cancelled ∧ ended.firstTerminalCause = cause ∧
        ended.terminalAt = terminalAt ↔ EndsAs q existing.toStateRow cause terminalAt) := by
  have hfind : (afterCleanup db ids q).schedulerWork.find? p.schedulerWorkId =
      (db.schedulerWork.find? p.schedulerWorkId).map fun r =>
        if decide (r.campaignId = ids.campaignId ∧ r.runId = ids.runId ∧
          r.state ∈ activeWorkStates) then (cancelWork q.cause q.timestamp).apply r else r :=
    Table.find?_updateWhere _
  rw [hexisting, Option.map_some] at hfind
  refine ⟨_, hfind, ?_⟩
  by_cases hactive : existing.state ∈ activeWorkStates
  · have hne : existing.state ≠ .cancelled := by
      rintro h
      rw [h] at hactive
      revert hactive
      decide
    rw [if_pos (decide_eq_true ⟨hcampaign, hrun, hactive⟩)]
    refine ⟨rfl, by simp [cancelWork, endRow, activeWorkStates], fun cause terminalAt => ?_⟩
    simp [EndsAs, cancelWork, endRow, hactive, hne, eq_comm]
  · rw [if_neg (by simp [hactive])]
    refine ⟨rfl, hactive, fun cause terminalAt => ?_⟩
    simp [EndsAs, hactive]

/-- A job of the run that is active is cancelled, at the time of the cleanup. -/
theorem find?_jobs_afterCleanup (ids : SupervisionIds) (q : CleanupRequest) {jobId : ℤ} {job : Job}
    (hjob : db.jobs.find? jobId = some job)
    (hactive : mirroredState job.status ∈ activeWorkStates) :
    ∃ job', (afterCleanup db ids q).jobs.find? jobId = some job' ∧
      (db.owns ids.campaignId ids.runId jobId = true →
        job'.status = .cancelled ∧ job'.finishedAt = some q.timestamp) ∧
      (db.owns ids.campaignId ids.runId jobId = false → job' = job) := by
  have hfind : (afterCleanup db ids q).jobs.find? jobId =
      (db.jobs.find? jobId).map fun j =>
        if decide (db.owns ids.campaignId ids.runId j.id = true ∧ uncleared j = true) then
          (cancelJob q.cause q.timestamp).apply j else j :=
    Table.find?_updateWhere _
  have hid : job.id = jobId := (Table.find?_eq_some_iff.mp hjob).2
  have huncleared : uncleared job = true := by
    revert hactive
    cases hstatus : job.status <;> simp [mirroredState, activeWorkStates, uncleared, hstatus]
  rw [hjob, Option.map_some] at hfind
  refine ⟨_, hfind, fun howns => ?_, fun howns => ?_⟩
  · simp [hid, howns, huncleared, cancelJob]
  · simp [hid, howns]

/-- The rows that a scope refers to are still there. -/
theorem HasLineage.afterCleanup (h : HasLineage db p) : HasLineage (afterCleanup db ids q) p := by
  unfold HasLineage at h ⊢
  cases hscope : p.workScope with
  | discoverySelection => simp [hscope] at h
  | terminalCleanup => simp [hscope] at h
  | first15mHandoff =>
    simp only [hscope] at h ⊢
    exact h
  | windowLifecycle =>
    simp only [hscope] at h ⊢
    obtain ⟨htarget, ⟨w, hw, hwindow⟩, ⟨r, hr, hrun⟩, hstep⟩ := h
    refine ⟨htarget, ?_, ?_, hstep⟩
    · have hw' : (if decide (w.campaignId = ids.campaignId ∧ w.runId = ids.runId ∧
          w.state ∈ [.planned, .collecting, .closePending, .auditing]) then
          (cancelWindow q.cause q.timestamp).apply w else w) ∈
          (OperatorCli.afterCleanup db ids q).windows.rows :=
        Table.mem_updateWhere.mpr ⟨w, hw, rfl⟩
      refine ⟨_, hw', ?_⟩
      split_ifs <;> exact hwindow
    · have hfind : (OperatorCli.afterCleanup db ids q).runs.find? p.runId =
          (db.runs.find? p.runId).map fun r =>
            if p.runId = ids.runId then
              (endRun (terminalTargets q.status).1 q.cause q.timestamp).apply r else r :=
        Table.find?_updateKey _
      rw [hr, Option.map_some] at hfind
      refine ⟨_, hfind, ?_⟩
      split_ifs <;> exact hrun

theorem refersToRows_afterCleanup {w : WorkIdentity} (h : db.refersToRows w = true) :
    (afterCleanup db ids q).refersToRows w = true := by
  have hwindows : ∀ windowId tokenSlotId,
      ((afterCleanup db ids q).windows.rows.any fun r => r.identity = windowId ∧
        r.tokenSlotId = tokenSlotId ∧ r.cycleId = w.cycleId ∧ r.runId = w.runId ∧
        r.campaignId = w.campaignId) =
      db.windows.rows.any fun r => r.identity = windowId ∧ r.tokenSlotId = tokenSlotId ∧
        r.cycleId = w.cycleId ∧ r.runId = w.runId ∧ r.campaignId = w.campaignId :=
    fun _ _ => Table.any_updateWhere fun _ => rfl
  have hjobs : ∀ id,
      ((afterCleanup db ids q).jobs.find? id).isSome = (db.jobs.find? id).isSome := by
    intro id
    have hfind : (afterCleanup db ids q).jobs.find? id = (db.jobs.find? id).map _ :=
      Table.find?_updateWhere _
    rw [hfind, Option.isSome_map]
  unfold CampaignDb.refersToRows at h ⊢
  simp only [hwindows, hjobs]
  exact h

/-- The discovery rows of the exact scope after the cleanup. -/
theorem cleanupDiscoveryRows_afterCleanup (hcampaign : p.campaignId = ids.campaignId)
    (hrun : p.runId = ids.runId) :
    cleanupDiscoveryRows (afterCleanup db ids q) p =
      (cleanupDiscoveryRows db p).map fun r =>
        if r.state ∈ activeWorkStates then (failDiscovery q.cause q.timestamp).apply r else r := by
  unfold cleanupDiscoveryRows
  rw [show (afterCleanup db ids q).discoveryWork = db.discoveryWork.updateWhere _ _ from rfl,
    Table.filter_updateWhere_eq_map fun _ => rfl]
  apply List.map_congr_left
  intro r hr
  obtain ⟨_, hr⟩ := List.mem_filter.mp hr
  obtain ⟨_, hr, hr', _⟩ := of_decide_eq_true hr
  simp [hr, hr', hcampaign, hrun]

end Cleaned

/-! ## The exact identity of a captured job -/

/-- The discovery rows that a selection projection looks up. -/
def selectionOwners (db : CampaignDb) (p : Projection) : List DiscoveryWork :=
  db.discoveryWork.rows.filter fun r =>
    r.identity = p.targetIdentity ∧ r.campaignId = p.campaignId ∧ r.runId = p.runId ∧
      r.cycleId = p.cycleId ∧ r.schedulerJobId = p.schedulerJobId

/-- The work row under this identity, which the projection repeats. -/
def Repeats (db : CampaignDb) (p : Projection) (existing : SchedulerWork) : Prop :=
  db.schedulerWork.find? p.schedulerWorkId = some existing ∧ existing.toWorkIdentity = p.desired

/-- The job has no work row, and the table would take one of this identity. -/
structure FirstCleanup (db : CampaignDb) (p : Projection) : Prop where
  targetIdentity : p.targetIdentity = toString p.schedulerJobId
  fresh : db.schedulerWork.find? p.schedulerWorkId = none
  unowned : ∀ r ∈ db.schedulerWork.rows, r.schedulerJobId ≠ some p.schedulerJobId
  tokenSlot : validateCleanupTokenSlot db p = .ok ()
  checks : p.desired.checks = true
  refers : db.refersToRows p.desired = true

/-- A first projection of the cleanup, or the repetition of a work row that has its owner. -/
def ExactIdentity (db : CampaignDb) (p : Projection) : Prop :=
  match p.workScope with
  | .terminalCleanup => FirstCleanup db p
  | .discoverySelection => (∃ existing, Repeats db p existing) ∧ selectionOwners db p ≠ []
  | .first15mHandoff => (∃ existing, Repeats db p existing) ∧ HasLineage db p
  | .windowLifecycle => (∃ existing, Repeats db p existing) ∧ HasLineage db p

/-- A projection of a job of the capture, under the job's exact identity. -/
structure CapturedCall (db : CampaignDb) (ids : SupervisionIds) (capture : SchedulerCleanupCapture)
    (a : ProjectionArgs) (p : Projection) : Prop where
  valid : validateProjection a = .ok p
  unasserted : Unasserted a
  cleanupCapture : p.workScope = .terminalCleanup → a.cleanupCapture = some capture
  captured : ∃ status, (p.schedulerJobId, status) ∈ capture.jobStates
  campaignId : p.campaignId = ids.campaignId ∧ capture.campaignId = ids.campaignId
  runId : p.runId = ids.runId ∧ capture.runId = ids.runId
  cycleId : capture.cycleId = p.cycleId
  identity : ExactIdentity db p

/-- The projection succeeds and its row has the state of the job, which has ended. -/
def RecordsEnd (db : CampaignDb) (a : ProjectionArgs) (p : Projection) (utcNow : String) : Prop :=
  ∃ job result db' row, db.jobs.find? p.schedulerJobId = some job ∧
    mirroredState job.status ∈ workTable.terminalStates ∧
    projectCampaignSchedulerWork db a utcNow = .ok (result, db') ∧
    result.workState = mirroredState job.status ∧
    db'.schedulerWork.find? p.schedulerWorkId = some row ∧ row.state = mirroredState job.status

/-- What the cleanup leaves agrees with what the projection asks for. A handoff and a
window end as their job says. A selection has to end as its owner, which was cancelled
before. A first projection needs a job that the run owns in one of its two tables, and
discovery rows that were cancelled before, all with one cause and one time. -/
def CleanupAgrees (db : CampaignDb) (ids : SupervisionIds) (q : CleanupRequest) (p : Projection) :
    Prop :=
  match p.workScope with
  | .terminalCleanup => db.owns ids.campaignId ids.runId p.schedulerJobId = true ∧
      ∃ e, CancellationEvidence e ∧ e.firstTerminalCause.any Sqlite.filled = true ∧
        ∀ r ∈ cleanupDiscoveryRows db p, stateEvidence r.toStateRow = e
  | .discoverySelection => ∀ existing, db.schedulerWork.find? p.schedulerWorkId = some existing →
      ∀ owner ∈ selectionOwners db p, CancellationEvidence (stateEvidence owner.toStateRow) ∧
        EndsAs q existing.toStateRow owner.firstTerminalCause owner.terminalAt
  | .first15mHandoff => ∀ existing, db.schedulerWork.find? p.schedulerWorkId = some existing →
      EndsAs q existing.toStateRow (some "SCHEDULER_JOB_CANCELLED") (some q.timestamp)
  | .windowLifecycle => ∀ existing, db.schedulerWork.find? p.schedulerWorkId = some existing →
      EndsAs q existing.toStateRow (some "SCHEDULER_JOB_CANCELLED") (some q.timestamp)

section Records

variable {db : CampaignDb} {ids : SupervisionIds} {q : CleanupRequest}
variable {capture : SchedulerCleanupCapture} {a : ProjectionArgs} {p : Projection}

/-- The repetition of a row that has ended records the end of its job where the row is the
evidence for it. -/
theorem recordsEnd_again_iff {existing : SchedulerWork} {job : Job}
    (hvalid : validateProjection a = .ok p) (ha : Unasserted a)
    (hfind : db.schedulerWork.find? p.schedulerWorkId = some existing)
    (hidentity : existing.toWorkIdentity = p.desired) (hended : existing.state ∉ activeWorkStates)
    (hjob : db.jobs.find? p.schedulerJobId = some job) (hcancelled : job.status = .cancelled)
    {owner : Option OwnerEvidence} (howner : validateOwnership db p a.cleanupCapture = .ok owner)
    (utcNow : String) :
    RecordsEnd db a p utcNow ↔ CancellationEvidence (cancelledEvidence job owner) ∧
      existing.state = .cancelled ∧
      existing.firstTerminalCause = (cancelledEvidence job owner).firstTerminalCause ∧
      existing.terminalAt = (cancelledEvidence job owner).terminalAt := by
  have hproject := fun t => projectAgain_ended_iff (a := a) (t := t) hfind hidentity hended
    (a.timestamp utcNow) utcNow
  have hcanonical := fun m => canonicalState_cancelled_iff (m := m) ha hjob hcancelled howner
  unfold RecordsEnd
  rw [project_of_some hvalid utcNow hfind]
  constructor
  · rintro ⟨_, result, db', _, _, _, hok, _⟩
    obtain ⟨hmove, _⟩ := (hproject _).mp hok
    obtain ⟨hevidence, hmove⟩ := (hcanonical _).mp hmove
    obtain ⟨hstate, hcause, hat⟩ := Move.mk.inj hmove
    exact ⟨hevidence, hstate, hcause, hat⟩
  · rintro ⟨hevidence, hstate, hcause, hat⟩
    have hmirrored : mirroredState job.status = .cancelled := by rw [hcancelled]; rfl
    refine ⟨job, p.result existing.state false, db, existing, hjob, ?_, ?_, ?_, hfind, ?_⟩
    · rw [hmirrored]
      decide
    · exact (hproject _).mpr ⟨(hcanonical _).mpr ⟨hevidence, by rw [hstate, hcause, hat]⟩, rfl⟩
    · exact hstate.trans hmirrored.symm
    · exact hstate.trans hmirrored.symm

/-- The first projection of a cancelled job records its end where the table takes the
evidence. -/
theorem recordsEnd_first_iff {job : Job} (hvalid : validateProjection a = .ok p)
    (ha : Unasserted a) (hfresh : db.schedulerWork.find? p.schedulerWorkId = none)
    (hunowned : ∀ r ∈ db.schedulerWork.rows, r.schedulerJobId ≠ some p.schedulerJobId)
    (hchecks : p.desired.checks = true) (hrefers : db.refersToRows p.desired = true)
    (hjob : db.jobs.find? p.schedulerJobId = some job) (hcancelled : job.status = .cancelled)
    {owner : Option OwnerEvidence} (howner : validateOwnership db p a.cleanupCapture = .ok owner)
    (utcNow : String) :
    RecordsEnd db a p utcNow ↔ CancellationEvidence (cancelledEvidence job owner) ∧
      (cancelledEvidence job owner).firstTerminalCause.any Sqlite.filled = true := by
  have hconflict : ¬∃ r ∈ db.schedulerWork.rows, r.schedulerJobId = some p.schedulerJobId ∧
      r.identity ≠ p.schedulerWorkId := by
    rintro ⟨r, hr, howned, _⟩
    exact hunowned r hr howned
  have haccepts : ∀ m : Move WorkState, m.state = .cancelled →
      (db.acceptsWork (p.row m (a.timestamp utcNow)) = true ↔
        m.cause.any Sqlite.filled = true ∧ m.terminalAt ≠ none) := by
    intro m hstate
    have hunique : (db.schedulerWork.rows.any fun old => old.schedulerJobId ≠ none ∧
        old.schedulerJobId = (p.row m (a.timestamp utcNow)).schedulerJobId) = false := by
      simp only [List.any_eq_false, decide_eq_true_eq]
      rintro old hold ⟨_, hsame⟩
      exact hunowned old hold hsame
    unfold CampaignDb.acceptsWork
    rw [hunique, show (p.row m (a.timestamp utcNow)).toWorkIdentity = p.desired from rfl, hchecks,
      hrefers]
    simp [Projection.row, evidenceCheck, hstate, activeWorkStates, Option.isSome_iff_ne_none]
  have hcanonical := fun m => canonicalState_cancelled_iff (m := m) ha hjob hcancelled howner
  have hmirrored : mirroredState job.status = .cancelled := by rw [hcancelled]; rfl
  unfold RecordsEnd
  rw [project_of_none hvalid utcNow hfresh]
  unfold projectFirst
  rw [if_neg hconflict]
  constructor
  · rintro ⟨_, result, db', _, _, _, hok, _⟩
    obtain ⟨m, hm, hok⟩ := Faults.bind_ok hok
    obtain ⟨hevidence, rfl⟩ := (hcanonical m).mp hm
    refine ⟨hevidence, ?_⟩
    split_ifs at hok with hrow
    exact ((haccepts _ rfl).mp hrow).1
  · rintro ⟨hevidence, hfilled⟩
    obtain ⟨m, hm, hstate, hcause, hat⟩ : ∃ m, canonicalState db p a = .ok m ∧
        m.state = .cancelled ∧ m.cause = (cancelledEvidence job owner).firstTerminalCause ∧
        m.terminalAt = (cancelledEvidence job owner).terminalAt :=
      ⟨_, (hcanonical _).mpr ⟨hevidence, rfl⟩, rfl, rfl, rfl⟩
    have hrow : db.acceptsWork (p.row m (a.timestamp utcNow)) = true :=
      (haccepts m hstate).mpr ⟨by rwa [hcause], by rw [hat]; exact hevidence.terminalAt⟩
    have hended : WorkState.cancelled ∈ workTable.terminalStates := by decide
    rw [← hmirrored] at hended
    simp only [hm, bind, Except.bind, hrow, if_true]
    refine ⟨job, _, _, p.row m (a.timestamp utcNow), hjob, hended, rfl,
      hstate.trans hmirrored.symm, ?_, hstate.trans hmirrored.symm⟩
    rw [Table.find?_insert]
    exact if_pos rfl

end Records


/-! ## Projection after the cleanup -/

section AfterCleanup

variable {db : CampaignDb} {ids : SupervisionIds} {q : CleanupRequest}
variable {capture : SchedulerCleanupCapture} {a : ProjectionArgs} {p : Projection} {job : Job}

/-- A text of a time is not empty. -/
theorem cleanupRequest_timestamp {c : CleanupCall} (h : cleanupRequest c = .ok q) :
    optionalText (some q.timestamp) = some q.timestamp := by
  have hne : q.timestamp ≠ "" := by
    unfold cleanupRequest at h
    split at h
    · obtain ⟨_, _, h⟩ := Faults.bind_ok h
      obtain ⟨timestamp, htimestamp, h⟩ := Faults.bind_ok h
      obtain rfl := Except.ok.inj h
      unfold iso at htimestamp
      simp only at htimestamp
      split_ifs at htimestamp with hrange
      obtain rfl := Except.ok.inj htimestamp
      exact isoformat_ne_empty hrange
    · cases h
  simp [optionalText, hne]

/-- A job with a work row of the run is cancelled by its cleanup. -/
theorem job_afterCleanup {existing : SchedulerWork} (hrepeats : Repeats db p existing)
    (hcampaign : p.campaignId = ids.campaignId) (hrun : p.runId = ids.runId)
    (hjob : db.jobs.find? p.schedulerJobId = some job)
    (hactive : mirroredState job.status ∈ activeWorkStates) :
    ∃ job', (afterCleanup db ids q).jobs.find? p.schedulerJobId = some job' ∧
      job'.status = .cancelled ∧ job'.finishedAt = some q.timestamp := by
  obtain ⟨hfind, hidentity⟩ := hrepeats
  obtain ⟨job', hjob', hcancelled, _⟩ :=
    find?_jobs_afterCleanup ids q hjob hactive
  refine ⟨job', hjob', hcancelled (owns_of_work (Table.find?_eq_some_iff.mp hfind).1 ?_ ?_ ?_)⟩
  · rw [hidentity]
    exact hcampaign
  · rw [hidentity]
    exact hrun
  · rw [hidentity]
    rfl

/-- The repetition of a work row of the run, once its owner was found. -/
theorem recordsEnd_repeats_iff (hvalid : validateProjection a = .ok p) (ha : Unasserted a)
    {existing : SchedulerWork} (hrepeats : Repeats db p existing)
    (hcampaign : p.campaignId = ids.campaignId) (hrun : p.runId = ids.runId)
    (hjob : (afterCleanup db ids q).jobs.find? p.schedulerJobId = some job)
    (hcancelled : job.status = .cancelled) {owner : Option OwnerEvidence}
    (howner : validateOwnership (afterCleanup db ids q) p a.cleanupCapture = .ok owner)
    (utcNow : String) :
    RecordsEnd (afterCleanup db ids q) a p utcNow ↔
      CancellationEvidence (cancelledEvidence job owner) ∧
        EndsAs q existing.toStateRow (cancelledEvidence job owner).firstTerminalCause
          (cancelledEvidence job owner).terminalAt := by
  obtain ⟨hfind, hidentity⟩ := hrepeats
  have hids : existing.campaignId = ids.campaignId ∧ existing.runId = ids.runId := by
    rw [hidentity]
    exact ⟨hcampaign, hrun⟩
  obtain ⟨ended, hfind', hidentity', hended, hends⟩ :=
    find?_schedulerWork_afterCleanup (q := q) hfind hids.1 hids.2
  rw [recordsEnd_again_iff hvalid ha hfind' (hidentity'.trans hidentity) hended hjob hcancelled
    howner, hends]

/-- A handoff or a window ends as the scheduler says that its job ended. -/
theorem recordsEnd_lineage_iff (ha : OwnerCall a p) (hlineage : HasLineage db p)
    {existing : SchedulerWork} (hrepeats : Repeats db p existing)
    (hcampaign : p.campaignId = ids.campaignId) (hrun : p.runId = ids.runId)
    (hjob : db.jobs.find? p.schedulerJobId = some job)
    (hactive : mirroredState job.status ∈ activeWorkStates)
    (htimestamp : optionalText (some q.timestamp) = some q.timestamp) (utcNow : String) :
    RecordsEnd (afterCleanup db ids q) a p utcNow ↔
      EndsAs q existing.toStateRow (some "SCHEDULER_JOB_CANCELLED") (some q.timestamp) := by
  obtain ⟨job', hjob', hcancelled, hfinished⟩ :=
    job_afterCleanup (q := q) hrepeats hcampaign hrun hjob hactive
  have hevidence : cancelledEvidence job' none =
      ⟨.cancelled, some "SCHEDULER_JOB_CANCELLED", some q.timestamp⟩ := by
    simp only [cancelledEvidence, hfinished, htimestamp]
  rw [recordsEnd_repeats_iff ha.valid ⟨ha.workState, ha.firstTerminalCause, ha.terminalAt⟩ hrepeats
    hcampaign hrun hjob' hcancelled
    (validateOwnership_of_lineage ha hlineage.afterCleanup a.cleanupCapture), hevidence]
  refine and_iff_right ⟨rfl, by simp, ?_⟩
  rw [Option.getD_some]
  decide

/-- The discovery row that owns a selection, after the cleanup. -/
theorem selectionOwners_afterCleanup {owner : DiscoveryWork} (howner : owner ∈ selectionOwners db p)
    (hcampaign : p.campaignId = ids.campaignId) (hrun : p.runId = ids.runId) :
    selectionOwners db p = [owner] ∧ selectionOwners (afterCleanup db ids q) p =
      [if owner.state ∈ activeWorkStates then (failDiscovery q.cause q.timestamp).apply owner
        else owner] := by
  obtain ⟨hmem, hexact⟩ := List.mem_filter.mp howner
  have hexact := of_decide_eq_true hexact
  have hone : selectionOwners db p = [owner] := by
    refine Table.filter_eq_singleton hmem (decide_eq_true hexact) fun x _ hx => ?_
    exact (of_decide_eq_true hx).1.trans hexact.1.symm
  refine ⟨hone, ?_⟩
  have hmap : selectionOwners (afterCleanup db ids q) p = (selectionOwners db p).map fun r =>
      if decide (r.campaignId = ids.campaignId ∧ r.runId = ids.runId ∧ r.state ∈ activeWorkStates)
        then (failDiscovery q.cause q.timestamp).apply r else r :=
    Table.filter_updateWhere_eq_map fun _ => rfl
  rw [hmap, hone]
  simp [hexact.2.1, hexact.2.2.1, hcampaign, hrun]

/-- A selection ends as its owner, which must have been cancelled before. -/
theorem recordsEnd_selection_iff (hvalid : validateProjection a = .ok p) (ha : Unasserted a)
    (hscope : p.workScope = .discoverySelection) {owner : DiscoveryWork}
    (howner : owner ∈ selectionOwners db p)
    {existing : SchedulerWork} (hrepeats : Repeats db p existing)
    (hcampaign : p.campaignId = ids.campaignId) (hrun : p.runId = ids.runId)
    (hjob : db.jobs.find? p.schedulerJobId = some job)
    (hactive : mirroredState job.status ∈ activeWorkStates) (utcNow : String) :
    RecordsEnd (afterCleanup db ids q) a p utcNow ↔
      CancellationEvidence (stateEvidence owner.toStateRow) ∧
        EndsAs q existing.toStateRow owner.firstTerminalCause owner.terminalAt := by
  obtain ⟨job', hjob', hcancelled, _⟩ :=
    job_afterCleanup (q := q) hrepeats hcampaign hrun hjob hactive
  have howners := (selectionOwners_afterCleanup (q := q) howner hcampaign hrun).2
  have hcategory : p.targetCategory = "DISCOVERY_WORK" := by
    simpa [hscope, scopeTargetCategories] using targetCategory_mem hvalid
  have hvalidated : validateOwnership (afterCleanup db ids q) p a.cleanupCapture =
      .ok (some (stateEvidence (if owner.state ∈ activeWorkStates then
        (failDiscovery q.cause q.timestamp).apply owner else owner).toStateRow)) := by
    unfold selectionOwners at howners
    simp only [validateOwnership, hscope, validateDiscoverySelectionOwnership]
    rw [if_neg (not_not.mpr hcategory), howners]
    rfl
  rw [recordsEnd_repeats_iff hvalid ha hrepeats hcampaign hrun hjob' hcancelled hvalidated]
  by_cases howned : owner.state ∈ activeWorkStates
  · have hne : owner.state ≠ .cancelled := by
      intro h
      rw [h] at howned
      revert howned
      decide
    refine iff_of_false ?_ fun h => hne h.1.state
    rintro ⟨hevidence, _⟩
    have hstate := hevidence.state
    simp [cancelledEvidence, stateEvidence, howned, failDiscovery] at hstate
  · simp only [howned, if_false]
    exact Iff.rfl

end AfterCleanup


/-! ## The first projection of a cleanup -/

section FirstProjection

variable {db : CampaignDb} {ids : SupervisionIds} {q : CleanupRequest}
variable {capture : SchedulerCleanupCapture} {a : ProjectionArgs} {p : Projection} {job : Job}

/-- What the projection asks of a captured job besides its owners' evidence. -/
theorem validateOwnership_terminalCleanup (hvalid : validateProjection a = .ok p)
    (hscope : p.workScope = .terminalCleanup)
    (hcapture : capture.campaignId = p.campaignId ∧ capture.runId = p.runId ∧
      capture.cycleId = p.cycleId) (htarget : p.targetIdentity = toString p.schedulerJobId)
    (hslot : validateCleanupTokenSlot db p = .ok ())
    (hpre : ∃ status, capture.preState p.schedulerJobId = some status ∧
      mirroredState status ∈ activeWorkStates) :
    validateOwnership db p (some capture) = cleanupExactOwnerEvidence db p := by
  have hcategory : p.targetCategory = "SCHEDULER_JOB" := by
    simpa [hscope, scopeTargetCategories] using targetCategory_mem hvalid
  obtain ⟨status, hpre, hactive⟩ := hpre
  simp only [validateOwnership, hscope, validateTerminalCleanupOwnership, bind, Except.bind]
  rw [if_neg (by simp [hcapture]), if_neg (not_not.mpr hcategory), if_neg (not_not.mpr htarget)]
  cases cleanupExactOwnerEvidence db p with
  | error message => rfl
  | ok evidence =>
    simp only [hslot, hpre]
    rw [if_neg (not_not.mpr hactive)]
    rfl

/-- A captured job was active when it was captured. -/
theorem preState_of_captured {campaignId runId cycleId capturedAt : String}
    {factoryRunId : Option String}
    (hcapture : captureCampaignActiveSchedulerJobs db campaignId runId cycleId factoryRunId
      capturedAt = .ok capture) {jobId : ℤ} {status : JobStatus}
    (hmem : (jobId, status) ∈ capture.jobStates) :
    ∃ status', capture.preState jobId = some status' ∧
      mirroredState status' ∈ activeWorkStates := by
  have hsome : (capture.jobStates.find? fun entry => entry.1 = jobId).isSome :=
    List.find?_isSome.mpr ⟨_, hmem, by simp⟩
  obtain ⟨entry, hentry⟩ := Option.isSome_iff_exists.mp hsome
  refine ⟨entry.2, by simp [SchedulerCleanupCapture.preState, hentry], ?_⟩
  exact (mem_capture hcapture (List.mem_of_find?_eq_some hentry)).1

/-- Without a work row the evidence is that of the discovery rows. -/
theorem cleanupExactOwnerEvidence_of_unowned
    (hunowned : ∀ r ∈ db.schedulerWork.rows, r.schedulerJobId ≠ some p.schedulerJobId)
    (howner : jobHasExactScopeOwner db p.campaignId p.runId p.cycleId p.schedulerJobId = true)
    {owner : Option OwnerEvidence} :
    cleanupExactOwnerEvidence db p = .ok owner ↔
      owner = (cleanupDiscoveryRows db p).head?.map (fun r => stateEvidence r.toStateRow) ∧
        ∀ e ∈ owner, ∀ r ∈ cleanupDiscoveryRows db p, stateEvidence r.toStateRow = e := by
  have hwork : cleanupWorkRows db p = [] := by
    refine List.filter_eq_nil_iff.mpr fun r hr h => ?_
    exact hunowned r hr (of_decide_eq_true h).1
  have hevidence : cleanupEvidence db p =
      (cleanupDiscoveryRows db p).map fun r => stateEvidence r.toStateRow := by
    simp [cleanupEvidence, hwork]
  unfold cleanupExactOwnerEvidence
  rw [hevidence]
  cases hrows : cleanupDiscoveryRows db p with
  | nil =>
    have hhandoffs : cleanupHandoffs db p ≠ [] := by
      intro hnil
      simp only [jobHasExactScopeOwner, Bool.or_eq_true, List.any_eq_true, decide_eq_true_eq]
        at howner
      obtain (⟨w, hw, hexact⟩ | ⟨w, hw, hjob, _⟩) | ⟨l, hl, hexact⟩ := howner
      · have hmem : w ∈ cleanupDiscoveryRows db p :=
          List.mem_filter.mpr ⟨hw, decide_eq_true hexact⟩
        simp [hrows] at hmem
      · exact hunowned w hw hjob
      · have hmem : l ∈ cleanupHandoffs db p := List.mem_filter.mpr ⟨hl, decide_eq_true hexact⟩
        simp [hnil] at hmem
    simp [hhandoffs, pure, Except.pure, eq_comm]
  | cons r rest =>
    simp only [List.map_cons, List.head?_cons, Option.map_some]
    rw [if_neg (by simp)]
    by_cases hsame : ∃ e ∈ rest.map fun r => stateEvidence r.toStateRow,
        e ≠ stateEvidence r.toStateRow
    · rw [if_pos hsame]
      refine iff_of_false (by simp [throw, throwThe, MonadExceptOf.throw]) ?_
      rintro ⟨rfl, hall⟩
      obtain ⟨e, he, hne⟩ := hsame
      obtain ⟨x, hx, rfl⟩ := List.mem_map.mp he
      exact hne (hall _ rfl x (by simp [hx]))
    · rw [if_neg hsame]
      have hall : ∀ x ∈ r :: rest, stateEvidence x.toStateRow = stateEvidence r.toStateRow := by
        intro x hx
        rcases List.mem_cons.mp hx with rfl | hx
        · rfl
        · by_contra hne
          exact hsame ⟨_, List.mem_map_of_mem hx, hne⟩
      constructor
      · intro h
        obtain rfl := Except.ok.inj h
        refine ⟨rfl, ?_⟩
        rintro e ⟨⟩
        exact hall
      · rintro ⟨rfl, _⟩
        rfl

end FirstProjection


section CleanupScope

variable {db : CampaignDb} {ids : SupervisionIds} {q : CleanupRequest}
variable {capture : SchedulerCleanupCapture} {a : ProjectionArgs} {p : Projection} {job : Job}

/-- A discovery row after the cleanup is cancelled only if it was before. -/
theorem cancelled_failDiscovery_iff (r : DiscoveryWork) {e : OwnerEvidence}
    (he : e.workState = .cancelled) :
    stateEvidence (if r.state ∈ activeWorkStates then (failDiscovery q.cause q.timestamp).apply r
        else r).toStateRow = e ↔ stateEvidence r.toStateRow = e := by
  by_cases hactive : r.state ∈ activeWorkStates
  · have hne : r.state ≠ .cancelled := by
      intro h
      rw [h] at hactive
      revert hactive
      decide
    refine iff_of_false ?_ ?_
    · rintro rfl
      simp [hactive, stateEvidence, failDiscovery] at he
    · rintro rfl
      exact hne he
  · rw [if_neg hactive]

/-- The evidence of the discovery rows after the cleanup is that of a cancellation where it
was before. -/
theorem cleanupEvidence_afterCleanup_iff (hcampaign : p.campaignId = ids.campaignId)
    (hrun : p.runId = ids.runId)
    (hunowned : ∀ r ∈ db.schedulerWork.rows, r.schedulerJobId ≠ some p.schedulerJobId)
    (howner : jobHasExactScopeOwner db p.campaignId p.runId p.cycleId p.schedulerJobId = true)
    (hfinished : optionalText job.finishedAt ≠ none) :
    (∃ owner, cleanupExactOwnerEvidence (afterCleanup db ids q) p = .ok owner ∧
        CancellationEvidence (cancelledEvidence job owner) ∧
        (cancelledEvidence job owner).firstTerminalCause.any Sqlite.filled = true) ↔
      ∃ e, CancellationEvidence e ∧ e.firstTerminalCause.any Sqlite.filled = true ∧
        ∀ r ∈ cleanupDiscoveryRows db p, stateEvidence r.toStateRow = e := by
  have hunowned' : ∀ r ∈ (afterCleanup db ids q).schedulerWork.rows,
      r.schedulerJobId ≠ some p.schedulerJobId := by
    intro r hr
    obtain ⟨old, hold, rfl⟩ := Table.mem_updateWhere.mp hr
    split_ifs <;> exact hunowned old hold
  have howner' : jobHasExactScopeOwner (afterCleanup db ids q) p.campaignId p.runId p.cycleId
      p.schedulerJobId = true := by
    have hdiscovery : ((afterCleanup db ids q).discoveryWork.rows.any fun w =>
        w.schedulerJobId = p.schedulerJobId ∧ w.campaignId = p.campaignId ∧ w.runId = p.runId ∧
          w.cycleId = p.cycleId) = db.discoveryWork.rows.any _ := Table.any_updateWhere fun _ => rfl
    have hwork : ((afterCleanup db ids q).schedulerWork.rows.any fun w =>
        w.schedulerJobId = some p.schedulerJobId ∧ w.campaignId = p.campaignId ∧
          w.runId = p.runId ∧ w.cycleId = p.cycleId ∧ w.ownershipContractVersion = .v2StageScoped) =
        db.schedulerWork.rows.any _ := Table.any_updateWhere fun _ => rfl
    unfold jobHasExactScopeOwner at howner ⊢
    rw [hdiscovery, hwork]
    exact howner
  have hrows : cleanupDiscoveryRows (afterCleanup db ids q) p = (cleanupDiscoveryRows db p).map _ :=
    cleanupDiscoveryRows_afterCleanup hcampaign hrun
  have hexact : ∀ owner, cleanupExactOwnerEvidence (afterCleanup db ids q) p = .ok owner ↔ _ :=
    fun _ => cleanupExactOwnerEvidence_of_unowned hunowned' howner'
  simp only [hexact, hrows, exists_eq_left, and_assoc, List.forall_mem_map]
  cases hdiscovery : cleanupDiscoveryRows db p with
  | nil =>
    refine iff_of_true ?_ ?_
    · refine ⟨by simp, ⟨rfl, hfinished, ?_⟩, ?_⟩
      · simp only [List.map_nil, List.head?_nil, Option.map_none, cancelledEvidence,
          Option.getD_some]
        decide
      · simp only [List.map_nil, List.head?_nil, Option.map_none, cancelledEvidence,
          Option.any_some]
        decide
    · refine ⟨⟨.cancelled, some "SCHEDULER_JOB_CANCELLED", some ""⟩, ⟨rfl, by simp, ?_⟩, ?_,
        by simp⟩
      · rw [Option.getD_some]
        decide
      · rw [Option.any_some]
        decide
  | cons r rest =>
    simp only [List.map_cons, List.head?_cons, Option.map_some, Option.mem_some_iff,
      forall_eq', cancelledEvidence]
    constructor
    · rintro ⟨hall, hevidence, hfilled⟩
      exact ⟨_, hevidence, hfilled, fun x hx =>
        (cancelled_failDiscovery_iff x hevidence.state).mp (hall x hx)⟩
    · rintro ⟨e, hevidence, hfilled, hall⟩
      have hall' := fun x hx =>
        (cancelled_failDiscovery_iff (q := q) x hevidence.state).mpr (hall x hx)
      rw [hall' r (by simp)]
      exact ⟨hall', hevidence, hfilled⟩

/-- The projection reads the owner of its scope before it records anything. -/
theorem validateOwnership_of_recordsEnd (hvalid : validateProjection a = .ok p) {utcNow : String}
    (hfresh : db.schedulerWork.find? p.schedulerWorkId = none) (h : RecordsEnd db a p utcNow) :
    ∃ owner, validateOwnership db p a.cleanupCapture = .ok owner := by
  obtain ⟨_, _, _, _, _, _, hok, _⟩ := h
  rw [project_of_none hvalid utcNow hfresh] at hok
  obtain ⟨_, hok⟩ := Faults.check_ok hok
  obtain ⟨_, hcanonical, _⟩ := Faults.bind_ok hok
  obtain ⟨owner, howner, _⟩ := Faults.bind_ok hcanonical
  exact ⟨owner, howner⟩

/-- A first projection of the cleanup: the job is the run's own, and no discovery row of
its scope ended otherwise than it. -/
theorem recordsEnd_cleanup_iff (call : CapturedCall db ids capture a p)
    (hscope : p.workScope = .terminalCleanup) (hfirst : FirstCleanup db p)
    (howner : jobHasExactScopeOwner db p.campaignId p.runId p.cycleId p.schedulerJobId = true)
    (hpre : ∃ status, capture.preState p.schedulerJobId = some status ∧
      mirroredState status ∈ activeWorkStates)
    (hjob : db.jobs.find? p.schedulerJobId = some job)
    (hactive : mirroredState job.status ∈ activeWorkStates)
    (htimestamp : optionalText (some q.timestamp) = some q.timestamp) (utcNow : String) :
    RecordsEnd (afterCleanup db ids q) a p utcNow ↔
      db.owns ids.campaignId ids.runId p.schedulerJobId = true ∧
        ∃ e, CancellationEvidence e ∧ e.firstTerminalCause.any Sqlite.filled = true ∧
          ∀ r ∈ cleanupDiscoveryRows db p, stateEvidence r.toStateRow = e := by
  obtain ⟨job', hjob', hcancelled, hkept⟩ :=
    find?_jobs_afterCleanup ids q hjob hactive
  cases howns : db.owns ids.campaignId ids.runId p.schedulerJobId with
  | false =>
    refine iff_of_false ?_ (by simp)
    rintro ⟨ended, _, _, _, hended, hterminal, _⟩
    obtain rfl := Option.some.inj (hended.symm.trans hjob')
    rw [hkept howns] at hterminal
    exact (not_active_iff_terminal _).mpr hterminal hactive
  | true =>
    obtain ⟨hstatus, hfinished⟩ := hcancelled howns
    have hfresh : (afterCleanup db ids q).schedulerWork.find? p.schedulerWorkId = none := by
      have hfind : (afterCleanup db ids q).schedulerWork.find? p.schedulerWorkId =
          (db.schedulerWork.find? p.schedulerWorkId).map _ := Table.find?_updateWhere _
      rw [hfind, hfirst.fresh]
      rfl
    have hunowned : ∀ r ∈ (afterCleanup db ids q).schedulerWork.rows,
        r.schedulerJobId ≠ some p.schedulerJobId := by
      intro r hr
      obtain ⟨old, hold, rfl⟩ := Table.mem_updateWhere.mp hr
      split_ifs <;> exact hfirst.unowned old hold
    have hslot : validateCleanupTokenSlot (afterCleanup db ids q) p = .ok () := by
      have hnone : ∀ rows : Table fun r : SchedulerWork => r.identity,
          (∀ r ∈ rows.rows, r.schedulerJobId ≠ some p.schedulerJobId) →
          cleanupWorkRows { db with schedulerWork := rows } p = [] :=
        fun rows h => List.filter_eq_nil_iff.mpr fun r hr hp => h r hr (of_decide_eq_true hp).1
      have hwork : cleanupWorkRows (afterCleanup db ids q) p = cleanupWorkRows db p :=
        (hnone _ hunowned).trans (hnone _ hfirst.unowned).symm
      rw [← hfirst.tokenSlot]
      unfold validateCleanupTokenSlot
      rw [hwork]
      rfl
    have hvalidate : validateOwnership (afterCleanup db ids q) p a.cleanupCapture =
        cleanupExactOwnerEvidence (afterCleanup db ids q) p := by
      rw [call.cleanupCapture hscope]
      exact validateOwnership_terminalCleanup call.valid hscope
        ⟨call.campaignId.2.trans call.campaignId.1.symm, call.runId.2.trans call.runId.1.symm,
          call.cycleId⟩ hfirst.targetIdentity hslot hpre
    have hiff := fun owner (howner : validateOwnership _ _ _ = .ok owner) => recordsEnd_first_iff
      call.valid call.unasserted hfresh hunowned
        hfirst.checks (refersToRows_afterCleanup hfirst.refers) hjob'
      hstatus howner utcNow
    have hended : optionalText job'.finishedAt ≠ none := by
      rw [hfinished, htimestamp]
      simp
    rw [eq_self_iff_true, true_and, ← cleanupEvidence_afterCleanup_iff (q := q) call.campaignId.1
      call.runId.1 hfirst.unowned howner hended]
    constructor
    · intro h
      obtain ⟨owner, howner⟩ := validateOwnership_of_recordsEnd call.valid hfresh h
      exact ⟨owner, hvalidate ▸ howner, (hiff owner howner).mp h⟩
    · rintro ⟨owner, howner, hevidence⟩
      exact (hiff owner (hvalidate.trans howner)).mpr hevidence

end CleanupScope


/-! ## A projection after a cleanup -/

section Agreement

variable {s : CleanupState} {c : CleanupCall} {row : Supervision}
variable {capture : SchedulerCleanupCapture} {a : ProjectionArgs} {p : Projection}

/-- A cleanup that succeeds ended the run, or found that its supervision had ended. -/
theorem tables_cleanupStep {result : CleanupResult}
    (hok : (cleanupCampaignSupervision s c).1 = .ok result)
    (hrow : s.db.supervision.find? c.ids.supervisionId = some row) :
    ∃ q, cleanupRequest c = .ok q ∧
      (row.supervisionState = .terminal ∧
          (cleanupStep s c).db.toCampaignDb = s.db.toCampaignDb ∨
        row.supervisionState ≠ .terminal ∧
          (cleanupStep s c).db.toCampaignDb = afterCleanup s.db.toCampaignDb c.ids q) := by
  by_cases hterminal : row.supervisionState = .terminal
  · have htables := cleanupStep_leavesTables s c row hrow hterminal
    cases hrequest : cleanupRequest c with
    | error e => simp [cleanupCampaignSupervision, hrequest] at hok
    | ok q => exact ⟨q, rfl, Or.inl ⟨hterminal, htables⟩⟩
  · unfold cleanupStep
    unfold cleanupCampaignSupervision at hok ⊢
    cases hrequest : cleanupRequest c with
    | error e => simp [hrequest] at hok
    | ok q =>
      refine ⟨q, rfl, Or.inr ⟨hterminal, ?_⟩⟩
      simp only [hrequest] at hok ⊢
      cases htransaction : cleanupTransaction s.db c q with
      | error e => simp [htransaction] at hok
      | ok settled =>
        obtain ⟨db', after⟩ := settled
        obtain ⟨_, row', hrow', _, ⟨hended, _⟩ | ⟨_, _, rfl⟩⟩ := cleanupTransaction_ok htransaction
        · obtain rfl := Option.some.inj (hrow.symm.trans hrow')
          exact absurd hended hterminal
        · obtain ⟨row'', hrow''⟩ := find?_cleaned q hrow
          rcases finishCleanup_error_or (s := { s with db := cleaned s.db c.ids q }) q after hrow''
            with ⟨_, _, hdb⟩ | ⟨_, _, hdb⟩
          · exact (congrArg SupervisedDb.toCampaignDb hdb).trans rfl
          · exact (congrArg SupervisedDb.toCampaignDb hdb).trans rfl

/-- The projection of a captured job records its end exactly where the cleanup ended the run
and left what the scope of the projection asks for. -/
theorem recordsEnd_afterCleanup_iff {db : CampaignDb} {ids : SupervisionIds} {q : CleanupRequest}
    {campaignId runId cycleId capturedAt : String} {factoryRunId : Option String}
    (hcapture : captureCampaignActiveSchedulerJobs db campaignId runId cycleId factoryRunId
      capturedAt = .ok capture) (call : CapturedCall db ids capture a p)
    (htimestamp : optionalText (some q.timestamp) = some q.timestamp) (utcNow : String) :
    RecordsEnd (afterCleanup db ids q) a p utcNow ↔ CleanupAgrees db ids q p := by
  obtain ⟨status, hmem⟩ := call.captured
  obtain ⟨hactive, ⟨job, hjob, hstatus⟩, howner⟩ := mem_capture hcapture hmem
  rw [← hstatus] at hactive
  have hidentity := call.identity
  have hcampaign := call.campaignId.1
  have hrun := call.runId.1
  cases hscope : p.workScope with
  | terminalCleanup =>
    simp only [ExactIdentity, hscope] at hidentity
    rw [call.campaignId.2, call.runId.2, ← hcampaign, ← hrun, call.cycleId] at howner
    simp only [CleanupAgrees, hscope]
    exact recordsEnd_cleanup_iff call hscope hidentity howner (preState_of_captured hcapture hmem)
      hjob hactive htimestamp utcNow
  | discoverySelection =>
    simp only [ExactIdentity, hscope] at hidentity
    obtain ⟨⟨existing, hrepeats⟩, hne⟩ := hidentity
    obtain ⟨owner, howner⟩ := List.exists_mem_of_ne_nil _ hne
    have hone := (selectionOwners_afterCleanup (q := q) howner hcampaign hrun).1
    simp only [CleanupAgrees, hscope, hone, List.mem_singleton, forall_eq, hrepeats.1,
      Option.some.injEq, forall_eq']
    exact recordsEnd_selection_iff call.valid call.unasserted hscope howner hrepeats hcampaign hrun
      hjob hactive utcNow
  | first15mHandoff =>
    simp only [ExactIdentity, hscope] at hidentity
    obtain ⟨⟨existing, hrepeats⟩, hlineage⟩ := hidentity
    simp only [CleanupAgrees, hscope, hrepeats.1, Option.some.injEq, forall_eq']
    exact recordsEnd_lineage_iff ⟨call.valid, Or.inl hscope, call.unasserted.workState,
      call.unasserted.firstTerminalCause, call.unasserted.terminalAt⟩ hlineage hrepeats hcampaign
      hrun hjob hactive htimestamp utcNow
  | windowLifecycle =>
    simp only [ExactIdentity, hscope] at hidentity
    obtain ⟨⟨existing, hrepeats⟩, hlineage⟩ := hidentity
    simp only [CleanupAgrees, hscope, hrepeats.1, Option.some.injEq, forall_eq']
    exact recordsEnd_lineage_iff ⟨call.valid, Or.inr hscope, call.unasserted.workState,
      call.unasserted.firstTerminalCause, call.unasserted.terminalAt⟩ hlineage hrepeats hcampaign
      hrun hjob hactive htimestamp utcNow

/-- After a cleanup that succeeds, the projection of a captured job records its end exactly
where the cleanup was the first and agrees with the scope of the projection. -/
theorem cleanup_then_projection_iff {result : CleanupResult}
    {campaignId runId cycleId capturedAt : String} {factoryRunId : Option String}
    (hok : (cleanupCampaignSupervision s c).1 = .ok result)
    (hrow : s.db.supervision.find? c.ids.supervisionId = some row)
    (hcapture : captureCampaignActiveSchedulerJobs s.db.toCampaignDb campaignId runId cycleId
      factoryRunId capturedAt = .ok capture)
    (call : CapturedCall s.db.toCampaignDb c.ids capture a p) (utcNow : String) :
    RecordsEnd (cleanupStep s c).db.toCampaignDb a p utcNow ↔
      row.supervisionState ≠ .terminal ∧
        ∀ q, cleanupRequest c = .ok q → CleanupAgrees s.db.toCampaignDb c.ids q p := by
  obtain ⟨q, hrequest, ⟨hterminal, htables⟩ | ⟨hactive, htables⟩⟩ := tables_cleanupStep hok hrow
  · rw [htables]
    refine iff_of_false ?_ fun h => h.1 hterminal
    rintro ⟨job, _, _, _, hjob, hended, _⟩
    obtain ⟨status, hmem⟩ := call.captured
    obtain ⟨hcaptured, ⟨job', hjob', hstatus⟩, _⟩ := mem_capture hcapture hmem
    obtain rfl := Option.some.inj (hjob.symm.trans hjob')
    rw [hstatus] at hended
    exact (not_active_iff_terminal _).mpr hended hcaptured
  · rw [htables, recordsEnd_afterCleanup_iff hcapture call (cleanupRequest_timestamp hrequest)]
    constructor
    · rintro h
      refine ⟨hactive, fun q' hrequest' => ?_⟩
      obtain rfl := Except.ok.inj (hrequest.symm.trans hrequest')
      exact h
    · intro h
      exact h.2 q hrequest

end Agreement


/-! ## A handed-over job, and a job in discovery -/

def handoffLink : SelectedItemLink where
  discoveryBatchId := "batch"
  selectionItemId := 7
  mergedCandidateId := "candidate"
  campaignId := "campaign"
  runId := "run"
  cycleId := "cycle"
  tokenSlotId := none
  firstWindow15mSchedulerJobId := some 7

/-- A running job and its work row as the first window of a selected item. -/
def handedOverRun : CampaignDb :=
  { sharedJob with
    discoveryWork := Table.empty
    schedulerWork := ⟨[{
      toStateRow := openRow "work" .running
      toWorkIdentity := { handoffProjection.desired with
        campaignId := "campaign", runId := "run", cycleId := "cycle", schedulerJobId := some 7 } }],
      by decide⟩
    selectedItemLinks := ⟨[handoffLink], by decide⟩ }

def handedOverState : CleanupState :=
  { sharedState with
    db :=
      { handedOverRun with
        supervision := sharedState.db.supervision
        linked := by decide } }

def runningCapture : SchedulerCleanupCapture :=
  ⟨"campaign", "run", "cycle", "2026-07-27T20:00:05+00:00", [(7, .running)]⟩

def handedOverArgs : ProjectionArgs :=
  { handoffArgs with
    schedulerWorkId := "work", campaignId := "campaign", runId := "run", cycleId := "cycle"
    schedulerJobId := some 7 }

def handedOverProjection : Projection :=
  { handoffProjection with
    schedulerWorkId := "work", campaignId := "campaign", runId := "run", cycleId := "cycle"
    schedulerJobId := 7 }

def cancelAsScheduler : CleanupCall :=
  { cancelRun with firstTerminalCause := "SCHEDULER_JOB_CANCELLED" }

/-- The handed-over job, cancelled under the scheduler's own cause. -/
theorem recordsEnd_handedOver :
    RecordsEnd (cleanupStep handedOverState cancelAsScheduler).db.toCampaignDb handedOverArgs
      handedOverProjection "2026-07-27T20:00:20+00:00" := by
  have hcapture : captureCampaignActiveSchedulerJobs handedOverState.db.toCampaignDb "campaign"
      "run" "cycle" none "2026-07-27T20:00:05+00:00" = .ok runningCapture := by decide +kernel
  have hrequest : cleanupRequest cancelAsScheduler =
      .ok ⟨.cancelled, "SCHEDULER_JOB_CANCELLED", "2026-07-27T20:00:10+00:00"⟩ := by decide
  have hok : ((cleanupCampaignSupervision handedOverState cancelAsScheduler).1).toOption.isSome =
      true := by decide
  have call : CapturedCall handedOverState.db.toCampaignDb cancelAsScheduler.ids runningCapture
      handedOverArgs handedOverProjection :=
    { valid := by decide
      unasserted := ⟨rfl, rfl, rfl⟩
      cleanupCapture := fun h => by cases h
      captured := ⟨.running, by decide⟩
      campaignId := ⟨rfl, rfl⟩
      runId := ⟨rfl, rfl⟩
      cycleId := rfl
      identity := ⟨⟨_, rfl, rfl⟩, handoffLink, by decide, Or.inl rfl⟩ }
  cases hresult : (cleanupCampaignSupervision handedOverState cancelAsScheduler).1 with
  | error e =>
    rw [hresult] at hok
    cases hok
  | ok result =>
    have hrow : handedOverState.db.supervision.find? cancelAsScheduler.ids.supervisionId =
        some supervisedRow := rfl
    refine (cleanup_then_projection_iff hresult hrow hcapture call _).mpr
      ⟨by decide, fun q hq => ?_⟩
    obtain rfl := Except.ok.inj (hrequest.symm.trans hq)
    rintro existing ⟨⟩
    exact Or.inl ⟨by decide, rfl, rfl⟩

/-- The running job of a discovery row. -/
def discoveringRun : CampaignDb := { sharedJob with schedulerWork := Table.empty }

def discoveringState : CleanupState :=
  { sharedState with
    db :=
      { discoveringRun with
        supervision := sharedState.db.supervision
        linked := by decide } }

def discoveringArgs : ProjectionArgs :=
  { handedOverArgs with
    workScope := "TERMINAL_CLEANUP", targetCategory := "SCHEDULER_JOB"
    cleanupCapture := some runningCapture }

def discoveringProjection : Projection :=
  { handedOverProjection with workScope := .terminalCleanup, targetCategory := "SCHEDULER_JOB" }

/-- The cleanup fails the discovery row and cancels its job, and the projection of the job
finds that they contradict each other. -/
theorem not_recordsEnd_discovering :
    (cleanupCampaignSupervision discoveringState cancelRun).1.toOption.isSome = true ∧
      captureCampaignActiveSchedulerJobs discoveringState.db.toCampaignDb "campaign" "run" "cycle"
        none "2026-07-27T20:00:05+00:00" = .ok runningCapture ∧
      CapturedCall discoveringState.db.toCampaignDb cancelRun.ids runningCapture discoveringArgs
        discoveringProjection ∧
      (projectCampaignSchedulerWork (cleanupStep discoveringState cancelRun).db.toCampaignDb
        discoveringArgs "2026-07-27T20:00:20+00:00").map (·.1) =
          .error "exact owner work_state contradicts terminal Scheduler status" ∧
      ¬RecordsEnd (cleanupStep discoveringState cancelRun).db.toCampaignDb discoveringArgs
        discoveringProjection "2026-07-27T20:00:20+00:00" := by
  have herror : (projectCampaignSchedulerWork
      (cleanupStep discoveringState cancelRun).db.toCampaignDb discoveringArgs
      "2026-07-27T20:00:20+00:00").map (·.1) =
        .error "exact owner work_state contradicts terminal Scheduler status" := by decide
  refine ⟨by decide +kernel, by decide +kernel, ?_, herror, ?_⟩
  · exact
      { valid := by decide
        unasserted := ⟨rfl, rfl, rfl⟩
        cleanupCapture := fun _ => rfl
        captured := ⟨.running, by decide⟩
        campaignId := ⟨rfl, rfl⟩
        runId := ⟨rfl, rfl⟩
        cycleId := rfl
        identity := ⟨by decide, rfl, by decide, rfl, by decide, by decide⟩ }
  · rintro ⟨_, result, db', _, _, _, hproject, _⟩
    rw [hproject] at herror
    cases herror

end PrinterV1.OperatorCli
