import PrinterV1.Foundation.Faults
import PrinterV1.OperatorCli.SchedulerWork
import PrinterV1.OperatorCli.TransitionRuns
import PrinterV1.Scheduler.Lifecycle

/-!
# Ownership that follows the scheduler

Runs of scheduler calls interleaved with projections of one job under one
identity. A projection records the job as it stands, and a repeated one changes
nothing, exactly when three things do not happen: a job whose lock went stale is
back to pending while its row is running, an ended job has no readable cause or
time, and the text of a failure is surrounded by blanks when its row is open.
-/

namespace PrinterV1.OperatorCli

open Python Scheduler Runs Faults

/-! ## What a projection records -/

/-- The values that mirror a job. -/
def mirroredMove (job : Job) : Move WorkState :=
  if mirroredState job.status ∈ activeWorkStates then ⟨mirroredState job.status, none, none⟩
  else ⟨mirroredState job.status, (schedulerEvidence job).1, (schedulerEvidence job).2⟩

@[simp] theorem mirroredMove_state (job : Job) :
    (mirroredMove job).state = mirroredState job.status := by
  unfold mirroredMove
  split_ifs <;> rfl

/-- The job is active, or its columns give a cause and a time for its end. -/
def Evidenced (job : Job) : Prop :=
  mirroredState job.status ∈ activeWorkStates ∨
    (schedulerEvidence job).2 ≠ none ∧ strip ((schedulerEvidence job).1.getD "") ≠ ""

instance (job : Job) : Decidable (Evidenced job) := inferInstanceAs (Decidable (_ ∨ _ ∧ _))

/-- The rows that the scope of the projection refers to are there. -/
def HasLineage (db : CampaignDb) (p : Projection) : Prop :=
  match p.workScope with
  | .first15mHandoff =>
    ∃ link, handoffLinks db p = [link] ∧ (p.tokenSlotId = none ∨ link.tokenSlotId = p.tokenSlotId)
  | .windowLifecycle =>
    some p.targetIdentity = p.windowId ∧
      (∃ w ∈ db.windows.rows, some w.identity = p.windowId ∧ some w.tokenSlotId = p.tokenSlotId ∧
        w.cycleId = p.cycleId ∧ w.runId = p.runId ∧ w.campaignId = p.campaignId) ∧
      (∃ r, db.runs.find? p.runId = some r ∧ r.campaignId = p.campaignId ∧
        r.authoritativeRunId ≠ none ∧ r.authoritativeRunId = p.factoryRunId) ∧
      ∃ step ∈ db.runSteps.rows, some step.runId = p.factoryRunId ∧
        step.schedulerJobId = some p.schedulerJobId
  | .discoverySelection => False
  | .terminalCleanup => False

/-- A projection whose scope is a handoff or a window, and that asserts nothing. -/
structure OwnerCall (a : ProjectionArgs) (p : Projection) : Prop where
  valid : validateProjection a = .ok p
  scope : p.workScope = .first15mHandoff ∨ p.workScope = .windowLifecycle
  workState : a.workState = none
  firstTerminalCause : a.firstTerminalCause = none
  terminalAt : a.terminalAt = none

def ProjectionArgs.withNow (a : ProjectionArgs) (now : Option String) : ProjectionArgs :=
  { a with now := now }

theorem OwnerCall.at {a : ProjectionArgs} {p : Projection} (h : OwnerCall a p)
    (now : Option String) : OwnerCall (a.withNow now) p :=
  ⟨h.valid, h.scope, h.workState, h.firstTerminalCause, h.terminalAt⟩

/-- A validated projection has a category of its scope. -/
theorem targetCategory_mem {a : ProjectionArgs} {p : Projection} (h : validateProjection a = .ok p) :
    p.targetCategory ∈ scopeTargetCategories p.workScope := by
  unfold validateProjection at h
  obtain ⟨_, _, h⟩ := bind_ok h
  obtain ⟨_, _, h⟩ := bind_ok h
  obtain ⟨_, _, h⟩ := bind_ok h
  obtain ⟨_, _, h⟩ := bind_ok h
  obtain ⟨_, _, h⟩ := bind_ok h
  obtain ⟨_, _, h⟩ := bind_ok h
  obtain ⟨_, _, h⟩ := bind_ok h
  obtain ⟨targetCategory, _, h⟩ := bind_ok h
  obtain ⟨_, _, h⟩ := bind_ok h
  split at h
  · split at h
    · obtain ⟨_, h⟩ := check_ok h
      obtain ⟨hmem, h⟩ := check_ok h
      dsimp only at h
      split at h
      · cases h
      · obtain rfl := Except.ok.inj h
        exact not_not.mp hmem
    · cases h
  · cases h

theorem validateOwnership_of_lineage {db : CampaignDb} {a : ProjectionArgs} {p : Projection}
    (ha : OwnerCall a p) (h : HasLineage db p) (capture : Option SchedulerCleanupCapture) :
    validateOwnership db p capture = .ok none := by
  have hcategory := targetCategory_mem ha.valid
  rcases ha.scope with hscope | hscope
  · simp only [HasLineage, hscope] at h
    obtain ⟨link, hlinks, hslot⟩ := h
    have hlink : link ∈ handoffLinks db p := by simp [hlinks]
    have htarget := (List.mem_filter.mp hlink).2
    simp only [decide_eq_true_eq] at htarget
    simp only [validateOwnership, hscope, validateFirst15mHandoffOwnership, hlinks]
    have hslot' : ¬(p.tokenSlotId ≠ none ∧ link.tokenSlotId ≠ p.tokenSlotId) := by
      rintro ⟨hsome, hne⟩
      exact hslot.elim hsome hne
    rw [if_neg hslot']
    by_cases hitem : p.targetCategory = "SELECTED_ITEM"
    · have hsame : p.targetIdentity = toString link.selectionItemId := by
        simpa [hitem, eq_comm] using htarget.2.2.2.2
      simp [hitem, hsame, pure, Except.pure, Functor.map, Except.map]
    · have hmerged : p.targetCategory = "MERGED_CANDIDATE" := by
        simpa [hscope, scopeTargetCategories, hitem] using hcategory
      have hsame : p.targetIdentity = link.mergedCandidateId := by
        simpa [hitem, eq_comm] using htarget.2.2.2.2
      simp [hmerged, hsame, pure, Except.pure, Functor.map, Except.map]
  · simp only [HasLineage, hscope] at h
    obtain ⟨htarget, hwindow, ⟨r, hfind, hcampaign, hbound, hfactory⟩, hstep⟩ := h
    have hrun : ¬(r.authoritativeRunId = none ∨ r.authoritativeRunId ≠ p.factoryRunId) := by
      rintro (hnone | hne)
      · exact hbound hnone
      · exact hne hfactory
    simp only [validateOwnership, hscope, validateWindowLifecycleOwnership, hfind,
      Option.filter_some, hcampaign, decide_true, if_true]
    rw [if_neg (not_not.mpr htarget), if_neg (not_not.mpr hwindow), if_neg hrun,
      if_neg (not_not.mpr hstep)]
    rfl

/-! ## One projection -/

section

variable {db : CampaignDb} {a : ProjectionArgs} {p : Projection} {job : Job}

/-- Without assertions the checks ask for a time and a cause. -/
theorem checkEvidence_iff (cause terminalAt : Option String) :
    checkEvidence cause terminalAt none none = .ok () ↔
      terminalAt ≠ none ∧ strip (cause.getD "") ≠ "" := by
  unfold checkEvidence
  by_cases hat : terminalAt = none
  · simp [hat, bind, Except.bind, throw, throwThe, MonadExceptOf.throw]
  · by_cases hcause : strip (cause.getD "") = ""
    · simp [hat, hcause, bind, Except.bind, throw, throwThe, MonadExceptOf.throw]
    · simp [hat, hcause, pure, Except.pure]

/-- What the projection would record is the mirror of the job. -/
theorem canonicalState_iff (ha : OwnerCall a p) (hlineage : HasLineage db p)
    (hfind : db.jobs.find? p.schedulerJobId = some job) {m : Move WorkState} :
    canonicalState db p a = .ok m ↔ Evidenced job ∧ m = mirroredMove job := by
  have hscope : p.workScope ≠ .terminalCleanup := by
    rcases ha.scope with h | h <;> simp [h]
  unfold canonicalState
  rw [validateOwnership_of_lineage ha hlineage, ha.workState, ha.firstTerminalCause, ha.terminalAt]
  simp only [resolveSchedulerState, hfind, bind, Except.bind]
  by_cases hactive : mirroredState job.status ∈ activeWorkStates
  · have hmove : mirroredMove job = ⟨mirroredState job.status, none, none⟩ := if_pos hactive
    have hevidenced : Evidenced job := Or.inl hactive
    simp only [hactive, hscope, hmove, hevidenced, true_and, eq_comm (a := m)]
    simp [pure, Except.pure]
  · have hmove : mirroredMove job =
        ⟨mirroredState job.status, (schedulerEvidence job).1, (schedulerEvidence job).2⟩ :=
      if_neg hactive
    have hcheck := checkEvidence_iff (schedulerEvidence job).1 (schedulerEvidence job).2
    have hevidenced : Evidenced job ↔ (schedulerEvidence job).2 ≠ none ∧
        strip ((schedulerEvidence job).1.getD "") ≠ "" := or_iff_right hactive
    rw [hevidenced, ← hcheck, hmove, eq_comm (a := m)]
    simp only [hactive, hscope, if_false, canonicalEvidence, false_and]
    cases hresult : checkEvidence (schedulerEvidence job).1 (schedulerEvidence job).2 none none with
    | error message => simp
    | ok u => simp [pure, Except.pure]

/-- A row that is not there yet is projected for the first time. -/
theorem project_of_none (hvalid : validateProjection a = .ok p) (utcNow : String)
    (h : db.schedulerWork.find? p.schedulerWorkId = none) :
    projectCampaignSchedulerWork db a utcNow =
      projectFirst db p a (a.timestamp utcNow) h := by
  simp only [projectCampaignSchedulerWork, hvalid, bind, Except.bind]
  split
  · simp_all
  · rfl

theorem project_of_some (hvalid : validateProjection a = .ok p) (utcNow : String)
    {row : SchedulerWork} (h : db.schedulerWork.find? p.schedulerWorkId = some row) :
    projectCampaignSchedulerWork db a utcNow =
      projectAgain db p a (a.timestamp utcNow) utcNow row := by
  simp only [projectCampaignSchedulerWork, hvalid, bind, Except.bind]
  split
  · rename_i existing hexisting
    obtain rfl := Option.some.inj (hexisting.symm.trans h)
    rfl
  · simp_all

/-- The row records the job as it stands: its status and, once it has ended, its
cause and its time. -/
def Recorded (job : Job) (row : SchedulerWork) : Prop :=
  row.state = mirroredState job.status ∧
    (mirroredState job.status ∉ activeWorkStates →
      row.firstTerminalCause = (schedulerEvidence job).1 ∧
        row.terminalAt = (schedulerEvidence job).2)

/-- Every column that a projection writes mirrors the job. -/
def Synced (job : Job) (row : SchedulerWork) : Prop :=
  row.state = (mirroredMove job).state ∧ row.firstTerminalCause = (mirroredMove job).cause ∧
    row.terminalAt = (mirroredMove job).terminalAt

theorem Synced.recorded {row : SchedulerWork} (h : Synced job row) : Recorded job row := by
  obtain ⟨hstate, hcause, hat⟩ := h
  refine ⟨by simpa using hstate, fun hended => ?_⟩
  simp only [mirroredMove, if_neg hended] at hcause hat
  exact ⟨hcause, hat⟩

/-- A repeated projection of a job that its row mirrors changes nothing. -/
theorem projectAgain_synced (ha : OwnerCall a p) (hlineage : HasLineage db p)
    (hfind : db.jobs.find? p.schedulerJobId = some job) (hevidenced : Evidenced job)
    {row : SchedulerWork} (hidentity : row.toWorkIdentity = p.desired) (hrow : Synced job row)
    (timestamp utcNow : String) :
    projectAgain db p a timestamp utcNow row =
      .ok (p.result (mirroredState job.status) false, db) := by
  obtain ⟨hstate, hcause, hat⟩ := hrow
  have hcanonical := (canonicalState_iff ha hlineage hfind).mpr ⟨hevidenced, rfl⟩
  have hcontract : p.desired.ownershipContractVersion = .v2StageScoped := rfl
  unfold projectAgain
  rw [hcanonical]
  simp [hcontract, hidentity, hstate, hcause, hat, Except.mapError, pure, Except.pure, bind,
    Except.bind]

/-! ## Following the job -/

theorem find?_allowed (s target : WorkState) :
    (workTable.allowed s).find? (fun x => workTable.value x = workTable.value target) =
      if target ∈ workTable.allowed s then some target else none := by
  cases s <;> cases target <;> decide

/-- The move of an open work row. -/
theorem plannedMove_work {row : StateRow WorkState} {c : TransitionCall} (target : WorkState)
    (hopen : row.state ∈ activeWorkStates) (hexpected : workTable.value row.state = c.expectedState)
    (hnew : c.newState = workTable.value target) :
    plannedMove .schedulerWork workTable row c =
      if target ∈ workTable.allowed row.state then (moveTo workTable target c).map some
      else .error ("invalid " ++ RecordKind.schedulerWork.value ++ " transition: " ++
        workTable.value row.state ++ " -> " ++ c.newState) := by
  have hterm : row.state ∉ workTable.terminalStates := by
    rw [← not_active_iff_terminal]
    exact not_not.mpr hopen
  unfold plannedMove
  rw [if_neg hterm, if_neg (not_not.mpr hexpected), hnew, find?_allowed]
  split_ifs <;> rfl

/-- An open row cannot go back from running to pending; every other change of an
open row is allowed. -/
theorem mem_allowed_iff {s target : WorkState} (hopen : s ∈ activeWorkStates) (hne : s ≠ target) :
    target ∈ workTable.allowed s ↔ ¬(s = .running ∧ target = .pending) := by
  revert hopen hne
  cases s <;> cases target <;> decide

/-- The cause of an ended job is its own stripped text, and the table takes it. -/
def CauseKept (job : Job) : Prop :=
  mirroredState job.status ∈ activeWorkStates ∨
    ∃ cause ∈ (schedulerEvidence job).1, strip cause = cause ∧ Sqlite.filled cause = true

/-- The move that `transition_state` makes of the mirror of a job. -/
theorem moveTo_mirrored (hevidenced : Evidenced job) (row : SchedulerWork) (timestamp utcNow : String) :
    moveTo workTable (mirroredState job.status)
        (p.transition row (mirroredMove job) timestamp utcNow) =
      .ok ⟨mirroredState job.status, (mirroredMove job).cause.map strip,
        (mirroredMove job).terminalAt⟩ := by
  by_cases hactive : mirroredState job.status ∈ activeWorkStates
  · have hterm : mirroredState job.status ∉ workTable.terminalStates := by
      rw [← not_active_iff_terminal]
      exact not_not.mpr hactive
    simp [moveTo, hterm, Projection.transition, mirroredMove, hactive]
  · have hterm := (not_active_iff_terminal _).mp hactive
    obtain ⟨hat, hcause⟩ := hevidenced.resolve_left hactive
    obtain ⟨cause, hsome⟩ : ∃ cause, (schedulerEvidence job).1 = some cause := by
      cases hnone : (schedulerEvidence job).1 with
      | none => simp [hnone, show strip "" = "" from rfl] at hcause
      | some cause => exact ⟨cause, rfl⟩
    obtain ⟨terminalAt, htime⟩ := Option.ne_none_iff_exists'.mp hat
    have hnonempty : terminalAt ≠ "" := by
      have hfilter : optionalText job.finishedAt = some terminalAt := htime
      simpa using (Option.filter_eq_some_iff.mp hfilter).2
    rw [hsome] at hcause
    simp only [Option.getD_some] at hcause
    simp [moveTo, hterm, Projection.transition, mirroredMove, hactive, hsome, htime, hnonempty,
      TransitionArgs.strippedCause, hcause, TransitionCall.timestamp]

/-- The cause that an ended job gives, stripped, passes the table's check. -/
def CauseAccepted (job : Job) : Prop :=
  ((mirroredMove job).cause.all fun cause => Sqlite.filled (strip cause)) = true

/-- The values that following the job writes into an open row. -/
def followingMove (job : Job) : Move WorkState :=
  ⟨mirroredState job.status, (mirroredMove job).cause.map strip, (mirroredMove job).terminalAt⟩

/-- The database after an open row has followed the job. -/
def followed (db : CampaignDb) (p : Projection) (job : Job) (c : TransitionCall) : CampaignDb :=
  { db with
    schedulerWork :=
      db.schedulerWork.updateKey p.schedulerWorkId (workOwner.move (followingMove job) c.timestamp) }

/-- When `transition_state` follows the job in an open row, and what it leaves. -/
theorem transitionIn_open_iff {row : SchedulerWork}
    (hrow : db.schedulerWork.find? p.schedulerWorkId = some row) (hopen : row.state ∈ activeWorkStates)
    (hne : row.state ≠ mirroredState job.status) (hevidenced : Evidenced job)
    {timestamp utcNow : String} {t : StateTransitionResult WorkState × Table workOwner.key} :
    workOwner.transitionIn db.schedulerWork
        (p.transition row (mirroredMove job) timestamp utcNow) = .ok t ↔
      (¬(row.state = .running ∧ job.status = .pending) ∧ CauseAccepted job) ∧
        t = (movedResult (p.transition row (mirroredMove job) timestamp utcNow) row.toStateRow
            (followingMove job),
          (followed db p job
            (p.transition row (mirroredMove job) timestamp utcNow)).schedulerWork) := by
  let c := p.transition row (mirroredMove job) timestamp utcNow
  have hplan : plannedMove .schedulerWork workTable row.toStateRow c =
      if mirroredState job.status ∈ workTable.allowed row.state then .ok (some (followingMove job))
      else .error ("invalid " ++ RecordKind.schedulerWork.value ++ " transition: " ++
        workTable.value row.state ++ " -> " ++ c.newState) := by
    rw [plannedMove_work (c := c) (mirroredState job.status) hopen rfl
      (by simp [c, Projection.transition]), moveTo_mirrored hevidenced]
    rfl
  have hallowed : mirroredState job.status ∈ workTable.allowed row.state ↔
      ¬(row.state = .running ∧ job.status = .pending) := by
    rw [mem_allowed_iff hopen hne]
    exact not_congr (and_congr_right fun _ =>
      ⟨fun h => mirroredState_injective (b := .pending) h, fun h => by rw [h]; rfl⟩)
  have haccepted : c.accepted = true ↔ CauseAccepted job := Iff.rfl
  rw [← hallowed, ← haccepted]
  by_cases hmem : mirroredState job.status ∈ workTable.allowed row.state
  · rw [if_pos hmem] at hplan
    rw [StateOwner.transitionIn_moved (c := c) (o := workOwner) hrow hplan]
    by_cases hacc : c.accepted = true
    · simp only [hmem, hacc, if_true, Except.ok.injEq, true_and, and_self]
      exact eq_comm
    · simp [hmem, hacc]
  · rw [if_neg hmem] at hplan
    rw [StateOwner.transitionIn_refused (c := c) (o := workOwner) hrow hplan]
    simp [hmem]

/-- When a projection follows the job in an open row, and what it leaves. -/
theorem projectAgain_open_iff (ha : OwnerCall a p) (hlineage : HasLineage db p)
    (hfind : db.jobs.find? p.schedulerJobId = some job) {row : SchedulerWork}
    (hrow : db.schedulerWork.find? p.schedulerWorkId = some row)
    (hidentity : row.toWorkIdentity = p.desired) (hopen : row.state ∈ activeWorkStates)
    (hne : row.state ≠ mirroredState job.status) (timestamp utcNow : String)
    (r : ProjectionResult × CampaignDb) :
    projectAgain db p a timestamp utcNow row = .ok r ↔
      (Evidenced job ∧ ¬(row.state = .running ∧ job.status = .pending) ∧ CauseAccepted job) ∧
        r = (p.result (mirroredState job.status) false,
          followed db p job (p.transition row (mirroredMove job) timestamp utcNow)) := by
  have hcontract : p.desired.ownershipContractVersion = .v2StageScoped := rfl
  unfold projectAgain
  simp only [hidentity, hcontract, ne_eq, not_true_eq_false, if_false]
  cases hcanonical : canonicalState db p a with
  | error message =>
    have hnot : ¬Evidenced job := fun h => by
      rw [(canonicalState_iff ha hlineage hfind).mpr ⟨h, rfl⟩] at hcanonical
      cases hcanonical
    simp [hnot, Except.mapError, bind, Except.bind]
  | ok m =>
    obtain ⟨hevidenced, rfl⟩ := (canonicalState_iff ha hlineage hfind).mp hcanonical
    simp only [Except.mapError, bind, Except.bind, mirroredMove_state, if_neg hne]
    cases ht : workOwner.transitionIn db.schedulerWork
        (p.transition row (mirroredMove job) timestamp utcNow) with
    | error message =>
      have hnot : ¬(¬(row.state = .running ∧ job.status = .pending) ∧ CauseAccepted job) := fun h => by
        rw [(transitionIn_open_iff hrow hopen hne hevidenced).mpr ⟨h, rfl⟩] at ht
        cases ht
      simp only [reduceCtorEq, false_iff]
      exact fun h => hnot h.1.2
    | ok t =>
      obtain ⟨hfollows, rfl⟩ := (transitionIn_open_iff hrow hopen hne hevidenced).mp ht
      rw [and_iff_right ⟨hevidenced, hfollows⟩, eq_comm (a := r)]
      exact iff_of_eq (Except.ok.injEq _ _)

/-- The table takes a row that mirrors the job under this identity. -/
structure Insertable (db : CampaignDb) (p : Projection) (job : Job) : Prop where
  evidence : evidenceCheck (mirroredMove job).state (mirroredMove job).cause
    (mirroredMove job).terminalAt = true
  identity : p.desired.checks = true
  refers : db.refersToRows p.desired = true

/-- The database after a first projection. -/
def inserted (db : CampaignDb) (p : Projection) (job : Job) (timestamp : String)
    (fresh : db.schedulerWork.find? p.schedulerWorkId = none) : CampaignDb :=
  { db with
    schedulerWork := db.schedulerWork.insert (p.row (mirroredMove job) timestamp)
      (Table.find?_eq_none_iff.mp fresh) }

theorem acceptsWork_iff (hunowned : ∀ r ∈ db.schedulerWork.rows,
    r.schedulerJobId ≠ some p.schedulerJobId) (timestamp : String) :
    db.acceptsWork (p.row (mirroredMove job) timestamp) = true ↔ Insertable db p job := by
  have hunique : (db.schedulerWork.rows.any fun old => old.schedulerJobId ≠ none ∧
      old.schedulerJobId = (p.row (mirroredMove job) timestamp).schedulerJobId) = false := by
    simp only [List.any_eq_false, decide_eq_true_eq]
    rintro old hold ⟨_, hsame⟩
    exact hunowned old hold hsame
  unfold CampaignDb.acceptsWork
  rw [hunique]
  simp only [Bool.not_false, Bool.and_true, Bool.and_eq_true]
  exact ⟨fun h => ⟨h.1.1, h.1.2, h.2⟩, fun h => ⟨⟨h.evidence, h.identity⟩, h.refers⟩⟩

/-- When a first projection records the job, and what it leaves. -/
theorem projectFirst_iff (ha : OwnerCall a p) (hlineage : HasLineage db p)
    (hfind : db.jobs.find? p.schedulerJobId = some job)
    (hunowned : ∀ r ∈ db.schedulerWork.rows, r.schedulerJobId ≠ some p.schedulerJobId)
    (fresh : db.schedulerWork.find? p.schedulerWorkId = none) (timestamp : String)
    (r : ProjectionResult × CampaignDb) :
    projectFirst db p a timestamp fresh = .ok r ↔
      (Evidenced job ∧ Insertable db p job) ∧
        r = (p.result (mirroredState job.status) true, inserted db p job timestamp fresh) := by
  have hconflict : ¬∃ r ∈ db.schedulerWork.rows, r.schedulerJobId = some p.schedulerJobId ∧
      r.identity ≠ p.schedulerWorkId := by
    rintro ⟨r, hr, howned, _⟩
    exact hunowned r hr howned
  unfold projectFirst
  rw [if_neg hconflict]
  cases hcanonical : canonicalState db p a with
  | error message =>
    have hnot : ¬Evidenced job := fun h => by
      rw [(canonicalState_iff ha hlineage hfind).mpr ⟨h, rfl⟩] at hcanonical
      cases hcanonical
    simp [hnot, bind, Except.bind]
  | ok m =>
    obtain ⟨hevidenced, rfl⟩ := (canonicalState_iff ha hlineage hfind).mp hcanonical
    rw [← acceptsWork_iff hunowned timestamp]
    by_cases haccepts : db.acceptsWork (p.row (mirroredMove job) timestamp) = true
    · simp only [bind, Except.bind, haccepts, if_true, hevidenced, true_and, eq_comm (a := r)]
      rw [mirroredMove_state]
      exact iff_of_eq (Except.ok.injEq _ _)
    · simp [bind, Except.bind, haccepts]

end

/-! ## Runs -/

/-- A scheduler call, or a projection at a time. -/
inductive OwnershipEvent
  | scheduler (call : Call)
  | project (now : Option String) (utcNow : String)
  deriving DecidableEq, Repr

/-- The database after an event; a projection that raises is rolled back. -/
def ownershipStep (a : ProjectionArgs) (db : CampaignDb) : OwnershipEvent → CampaignDb
  | .scheduler call => { db with jobs := (call.perform db.jobs).2 }
  | .project now utcNow =>
    match projectCampaignSchedulerWork db (a.withNow now) utcNow with
    | .ok (_, db') => db'
    | .error _ => db

/-- The scheduler leaves the job alone once it has ended. -/
def LawfulEvent (p : Projection) (db : CampaignDb) : OwnershipEvent → Prop
  | .scheduler call => ∀ job, db.jobs.find? p.schedulerJobId = some job →
      mirroredState job.status ∉ activeWorkStates →
        (call.perform db.jobs).2.find? p.schedulerJobId = some job
  | .project _ _ => True

/-- The projection succeeds, its row records the job, and an immediate repetition
at any time changes nothing. -/
def ProjectionMirrors (a : ProjectionArgs) (p : Projection) (db : CampaignDb) :
    OwnershipEvent → Prop
  | .scheduler _ => True
  | .project now utcNow => ∃ result db',
      projectCampaignSchedulerWork db (a.withNow now) utcNow = .ok (result, db') ∧
        (∃ job row, db'.jobs.find? p.schedulerJobId = some job ∧
          db'.schedulerWork.find? p.schedulerWorkId = some row ∧ Recorded job row ∧
          result.workState = mirroredState job.status) ∧
        ∀ again clock, projectCampaignSchedulerWork db' (a.withNow again) clock =
          .ok ({ result with created := false }, db')

/-- No job is owned by two work rows. -/
def OneOwner (db : CampaignDb) : Prop :=
  db.schedulerWork.Exclusive (fun r => r.schedulerJobId ≠ none) fun r => r.schedulerJobId

/-- Every projection of the run mirrors the job, and no job gets two owners. -/
structure FollowsScheduler (a : ProjectionArgs) (p : Projection) (start : CampaignDb)
    (xs : List OwnershipEvent) : Prop where
  mirrors : ∀ pre e post, xs = pre ++ e :: post →
    ProjectionMirrors a p (run (ownershipStep a) start pre) e
  one_owner : ∀ pre, pre <+: xs → OneOwner (run (ownershipStep a) start pre)

/-- The condition on a projection of the job over the row it finds: a first one
needs readable evidence and a table that takes the row; a later one of a changed
job is not of a running row whose job is pending again, and needs evidence that
survives being stripped. -/
def FollowableRow (db : CampaignDb) (p : Projection) (job : Job) : Option SchedulerWork → Prop
  | none => Evidenced job ∧ Insertable db p job
  | some row => row.state = mirroredState job.status ∨
      Evidenced job ∧ ¬(row.state = .running ∧ job.status = .pending) ∧ CauseKept job

/-- The condition on one event. -/
def Followable (p : Projection) (db : CampaignDb) : OwnershipEvent → Prop
  | .scheduler _ => True
  | .project _ _ => ∀ job, db.jobs.find? p.schedulerJobId = some job →
      FollowableRow db p job (db.schedulerWork.find? p.schedulerWorkId)

instance (p : Projection) (db : CampaignDb) : (e : OwnershipEvent) → Decidable (LawfulEvent p db e)
  | .scheduler call => inferInstanceAs (Decidable (∀ job ∈ db.jobs.find? p.schedulerJobId,
      mirroredState job.status ∉ activeWorkStates →
        (call.perform db.jobs).2.find? p.schedulerJobId = some job))
  | .project _ _ => inferInstanceAs (Decidable True)

instance (job : Job) : Decidable (CauseKept job) :=
  inferInstanceAs (Decidable (_ ∨ ∃ cause ∈ (schedulerEvidence job).1, _))

instance (db : CampaignDb) (p : Projection) (job : Job) : Decidable (Insertable db p job) :=
  decidable_of_iff (evidenceCheck (mirroredMove job).state (mirroredMove job).cause
      (mirroredMove job).terminalAt = true ∧ p.desired.checks = true ∧
        db.refersToRows p.desired = true)
    ⟨fun h => ⟨h.1, h.2.1, h.2.2⟩, fun h => ⟨h.evidence, h.identity, h.refers⟩⟩

instance (db : CampaignDb) (p : Projection) (job : Job) :
    (row : Option SchedulerWork) → Decidable (FollowableRow db p job row)
  | none => inferInstanceAs (Decidable (_ ∧ _))
  | some _ => inferInstanceAs (Decidable (_ ∨ _ ∧ ¬(_ ∧ _) ∧ _))

instance (p : Projection) (db : CampaignDb) : (e : OwnershipEvent) → Decidable (Followable p db e)
  | .scheduler _ => inferInstanceAs (Decidable True)
  | .project _ _ => inferInstanceAs (Decidable (∀ job ∈ db.jobs.find? p.schedulerJobId,
      FollowableRow db p job (db.schedulerWork.find? p.schedulerWorkId)))

/-- The job is there, its lineage too, and the only row that may own it is the
one of this identity, which is open or mirrors the ended job. -/
structure Tracked (p : Projection) (db : CampaignDb) : Prop where
  lineage : HasLineage db p
  job : ∃ job, db.jobs.find? p.schedulerJobId = some job
  owner : ∀ r ∈ db.schedulerWork.rows, r.schedulerJobId = some p.schedulerJobId →
    r.identity = p.schedulerWorkId
  row : ∀ r, db.schedulerWork.find? p.schedulerWorkId = some r → r.toWorkIdentity = p.desired ∧
    (r.state ∈ activeWorkStates ∧ r.firstTerminalCause = none ∧ r.terminalAt = none ∨
      ∃ job, db.jobs.find? p.schedulerJobId = some job ∧
        mirroredState job.status ∉ activeWorkStates ∧ Evidenced job ∧ Synced job r)

theorem ownershipStep_project (a : ProjectionArgs) (db : CampaignDb) {now : Option String}
    {utcNow : String} {r : ProjectionResult × CampaignDb}
    (h : projectCampaignSchedulerWork db (a.withNow now) utcNow = .ok r) :
    ownershipStep a db (.project now utcNow) = r.2 := by
  simp [ownershipStep, h]

/-- A row that was just written mirrors the job, and a projection finds it so. -/
theorem mirrors_of_synced {a : ProjectionArgs} {p : Projection} (ha : OwnerCall a p)
    {db db' : CampaignDb} {now : Option String} {utcNow : String} {created : Bool} {job : Job}
    {row : SchedulerWork}
    (hproject : projectCampaignSchedulerWork db (a.withNow now) utcNow =
      .ok (p.result (mirroredState job.status) created, db'))
    (hlineage : HasLineage db' p)
    (hfind : db'.jobs.find? p.schedulerJobId = some job)
    (hrow : db'.schedulerWork.find? p.schedulerWorkId = some row)
    (hidentity : row.toWorkIdentity = p.desired) (hevidenced : Evidenced job)
    (hsynced : Synced job row) : ProjectionMirrors a p db (.project now utcNow) := by
  refine ⟨_, db', hproject, ⟨job, row, hfind, hrow, hsynced.recorded, rfl⟩, fun again clock => ?_⟩
  rw [project_of_some (ha.at again).valid clock hrow]
  exact projectAgain_synced (ha.at again) hlineage hfind hevidenced hidentity hsynced _ _

/-- An active job is mirrored by an open row in its state. -/
theorem synced_of_active {job : Job} {row : SchedulerWork}
    (hactive : mirroredState job.status ∈ activeWorkStates)
    (hstate : row.state = mirroredState job.status) (hcause : row.firstTerminalCause = none)
    (hat : row.terminalAt = none) : Synced job row := by
  simp [Synced, mirroredMove, hactive, hstate, hcause, hat]

theorem find?_inserted {db : CampaignDb} {p : Projection} {job : Job} {timestamp : String}
    (fresh : db.schedulerWork.find? p.schedulerWorkId = none) :
    (inserted db p job timestamp fresh).schedulerWork.find? p.schedulerWorkId =
      some (p.row (mirroredMove job) timestamp) := by
  unfold inserted
  rw [Table.find?_insert]
  exact if_pos rfl

theorem find?_followed {db : CampaignDb} {p : Projection} {job : Job} {c : TransitionCall}
    {row : SchedulerWork} (hrow : db.schedulerWork.find? p.schedulerWorkId = some row) :
    (followed db p job c).schedulerWork.find? p.schedulerWorkId =
      some ((workOwner.move (followingMove job) c.timestamp).apply row) := by
  unfold followed
  rw [Table.find?_updateKey]
  rw [hrow]
  simp

theorem CauseKept.accepted {job : Job} (h : CauseKept job) : CauseAccepted job := by
  unfold CauseAccepted
  rcases h with hactive | ⟨cause, hcause, hstrip, hfilled⟩
  · simp [mirroredMove, hactive]
  · unfold mirroredMove
    split_ifs
    · rfl
    · simp [Option.mem_def.mp hcause, hstrip, hfilled]

/-- Following the job leaves its mirror exactly when the cause survives. -/
theorem recorded_followed_iff {job : Job} {row : SchedulerWork} (hevidenced : Evidenced job)
    (haccepted : CauseAccepted job) (timestamp : String) :
    Recorded job ((workOwner.move (followingMove job) timestamp).apply row) ↔ CauseKept job := by
  by_cases hactive : mirroredState job.status ∈ activeWorkStates
  · exact iff_of_true ⟨rfl, fun hended => absurd hactive hended⟩ (Or.inl hactive)
  · obtain ⟨hat, hcause⟩ := hevidenced.resolve_left hactive
    cases hsome : (schedulerEvidence job).1 with
    | none =>
      rw [hsome] at hcause
      exact absurd rfl hcause
    | some cause =>
      have hmove : mirroredMove job =
          ⟨mirroredState job.status, some cause, (schedulerEvidence job).2⟩ := by
        simp [mirroredMove, hactive, hsome]
      have hfilled : Sqlite.filled (strip cause) = true := by
        simpa [CauseAccepted, hmove] using haccepted
      constructor
      · intro hrecorded
        have hcauses : some (strip cause) = some cause := by
          simpa [StateOwner.move, moveRow, followingMove, hmove, hsome] using (hrecorded.2 hactive).1
        have hstrip : strip cause = cause := Option.some.inj hcauses
        exact Or.inr ⟨cause, hsome, hstrip, hstrip ▸ hfilled⟩
      · intro hkept
        obtain ⟨text, htext, hstrip, _⟩ := hkept.resolve_left hactive
        obtain rfl : cause = text := Option.some.inj (hsome.symm.trans htext)
        refine ⟨rfl, fun _ => ?_⟩
        simp [StateOwner.move, moveRow, followingMove, hmove, hsome, hstrip]

theorem synced_followed {job : Job} {row : SchedulerWork} (hkept : CauseKept job)
    (timestamp : String) : Synced job ((workOwner.move (followingMove job) timestamp).apply row) := by
  refine ⟨by simp [StateOwner.move, moveRow, followingMove], ?_, rfl⟩
  change (mirroredMove job).cause.map strip = (mirroredMove job).cause
  rcases hkept with hactive | ⟨cause, hcause, hstrip, _⟩
  · simp [mirroredMove, hactive]
  · unfold mirroredMove
    split_ifs
    · rfl
    · simp [Option.mem_def.mp hcause, hstrip]

section

variable {a : ProjectionArgs} {p : Projection} {db : CampaignDb}

theorem Tracked.unowned (h : Tracked p db) (fresh : db.schedulerWork.find? p.schedulerWorkId = none) :
    ∀ r ∈ db.schedulerWork.rows, r.schedulerJobId ≠ some p.schedulerJobId :=
  fun r hr howned => Table.find?_eq_none_iff.mp fresh r hr (h.owner r hr howned)

/-- A row in the state of the job mirrors it. -/
theorem Tracked.synced (h : Tracked p db) {job : Job}
    (hfind : db.jobs.find? p.schedulerJobId = some job) {row : SchedulerWork}
    (hrow : db.schedulerWork.find? p.schedulerWorkId = some row)
    (hstate : row.state = mirroredState job.status) : Evidenced job ∧ Synced job row := by
  rcases (h.row row hrow).2 with ⟨hopen, hcause, hat⟩ | ⟨ended, hended, _, hevidenced, hsynced⟩
  · rw [hstate] at hopen
    exact ⟨Or.inl hopen, synced_of_active hopen hstate hcause hat⟩
  · obtain rfl := Option.some.inj (hended.symm.trans hfind)
    exact ⟨hevidenced, hsynced⟩

/-- A row in another state than the job is open. -/
theorem Tracked.open (h : Tracked p db) {job : Job}
    (hfind : db.jobs.find? p.schedulerJobId = some job) {row : SchedulerWork}
    (hrow : db.schedulerWork.find? p.schedulerWorkId = some row)
    (hne : row.state ≠ mirroredState job.status) : row.state ∈ activeWorkStates := by
  rcases (h.row row hrow).2 with ⟨hopen, _⟩ | ⟨ended, hended, _, _, hsynced⟩
  · exact hopen
  · obtain rfl := Option.some.inj (hended.symm.trans hfind)
    exact absurd hsynced.recorded.1 hne

/-- One projection mirrors the job exactly when it meets the condition. -/
theorem projectionMirrors_iff (ha : OwnerCall a p) (h : Tracked p db) (e : OwnershipEvent) :
    ProjectionMirrors a p db e ↔ Followable p db e := by
  cases e with
  | scheduler call => exact Iff.rfl
  | project now utcNow =>
    obtain ⟨job, hfind⟩ := h.job
    have hvalid := (ha.at now).valid
    cases hrow : db.schedulerWork.find? p.schedulerWorkId with
    | none =>
      have hcondition : Followable p db (.project now utcNow) ↔
          Evidenced job ∧ Insertable db p job := by
        simp [Followable, FollowableRow, hfind, hrow]
      rw [hcondition]
      have hfirst := projectFirst_iff (ha.at now) h.lineage hfind (h.unowned hrow) hrow
        ((a.withNow now).timestamp utcNow)
      constructor
      · rintro ⟨result, db', hproject, _⟩
        rw [project_of_none hvalid utcNow hrow] at hproject
        exact ((hfirst _).mp hproject).1
      · intro hcond
        have hproject := (hfirst _).mpr ⟨hcond, rfl⟩
        rw [← project_of_none hvalid utcNow hrow] at hproject
        exact mirrors_of_synced ha hproject h.lineage hfind (find?_inserted hrow) rfl hcond.1
          ⟨rfl, rfl, rfl⟩
    | some row =>
      have hidentity := (h.row row hrow).1
      have hcondition : Followable p db (.project now utcNow) ↔
          row.state = mirroredState job.status ∨
            Evidenced job ∧ ¬(row.state = .running ∧ job.status = .pending) ∧ CauseKept job := by
        simp [Followable, FollowableRow, hfind, hrow]
      rw [hcondition]
      by_cases hstate : row.state = mirroredState job.status
      · obtain ⟨hevidenced, hsynced⟩ := h.synced hfind hrow hstate
        refine iff_of_true ?_ (Or.inl hstate)
        have hproject := projectAgain_synced (ha.at now) h.lineage hfind hevidenced hidentity hsynced
          ((a.withNow now).timestamp utcNow) utcNow
        rw [← project_of_some hvalid utcNow hrow] at hproject
        exact mirrors_of_synced ha hproject h.lineage hfind hrow hidentity hevidenced hsynced
      · have hfollow := projectAgain_open_iff (ha.at now) h.lineage hfind hrow hidentity
          (h.open hfind hrow hstate) hstate ((a.withNow now).timestamp utcNow) utcNow
        rw [or_iff_right hstate]
        constructor
        · rintro ⟨result, db', hproject, ⟨job', row', hfind', hrow', hrecorded, _⟩, _⟩
          rw [project_of_some hvalid utcNow hrow] at hproject
          obtain ⟨⟨hevidenced, hstale, haccepted⟩, hr⟩ := (hfollow _).mp hproject
          obtain ⟨rfl, rfl⟩ := Prod.mk.inj hr
          obtain rfl := Option.some.inj (hfind'.symm.trans hfind)
          rw [find?_followed hrow] at hrow'
          obtain rfl := Option.some.inj hrow'
          exact ⟨hevidenced, hstale, (recorded_followed_iff hevidenced haccepted _).mp hrecorded⟩
        · rintro ⟨hevidenced, hstale, hkept⟩
          have hproject := (hfollow _).mpr ⟨⟨hevidenced, hstale, hkept.accepted⟩, rfl⟩
          rw [← project_of_some hvalid utcNow hrow] at hproject
          exact mirrors_of_synced ha hproject h.lineage hfind (find?_followed hrow) hidentity
            hevidenced (synced_followed hkept _)

/-- No scheduler call deletes a job. -/
theorem find?_perform {t : Jobs} {id : ℤ} {job : Job} (h : t.find? id = some job) (call : Call) :
    ∃ job', (call.perform t).2.find? id = some job' := by
  have hupdate : ∀ (p : Job → Bool) (u : Update Job.id), ∃ job',
      (t.updateWhere p u).find? id = some job' := by
    intro p u
    rw [Table.find?_updateWhere, h]
    exact ⟨_, rfl⟩
  cases call with
  | enqueue args =>
    simp only [Call.perform, enqueueJob]
    cases enqueueRead t args with
    | some result => exact ⟨job, h⟩
    | none => exact ⟨job, find?_insertJob args h⟩
  | claim jobId lockOwner now =>
    simp only [Call.perform, claimDueJob]
    cases claimRead (t.find? jobId) now with
    | some result => exact ⟨job, h⟩
    | none => exact hupdate _ _
  | complete jobId now => exact hupdate _ _
  | fail jobId error now maxRetries =>
    simp only [Call.perform, failJob]
    cases failRead (t.find? jobId) error now maxRetries with
    | none => exact ⟨job, h⟩
    | some u => exact hupdate _ _
  | cancel jobId now => exact hupdate _ _
  | releaseStale now timeout =>
    simp only [Call.perform, releaseStaleLocks]
    cases shiftTime now (-timeout) with
    | none => exact ⟨job, h⟩
    | some staleBefore => exact hupdate _ _

theorem tracked_scheduler (h : Tracked p db) {call : Call}
    (hlawful : LawfulEvent p db (.scheduler call)) :
    Tracked p (ownershipStep a db (.scheduler call)) := by
  obtain ⟨job, hfind⟩ := h.job
  refine ⟨h.lineage, find?_perform hfind call, h.owner, fun r hr => ⟨(h.row r hr).1, ?_⟩⟩
  rcases (h.row r hr).2 with hopen | ⟨ended, hended, hterm, hevidenced, hsynced⟩
  · exact Or.inl hopen
  · exact Or.inr ⟨ended, hlawful ended hended hterm, hterm, hevidenced, hsynced⟩

/-- A row that was written by a projection is open or mirrors the ended job. -/
theorem open_or_mirrors {job : Job} {row : SchedulerWork}
    (hfind : db.jobs.find? p.schedulerJobId = some job) (hevidenced : Evidenced job)
    (hsynced : Synced job row) :
    row.state ∈ activeWorkStates ∧ row.firstTerminalCause = none ∧ row.terminalAt = none ∨
      ∃ job, db.jobs.find? p.schedulerJobId = some job ∧
        mirroredState job.status ∉ activeWorkStates ∧ Evidenced job ∧ Synced job row := by
  by_cases hactive : mirroredState job.status ∈ activeWorkStates
  · obtain ⟨hstate, hcause, hat⟩ := hsynced
    simp only [mirroredMove, if_pos hactive] at hstate hcause hat
    exact Or.inl ⟨hstate ▸ hactive, hcause, hat⟩
  · exact Or.inr ⟨job, hfind, hactive, hevidenced, hsynced⟩

theorem tracked_project (ha : OwnerCall a p) (h : Tracked p db) {now : Option String}
    {utcNow : String} (hcond : Followable p db (.project now utcNow)) :
    Tracked p (ownershipStep a db (.project now utcNow)) := by
  obtain ⟨job, hfind⟩ := h.job
  have hvalid := (ha.at now).valid
  have hjob := hcond job hfind
  cases hrow : db.schedulerWork.find? p.schedulerWorkId with
  | none =>
    simp only [hrow, FollowableRow] at hjob
    have hproject := (projectFirst_iff (ha.at now) h.lineage hfind (h.unowned hrow) hrow
      ((a.withNow now).timestamp utcNow) _).mpr ⟨hjob, rfl⟩
    rw [← project_of_none hvalid utcNow hrow] at hproject
    rw [ownershipStep_project a db hproject]
    refine ⟨h.lineage, ⟨job, hfind⟩, fun r hr howned => ?_, fun r hr => ?_⟩
    · exact Table.forall_insert (h := Table.find?_eq_none_iff.mp hrow)
        h.owner (fun _ => rfl) r hr howned
    · obtain rfl := Option.some.inj ((find?_inserted hrow).symm.trans hr)
      exact ⟨rfl, open_or_mirrors hfind hjob.1 ⟨rfl, rfl, rfl⟩⟩
  | some row =>
    simp only [hrow, FollowableRow] at hjob
    have hidentity := (h.row row hrow).1
    by_cases hstate : row.state = mirroredState job.status
    · obtain ⟨hevidenced, hsynced⟩ := h.synced hfind hrow hstate
      have hproject := projectAgain_synced (ha.at now) h.lineage hfind hevidenced hidentity hsynced
        ((a.withNow now).timestamp utcNow) utcNow
      rw [← project_of_some hvalid utcNow hrow] at hproject
      rw [ownershipStep_project a db hproject]
      exact h
    · obtain ⟨hevidenced, hstale, hkept⟩ := hjob.resolve_left hstate
      have hproject := (projectAgain_open_iff (ha.at now) h.lineage hfind hrow hidentity
        (h.open hfind hrow hstate) hstate ((a.withNow now).timestamp utcNow) utcNow
          _).mpr ⟨⟨hevidenced, hstale, hkept.accepted⟩, rfl⟩
      rw [← project_of_some hvalid utcNow hrow] at hproject
      rw [ownershipStep_project a db hproject]
      refine ⟨h.lineage, ⟨job, hfind⟩, ?_, fun r hr => ?_⟩
      · exact Table.forall_updateWhere h.owner fun r _ _ howner howned => howner howned
      · obtain rfl := Option.some.inj ((find?_followed hrow).symm.trans hr)
        exact ⟨hidentity, open_or_mirrors hfind hevidenced (synced_followed hkept _)⟩

theorem tracked_step (ha : OwnerCall a p) (h : Tracked p db) (e : OwnershipEvent)
    (hlawful : LawfulEvent p db e) (hcond : Followable p db e) : Tracked p (ownershipStep a db e) := by
  cases e with
  | scheduler call => exact tracked_scheduler h hlawful
  | project now utcNow => exact tracked_project ha h hcond

/-! ## One owner -/

/-- What a projection does to the work rows: nothing, the insertion of a row
whose job no row owns, or a move of a row. -/
theorem project_cases {utcNow : String} {result : ProjectionResult} {db' : CampaignDb}
    (h : projectCampaignSchedulerWork db a utcNow = .ok (result, db')) :
    db'.schedulerWork = db.schedulerWork ∨
    (∃ row, ∃ fresh : ∀ old ∈ db.schedulerWork.rows, old.identity ≠ row.identity,
      (∀ old ∈ db.schedulerWork.rows, old.schedulerJobId ≠ none →
        old.schedulerJobId ≠ row.schedulerJobId) ∧
        db'.schedulerWork = db.schedulerWork.insert row fresh) ∨
    ∃ id m timestamp,
      db'.schedulerWork = db.schedulerWork.updateKey id (workOwner.move m timestamp) := by
  obtain ⟨p, hvalid, -⟩ := bind_ok h
  cases hrow : db.schedulerWork.find? p.schedulerWorkId with
  | none =>
    rw [project_of_none hvalid utcNow hrow] at h
    unfold projectFirst at h
    obtain ⟨_, h⟩ := check_ok h
    obtain ⟨resolved, _, h⟩ := bind_ok h
    by_cases haccepts : db.acceptsWork (p.row resolved
        (a.timestamp utcNow)) = true
    · rw [if_pos haccepts] at h
      obtain ⟨_, rfl⟩ := Prod.mk.inj (Except.ok.inj h)
      refine Or.inr (Or.inl ⟨_, Table.find?_eq_none_iff.mp hrow, fun old hold howned hsame => ?_, rfl⟩)
      have hunique := (Bool.and_eq_true_iff.mp haccepts).2
      simp only [Bool.not_eq_true', List.any_eq_false, decide_eq_true_eq, not_and] at hunique
      exact hunique old hold howned hsame
    · rw [if_neg haccepts] at h
      cases h
  | some row =>
    rw [project_of_some hvalid utcNow hrow] at h
    unfold projectAgain at h
    obtain ⟨_, h⟩ := check_ok h
    obtain ⟨_, h⟩ := check_ok h
    obtain ⟨resolved, _, h⟩ := bind_ok h
    by_cases hstate : row.state = resolved.state
    · rw [if_pos hstate] at h
      obtain ⟨_, h⟩ := check_ok h
      obtain ⟨_, rfl⟩ := Prod.mk.inj (Except.ok.inj h)
      exact Or.inl rfl
    · rw [if_neg hstate] at h
      obtain ⟨t, ht, h⟩ := bind_ok h
      obtain ⟨_, rfl⟩ := Prod.mk.inj (Except.ok.inj h)
      obtain ⟨m, hmoved⟩ | hsame := StateOwner.transitionIn_cases (mapError_ok ht)
      · exact Or.inr (Or.inr ⟨_, m, _, hmoved⟩)
      · exact Or.inl hsame

/-- No event gives a job a second owner. -/
theorem oneOwner_step (h : OneOwner db) (e : OwnershipEvent) : OneOwner (ownershipStep a db e) := by
  cases e with
  | scheduler call => exact h
  | project now utcNow =>
    cases hproject : projectCampaignSchedulerWork db (a.withNow now) utcNow with
    | error message => simpa [ownershipStep, hproject] using h
    | ok r =>
      rw [ownershipStep_project a db hproject]
      unfold OneOwner
      rcases project_cases hproject with hsame | ⟨row, fresh, hunowned, hinsert⟩ | ⟨id, m, ts, hmove⟩
      · rw [hsame]
        exact h
      · rw [hinsert, Table.exclusive_insert_iff h]
        exact fun _ old hold howned => hunowned old hold howned
      · rw [hmove]
        exact h.updateWhere fun r _ _ howned => ⟨howned, rfl⟩

/-- Nothing has been projected: no row has the work id, and none owns the job. -/
structure Unprojected (p : Projection) (db : CampaignDb) : Prop where
  lineage : HasLineage db p
  job : ∃ job, db.jobs.find? p.schedulerJobId = some job
  fresh : db.schedulerWork.find? p.schedulerWorkId = none
  unowned : ∀ r ∈ db.schedulerWork.rows, r.schedulerJobId ≠ some p.schedulerJobId
  one_owner : OneOwner db

theorem Unprojected.tracked (h : Unprojected p db) : Tracked p db where
  lineage := h.lineage
  job := h.job
  owner := fun r hr howned => absurd howned (h.unowned r hr)
  row := fun r hr => by
    rw [h.fresh] at hr
    cases hr

/-- In every run in which the scheduler treats the job lawfully, the projections
follow it exactly when each of them meets its condition. -/
theorem followsScheduler_iff (ha : OwnerCall a p) (hstart : Unprojected p db)
    (xs : List OwnershipEvent) (hlawful : Along (ownershipStep a) (LawfulEvent p) db xs) :
    FollowsScheduler a p db xs ↔ Along (ownershipStep a) (Followable p) db xs := by
  rw [← along_iff_along (I := Tracked p) (fun s e hs hl hc => tracked_step ha hs e hl hc)
    (fun s e hs _ => projectionMirrors_iff ha hs e) hstart.tracked hlawful, along_iff_forall]
  constructor
  · exact fun h => h.mirrors
  · intro h
    refine ⟨h, fun pre _ => ?_⟩
    exact invariant (I := OneOwner) (fun s e hs => oneOwner_step hs e) hstart.one_owner pre

end

/-- A pending job, and the selected item that hands it over. -/
def handoffDb : CampaignDb :=
  { CampaignDb.empty with
    jobs := insertJob Table.empty
      { jobName := "window", jobKind := .trackFastFirst15m, utcNow := 0, insertedAt := "" }
    selectedItemLinks := Table.empty.insert
      { discoveryBatchId := "b1", selectionItemId := 7, mergedCandidateId := "m1", campaignId := "c1"
        runId := "r1", cycleId := "y1", tokenSlotId := none, firstWindow15mSchedulerJobId := some 1 }
      (by simp) }

def handoffArgs : ProjectionArgs :=
  { schedulerWorkId := "w1", campaignId := "c1", runId := "r1", cycleId := "y1"
    workScope := "FIRST_15M_HANDOFF", stageId := "s1", workIntent := "first window"
    deadlineAt := "2026-01-01T00:15:00+00:00", schedulerJobId := some 1
    targetCategory := "SELECTED_ITEM", targetIdentity := "7" }

def handoffProjection : Projection :=
  { schedulerWorkId := "w1", campaignId := "c1", runId := "r1", cycleId := "y1"
    workScope := .first15mHandoff, stageId := "s1", workIntent := "first window"
    deadlineAt := "2026-01-01T00:15:00+00:00", schedulerJobId := 1
    targetCategory := "SELECTED_ITEM", targetIdentity := "7", tokenSlotId := none, windowId := none
    factoryRunId := none, sourceRequestId := none, sourceResponseId := none
    sourceFailureId := none }

theorem handoffArgs_ownerCall : OwnerCall handoffArgs handoffProjection :=
  ⟨by rfl, Or.inl rfl, rfl, rfl, rfl⟩

theorem handoffDb_unprojected : Unprojected handoffProjection handoffDb where
  lineage := ⟨_, rfl, Or.inl rfl⟩
  job := ⟨_, rfl⟩
  fresh := rfl
  unowned := by
    intro r hr
    cases hr
  one_owner := Table.exclusive_empty

/-- The job is claimed and done. -/
def doneRun : List OwnershipEvent :=
  [.project none "t0", .scheduler (.claim 1 "A" (seconds 1)), .project none "t1",
    .scheduler (.complete 1 (seconds 2)), .project none "t2"]

theorem followsScheduler_done :
    FollowsScheduler handoffArgs handoffProjection handoffDb doneRun :=
  (followsScheduler_iff handoffArgs_ownerCall handoffDb_unprojected doneRun
    (by decide)).mpr (by decide)

/-- The holder's lock goes stale while the row is running. -/
def staleRun : List OwnershipEvent :=
  [.project none "t0", .scheduler (.claim 1 "A" (seconds 1)), .project none "t1",
    .scheduler (.releaseStale (seconds 400) 300), .project none "t2"]

theorem staleRun_not_follows : ¬FollowsScheduler handoffArgs handoffProjection handoffDb staleRun := by
  intro h
  obtain ⟨result, db', hproject, _⟩ := h.mirrors (staleRun.take 4) (.project none "t2") [] rfl
  have hdrift : (projectCampaignSchedulerWork
      (run (ownershipStep handoffArgs) handoffDb (staleRun.take 4)) (handoffArgs.withNow none)
      "t2").toOption.isNone = true := by decide
  rw [hproject] at hdrift
  cases hdrift

end PrinterV1.OperatorCli
