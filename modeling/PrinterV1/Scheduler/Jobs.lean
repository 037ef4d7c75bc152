import PrinterV1.Foundation.Tables
import PrinterV1.Python.IsoRoundTrip
import PrinterV1.Scheduler.Contracts
import PrinterV1.Sources.Governor

/-!
# The scheduler's job table

`printer_scheduler_jobs` and the functions of the scheduler that write it.
`claim_due_job`, `fail_job` and `enqueue_job` read before they write, so each
is split into what it reads and what it writes; the sequential functions below
put the two halves together, and the interleaved machine takes them apart.
-/

namespace PrinterV1.Scheduler

open Python

/-- One row of `printer_scheduler_jobs`. -/
structure Job where
  id : ℤ
  jobName : String
  jobKind : JobKind
  targetTable : Option String
  targetId : Option ℤ
  priority : ℤ
  status : JobStatus
  scheduledFor : String
  startedAt : Option String
  finishedAt : Option String
  lockedAt : Option String
  lockOwner : Option String
  retryCount : ℤ
  lastError : Option String
  updatedAt : String
  deriving DecidableEq, Repr

abbrev Jobs := Table Job.id

/-- `to_timestamp`, on the instant of an aware datetime. -/
def toTimestamp (value : Instant) : String := isoformat value

/-- `parse_timestamp`; `none` is its `ValueError`. A naive text, which no call writes, is read
in UTC. -/
def parseTimestamp (value : String) : Option Instant :=
  (fromisoformat value).map Datetime.instantUtc

/-- `current_time + timedelta(seconds=...)`, of a time in UTC; `none` is its `OverflowError`. -/
def shiftTime (currentTime : Instant) (delta : ℤ) : Option Instant :=
  if InRange (currentTime + seconds delta) then some (currentTime + seconds delta) else none

def normalizeTargetId (targetId : Option ℤ) : ℤ := targetId.getD (-1)

/-- What tells two jobs of one purpose from any others. -/
def Job.slot (r : Job) : String × JobKind × Option String × Option ℤ :=
  (r.jobName, r.jobKind, r.targetTable, r.targetId)

/-- The states in which `claim_due_job` answers `ALREADY_LOCKED`. -/
def Job.Locked (r : Job) : Prop := r.status = .running ∨ r.lockedAt ≠ none

instance (r : Job) : Decidable r.Locked := inferInstanceAs (Decidable (_ ∨ _))

/-- The arguments of `enqueue_job`, with the clocks it may read. -/
structure EnqueueArgs where
  jobName : String
  jobKind : JobKind
  targetTable : Option String := none
  targetId : Option ℤ := none
  scheduledFor : Option Instant := none
  utcNow : Instant
  insertedAt : String
  sourceName : Option String := none
  sourceRequestKind : Option String := none
  recentRequestCount : ℤ := 0
  deriving DecidableEq, Repr

def EnqueueArgs.slot (a : EnqueueArgs) : String × JobKind × Option String × Option ℤ :=
  (a.jobName, a.jobKind, a.targetTable, a.targetId)

def validateSourceBacking (sourceName sourceRequestKind : Option String) (count : ℤ) :
    Option LockResult :=
  match sourceName, sourceRequestKind with
  | none, none => none
  | some name, some kind =>
    if (Sources.canRequestSource name kind count).allowed then none else some .sourceNotAllowed
  | _, _ => some .sourceNotAllowed

/-- The `WHERE` clause of the duplicate check, with its two `COALESCE`s. -/
def EnqueueArgs.duplicates (a : EnqueueArgs) (r : Job) : Bool :=
  r.jobName = a.jobName && r.jobKind = a.jobKind &&
    r.targetTable.getD "" = a.targetTable.getD "" &&
    r.targetId.getD (-1) = normalizeTargetId a.targetId && decide r.status.Active

def hasActiveDuplicateJob (t : Jobs) (a : EnqueueArgs) : Bool := t.rows.any a.duplicates

/-- The row `enqueue_job` inserts, under the given id. -/
def EnqueueArgs.job (a : EnqueueArgs) (id : ℤ) : Job where
  id := id
  jobName := a.jobName
  jobKind := a.jobKind
  targetTable := a.targetTable
  targetId := a.targetId
  priority := priorityValue a.jobKind
  status := .pending
  scheduledFor := toTimestamp (a.scheduledFor.getD a.utcNow)
  startedAt := none
  finishedAt := none
  lockedAt := none
  lockOwner := none
  retryCount := 0
  lastError := none
  updatedAt := a.insertedAt

def nextJobId (t : Jobs) : ℤ := nextRowid (t.rows.map Job.id)

theorem nextJobId_fresh (t : Jobs) (a : EnqueueArgs) :
    ∀ old ∈ t.rows, old.id ≠ (a.job (nextJobId t)).id := by
  intro old hold
  have h : old.id < nextJobId t := lt_nextRowid (List.mem_map_of_mem hold)
  exact Int.ne_of_lt h

/-- The `INSERT` of `enqueue_job`. -/
def insertJob (t : Jobs) (a : EnqueueArgs) : Jobs :=
  t.insert (a.job (nextJobId t)) (nextJobId_fresh t a)

theorem find?_insertJob {t : Jobs} (a : EnqueueArgs) {id : ℤ} {r : Job} (h : t.find? id = some r) :
    (insertJob t a).find? id = some r :=
  Table.find?_insert_of_some (h := nextJobId_fresh t a) h

/-- What `enqueue_job` answers before its `INSERT`; `none` lets it insert. -/
def enqueueRead (t : Jobs) (a : EnqueueArgs) : Option LockResult :=
  match validateSourceBacking a.sourceName a.sourceRequestKind a.recentRequestCount with
  | some result => some result
  | none => if hasActiveDuplicateJob t a then some .duplicateActiveJob else none

def enqueueJob (t : Jobs) (a : EnqueueArgs) : (LockResult × Option ℤ) × Jobs :=
  match enqueueRead t a with
  | some result => ((result, none), t)
  | none => ((.acquired, some (nextJobId t)), insertJob t a)

/-- What `claim_due_job` answers on the row it read; `none` lets it update. -/
def claimRead (row : Option Job) (now : Instant) : Option LockResult :=
  match row with
  | none => some .notFound
  | some r =>
    if r.Locked then some .alreadyLocked
    else if r.status ≠ .pending ∧ r.status ≠ .cooldown then some .notFound
    else if toTimestamp now < r.scheduledFor then some .notDue
    else none

def claimRow (lockOwner : String) (now : Instant) (r : Job) : Job :=
  { r with
    status := .running
    lockOwner := some lockOwner
    lockedAt := some (toTimestamp now)
    startedAt := some (toTimestamp now)
    updatedAt := toTimestamp now }

/-- The `UPDATE` of `claim_due_job`: keyed by id alone. -/
def claimUpdate (t : Jobs) (jobId : ℤ) (lockOwner : String) (now : Instant) : Jobs :=
  t.updateKey jobId ⟨claimRow lockOwner now, fun _ => rfl⟩

def claimDueJob (t : Jobs) (jobId : ℤ) (lockOwner : String) (now : Instant) : LockResult × Jobs :=
  match claimRead (t.find? jobId) now with
  | some result => (result, t)
  | none => (.acquired, claimUpdate t jobId lockOwner now)

/-- A claim goes past its read only on an unlocked row that waits for its time. -/
theorem claimRead_eq_none {row : Option Job} {now : Instant} (h : claimRead row now = none) :
    ∃ r, row = some r ∧ ¬ r.Locked ∧ (r.status = .pending ∨ r.status = .cooldown) := by
  cases row with
  | none => simp [claimRead] at h
  | some r =>
    unfold claimRead at h
    dsimp only at h
    split_ifs at h with hlock hstatus hdue
    refine ⟨r, rfl, hlock, ?_⟩
    by_cases hp : r.status = .pending
    · exact Or.inl hp
    · exact Or.inr (by simpa [hp] using hstatus)

/-- The row after `complete_job` or `cancel_job`. -/
def finishRow (status : JobStatus) (now : Instant) (r : Job) : Job :=
  { r with
    status := status
    finishedAt := some (toTimestamp now)
    lockedAt := none
    lockOwner := none
    updatedAt := toTimestamp now }

def finishUpdate (status : JobStatus) (t : Jobs) (jobId : ℤ) (now : Instant) : Jobs :=
  t.updateKey jobId ⟨finishRow status now, fun _ => rfl⟩

def completeJob (t : Jobs) (jobId : ℤ) (now : Instant) : Jobs :=
  finishUpdate .succeeded t jobId now

def cancelJob (t : Jobs) (jobId : ℤ) (now : Instant) : Jobs :=
  finishUpdate .cancelled t jobId now

/-- The values `fail_job` computes from the row it read: the job cools down or
is over. -/
structure FailUpdate where
  status : JobStatus
  scheduledFor : String
  finishedAt : Option String
  retryCount : ℤ
  lastError : String
  updatedAt : String
  ends : status = .cooldown ∨ status = .failed
  deriving DecidableEq, Repr

/-- `none` when the call raises: no such job, a time of the next try that is
outside the calendar, or a stored time that is no ISO text. -/
def failRead (row : Option Job) (error : String) (now : Instant) (maxRetries : ℤ) :
    Option FailUpdate := do
  let r ← row
  let retryCount := r.retryCount + 1
  if shouldCooldownFailedJob r.jobKind retryCount maxRetries then
    let scheduledFor ← shiftTime now (getRetryCooldownSeconds r.jobKind retryCount)
    some
      { status := .cooldown
        scheduledFor := toTimestamp scheduledFor
        finishedAt := none
        retryCount
        lastError := error
        updatedAt := toTimestamp now
        ends := Or.inl rfl }
  else
    let scheduledFor ← parseTimestamp r.scheduledFor
    some
      { status := .failed
        scheduledFor := toTimestamp scheduledFor
        finishedAt := some (toTimestamp now)
        retryCount
        lastError := error
        updatedAt := toTimestamp now
        ends := Or.inr rfl }

def FailUpdate.row (u : FailUpdate) (r : Job) : Job :=
  { r with
    status := u.status
    scheduledFor := u.scheduledFor
    finishedAt := u.finishedAt
    lockedAt := none
    lockOwner := none
    retryCount := u.retryCount
    lastError := some u.lastError
    updatedAt := u.updatedAt }

/-- The `UPDATE` of `fail_job`: keyed by id alone. -/
def failUpdate (t : Jobs) (jobId : ℤ) (u : FailUpdate) : Jobs :=
  t.updateKey jobId ⟨u.row, fun _ => rfl⟩

def failJob (t : Jobs) (jobId : ℤ) (error : String) (now : Instant) (maxRetries : ℤ := 3) :
    Option JobStatus × Jobs :=
  match failRead (t.find? jobId) error now maxRetries with
  | none => (none, t)
  | some u => (some u.status, failUpdate t jobId u)

def releaseRow (now : Instant) (r : Job) : Job :=
  { r with
    status := .pending
    lockedAt := none
    lockOwner := none
    startedAt := none
    updatedAt := toTimestamp now }

/-- The `WHERE` clause of the release. -/
def staleLock (staleBefore : Instant) (r : Job) : Bool :=
  r.status = .running && r.lockedAt.any fun lockedAt => lockedAt < toTimestamp staleBefore

/-- The `UPDATE` of `release_stale_locks`. -/
def releaseUpdate (t : Jobs) (staleBefore now : Instant) : Jobs :=
  t.updateWhere (staleLock staleBefore) ⟨releaseRow now, fun _ => rfl⟩

/-- No count, and no update, where the call raises. -/
def releaseStaleLocks (t : Jobs) (now : Instant) (lockTimeoutSeconds : ℤ := 300) :
    Option ℕ × Jobs :=
  match shiftTime now (-lockTimeoutSeconds) with
  | none => (none, t)
  | some staleBefore =>
    (some (t.countWhere (staleLock staleBefore)), releaseUpdate t staleBefore now)

theorem claimRow_locked (lockOwner : String) (now : Instant) (r : Job) :
    (claimRow lockOwner now r).Locked := Or.inl rfl

theorem finishRow_not_locked {status : JobStatus} (h : status.Terminal) (now : Instant) (r : Job) :
    ¬ (finishRow status now r).Locked := by
  have hrunning : status ≠ .running := by
    rintro rfl
    simp [JobStatus.Terminal] at h
  simp [finishRow, Job.Locked, hrunning]

theorem FailUpdate.row_not_locked (u : FailUpdate) (r : Job) : ¬ (u.row r).Locked := by
  rcases u.ends with h | h <;> simp [FailUpdate.row, Job.Locked, h]

theorem releaseRow_not_locked (now : Instant) (r : Job) : ¬ (releaseRow now r).Locked := by
  simp [releaseRow, Job.Locked]

end PrinterV1.Scheduler
