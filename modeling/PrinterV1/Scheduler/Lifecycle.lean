import PrinterV1.Foundation.Runs
import PrinterV1.Scheduler.Jobs

/-!
# The life of a scheduler job

Runs of scheduler calls, each made by a named worker and each executed without
interruption. A running job is exactly a locked one in every such run. That a
finished job stays as it is, and that a worker whose stale lock was taken over
leaves the new holder alone, depends on which rows the late calls reach:
`Attempt.Respects` is the condition on one call, and it is exact.
-/

namespace PrinterV1.Scheduler

open Python Runs

/-- A call of one of the functions that write the job table. -/
inductive Call
  | enqueue (a : EnqueueArgs)
  | claim (jobId : ℤ) (lockOwner : String) (now : Instant)
  | complete (jobId : ℤ) (now : Instant)
  | fail (jobId : ℤ) (error : String) (now : Instant) (maxRetries : ℤ)
  | cancel (jobId : ℤ) (now : Instant)
  | releaseStale (now : Instant) (lockTimeoutSeconds : ℤ)
  deriving DecidableEq, Repr

/-- What a call returns; `failed none` is a `fail_job` that raised. -/
inductive Response
  | enqueued (result : LockResult) (jobId : Option ℤ)
  | claimed (result : LockResult)
  | completed
  | failed (status : Option JobStatus)
  | cancelled
  | released (count : Option ℕ)
  deriving DecidableEq, Repr

/-- The call, executed from its first statement to its last. -/
def Call.perform (t : Jobs) : Call → Response × Jobs
  | .enqueue a => (.enqueued (enqueueJob t a).1.1 (enqueueJob t a).1.2, (enqueueJob t a).2)
  | .claim jobId lockOwner now =>
    (.claimed (claimDueJob t jobId lockOwner now).1, (claimDueJob t jobId lockOwner now).2)
  | .complete jobId now => (.completed, completeJob t jobId now)
  | .fail jobId error now maxRetries =>
    (.failed (failJob t jobId error now maxRetries).1, (failJob t jobId error now maxRetries).2)
  | .cancel jobId now => (.cancelled, cancelJob t jobId now)
  | .releaseStale now timeout =>
    (.released (releaseStaleLocks t now timeout).1, (releaseStaleLocks t now timeout).2)

/-- A row's lock and its status agree. -/
def Job.LockConsistent (r : Job) : Prop :=
  (r.status = .running → r.lockedAt ≠ none ∧ r.lockOwner ≠ none) ∧
    (r.status ≠ .running → r.lockedAt = none ∧ r.lockOwner = none)

theorem Job.LockConsistent.running_iff {r : Job} (h : r.LockConsistent) :
    r.status = .running ↔ r.lockedAt ≠ none ∧ r.lockOwner ≠ none := by
  constructor
  · exact h.1
  · intro hlock
    by_contra hstatus
    exact hlock.1 (h.2 hstatus).1

theorem claimRow_lockConsistent (lockOwner : String) (now : Instant) (r : Job) :
    (claimRow lockOwner now r).LockConsistent := by
  simp [claimRow, Job.LockConsistent]

theorem finishRow_lockConsistent {status : JobStatus} (h : status ≠ .running) (now : Instant)
    (r : Job) : (finishRow status now r).LockConsistent := by
  simp [finishRow, Job.LockConsistent, h]

theorem FailUpdate.row_lockConsistent (u : FailUpdate) (r : Job) : (u.row r).LockConsistent := by
  rcases u.ends with h | h <;> simp [FailUpdate.row, Job.LockConsistent, h]

theorem releaseRow_lockConsistent (now : Instant) (r : Job) :
    (releaseRow now r).LockConsistent := by
  simp [releaseRow, Job.LockConsistent]

theorem job_lockConsistent (a : EnqueueArgs) (id : ℤ) : (a.job id).LockConsistent := by
  simp [EnqueueArgs.job, Job.LockConsistent]

def LockConsistent (t : Jobs) : Prop := ∀ r ∈ t.rows, r.LockConsistent

theorem updateKey_lockConsistent {t : Jobs} {k : ℤ} {u : Update Job.id}
    (ht : LockConsistent t) (h : ∀ r, (u.apply r).LockConsistent) :
    LockConsistent (t.updateKey k u) :=
  Table.forall_updateWhere ht fun r _ _ _ => h r

/-- No call takes lock and status apart. -/
theorem perform_lockConsistent {t : Jobs} (ht : LockConsistent t) (c : Call) :
    LockConsistent (c.perform t).2 := by
  cases c with
  | enqueue a =>
    simp only [Call.perform, enqueueJob]
    cases enqueueRead t a with
    | some result => exact ht
    | none => exact Table.forall_insert (h := nextJobId_fresh t a) ht (job_lockConsistent a _)
  | claim jobId lockOwner now =>
    simp only [Call.perform, claimDueJob]
    cases claimRead (t.find? jobId) now with
    | some result => exact ht
    | none => exact updateKey_lockConsistent ht (claimRow_lockConsistent lockOwner now)
  | complete jobId now =>
    exact updateKey_lockConsistent ht (finishRow_lockConsistent (by decide) now)
  | fail jobId error now maxRetries =>
    simp only [Call.perform, failJob]
    cases h : failRead (t.find? jobId) error now maxRetries with
    | none => exact ht
    | some u =>
      exact updateKey_lockConsistent ht u.row_lockConsistent
  | cancel jobId now =>
    exact updateKey_lockConsistent ht (finishRow_lockConsistent (by decide) now)
  | releaseStale now timeout =>
    simp only [Call.perform, releaseStaleLocks]
    cases shiftTime now (-timeout) with
    | none => exact ht
    | some staleBefore =>
      exact Table.forall_updateWhere ht fun r _ _ _ => releaseRow_lockConsistent now r

/-- Every finished job is still there with its status and its finishing time. -/
def KeepsTerminal (t t' : Jobs) : Prop :=
  ∀ r ∈ t.rows, r.status.Terminal →
    ∃ r' ∈ t'.rows, r'.id = r.id ∧ r'.status = r.status ∧ r'.finishedAt = r.finishedAt

theorem KeepsTerminal.refl (t : Jobs) : KeepsTerminal t t :=
  fun r hr _ => ⟨r, hr, rfl, rfl, rfl⟩

theorem KeepsTerminal.trans {a b c : Jobs} (hab : KeepsTerminal a b) (hbc : KeepsTerminal b c) :
    KeepsTerminal a c := by
  intro r hr hterm
  obtain ⟨r', hr', hid, hstatus, hfinished⟩ := hab r hr hterm
  obtain ⟨r'', hr'', hid', hstatus', hfinished'⟩ := hbc r' hr' (hstatus ▸ hterm)
  exact ⟨r'', hr'', hid'.trans hid, hstatus'.trans hstatus, hfinished'.trans hfinished⟩

theorem keepsTerminal_insert (t : Jobs) (r : Job) (h : ∀ old ∈ t.rows, old.id ≠ r.id) :
    KeepsTerminal t (t.insert r h) :=
  fun r hr _ => ⟨r, by simp [hr], rfl, rfl, rfl⟩

/-- An update that leaves the finished rows alone. -/
theorem keepsTerminal_updateWhere {t : Jobs} {p : Job → Bool} {u : Update Job.id}
    (h : ∀ r ∈ t.rows, p r = true → ¬ r.status.Terminal) :
    KeepsTerminal t (t.updateWhere p u) := by
  intro r hr hterm
  have hp : ¬ p r = true := fun hp => h r hr hp hterm
  exact ⟨r, Table.mem_updateWhere.mpr ⟨r, hr, if_neg hp⟩, rfl, rfl, rfl⟩

/-- An update of one row keeps the finished jobs exactly when it keeps that
row's status and finishing time, should it be a finished one. -/
theorem keepsTerminal_updateKey_iff {t : Jobs} {k : ℤ} {u : Update Job.id} :
    KeepsTerminal t (t.updateKey k u) ↔
      ∀ r, t.find? k = some r → r.status.Terminal →
        (u.apply r).status = r.status ∧ (u.apply r).finishedAt = r.finishedAt := by
  constructor
  · intro h r hfind hterm
    obtain ⟨hr, hk⟩ := Table.find?_eq_some_iff.mp hfind
    obtain ⟨r', hr', hid, hstatus, hfinished⟩ := h r hr hterm
    have hupdated : u.apply r ∈ (t.updateKey k u).rows :=
      Table.mem_updateKey.mpr (Or.inr ⟨r, hr, hk, rfl⟩)
    have hsame : r' = u.apply r := Table.eq_of_key _ hr' hupdated (hid.trans (u.key_apply r).symm)
    rw [hsame] at hstatus hfinished
    exact ⟨hstatus, hfinished⟩
  · intro h r hr hterm
    by_cases hk : r.id = k
    · have hfind : t.find? k = some r := Table.find?_eq_some_iff.mpr ⟨hr, hk⟩
      obtain ⟨hstatus, hfinished⟩ := h r hfind hterm
      exact ⟨u.apply r, Table.mem_updateKey.mpr (Or.inr ⟨r, hr, hk, rfl⟩), u.key_apply r,
        hstatus, hfinished⟩
    · exact ⟨r, Table.mem_updateKey.mpr (Or.inl ⟨hr, hk⟩), rfl, rfl, rfl⟩

/-- A call and the worker that makes it. -/
structure Attempt where
  worker : String
  call : Call
  deriving DecidableEq, Repr

/-- The job table, and which workers lost which job's lock as stale. -/
structure History where
  jobs : Jobs
  lost : List (String × ℤ)

def History.start : History := ⟨Table.empty, []⟩

/-- The holders whose locks a release finds stale. -/
def lostLocks (t : Jobs) (stale : Job → Bool) : List (String × ℤ) :=
  (t.rows.filter stale).filterMap fun r => r.lockOwner.map fun owner => (owner, r.id)

def History.step (s : History) (x : Attempt) : History where
  jobs := (x.call.perform s.jobs).2
  lost :=
    match x.call with
    | .releaseStale now timeout =>
      match shiftTime now (-timeout) with
      | none => s.lost
      | some staleBefore => s.lost ++ lostLocks s.jobs (staleLock staleBefore)
    | _ => s.lost

/-- The worker lost the job as stale, and another worker holds it now. -/
def TakenOver (s : History) (worker : String) (r : Job) : Prop :=
  (worker, r.id) ∈ s.lost ∧ r.status = .running ∧ ∃ owner, r.lockOwner = some owner ∧ owner ≠ worker

/-- The job that a late `complete_job` or `fail_job` would end. -/
def Call.ends : Call → Option ℤ
  | .complete jobId _ => some jobId
  | .fail jobId _ _ _ => some jobId
  | _ => none

/-- A late call of a worker whose job was taken over leaves the new holder's
lock alone. -/
def KeepsHolder (s : History) (x : Attempt) : Prop :=
  ∀ jobId, x.call.ends = some jobId → ∀ r, s.jobs.find? jobId = some r → TakenOver s x.worker r →
    ∃ r', (s.step x).jobs.find? jobId = some r' ∧ r'.status = .running ∧ r'.lockOwner = r.lockOwner

/-- The lifecycle of every job in the run: running is being locked, finished is
final, and a lost lock gives no say over the next one. -/
structure Lifecycle (xs : List Attempt) : Prop where
  running_iff_locked : ∀ pre, pre <+: xs → ∀ r ∈ (run History.step .start pre).jobs.rows,
    r.status = .running ↔ r.lockedAt ≠ none ∧ r.lockOwner ≠ none
  terminal_final : Kept History.step (fun s s' => KeepsTerminal s.jobs s'.jobs) .start xs
  holder_kept : ∀ pre x post, xs = pre ++ x :: post → KeepsHolder (run History.step .start pre) x

/-- `fail_job` raises: on the time of the next try, or on the stored time of the row. -/
def FailRaises (r : Job) (now : Instant) (maxRetries : ℤ) : Prop :=
  if shouldCooldownFailedJob r.jobKind (r.retryCount + 1) maxRetries then
    ¬ InRange (now + seconds (getRetryCooldownSeconds r.jobKind (r.retryCount + 1)))
  else parseTimestamp r.scheduledFor = none

/-- The condition on one call, in the state it is made in. `complete_job`,
`cancel_job` and a `fail_job` that does not raise reach a finished job only to
write the status and the finishing time it has, and the first and the last of
them reach no job that was taken over from the caller. -/
def Attempt.Respects (s : History) (x : Attempt) : Prop :=
  match x.call with
  | .complete jobId now => ∀ r, s.jobs.find? jobId = some r →
      (r.status.Terminal → r.status = .succeeded ∧ r.finishedAt = some (toTimestamp now)) ∧
        ¬ TakenOver s x.worker r
  | .fail jobId _ now maxRetries => ∀ r, s.jobs.find? jobId = some r →
      ¬ FailRaises r now maxRetries →
      (r.status.Terminal → r.status = .failed ∧ r.finishedAt = some (toTimestamp now) ∧
        shouldCooldownFailedJob r.jobKind (r.retryCount + 1) maxRetries = false) ∧
        ¬ TakenOver s x.worker r
  | .cancel jobId now => ∀ r, s.jobs.find? jobId = some r →
      r.status.Terminal → r.status = .cancelled ∧ r.finishedAt = some (toTimestamp now)
  | _ => True

/-- `fail_job` on an existing row: it raises, or it writes a row that is cooling
down or has failed now. -/
theorem failRead_cases (r : Job) (error : String) (now : Instant) (maxRetries : ℤ) :
    (FailRaises r now maxRetries ∧ failRead (some r) error now maxRetries = none) ∨
    (¬ FailRaises r now maxRetries ∧ ∃ u, failRead (some r) error now maxRetries = some u ∧
      ((u.status = .cooldown ∧ u.finishedAt = none ∧
          shouldCooldownFailedJob r.jobKind (r.retryCount + 1) maxRetries = true) ∨
        (u.status = .failed ∧ u.finishedAt = some (toTimestamp now) ∧
          shouldCooldownFailedJob r.jobKind (r.retryCount + 1) maxRetries = false))) := by
  simp only [failRead, FailRaises, Option.bind_eq_bind, Option.bind_some]
  cases hretry : shouldCooldownFailedJob r.jobKind (r.retryCount + 1) maxRetries with
  | true =>
    by_cases hrange : InRange (now + seconds (getRetryCooldownSeconds r.jobKind (r.retryCount + 1)))
    · simp [shiftTime, hrange]
    · simp [shiftTime, hrange]
  | false =>
    cases htime : parseTimestamp r.scheduledFor with
    | none => simp
    | some scheduledFor => simp

/-- A call of another kind than the three that end jobs keeps finished jobs. -/
theorem perform_keepsTerminal_enqueue (t : Jobs) (a : EnqueueArgs) :
    KeepsTerminal t (Call.perform t (.enqueue a)).2 := by
  simp only [Call.perform, enqueueJob]
  cases enqueueRead t a with
  | some result => exact KeepsTerminal.refl t
  | none => exact keepsTerminal_insert t _ (nextJobId_fresh t a)

theorem perform_keepsTerminal_claim (t : Jobs) (jobId : ℤ) (lockOwner : String) (now : Instant) :
    KeepsTerminal t (Call.perform t (.claim jobId lockOwner now)).2 := by
  simp only [Call.perform, claimDueJob]
  cases h : claimRead (t.find? jobId) now with
  | some result => exact KeepsTerminal.refl t
  | none =>
    apply keepsTerminal_updateKey_iff.mpr
    intro r hfind hterm
    obtain ⟨r', hr', _, hwaits⟩ := claimRead_eq_none h
    obtain rfl : r' = r := Option.some.inj (hr'.symm.trans hfind)
    rcases hwaits with hs | hs <;> simp [hs, JobStatus.Terminal] at hterm

theorem perform_keepsTerminal_releaseStale (t : Jobs) (now : Instant) (timeout : ℤ) :
    KeepsTerminal t (Call.perform t (.releaseStale now timeout)).2 := by
  simp only [Call.perform, releaseStaleLocks]
  cases shiftTime now (-timeout) with
  | none => exact KeepsTerminal.refl t
  | some staleBefore =>
    apply keepsTerminal_updateWhere
    intro r _ hstale hterm
    have hrunning : r.status = .running := by
      simp only [staleLock, Bool.and_eq_true, decide_eq_true_eq] at hstale
      exact hstale.1
    simp [hrunning, JobStatus.Terminal] at hterm

/-- The late half of a call that ends a job by an update of its row: the holder
keeps the lock exactly when the row was not taken over from the caller. -/
theorem keepsHolder_updateKey_iff {s : History} {x : Attempt} {jobId : ℤ} {u : Update Job.id}
    (hends : x.call.ends = some jobId)
    (hstep : (x.call.perform s.jobs).2 = s.jobs.updateKey jobId u)
    (hstatus : ∀ r, (u.apply r).status ≠ .running) :
    KeepsHolder s x ↔ ∀ r, s.jobs.find? jobId = some r → ¬ TakenOver s x.worker r := by
  constructor
  · intro h r hfind htaken
    obtain ⟨r', hfind', hrunning, _⟩ := h jobId hends r hfind htaken
    have hupdated : (s.step x).jobs.find? jobId = some (u.apply r) := by
      simp only [History.step, hstep, Table.find?_updateKey, hfind, Option.map_some, if_true]
    obtain rfl : r' = u.apply r := Option.some.inj (hfind'.symm.trans hupdated)
    exact hstatus r hrunning
  · intro h jobId' hends' r hfind htaken
    obtain rfl : jobId' = jobId := Option.some.inj (hends'.symm.trans hends)
    exact absurd htaken (h r hfind)

/-- `fail_job` on a row that is there and does not make it raise. -/
theorem fail_updates {t : Jobs} {jobId : ℤ} {error : String} {now : Instant} {maxRetries : ℤ}
    {u : FailUpdate} (h : failRead (t.find? jobId) error now maxRetries = some u) :
    (Call.perform t (.fail jobId error now maxRetries)).2 = failUpdate t jobId u := by
  simp [Call.perform, failJob, h]

theorem fail_raises {t : Jobs} {jobId : ℤ} {error : String} {now : Instant} {maxRetries : ℤ}
    (h : failRead (t.find? jobId) error now maxRetries = none) :
    (Call.perform t (.fail jobId error now maxRetries)).2 = t := by
  simp [Call.perform, failJob, h]

/-- The condition decides one `fail_job`. -/
theorem fail_respects_iff (s : History) (worker : String) (jobId : ℤ) (error : String)
    (now : Instant) (maxRetries : ℤ) :
    (KeepsTerminal s.jobs (s.step ⟨worker, .fail jobId error now maxRetries⟩).jobs ∧
      KeepsHolder s ⟨worker, .fail jobId error now maxRetries⟩) ↔
      Attempt.Respects s ⟨worker, .fail jobId error now maxRetries⟩ := by
  have hraises : failRead (s.jobs.find? jobId) error now maxRetries = none →
      KeepsTerminal s.jobs (s.step ⟨worker, .fail jobId error now maxRetries⟩).jobs ∧
        KeepsHolder s ⟨worker, .fail jobId error now maxRetries⟩ := by
    intro hread
    have hsame := fail_raises hread
    refine ⟨?_, ?_⟩
    · simpa only [History.step, hsame] using KeepsTerminal.refl s.jobs
    · intro id hid r hfind htaken
      refine ⟨r, ?_, htaken.2.1, rfl⟩
      simpa only [History.step, hsame] using hfind
  cases hfind : s.jobs.find? jobId with
  | none =>
    have hread : failRead (s.jobs.find? jobId) error now maxRetries = none := by
      simp [hfind, failRead]
    simp [hraises hread, Attempt.Respects, hfind]
  | some r =>
    rcases failRead_cases r error now maxRetries with ⟨hraise, hread⟩ | ⟨hraise, u, hread, hu⟩
    · have hkeeps := hraises (by rw [hfind]; exact hread)
      simp [hkeeps, Attempt.Respects, hfind, hraise]
    · have hupdate := fail_updates (t := s.jobs) (by rw [hfind]; exact hread)
      have hholder := keepsHolder_updateKey_iff (s := s)
        (x := ⟨worker, .fail jobId error now maxRetries⟩) (u := ⟨u.row, fun _ => rfl⟩) rfl hupdate
        (fun r => by rcases hu with hu | hu <;> simp [FailUpdate.row, hu.1])
      have hterm : KeepsTerminal s.jobs (s.step ⟨worker, .fail jobId error now maxRetries⟩).jobs ↔
          (r.status.Terminal → u.status = r.status ∧ u.finishedAt = r.finishedAt) := by
        simp only [History.step, hupdate, failUpdate]
        rw [keepsTerminal_updateKey_iff]
        simp [hfind, FailUpdate.row]
      rw [hholder, hterm]
      simp only [Attempt.Respects, hfind, Option.some.injEq, forall_eq', hraise, not_false_eq_true,
        true_implies]
      refine and_congr_left fun _ => forall_congr' fun hr => ?_
      -- a cooldown is no finished status; a failure repeats only a failure of the same time
      rcases hu with ⟨hs, hf, hretry⟩ | ⟨hs, hf, hretry⟩
      · have hne : ¬ JobStatus.cooldown = r.status := by
          intro h
          simp [← h, JobStatus.Terminal] at hr
        simp [hs, hretry, hne]
      · simp [hs, hf, hretry, eq_comm]

/-- The condition decides one call. -/
theorem respects_iff (s : History) (x : Attempt) :
    (KeepsTerminal s.jobs (s.step x).jobs ∧ KeepsHolder s x) ↔ x.Respects s := by
  obtain ⟨worker, call⟩ := x
  cases call with
  | enqueue a =>
    have h := perform_keepsTerminal_enqueue s.jobs a
    simp [Attempt.Respects, KeepsHolder, Call.ends, History.step, h]
  | claim jobId lockOwner now =>
    have h := perform_keepsTerminal_claim s.jobs jobId lockOwner now
    simp [Attempt.Respects, KeepsHolder, Call.ends, History.step, h]
  | releaseStale now timeout =>
    have h := perform_keepsTerminal_releaseStale s.jobs now timeout
    simp [Attempt.Respects, KeepsHolder, Call.ends, History.step, h]
  | cancel jobId now =>
    have hholder : KeepsHolder s ⟨worker, .cancel jobId now⟩ := by
      simp [KeepsHolder, Call.ends]
    simp only [hholder, and_true, Attempt.Respects]
    refine keepsTerminal_updateKey_iff.trans ?_
    simp only [finishRow, eq_comm]
  | complete jobId now =>
    have hterm : KeepsTerminal s.jobs (completeJob s.jobs jobId now) ↔
        ∀ r, s.jobs.find? jobId = some r → r.status.Terminal →
          r.status = .succeeded ∧ r.finishedAt = some (toTimestamp now) := by
      refine keepsTerminal_updateKey_iff.trans ?_
      simp only [finishRow, eq_comm]
    have hholder := keepsHolder_updateKey_iff (s := s) (x := ⟨worker, .complete jobId now⟩)
      rfl rfl (fun r => by simp [finishRow])
    constructor
    · intro h r hfind
      exact ⟨hterm.mp h.1 r hfind, hholder.mp h.2 r hfind⟩
    · intro h
      exact ⟨hterm.mpr fun r hfind => (h r hfind).1, hholder.mpr fun r hfind => (h r hfind).2⟩
  | fail jobId error now maxRetries => exact fail_respects_iff s worker jobId error now maxRetries

theorem run_lockConsistent (xs : List Attempt) :
    LockConsistent (run History.step .start xs).jobs := by
  apply invariant (I := fun s : History => LockConsistent s.jobs)
  · intro s x hs
    exact perform_lockConsistent hs x.call
  · intro r hr
    simp [History.start] at hr

/-- The lifecycle holds of a run exactly when each of its calls meets the
condition. -/
theorem lifecycle_iff_respects (xs : List Attempt) :
    Lifecycle xs ↔ Along History.step (fun s x => x.Respects s) .start xs := by
  have hkept : Kept History.step (fun s s' => KeepsTerminal s.jobs s'.jobs) .start xs ↔
      Along History.step (fun s x => KeepsTerminal s.jobs (s.step x).jobs) .start xs :=
    kept_iff_along (R := fun s s' : History => KeepsTerminal s.jobs s'.jobs)
      (fun s => KeepsTerminal.refl s.jobs) fun _ _ _ => KeepsTerminal.trans
  have hsteps : Along History.step (fun s x => x.Respects s) .start xs ↔
      Along History.step (fun s x => KeepsTerminal s.jobs (s.step x).jobs) .start xs ∧
        Along History.step KeepsHolder .start xs := by
    rw [← along_and]
    exact along_congr fun s x => (respects_iff s x).symm
  rw [hsteps]
  constructor
  · intro h
    exact ⟨hkept.mp h.terminal_final, along_iff_forall.mpr h.holder_kept⟩
  · intro h
    refine ⟨fun pre _ r hr => ?_, hkept.mpr h.1, along_iff_forall.mp h.2⟩
    exact (run_lockConsistent pre r hr).running_iff

/-- Worker A's lock goes stale, worker B claims the job, and A completes it. -/
def lateCompletion : List Attempt :=
  [⟨"A", .enqueue
      { jobName := "window", jobKind := .memoryWindowClose, utcNow := 0, insertedAt := "" }⟩,
    ⟨"A", .claim 1 "A" 0⟩,
    ⟨"janitor", .releaseStale (seconds 301) 300⟩,
    ⟨"B", .claim 1 "B" (seconds 302)⟩,
    ⟨"A", .complete 1 (seconds 303)⟩]

theorem lateCompletion_not_lifecycle : ¬ Lifecycle lateCompletion := by
  intro h
  have hlate := h.holder_kept (lateCompletion.take 4) ⟨"A", .complete 1 (seconds 303)⟩ [] rfl 1 rfl
  let held := run History.step .start (lateCompletion.take 4)
  have hheld : (held.jobs.find? 1).map (fun r => (r.id, r.status, r.lockOwner)) =
      some (1, .running, some "B") := by decide
  have hlost : held.lost = [("A", 1)] := by decide
  obtain ⟨r, hfind, hr⟩ := Option.map_eq_some_iff.mp hheld
  obtain ⟨hid, hstatus, howner⟩ : r.id = 1 ∧ r.status = .running ∧ r.lockOwner = some "B" := by
    simpa using hr
  have htaken : TakenOver held "A" r :=
    ⟨by simp [hlost, hid], hstatus, "B", howner, by decide⟩
  obtain ⟨r', hfind', hrunning, _⟩ := hlate r hfind htaken
  have hended : ((held.step ⟨"A", .complete 1 (seconds 303)⟩).jobs.find? 1).map (·.status) =
      some .succeeded := by decide
  have hsome := Option.map_eq_some_iff.mpr ⟨r', hfind', hrunning⟩
  have hboth : some JobStatus.running = some JobStatus.succeeded := hsome.symm.trans hended
  simp at hboth

end PrinterV1.Scheduler
