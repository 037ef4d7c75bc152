import Mathlib.Logic.Function.Basic
import PrinterV1.Foundation.Brackets
import PrinterV1.Scheduler.Lifecycle

/-!
# Scheduler calls as interleaved statements

Any number of clients call the scheduler, each over its own connection. A call
whose write follows a read is two inputs of the machine below: the first runs
the read and remembers what the client will write, the second runs the write.
Between the two any other client may run anything. The trace records when a
claim returns `ACQUIRED` and when a statement ends a job's lock.
-/

namespace PrinterV1.Scheduler

open Python Runs

/-- What a client has read and not yet written. -/
inductive Pending
  | idle
  | enqueuing (a : EnqueueArgs)
  | claiming (jobId : ℤ) (lockOwner : String) (now : Instant)
  | failing (jobId : ℤ) (u : FailUpdate)
  deriving DecidableEq, Repr

inductive Event (ω : Type*)
  | acquired (client : ω) (jobId : ℤ)
  | released (jobId : ℤ)
  deriving DecidableEq, Repr

structure Machine (ω : Type*) where
  jobs : Jobs
  pending : ω → Pending
  trace : List (Event ω)

inductive Input (ω : Type*)
  | begin (client : ω) (call : Call)
  | resume (client : ω)
  /-- The client's connection fails or its process ends. -/
  | abandon (client : ω)
  deriving DecidableEq, Repr

namespace Machine

variable {ω : Type*}

/-- No client has begun a call. -/
def idle (jobs : Jobs) : Machine ω where
  jobs := jobs
  pending := fun _ => .idle
  trace := []

def write (s : Machine ω) (jobs : Jobs) (events : List (Event ω)) : Machine ω :=
  { s with jobs := jobs, trace := s.trace ++ events }

/-- The rows of an update that ends their locks. -/
def releases (t : Jobs) (p : Job → Bool) : List (Event ω) :=
  (t.rows.filter p).map fun r => .released r.id

@[simp] theorem write_jobs (s : Machine ω) (jobs : Jobs) (es : List (Event ω)) :
    (s.write jobs es).jobs = jobs := rfl

@[simp] theorem write_trace (s : Machine ω) (jobs : Jobs) (es : List (Event ω)) :
    (s.write jobs es).trace = s.trace ++ es := rfl

@[simp] theorem write_pending (s : Machine ω) (jobs : Jobs) (es : List (Event ω)) :
    (s.write jobs es).pending = s.pending := rfl

theorem mem_releases {t : Jobs} {p : Job → Bool} {e : Event ω} :
    e ∈ releases t p ↔ ∃ r ∈ t.rows, p r = true ∧ e = .released r.id := by
  simp only [releases, List.mem_map, List.mem_filter, and_assoc, eq_comm]

variable [DecidableEq ω]

def wait (s : Machine ω) (client : ω) (p : Pending) : Machine ω :=
  { s with pending := Function.update s.pending client p }

/-- The first statement of a call, and its return when that was the last one. -/
def begin (s : Machine ω) (client : ω) : Call → Machine ω
  | .enqueue a =>
    match enqueueRead s.jobs a with
    | some _ => s
    | none => s.wait client (.enqueuing a)
  | .claim jobId lockOwner now =>
    match claimRead (s.jobs.find? jobId) now with
    | some _ => s
    | none => s.wait client (.claiming jobId lockOwner now)
  | .complete jobId now =>
    s.write (completeJob s.jobs jobId now) (releases s.jobs fun r => r.id = jobId)
  | .fail jobId error now maxRetries =>
    match failRead (s.jobs.find? jobId) error now maxRetries with
    | none => s
    | some u => s.wait client (.failing jobId u)
  | .cancel jobId now =>
    s.write (cancelJob s.jobs jobId now) (releases s.jobs fun r => r.id = jobId)
  | .releaseStale now timeout =>
    match shiftTime now (-timeout) with
    | none => s
    | some staleBefore =>
      s.write (releaseUpdate s.jobs staleBefore now) (releases s.jobs (staleLock staleBefore))

/-- The write of a call that has read. -/
def resume (s : Machine ω) (client : ω) : Machine ω :=
  match s.pending client with
  | .idle => s
  | .enqueuing a => (s.write (insertJob s.jobs a) []).wait client .idle
  | .claiming jobId lockOwner now =>
    (s.write (claimUpdate s.jobs jobId lockOwner now) [.acquired client jobId]).wait client .idle
  | .failing jobId u =>
    (s.write (failUpdate s.jobs jobId u) (releases s.jobs fun r => r.id = jobId)).wait client .idle

/-- A client begins a call only when it has none to finish. -/
def step (s : Machine ω) : Input ω → Machine ω
  | .begin client call => if s.pending client = .idle then s.begin client call else s
  | .resume client => s.resume client
  | .abandon client => s.wait client .idle

@[simp] theorem wait_jobs (s : Machine ω) (client : ω) (p : Pending) :
    (s.wait client p).jobs = s.jobs := rfl

@[simp] theorem wait_trace (s : Machine ω) (client : ω) (p : Pending) :
    (s.wait client p).trace = s.trace := rfl

@[simp] theorem wait_pending_self (s : Machine ω) (client : ω) (p : Pending) :
    (s.wait client p).pending client = p := by
  simp [wait]

theorem wait_pending_of_ne {s : Machine ω} {client other : ω} {p : Pending} (h : other ≠ client) :
    (s.wait client p).pending other = s.pending other := by
  simp [wait, h]

@[simp] theorem wait_idle_of_idle {s : Machine ω} {client : ω} (h : s.pending client = .idle) :
    s.wait client .idle = s := by
  simp [wait, ← h]

/-- The changes an input can make. The facts about the interleaved machine are
read off these, one write of the source for each constructor. -/
inductive Change (s : Machine ω) : Input ω → Machine ω → Prop
  | read {x : Input ω} (client : ω) (p : Pending)
      (hx : ∀ other, x = .resume other → s.pending other = .idle)
      (hclaim : ∀ jobId lockOwner now, p = .claiming jobId lockOwner now →
        claimRead (s.jobs.find? jobId) now = none) :
      Change s x (s.wait client p)
  | stay {x : Input ω} (hx : ∀ other, x = .resume other → s.pending other = .idle) :
      Change s x s
  | insert (client : ω) (a : EnqueueArgs) (h : s.pending client = .enqueuing a) :
      Change s (.resume client) ((s.write (insertJob s.jobs a) []).wait client .idle)
  | acquire (client : ω) (jobId : ℤ) (lockOwner : String) (now : Instant)
      (h : s.pending client = .claiming jobId lockOwner now) :
      Change s (.resume client) ((s.write (claimUpdate s.jobs jobId lockOwner now)
        [.acquired client jobId]).wait client .idle)
  | fail (client : ω) (jobId : ℤ) (u : FailUpdate) (h : s.pending client = .failing jobId u) :
      Change s (.resume client) ((s.write (failUpdate s.jobs jobId u)
        (releases s.jobs fun r => r.id = jobId)).wait client .idle)
  | finish (client : ω) (call : Call) (status : JobStatus) (jobId : ℤ) (now : Instant)
      (h : status.Terminal) :
      Change s (.begin client call) (s.write (finishUpdate status s.jobs jobId now)
        (releases s.jobs fun r => r.id = jobId))
  | release (client : ω) (call : Call) (staleBefore now : Instant) :
      Change s (.begin client call) (s.write (releaseUpdate s.jobs staleBefore now)
        (releases s.jobs (staleLock staleBefore)))

theorem change_begin (s : Machine ω) (client : ω) (call : Call) :
    Change s (.begin client call) (s.begin client call) := by
  have hx : ∀ other, Input.begin client call = .resume other → s.pending other = .idle := by
    intro other h
    cases h
  cases call with
  | enqueue a =>
    simp only [begin]
    cases enqueueRead s.jobs a with
    | some result => exact .stay hx
    | none => exact .read client _ hx (by simp)
  | claim jobId lockOwner now =>
    simp only [begin]
    cases h : claimRead (s.jobs.find? jobId) now with
    | some result => exact .stay hx
    | none =>
      refine .read client _ hx fun jobId' lockOwner' now' hp => ?_
      cases hp
      exact h
  | complete jobId now => exact .finish client _ .succeeded jobId now (by decide)
  | fail jobId error now maxRetries =>
    simp only [begin]
    cases failRead (s.jobs.find? jobId) error now maxRetries with
    | none => exact .stay hx
    | some u => exact .read client _ hx (by simp)
  | cancel jobId now => exact .finish client _ .cancelled jobId now (by decide)
  | releaseStale now timeout =>
    simp only [begin]
    cases shiftTime now (-timeout) with
    | none => exact .stay hx
    | some staleBefore => exact .release client _ staleBefore now

theorem change_resume (s : Machine ω) (client : ω) :
    Change s (.resume client) (s.resume client) := by
  unfold resume
  cases h : s.pending client with
  | idle =>
    refine .stay fun other hother => ?_
    cases hother
    exact h
  | enqueuing a => exact .insert client a h
  | claiming jobId lockOwner now => exact .acquire client jobId lockOwner now h
  | failing jobId u => exact .fail client jobId u h

theorem change_step (s : Machine ω) (x : Input ω) : Change s x (s.step x) := by
  cases x with
  | begin client call =>
    by_cases h : s.pending client = .idle
    · simpa only [step, if_pos h] using change_begin s client call
    · simp only [step, if_neg h]
      exact .stay (by simp)
  | resume client => exact change_resume s client
  | abandon client => exact .read client .idle (by simp) (by simp)

end Machine
end PrinterV1.Scheduler
