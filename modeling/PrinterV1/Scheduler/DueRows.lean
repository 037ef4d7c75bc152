import Mathlib.Data.Prod.Lex
import PrinterV1.Foundation.Faults
import PrinterV1.Foundation.Sorting
import PrinterV1.Lifecycle.LiveOwnership
import PrinterV1.Python.AwareDatetime
import PrinterV1.Scheduler.Lifecycle

/-!
# Due and stale rows

The queries that compare a stored timestamp with the timestamp of a datetime, as
texts: the due jobs, the stale locks and the due tracking items. On rows that
hold timestamps they select by the instants, and every run of the functions that
write the rows leaves them so.
-/

namespace PrinterV1.Lifecycle

open Python

def trackingLaneDueOrder : List TokenLifecycleState :=
  [.paperMonitoring, .trackFast, .trackNormal, .watchOnly, .cooldown]

/-- `QUEUE_LANE_PRIORITY[lane]` -/
def queueLanePriority (lane : TokenLifecycleState) : ℕ := trackingLaneDueOrder.idxOf lane + 1

/-- The row is queued, active or cooling down, in a lane that falls due. -/
def QueueRow.Waits (r : QueueRow) : Prop :=
  (∃ status ∈ [QueueStatus.queued, .active, .cooldown], r.queueStatus = some status.value) ∧
    r.trackingLane ∈ trackingLaneDueOrder

instance (r : QueueRow) : Decidable r.Waits := inferInstanceAs (Decidable (_ ∧ _))

/-- The `WHERE` clause of `get_due_tracking_items`. -/
def dueItem (now : String) (r : QueueRow) : Bool := r.Waits && r.nextCheckAt.any (· ≤ now)

variable (createdAt : ℤ → String)

def dueItemKey (r : QueueRow) : ℕ ×ₗ String ×ₗ String ×ₗ ℤ :=
  toLex (queueLanePriority r.trackingLane,
    toLex (r.nextCheckAt.getD "", toLex (createdAt r.id, r.id)))

/-- `get_due_tracking_items`, where `created_at` is what the row of an id was given. -/
def getDueTrackingItems (queue : Queue) (now : AwareDatetime) : Except PyError (List QueueRow) := do
  let text ← now.toTimestamp
  return sortBy (dueItemKey createdAt) (queue.rows.filter (dueItem text))

/-- The instants a call writes the timestamps of. -/
def Call.written : Call → List Instant
  | .claimTrackingItem a => [a.nextCheckAt]
  | .enqueueTrackingItem a => [a.nextCheckAt]
  | .updateTrackingLane _ _ _ _ nextCheckAt utcNow => [nextCheckAt, utcNow]
  | .setQueueStatus _ _ utcNow => [utcNow]
  | .pauseTrackingItem _ utcNow => [utcNow]
  | .archiveTrackingItem _ utcNow => [utcNow]

/-- The call; one whose timestamp is outside the calendar raises and writes nothing. -/
def performDated (s : Tracking) (c : Call) : Tracking :=
  if ∀ i ∈ c.written, InRange i then perform s c else s

end PrinterV1.Lifecycle

namespace PrinterV1.Scheduler

open Python Runs

/-- The job is pending or cools down. -/
def Job.Waits (r : Job) : Prop := r.status = .pending ∨ r.status = .cooldown

instance (r : Job) : Decidable r.Waits := inferInstanceAs (Decidable (_ ∨ _))

/-- The `WHERE` clause of `list_due_jobs`. -/
def dueJob (now : String) (r : Job) : Bool := r.Waits && r.scheduledFor ≤ now

/-- `LIMIT ?`, where a negative one is none. -/
def limited {α : Type} (limit : Option ℤ) (rows : List α) : List α :=
  match limit with
  | none => rows
  | some n => if n < 0 then rows else rows.take n.toNat

variable (createdAt : ℤ → String)

/-- `ORDER BY priority ASC, scheduled_for ASC, created_at ASC, id ASC` -/
def dueJobKey (r : Job) : ℤ ×ₗ String ×ₗ String ×ₗ ℤ :=
  toLex (r.priority, toLex (r.scheduledFor, toLex (createdAt r.id, r.id)))

/-- `list_due_jobs`, where `created_at` is what the row of an id was given. -/
def listDueJobs (t : Jobs) (now : AwareDatetime) (limit : Option ℤ) : Except PyError (List Job) := do
  let text ← now.toTimestamp
  return limited limit (sortBy (dueJobKey createdAt) (t.rows.filter (dueJob text)))

/-- `release_stale_locks`, given the datetime of the call. -/
def releaseStaleLocksAt (t : Jobs) (now : AwareDatetime) (lockTimeoutSeconds : ℤ) :
    Except PyError (ℕ × Jobs) := do
  let staleBefore ← now.sub (seconds lockTimeoutSeconds)
  let _ ← now.toTimestamp
  let _ ← staleBefore.toTimestamp
  let stale := staleLock staleBefore.instant
  return (t.countWhere stale, t.updateWhere stale ⟨releaseRow now.instant, fun _ => rfl⟩)

/-- The instants a call writes the timestamps of. -/
def Call.written (t : Jobs) : Call → List Instant
  | .enqueue a => [a.scheduledFor.getD a.utcNow]
  | .claim _ _ now => [now]
  | .complete _ now => [now]
  | .fail jobId _ now maxRetries =>
    match t.find? jobId with
    | none => [now]
    | some r =>
      if shouldCooldownFailedJob r.jobKind (r.retryCount + 1) maxRetries then
        [now, now + seconds (getRetryCooldownSeconds r.jobKind (r.retryCount + 1))]
      else [now]
  | .cancel _ now => [now]
  | .releaseStale now lockTimeoutSeconds => [now, now - seconds lockTimeoutSeconds]

/-- The call; one whose timestamp is outside the calendar raises and writes nothing. -/
def performDated (t : Jobs) (c : Call) : Jobs :=
  if ∀ i ∈ c.written t, InRange i then (c.perform t).2 else t

/-- The text is the timestamp of a datetime. -/
def IsTimestamp (text : String) : Prop := ∃ d : AwareDatetime, d.toTimestamp = .ok text

theorem isTimestamp_iff {text : String} :
    IsTimestamp text ↔ ∃ i, InRange i ∧ text = isoformat i := by
  constructor
  · rintro ⟨d, hd⟩
    exact ⟨d.instant, AwareDatetime.toTimestamp_ok_iff.mp hd⟩
  · rintro ⟨i, hi, rfl⟩
    exact ⟨.ofInstant i hi, AwareDatetime.toTimestamp_ofInstant hi⟩

theorem isTimestamp_isoformat {i : Instant} (h : InRange i) : IsTimestamp (isoformat i) :=
  isTimestamp_iff.mpr ⟨i, h, rfl⟩

/-- The job's times are timestamps. -/
structure Job.Stamped (r : Job) : Prop where
  scheduledFor : IsTimestamp r.scheduledFor
  lockedAt : ∀ text, r.lockedAt = some text → IsTimestamp text

def Stamped (t : Jobs) : Prop := ∀ r ∈ t.rows, r.Stamped

/-- The times of next checks are timestamps. -/
def StampedQueue (queue : Lifecycle.Queue) : Prop :=
  ∀ r ∈ queue.rows, ∀ text, r.nextCheckAt = some text → IsTimestamp text

theorem updateKey_stamped {t : Jobs} (ht : Stamped t) {k : ℤ} {u : Update Job.id}
    (h : ∀ r, t.find? k = some r → r.Stamped → (u.apply r).Stamped) : Stamped (t.updateKey k u) :=
  Table.forall_updateWhere ht fun r hr hk hstamped =>
    h r (Table.find?_eq_some_iff.mpr ⟨hr, by simpa using hk⟩) hstamped

/-- What is written by a failed job: the time it is to be tried again, or its time as it was. -/
theorem failRead_stamped {r : Job} (hr : r.Stamped) {error : String} {now : Instant}
    {maxRetries : ℤ} {u : FailUpdate} (hread : failRead (some r) error now maxRetries = some u) :
    IsTimestamp u.scheduledFor := by
  simp only [failRead, Option.bind_eq_bind, Option.bind_some] at hread
  split_ifs at hread with hcooldown
  · obtain ⟨scheduledFor, hshift, hread⟩ := Option.bind_eq_some_iff.mp hread
    obtain rfl := Option.some.inj hread
    obtain ⟨hrange, hshifted⟩ := Option.ite_none_right_eq_some.mp hshift
    obtain rfl := Option.some.inj hshifted
    exact isTimestamp_isoformat hrange
  · obtain ⟨i, hi, htext⟩ := isTimestamp_iff.mp hr.scheduledFor
    obtain ⟨parsed, hparsed, hread⟩ := Option.bind_eq_some_iff.mp hread
    obtain rfl := Option.some.inj hread
    rw [htext, parseTimestamp, fromisoformat_isoformat hi, Option.map_some,
      Option.some.injEq] at hparsed
    subst hparsed
    have hinstant : Datetime.instantUtc ⟨i, some 0⟩ = i := Int.sub_zero i
    rw [hinstant]
    exact isTimestamp_isoformat hi

/-- A call leaves timestamps where it found timestamps. -/
theorem performDated_stamped {t : Jobs} (ht : Stamped t) (c : Call) : Stamped (performDated t c) := by
  unfold performDated
  split_ifs with hrange
  · cases c with
    | enqueue a =>
      simp only [Call.written, List.forall_mem_singleton] at hrange
      simp only [Call.perform, enqueueJob]
      cases enqueueRead t a with
      | some result => exact ht
      | none =>
        refine Table.forall_insert (h := nextJobId_fresh t a) ht ⟨?_, fun text htext => ?_⟩
        · exact isTimestamp_isoformat hrange
        · cases htext
    | claim jobId lockOwner now =>
      simp only [Call.written, List.forall_mem_singleton] at hrange
      simp only [Call.perform, claimDueJob]
      cases claimRead (t.find? jobId) now with
      | some result => exact ht
      | none =>
        refine updateKey_stamped ht fun r _ hr => ⟨hr.scheduledFor, fun text htext => ?_⟩
        obtain rfl := Option.some.inj htext
        exact isTimestamp_isoformat hrange
    | complete jobId now =>
      refine updateKey_stamped ht fun r _ hr => ⟨hr.scheduledFor, fun text htext => ?_⟩
      cases htext
    | fail jobId error now maxRetries =>
      simp only [Call.perform, failJob]
      cases hread : failRead (t.find? jobId) error now maxRetries with
      | none => exact ht
      | some u =>
        refine updateKey_stamped ht fun r hfind hr => ⟨?_, fun text htext => ?_⟩
        · rw [hfind] at hread
          exact failRead_stamped hr hread
        · cases htext
    | cancel jobId now =>
      refine updateKey_stamped ht fun r _ hr => ⟨hr.scheduledFor, fun text htext => ?_⟩
      cases htext
    | releaseStale now timeout =>
      simp only [Call.perform, releaseStaleLocks]
      cases shiftTime now (-timeout) with
      | none => exact ht
      | some staleBefore =>
        refine Table.forall_updateWhere ht fun r _ _ hr => ⟨hr.scheduledFor, fun text htext => ?_⟩
        cases htext
  · exact ht

theorem claimTrackingItem_stamped {s : Lifecycle.Tracking} (hs : StampedQueue s.queue)
    {a : Lifecycle.ClaimArgs} (hrange : InRange a.nextCheckAt) :
    StampedQueue (Lifecycle.claimTrackingItem s a).2.queue := by
  by_cases hadmitted : a.admitted s.queue = true
  · simp only [Lifecycle.claimTrackingItem, if_pos hadmitted]
    refine Table.forall_insert (h := Lifecycle.nextQueueId_fresh s.queue) hs fun text htext => ?_
    obtain rfl := Option.some.inj htext
    exact isTimestamp_isoformat hrange
  · simp only [Lifecycle.claimTrackingItem, if_neg hadmitted]
    exact hs

theorem performDated_stampedQueue {s : Lifecycle.Tracking} (hs : StampedQueue s.queue)
    (c : Lifecycle.Call) : StampedQueue (Lifecycle.performDated s c).queue := by
  unfold Lifecycle.performDated
  split_ifs with hrange
  · cases c with
    | claimTrackingItem a =>
      exact claimTrackingItem_stamped hs (hrange a.nextCheckAt (by simp [Lifecycle.Call.written]))
    | enqueueTrackingItem a =>
      exact claimTrackingItem_stamped hs (hrange a.nextCheckAt (by simp [Lifecycle.Call.written]))
    | updateTrackingLane queueId lane action reason nextCheckAt utcNow =>
      refine Table.forall_updateWhere hs fun r _ _ _ text htext => ?_
      obtain rfl := Option.some.inj htext
      exact isTimestamp_isoformat (hrange nextCheckAt (by simp [Lifecycle.Call.written]))
    | setQueueStatus => exact Table.forall_updateWhere hs fun r _ _ hr => hr
    | pauseTrackingItem => exact Table.forall_updateWhere hs fun r _ _ hr => hr
    | archiveTrackingItem => exact Table.forall_updateWhere hs fun r _ _ hr => hr
  · exact hs

/-- A text that is a timestamp is not after the one of `now` where its datetime is not. -/
theorem le_timestamp_iff {text now : String} {d : AwareDatetime} (hnow : d.toTimestamp = .ok now)
    (htext : IsTimestamp text) :
    text ≤ now ↔ ∃ e : AwareDatetime, e.toTimestamp = .ok text ∧ e.instant ≤ d.instant := by
  constructor
  · intro hle
    obtain ⟨e, he⟩ := htext
    exact ⟨e, he, (AwareDatetime.timestamp_le_iff he hnow).mp hle⟩
  · rintro ⟨e, he, hle⟩
    exact (AwareDatetime.timestamp_le_iff he hnow).mpr hle

theorem lt_timestamp_iff {text now : String} {d : AwareDatetime} (hnow : d.toTimestamp = .ok now)
    (htext : IsTimestamp text) :
    text < now ↔ ∃ e : AwareDatetime, e.toTimestamp = .ok text ∧ e.instant < d.instant := by
  constructor
  · intro hlt
    obtain ⟨e, he⟩ := htext
    exact ⟨e, he, (AwareDatetime.timestamp_lt_iff he hnow).mp hlt⟩
  · rintro ⟨e, he, hlt⟩
    exact (AwareDatetime.timestamp_lt_iff he hnow).mpr hlt

/-- The job waits and was scheduled for an instant that has come. -/
def Job.DueAt (now : AwareDatetime) (r : Job) : Prop :=
  r.Waits ∧ ∃ d : AwareDatetime, d.toTimestamp = .ok r.scheduledFor ∧ d.instant ≤ now.instant

/-- The job runs under a lock that was taken before an instant. -/
def Job.StaleAt (before : AwareDatetime) (r : Job) : Prop :=
  r.status = .running ∧ ∃ text, r.lockedAt = some text ∧
    ∃ d : AwareDatetime, d.toTimestamp = .ok text ∧ d.instant < before.instant

/-- The row waits and the instant of its next check has come. -/
def ItemDueAt (now : AwareDatetime) (r : Lifecycle.QueueRow) : Prop :=
  r.Waits ∧ ∃ text, r.nextCheckAt = some text ∧
    ∃ d : AwareDatetime, d.toTimestamp = .ok text ∧ d.instant ≤ now.instant

theorem dueJob_iff {r : Job} (hr : r.Stamped) {now : AwareDatetime} {text : String}
    (hnow : now.toTimestamp = .ok text) : dueJob text r = true ↔ r.DueAt now := by
  simp only [dueJob, Bool.and_eq_true, decide_eq_true_eq, Job.DueAt]
  rw [le_timestamp_iff hnow hr.scheduledFor]

theorem staleLock_iff {r : Job} (hr : r.Stamped) {before : AwareDatetime} {text : String}
    (hbefore : before.toTimestamp = .ok text) :
    staleLock before.instant r = true ↔ r.StaleAt before := by
  have htext : toTimestamp before.instant = text :=
    (AwareDatetime.toTimestamp_ok_iff.mp hbefore).2.symm
  simp only [staleLock, Bool.and_eq_true, decide_eq_true_eq, Job.StaleAt, htext]
  cases hlock : r.lockedAt with
  | none => simp
  | some lockedAt =>
    simp only [Option.any_some, decide_eq_true_eq, Option.some.injEq, exists_eq_left']
    rw [lt_timestamp_iff hbefore (hr.lockedAt lockedAt hlock)]

theorem dueItem_iff {r : Lifecycle.QueueRow}
    (hr : ∀ text, r.nextCheckAt = some text → IsTimestamp text) {now : AwareDatetime}
    {text : String} (hnow : now.toTimestamp = .ok text) :
    Lifecycle.dueItem text r = true ↔ ItemDueAt now r := by
  simp only [Lifecycle.dueItem, Bool.and_eq_true, decide_eq_true_eq, ItemDueAt]
  cases hcheck : r.nextCheckAt with
  | none => simp
  | some nextCheckAt =>
    simp only [Option.any_some, decide_eq_true_eq, Option.some.injEq, exists_eq_left']
    rw [le_timestamp_iff hnow (hr nextCheckAt hcheck)]

/-- The first job goes before the second: by their priorities, then by the instants they were
scheduled for. -/
def InDueOrder (r r' : Job) : Prop :=
  r.priority < r'.priority ∨ r.priority = r'.priority ∧ ∀ d d' : AwareDatetime,
    d.toTimestamp = .ok r.scheduledFor → d'.toTimestamp = .ok r'.scheduledFor →
      d.instant ≤ d'.instant

theorem inDueOrder_of_key {createdAt : ℤ → String} {r r' : Job}
    (h : dueJobKey createdAt r ≤ dueJobKey createdAt r') : InDueOrder r r' := by
  rcases Prod.Lex.toLex_le_toLex.mp h with hpriority | ⟨hpriority, hrest⟩
  · exact .inl hpriority
  · refine .inr ⟨hpriority, fun d d' hd hd' => ?_⟩
    rw [← AwareDatetime.timestamp_le_iff hd hd']
    rcases Prod.Lex.toLex_le_toLex.mp hrest with hlt | ⟨heq, -⟩
    · exact le_of_lt hlt
    · exact le_of_eq heq

/-- Timestamps sort like instants, and so the queries on rows with timestamps select by the
instants; the rows of every run have timestamps. -/
structure SortLikeInstants : Prop where
  order : ∀ (a b : AwareDatetime) (s t : String), a.toTimestamp = .ok s → b.toTimestamp = .ok t →
    (s ≤ t ↔ a.instant ≤ b.instant)
  written : ∀ (d : AwareDatetime), (∃ s, d.toTimestamp = .ok s) ↔ InRange d.instant
  due : ∀ (createdAt : ℤ → String) (t : Jobs), Stamped t →
    ∀ (now : AwareDatetime) (limit : Option ℤ) (listed : List Job),
      listDueJobs createdAt t now limit = .ok listed →
        ∃ due : List Job, listed = limited limit due ∧ due.Nodup ∧
          (∀ r, r ∈ due ↔ r ∈ t.rows ∧ r.DueAt now) ∧ due.Pairwise InDueOrder
  stale : ∀ (t : Jobs), Stamped t → ∀ (now : AwareDatetime) (timeout : ℤ) (count : ℕ) (t' : Jobs),
    releaseStaleLocksAt t now timeout = .ok (count, t') →
      ∃ (before : AwareDatetime) (stale : List Job), now.sub (seconds timeout) = .ok before ∧
        stale.Nodup ∧ (∀ r, r ∈ stale ↔ r ∈ t.rows ∧ r.StaleAt before) ∧ count = stale.length ∧
        t'.rows = t.rows.map fun r => if r ∈ stale then releaseRow now.instant r else r
  tracked : ∀ (createdAt : ℤ → String) (queue : Lifecycle.Queue), StampedQueue queue →
    ∀ (now : AwareDatetime) (items : List Lifecycle.QueueRow),
      Lifecycle.getDueTrackingItems createdAt queue now = .ok items →
        items.Nodup ∧ ∀ r, r ∈ items ↔ r ∈ queue.rows ∧ ItemDueAt now r
  jobs : ∀ cs : List Call, Stamped (run performDated Table.empty cs)
  items : ∀ cs : List Lifecycle.Call, StampedQueue (run Lifecycle.performDated .start cs).queue

theorem listDueJobs_ok {createdAt : ℤ → String} {t : Jobs} (ht : Stamped t) {now : AwareDatetime}
    {limit : Option ℤ} {listed : List Job} (h : listDueJobs createdAt t now limit = .ok listed) :
    ∃ due : List Job, listed = limited limit due ∧ due.Nodup ∧
      (∀ r, r ∈ due ↔ r ∈ t.rows ∧ r.DueAt now) ∧ due.Pairwise InDueOrder := by
  obtain ⟨text, hnow, h⟩ := Faults.bind_ok h
  refine ⟨_, (Except.ok.inj h).symm, ?_, fun r => ?_, ?_⟩
  · rw [(sortBy_perm _ _).nodup_iff]
    exact t.nodup.of_map.filter _
  · rw [mem_sortBy, List.mem_filter]
    exact and_congr_right fun hr => dueJob_iff (ht r hr) hnow
  · exact (sortBy_sorted (dueJobKey createdAt) _).imp inDueOrder_of_key

theorem releaseStaleLocksAt_ok {t : Jobs} (ht : Stamped t) {now : AwareDatetime} {timeout : ℤ}
    {count : ℕ} {t' : Jobs} (h : releaseStaleLocksAt t now timeout = .ok (count, t')) :
    ∃ (before : AwareDatetime) (stale : List Job), now.sub (seconds timeout) = .ok before ∧
      stale.Nodup ∧ (∀ r, r ∈ stale ↔ r ∈ t.rows ∧ r.StaleAt before) ∧ count = stale.length ∧
      t'.rows = t.rows.map fun r => if r ∈ stale then releaseRow now.instant r else r := by
  obtain ⟨before, hbefore, h⟩ := Faults.bind_ok h
  obtain ⟨_, _, h⟩ := Faults.bind_ok h
  obtain ⟨text, htext, h⟩ := Faults.bind_ok h
  obtain ⟨rfl, rfl⟩ := Prod.mk.inj (Except.ok.inj h)
  refine ⟨before, t.rows.filter (staleLock before.instant), hbefore, ?_, fun r => ?_, rfl, ?_⟩
  · exact t.nodup.of_map.filter _
  · rw [List.mem_filter]
    exact and_congr_right fun hr => staleLock_iff (ht r hr) htext
  · apply List.map_congr_left
    intro r hr
    by_cases hstale : staleLock before.instant r = true
    · simp [hstale, hr]
    · simp [hstale]

theorem getDueTrackingItems_ok {createdAt : ℤ → String} {queue : Lifecycle.Queue}
    (hqueue : StampedQueue queue) {now : AwareDatetime} {items : List Lifecycle.QueueRow}
    (h : Lifecycle.getDueTrackingItems createdAt queue now = .ok items) :
    items.Nodup ∧ ∀ r, r ∈ items ↔ r ∈ queue.rows ∧ ItemDueAt now r := by
  obtain ⟨text, hnow, h⟩ := Faults.bind_ok h
  obtain rfl := Except.ok.inj h
  refine ⟨?_, fun r => ?_⟩
  · rw [(sortBy_perm _ _).nodup_iff]
    exact queue.nodup.of_map.filter _
  · rw [mem_sortBy, List.mem_filter]
    exact and_congr_right fun hr => dueItem_iff (hqueue r hr) hnow

theorem timestamps_sortLikeInstants : SortLikeInstants where
  order _ _ _ _ := AwareDatetime.timestamp_le_iff
  written d := by
    constructor
    · rintro ⟨s, hs⟩
      exact (AwareDatetime.toTimestamp_ok_iff.mp hs).1
    · intro h
      exact ⟨_, AwareDatetime.toTimestamp_ok_iff.mpr ⟨h, rfl⟩⟩
  due _ _ ht _ _ _ := listDueJobs_ok ht
  stale _ ht _ _ _ _ := releaseStaleLocksAt_ok ht
  tracked _ _ hqueue _ _ := getDueTrackingItems_ok hqueue
  jobs cs := by
    apply invariant
    · intro t c ht
      exact performDated_stamped ht c
    · intro r hr
      cases hr
  items cs := by
    apply invariant (I := fun s : Lifecycle.Tracking => StampedQueue s.queue)
    · intro s c hs
      exact performDated_stampedQueue hs c
    · intro r hr
      cases hr

end PrinterV1.Scheduler
