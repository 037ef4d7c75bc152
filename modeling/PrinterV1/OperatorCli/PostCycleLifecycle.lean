import PrinterV1.Foundation.Sorting
import PrinterV1.Lifecycle.TrackingQueue
import PrinterV1.Scheduler.Jobs
import PrinterV1.Snapshots.LifecycleContinuity

/-!
# Reconciliation after a cycle

Every selected token of a factory run is given a terminal disposition: its jobs
and support steps are cancelled, its row of the tracking queue is closed and an
event under the key of the run, the token and the pair records what was done. A
call that finds the event keeps it and goes through the rest again.
-/

namespace PrinterV1.OperatorCli.PostCycle

open Python Scheduler Snapshots

/-- A row of `printer_tracking_queue`, as far as a reconciliation reads or writes it. -/
structure QueueRow where
  id : ℤ
  tokenId : ℤ
  pairId : Option ℤ
  trackingLane : String
  trackingAction : String
  priorityReason : Option String
  nextCheckAt : Option String
  lastCheckedAt : Option String
  queueStatus : Option String
  updatedAt : String
  deriving DecidableEq, Repr

/-- The payload a reconciliation writes. -/
structure Payload where
  factoryReconciliationKey : String
  runId : String
  stopReason : String
  terminalStatus : String
  mainWindowOnly : Bool
  support5mAuditOnly : Bool
  support5mStepIds : List ℤ
  support5mWindowIds : List ℤ
  trackingQueueId : Option ℤ
  cooldownStartedAt : Option String
  cooldownUntil : Option String
  cooldownSeconds : Option ℤ
  deriving DecidableEq, Repr

/-- A row of `printer_token_lifecycle_events`. Other writers' payloads have no
reconciliation key and are `none` here, as are payloads that cannot be read. -/
structure EventRow where
  id : ℤ
  tokenId : ℤ
  pairId : Option ℤ
  previousState : Option String
  newState : String
  lifecycleEvent : String
  priorityReason : Option String
  sourceStatus : String
  dataQualityLabel : String
  payload : Option Payload
  deriving DecidableEq, Repr

@[ext]
structure Database where
  queue : Table QueueRow.id
  steps : Table Snapshots.RunStep.id
  jobs : Jobs
  events : Table EventRow.id

/-- A selected token. -/
structure Target where
  tokenId : ℤ
  pairId : ℤ
  trackingLane : String
  tokenMint : Option String := none
  pairAddress : Option String := none
  deriving DecidableEq, Repr

def Target.key (t : Target) : ℤ × ℤ := (t.tokenId, t.pairId)

/-- What discovery handed on for a token. -/
structure Handoff where
  tokenId : Option ℤ := none
  pairId : Option ℤ := none
  trackingQueueId : Option ℤ := none
  schedulerJobId : Option ℤ := none
  deriving DecidableEq, Repr

structure Outcome where
  tokenId : Option ℤ := none
  pairId : Option ℤ := none
  terminalStatus : Option String := none
  reachedTerminalWindow : Bool := false
  deriving DecidableEq, Repr

/-- A factory run with its selected tokens, no token and pair twice. -/
structure Factory where
  runId : String
  selectedTokens : List Target
  discoveryResults : List Handoff
  distinct : (selectedTokens.map Target.key).Nodup

/-- The arguments that may change from call to call; the clock gives the two
readings of a token, before its jobs are cancelled and after. -/
structure Call where
  perTokenOutcomes : List Outcome
  stopReason : String
  archivePolicy : String := "cooldown"
  clock : ℤ × ℤ → Instant × Instant

inductive Disposition
  | cooldown | archived | skipped
  deriving DecidableEq, Repr

/-- The status a queue row is closed with. -/
def Disposition.status : Disposition → String
  | .cooldown => "COOLDOWN"
  | .archived => "ARCHIVED"
  | .skipped => "SKIPPED"

def Disposition.lifecycleEvent : Disposition → String
  | .cooldown => "ENTER_COOLDOWN"
  | .archived => "ARCHIVE_AFTER_MEMORY_WINDOW"
  | .skipped => "MANUAL_REVIEW"

def Disposition.newState (trackingLane : String) : Disposition → String
  | .cooldown => "COOLDOWN"
  | .archived => "ARCHIVED"
  | .skipped => trackingLane

/-- `_TERMINAL_MAIN_STATUSES` -/
def terminalMainStatuses : List String := ["CLEAN", "DIRTY", "NO_PROMOTION"]

/-- `_ACTIVE_QUEUE_STATUSES` -/
def activeQueueStatuses : List String := ["QUEUED", "ACTIVE", "PAUSED", "COOLDOWN"]

/-- The last row for a token and pair, as in a mapping built from the rows. -/
def lastFor {α : Type} (key : α → Option (ℤ × ℤ)) (rows : List α) (k : ℤ × ℤ) : Option α :=
  rows.reverse.find? fun row => key row = some k

def Outcome.key (o : Outcome) : Option (ℤ × ℤ) :=
  match o.tokenId, o.pairId with
  | some tokenId, some pairId => some (tokenId, pairId)
  | _, _ => none

def Handoff.key (h : Handoff) : Option (ℤ × ℤ) :=
  match h.tokenId, h.pairId with
  | some tokenId, some pairId => some (tokenId, pairId)
  | _, _ => none

def Call.outcome (c : Call) (t : Target) : Outcome :=
  (lastFor Outcome.key c.perTokenOutcomes t.key).getD {}

def Factory.handoff (F : Factory) (t : Target) : Handoff :=
  (lastFor Handoff.key F.discoveryResults t.key).getD {}

/-- `str(outcome.get("terminal_status") or "INCOMPLETE")` -/
def Outcome.terminal (o : Outcome) : String :=
  match o.terminalStatus with
  | some status => if status = "" then "INCOMPLETE" else status
  | none => "INCOMPLETE"

/-- `main_terminal` -/
def Outcome.mainTerminal (o : Outcome) : Bool :=
  o.terminal ∈ terminalMainStatuses ∧ o.reachedTerminalWindow = true

def Call.disposition (c : Call) (t : Target) : Disposition :=
  if (c.outcome t).mainTerminal then
    if c.archivePolicy = "archive" then .archived else .cooldown
  else .skipped

/-- `reconciliation_key` -/
def Factory.reconciliationKey (F : Factory) (t : Target) : String :=
  F.runId ++ ":" ++ toString t.tokenId ++ ":" ++ toString t.pairId

/-- The `SUPPORT_5M` steps of the token, in the order of their ids. -/
def supportRows (F : Factory) (steps : Table Snapshots.RunStep.id) (t : Target) : List Snapshots.RunStep :=
  sortBy Snapshots.RunStep.id (steps.rows.filter fun s => s.runId = F.runId ∧ s.tokenId = some t.tokenId ∧
    s.pairId = some t.pairId ∧ s.stepKind = "SUPPORT_5M")

/-- The lifecycle events of the token and pair. -/
def eventsOf (events : Table EventRow.id) (t : Target) : List EventRow :=
  events.rows.filter fun e => e.tokenId = t.tokenId ∧ e.pairId = some t.pairId

/-- `_find_reconciliation_event` -/
def findReconciliationEvent (events : List EventRow) (key : String) : Option EventRow :=
  (sortBy EventRow.id events).find? fun e =>
    e.payload.map Payload.factoryReconciliationKey = some key

/-- The queue rows of the token and pair. -/
def queueRowsOf (queue : Table QueueRow.id) (t : Target) : List QueueRow :=
  queue.rows.filter fun r => r.tokenId = t.tokenId ∧ r.pairId = some t.pairId

def QueueRow.active (r : QueueRow) : Bool := r.queueStatus.any fun s => s ∈ activeQueueStatuses

/-- The row of the token and pair that was handed on. -/
def suppliedRow (rows : List QueueRow) (suppliedQueueId : Option ℤ) : Option QueueRow :=
  suppliedQueueId.bind fun id => rows.find? fun r => r.id = id

/-- The active rows of the lane. -/
def laneRows (rows : List QueueRow) (trackingLane : String) : List QueueRow :=
  rows.filter fun r => r.trackingLane = trackingLane ∧ r.active = true

/-- `_resolve_queue_id`, on the rows of the token and pair. -/
def resolveQueueRow (rows : List QueueRow) (trackingLane : String)
    (suppliedQueueId : Option ℤ) : Option QueueRow :=
  match suppliedRow rows suppliedQueueId with
  | some row => some row
  | none => (laneRows rows trackingLane).maxOn? QueueRow.id

/-- The jobs that go with a token. -/
def associatedJobs (jobs : Jobs) (queueId suppliedJobId : Option ℤ) (support : List Snapshots.RunStep) :
    List ℤ :=
  suppliedJobId.toList ++
    (match queueId with
    | none => []
    | some queueId => (jobs.rows.filter fun j => j.targetTable = some "printer_tracking_queue" ∧
        j.targetId = some queueId ∧ j.status.Active).map Job.id) ++
    support.filterMap Snapshots.RunStep.schedulerJobId

def cancelJob (now : Instant) : Update Job.id where
  apply j :=
    { j with
      status := .cancelled
      finishedAt := some (isoformat now)
      lockedAt := none
      lockOwner := none
      updatedAt := isoformat now }
  key_apply := fun _ => rfl

/-- `_cancel_associated_jobs`: of the jobs, each looked up once, the active ones are
cancelled. -/
def cancelAssociatedJobs (jobs : Jobs) (ids : List ℤ) (now : Instant) : List ℤ × Jobs :=
  let cancelled := (sortedSet ids).filter fun id =>
    jobs.rows.any fun j => j.id = id ∧ j.status.Active
  (cancelled, jobs.updateWhere (fun j => j.id ∈ ids ∧ j.status.Active) (cancelJob now))

def stepOpen (s : Snapshots.RunStep) : Bool := s.stepStatus = "PENDING" ∨ s.stepStatus = "RUNNING"

def cancelStep (stopReason : String) (now : Instant) : Update Snapshots.RunStep.id where
  apply s :=
    { s with
      stepStatus := "CANCELLED"
      errorOrSkipReason := some ("parent_terminal_reconciliation:" ++ stopReason)
      finishedAt := some (isoformat now)
      updatedAt := isoformat now }
  key_apply := fun _ => rfl

/-- The cooldown of the disposition: that of the event where there is one. -/
def cooldownUntil (d : Disposition) (existing : Option EventRow) (now : Instant) :
    Option String :=
  if d = .cooldown then
    match existing with
    | none => some (isoformat (now + seconds Lifecycle.trackingCooldownSeconds))
    | some e => e.payload.bind Payload.cooldownUntil
  else none

def closeRow (d : Disposition) (reason : String) (cooldownUntil : Option String)
    (now : Instant) : Update QueueRow.id where
  apply r :=
    { r with
      queueStatus := some d.status
      trackingAction := d.lifecycleEvent
      priorityReason := some reason
      nextCheckAt := if cooldownUntil = none then r.nextCheckAt else cooldownUntil
      lastCheckedAt := some (isoformat now)
      updatedAt := isoformat now }
  key_apply := fun _ => rfl

/-- The row is closed: it is active and has another status. -/
def QueueRow.closes (d : Disposition) (r : QueueRow) : Bool :=
  r.active = true ∧ r.queueStatus ≠ some d.status

def nextEventId (events : Table EventRow.id) : ℤ := nextRowid (events.rows.map EventRow.id)

/-- The event of a first reconciliation. -/
def newEvent (F : Factory) (c : Call) (t : Target) (support : List Snapshots.RunStep)
    (queueId : Option ℤ) (cooldownUntil : Option String) (now : Instant) (id : ℤ) : EventRow where
  id := id
  tokenId := t.tokenId
  pairId := some t.pairId
  previousState := some t.trackingLane
  newState := (c.disposition t).newState t.trackingLane
  lifecycleEvent := (c.disposition t).lifecycleEvent
  priorityReason := some "factory_post_cycle_reconciliation"
  sourceStatus := "COMPLETE"
  dataQualityLabel := if (c.outcome t).mainTerminal then "CLEAN_DATA" else "DO_NOT_TRAIN"
  payload := some
    { factoryReconciliationKey := F.reconciliationKey t
      runId := F.runId
      stopReason := c.stopReason
      terminalStatus := (c.outcome t).terminal
      mainWindowOnly := true
      support5mAuditOnly := true
      support5mStepIds := support.map Snapshots.RunStep.id
      support5mWindowIds := support.filterMap Snapshots.RunStep.memoryWindowId
      trackingQueueId := queueId
      cooldownStartedAt := if c.disposition t = .cooldown then some (isoformat now) else none
      cooldownUntil := cooldownUntil
      cooldownSeconds :=
        if c.disposition t = .cooldown then some Lifecycle.trackingCooldownSeconds else none }

theorem nextEventId_fresh (events : Table EventRow.id) :
    ∀ old ∈ events.rows, old.id ≠ nextEventId events := by
  intro old hold
  have hlt : old.id < nextEventId events := lt_nextRowid (List.mem_map_of_mem hold)
  exact Int.ne_of_lt hlt

/-- What a call reports of a token. -/
structure Transition where
  target : Target
  trackingQueueId : Option ℤ
  terminalDisposition : Disposition
  terminalReason : String
  lifecycleEventId : ℤ
  cooldownUntil : Option String
  idempotentReplay : Bool
  cancelledSchedulerJobIds : List ℤ
  remainingActiveSchedulerJobs : ℕ
  support5m : List Snapshots.RunStep

/-- `_active_jobs_for_queue` -/
def activeJobsForQueue (jobs : Jobs) : Option ℤ → ℕ
  | none => 0
  | some queueId => jobs.countWhere fun j => j.targetTable = some "printer_tracking_queue" ∧
      j.targetId = some queueId ∧ j.status.Active

/-- The loop body of `reconcile_factory_post_cycle_lifecycle`. -/
def reconcileTarget (F : Factory) (c : Call) (db : Database) (t : Target) :
    Database × Transition :=
  let d := c.disposition t
  let support := supportRows F db.steps t
  let existing := findReconciliationEvent (eventsOf db.events t) (F.reconciliationKey t)
  let handoff := F.handoff t
  let queueId := (resolveQueueRow (queueRowsOf db.queue t) t.trackingLane
    handoff.trackingQueueId).map QueueRow.id
  let ids := associatedJobs db.jobs queueId handoff.schedulerJobId support
  let (cancelled, jobs) := cancelAssociatedJobs db.jobs ids (c.clock t.key).1
  let now := (c.clock t.key).2
  let cooldown := cooldownUntil d existing now
  let steps := db.steps.updateWhere (fun s => s ∈ support ∧ stepOpen s = true)
    (cancelStep c.stopReason now)
  let reason := "factory_terminal:" ++ c.stopReason ++ ":" ++ (c.outcome t).terminal
  let queue := db.queue.updateWhere (fun r => queueId = some r.id ∧ r.closes d = true)
    (closeRow d reason cooldown now)
  let id := nextEventId db.events
  let events := match existing with
    | some _ => db.events
    | none => db.events.insert (newEvent F c t support queueId cooldown now id)
        (nextEventId_fresh db.events)
  ({ queue, steps, jobs, events },
    { target := t
      trackingQueueId := queueId
      terminalDisposition := d
      terminalReason := c.stopReason ++ ":" ++ (c.outcome t).terminal
      lifecycleEventId := (existing.map EventRow.id).getD id
      cooldownUntil := cooldown
      idempotentReplay := existing.isSome
      cancelledSchedulerJobIds := cancelled
      remainingActiveSchedulerJobs := activeJobsForQueue jobs queueId
      support5m :=
        support.map fun s => if stepOpen s then { s with stepStatus := "CANCELLED" } else s })

/-- The loop over the selected tokens. -/
def reconcileTargets (F : Factory) (c : Call) (db : Database) :
    List Target → Database × List Transition
  | [] => (db, [])
  | t :: ts =>
    let (db', transition) := reconcileTarget F c db t
    let (db'', transitions) := reconcileTargets F c db' ts
    (db'', transition :: transitions)

/-- `reconcile_factory_post_cycle_lifecycle` -/
def reconcileFactoryPostCycleLifecycle (F : Factory) (db : Database) (c : Call) :
    Except String (Database × List Transition) :=
  if c.archivePolicy ≠ "cooldown" ∧ c.archivePolicy ≠ "archive" then
    .error ("unsupported archive_policy: " ++ c.archivePolicy)
  else .ok (reconcileTargets F c db F.selectedTokens)

end PrinterV1.OperatorCli.PostCycle
