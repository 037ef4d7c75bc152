import PrinterV1.Foundation.Tables
import PrinterV1.Lifecycle.Contracts
import PrinterV1.Python.Datetime
import PrinterV1.Python.Value
import PrinterV1.Scheduler.Contracts
import PrinterV1.Sources.Governor

/-!
# The tracking queue

The rows of `printer_tracking_queue`, the assessment of a handoff against the
latest row of a token, pair and lane, and the functions that write the queue. A
claim appends a row; a requalifying claim also records a lifecycle event that
names the row it succeeds.
-/

namespace PrinterV1.Lifecycle

open Python Sources

/-- A row of `printer_tracking_queue`. -/
structure QueueRow where
  id : ℤ
  tokenId : ℤ
  pairId : Option ℤ
  trackingLane : TokenLifecycleState
  trackingAction : LifecycleEvent
  priorityReason : String
  nextCheckAt : Option String
  lastCheckedAt : Option String
  queueStatus : Option String
  sourceStatus : SourceStatus
  dataQualityLabel : DataQualityLabel
  updatedAt : String
  deriving DecidableEq, Repr

abbrev Queue := Table QueueRow.id

/-- A row of `printer_token_lifecycle_events`, with its payload as a mapping. -/
structure LifecycleEventRow where
  tokenId : ℤ
  pairId : Option ℤ
  previousState : Option TokenLifecycleState
  newState : TokenLifecycleState
  lifecycleEvent : LifecycleEvent
  priorityReason : String
  sourceStatus : SourceStatus
  dataQualityLabel : DataQualityLabel
  eventPayload : Dict
  deriving DecidableEq, Repr

/-- The tables the functions of this module write. -/
structure Tracking where
  queue : Queue
  events : List LifecycleEventRow

def Tracking.start : Tracking := ⟨Table.empty, []⟩

def toTimestamp (value : Instant) : String := isoformat value

def normalizePairId (pairId : Option ℤ) : ℤ := pairId.getD (-1)

/-- `_parse_timestamp`: blank and unreadable texts are no time at all. -/
def parseTimestamp (value : Option String) : Option Instant := do
  let text ← value
  if strip text = "" then none
  let parsed ← fromisoformat (replaceZulu text)
  some parsed.instantUtc

def trackingCooldownSeconds : ℤ := Scheduler.nextCheckIntervalSeconds .backupSourceCheck

/-- The instant a cooldown ends, and whether it was derived from the last check. -/
def effectiveCooldownExpiry (row : QueueRow) : Option Instant × Bool :=
  match parseTimestamp row.lastCheckedAt with
  | none => (none, false)
  | some lastChecked =>
    match parseTimestamp row.nextCheckAt with
    | some nextCheck =>
      if nextCheck > lastChecked then (some nextCheck, false)
      else (some (lastChecked + seconds trackingCooldownSeconds), true)
    | none => (some (lastChecked + seconds trackingCooldownSeconds), true)

def handoffFresh : String := "FRESH_TRACKING_IDENTITY"
def handoffActiveConflict : String := "DUPLICATE_ACTIVE_TRACKING"
def handoffCooldownReopenRequired : String := "COOLDOWN_REOPEN_REQUIRED"
def handoffCooldownRequalificationRequired : String := "COOLDOWN_REQUALIFICATION_REQUIRED"
def handoffTerminalReopenRequired : String := "TERMINAL_TRACKING_STATE"
def handoffUnsupportedState : String := "UNSUPPORTED_TRACKING_QUEUE_STATE"

structure TrackingHandoffAssessment where
  eligible : Bool
  category : String
  reasonCode : Option String
  queueId : Option ℤ
  queueStatus : Option String
  requalificationEligible : Bool := false
  cooldownUntil : Option String := none
  historicalCooldownExpiryDerived : Bool := false
  deriving DecidableEq, Repr

/-- An assessment that refuses the handoff. -/
def refuseHandoff (row : QueueRow) (category : String) (queueStatus : Option String) :
    TrackingHandoffAssessment :=
  { eligible := false
    category := category
    reasonCode := some category
    queueId := some row.id
    queueStatus := queueStatus }

/-- The assessment of a row in cooldown: it requalifies once the cooldown is over
at the instant of the assessment. -/
def assessCooldown (row : QueueRow) (assessedAt : Option Datetime) : TrackingHandoffAssessment :=
  let expiry := effectiveCooldownExpiry row
  let refused :=
    { refuseHandoff row handoffCooldownReopenRequired (some QueueStatus.cooldown.value) with
      cooldownUntil := expiry.1.map toTimestamp
      historicalCooldownExpiryDerived := expiry.2 }
  match expiry.1, assessedAt with
  | some cooldownUntil, some instant =>
    if instant.instantUtc ≥ cooldownUntil then
      { eligible := true
        category := handoffCooldownRequalificationRequired
        reasonCode := none
        queueId := some row.id
        queueStatus := some QueueStatus.cooldown.value
        requalificationEligible := true
        cooldownUntil := some (toTimestamp cooldownUntil)
        historicalCooldownExpiryDerived := expiry.2 }
    else refused
  | _, _ => refused

/-- `_handoff_assessment` on the latest row. -/
def handoffAssessment (row : Option QueueRow) (assessedAt : Option Datetime) :
    TrackingHandoffAssessment :=
  match row with
  | none =>
    { eligible := true, category := handoffFresh, reasonCode := none, queueId := none
      queueStatus := none }
  | some row =>
    let rawStatus := row.queueStatus.getD ""
    match QueueStatus.ofValue? rawStatus with
    | none =>
      refuseHandoff row handoffUnsupportedState (if rawStatus = "" then none else some rawStatus)
    | some .cooldown => assessCooldown row assessedAt
    | some status =>
      if status ∈ liveTrackingOwnershipStatuses then
        refuseHandoff row handoffActiveConflict (some status.value)
      else refuseHandoff row handoffTerminalReopenRequired (some status.value)

/-- The latest row a query finds. -/
def latestRow (queue : Queue) (p : QueueRow → Bool) : Option QueueRow :=
  (queue.rows.filter p).maxOn? QueueRow.id

/-- The `WHERE` clause of the assessment, with its `COALESCE`. -/
def sameTracking (tokenId : ℤ) (pairId : Option ℤ) (lane : TokenLifecycleState) (r : QueueRow) :
    Bool :=
  r.tokenId = tokenId && normalizePairId r.pairId = normalizePairId pairId && r.trackingLane = lane

def assessTrackingHandoff (queue : Queue) (tokenId : ℤ) (pairId : Option ℤ)
    (lane : TokenLifecycleState) (assessedAt : Option Datetime) : TrackingHandoffAssessment :=
  handoffAssessment (latestRow queue (sameTracking tokenId pairId lane)) assessedAt

/-- The arguments of `claim_tracking_item`, with the default clock of the row. -/
structure ClaimArgs where
  tokenId : ℤ
  pairId : Option ℤ
  trackingLane : TokenLifecycleState
  trackingAction : LifecycleEvent
  priorityReason : String
  nextCheckAt : Instant
  sourceStatus : SourceStatus
  dataQualityLabel : DataQualityLabel
  assessedAt : Option Datetime := none
  freshEvidenceRequalification : Bool := false
  requalificationLineage : Dict := []
  insertedAt : String
  deriving DecidableEq, Repr

def ClaimArgs.assessment (a : ClaimArgs) (queue : Queue) : TrackingHandoffAssessment :=
  assessTrackingHandoff queue a.tokenId a.pairId a.trackingLane a.assessedAt

/-- Whether the claim goes on to insert its row. -/
def ClaimArgs.admitted (a : ClaimArgs) (queue : Queue) : Bool :=
  (a.assessment queue).eligible &&
    !((a.assessment queue).requalificationEligible && !a.freshEvidenceRequalification)

def ClaimArgs.row (a : ClaimArgs) (assessment : TrackingHandoffAssessment) (id : ℤ) : QueueRow where
  id := id
  tokenId := a.tokenId
  pairId := a.pairId
  trackingLane := a.trackingLane
  trackingAction :=
    if assessment.requalificationEligible then .reopenRevivedToken else a.trackingAction
  priorityReason := a.priorityReason
  nextCheckAt := some (toTimestamp a.nextCheckAt)
  lastCheckedAt := none
  queueStatus := some QueueStatus.queued.value
  sourceStatus := a.sourceStatus
  dataQualityLabel := a.dataQualityLabel
  updatedAt := a.insertedAt

def optionValue {α : Type} (f : α → Value) : Option α → Value
  | none => .none
  | some x => f x

/-- The event a requalifying claim records; the lineage may replace any item. -/
def ClaimArgs.event (a : ClaimArgs) (assessment : TrackingHandoffAssessment) (queueId : ℤ) :
    LifecycleEventRow where
  tokenId := a.tokenId
  pairId := a.pairId
  previousState := some .cooldown
  newState := a.trackingLane
  lifecycleEvent := .reopenRevivedToken
  priorityReason := "expired_cooldown_fresh_requalification"
  sourceStatus := a.sourceStatus
  dataQualityLabel := a.dataQualityLabel
  eventPayload := Dict.merge
    [("predecessor_queue_id", optionValue .int assessment.queueId),
      ("predecessor_queue_status", optionValue .str assessment.queueStatus),
      ("predecessor_tracking_lane", .str a.trackingLane.value),
      ("cooldown_until", optionValue .str assessment.cooldownUntil),
      ("historical_cooldown_expiry_derived", .bool assessment.historicalCooldownExpiryDerived),
      ("fresh_evidence_requalification", .bool true),
      ("new_tracking_queue_id", .int queueId)]
    a.requalificationLineage

def nextQueueId (queue : Queue) : ℤ := nextRowid (queue.rows.map QueueRow.id)

theorem nextQueueId_fresh (queue : Queue) : ∀ old ∈ queue.rows, old.id ≠ nextQueueId queue := by
  intro old hold
  have h : old.id < nextQueueId queue := lt_nextRowid (List.mem_map_of_mem hold)
  exact Int.ne_of_lt h

def insertRow (queue : Queue) (a : ClaimArgs) : Queue :=
  queue.insert (a.row (a.assessment queue) (nextQueueId queue)) (nextQueueId_fresh queue)

def claimTrackingItem (s : Tracking) (a : ClaimArgs) : (Bool × Option ℤ) × Tracking :=
  let assessment := a.assessment s.queue
  if a.admitted s.queue then
    let queueId := nextQueueId s.queue
    ((true, some queueId),
      { queue := insertRow s.queue a
        events :=
          if assessment.requalificationEligible then s.events ++ [a.event assessment queueId]
          else s.events })
  else ((false, none), s)

/-- `enqueue_tracking_item`: a claim without an instant and a requalification. -/
def enqueueTrackingItem (s : Tracking) (a : ClaimArgs) : (Bool × Option ℤ) × Tracking :=
  claimTrackingItem s
    { a with
      assessedAt := none
      freshEvidenceRequalification := false
      requalificationLineage := [] }

def relaneRow (lane : TokenLifecycleState) (action : LifecycleEvent) (reason : String)
    (nextCheckAt utcNow : Instant) (r : QueueRow) : QueueRow :=
  { r with
    trackingLane := lane
    trackingAction := action
    priorityReason := reason
    nextCheckAt := some (toTimestamp nextCheckAt)
    queueStatus := some QueueStatus.queued.value
    updatedAt := toTimestamp utcNow }

def updateTrackingLane (s : Tracking) (queueId : ℤ) (lane : TokenLifecycleState)
    (action : LifecycleEvent) (reason : String) (nextCheckAt utcNow : Instant) : Tracking :=
  { s with
    queue :=
      s.queue.updateKey queueId ⟨relaneRow lane action reason nextCheckAt utcNow, fun _ => rfl⟩ }

def statusRow (status : QueueStatus) (utcNow : Instant) (r : QueueRow) : QueueRow :=
  { r with queueStatus := some status.value, updatedAt := toTimestamp utcNow }

def setQueueStatus (s : Tracking) (queueId : ℤ) (status : QueueStatus) (utcNow : Instant) :
    Tracking :=
  { s with queue := s.queue.updateKey queueId ⟨statusRow status utcNow, fun _ => rfl⟩ }

def pauseTrackingItem (s : Tracking) (queueId : ℤ) (utcNow : Instant) : Tracking :=
  setQueueStatus s queueId .paused utcNow

def archiveTrackingItem (s : Tracking) (queueId : ℤ) (utcNow : Instant) : Tracking :=
  setQueueStatus s queueId .archived utcNow

end PrinterV1.Lifecycle
