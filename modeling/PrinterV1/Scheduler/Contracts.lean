import Mathlib.Data.Int.Notation
import Mathlib.Data.List.Basic
import Mathlib.Tactic.Common

/-!
# Scheduler contracts and resource governor

Job kinds, statuses and lock results, and the parts of the resource governor
the scheduler's writes depend on: the priority of a kind, the retry cooldown
and the choice between cooldown and failure.
-/

namespace PrinterV1.Scheduler

inductive JobKind
  | openPaperTradeMonitor | activeExitRiskToken | trackFastMicroEvent | trackFastFirst15m
  | trackFast1h | trackFast4h | trackNormalFirst15m | trackNormal1h | trackNormal4h
  | memoryWindowClose | trackedTokenSafetyLiquidityRefresh | discoveryRefresh
  | marketRegimeContext | solanaChainHeatContext | backupSourceCheck
  deriving DecidableEq, Repr

inductive JobStatus
  | pending | running | succeeded | failed | cooldown | skipped | cancelled
  deriving DecidableEq, Repr

inductive LockResult
  | acquired | alreadyLocked | notDue | notFound | duplicateActiveJob | sourceNotAllowed
  | resourceLimited
  deriving DecidableEq, Repr

def activeJobStatuses : List JobStatus := [.pending, .running, .cooldown]

def jobPriorityOrder : List JobKind :=
  [.openPaperTradeMonitor, .activeExitRiskToken, .trackFastMicroEvent, .trackFastFirst15m,
    .trackFast1h, .trackFast4h, .trackNormalFirst15m, .trackNormal1h, .trackNormal4h,
    .memoryWindowClose, .trackedTokenSafetyLiquidityRefresh, .discoveryRefresh,
    .marketRegimeContext, .solanaChainHeatContext, .backupSourceCheck]

def priorityValue (kind : JobKind) : ℤ := jobPriorityOrder.idxOf kind + 1

/-- The base interval of `get_retry_cooldown_seconds`. -/
def retryBaseSeconds : JobKind → ℤ
  | .openPaperTradeMonitor => 30
  | .activeExitRiskToken => 60
  | .trackFastMicroEvent => 90
  | .trackFastFirst15m => 120
  | .trackFast1h => 180
  | .trackFast4h => 180
  | .trackNormalFirst15m => 300
  | .trackNormal1h => 360
  | .trackNormal4h => 360
  | .memoryWindowClose => 120
  | .trackedTokenSafetyLiquidityRefresh => 300
  | .discoveryRefresh => 600
  | .marketRegimeContext => 900
  | .solanaChainHeatContext => 1200
  | .backupSourceCheck => 1800

def getRetryCooldownSeconds (kind : JobKind) (retryCount : ℤ) : ℤ :=
  retryBaseSeconds kind * max retryCount 1

/-- The kind is ignored, as in the source. -/
def shouldCooldownFailedJob (_kind : JobKind) (retryCount maxRetries : ℤ) : Bool :=
  retryCount < maxRetries

/-- The cadence of `next_check_interval_seconds`. -/
def nextCheckIntervalSeconds : JobKind → ℤ
  | .openPaperTradeMonitor => 30
  | .activeExitRiskToken => 60
  | .trackFastMicroEvent => 60
  | .trackFastFirst15m => 120
  | .trackFast1h => 180
  | .trackFast4h => 180
  | .trackNormalFirst15m => 300
  | .trackNormal1h => 360
  | .trackNormal4h => 360
  | .memoryWindowClose => 60
  | .trackedTokenSafetyLiquidityRefresh => 300
  | .discoveryRefresh => 600
  | .marketRegimeContext => 900
  | .solanaChainHeatContext => 1200
  | .backupSourceCheck => 1800

/-- A job that failed for good or is done. -/
def JobStatus.Terminal (s : JobStatus) : Prop :=
  s = .succeeded ∨ s = .failed ∨ s = .cancelled

instance (s : JobStatus) : Decidable s.Terminal := inferInstanceAs (Decidable (_ ∨ _ ∨ _))

/-- A job the duplicate check of `enqueue_job` counts. -/
def JobStatus.Active (s : JobStatus) : Prop := s ∈ activeJobStatuses

instance (s : JobStatus) : Decidable s.Active := inferInstanceAs (Decidable (_ ∈ _))

theorem JobStatus.Terminal.not_active {s : JobStatus} (h : s.Terminal) : ¬ s.Active := by
  rcases h with rfl | rfl | rfl <;> decide

end PrinterV1.Scheduler
