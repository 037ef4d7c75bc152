import Mathlib.Data.Int.Notation
import Mathlib.Tactic.Common

/-!
# Token lifecycle contracts

The lifecycle states (which are the tracking lanes), the lifecycle events and
the statuses of a tracking queue row, with the texts they are stored as.
-/

namespace PrinterV1.Lifecycle

inductive TokenLifecycleState
  | discovered | watchOnly | trackNormal | trackFast | paperMonitoring | cooldown | archived
  | instantRejectMemoryOnly
  deriving DecidableEq, Repr

def TokenLifecycleState.value : TokenLifecycleState → String
  | .discovered => "DISCOVERED"
  | .watchOnly => "WATCH_ONLY"
  | .trackNormal => "TRACK_NORMAL"
  | .trackFast => "TRACK_FAST"
  | .paperMonitoring => "PAPER_MONITORING"
  | .cooldown => "COOLDOWN"
  | .archived => "ARCHIVED"
  | .instantRejectMemoryOnly => "INSTANT_REJECT_MEMORY_ONLY"

inductive LifecycleEvent
  | newDiscovery | promoteToTrackFast | promoteToTrackNormal | demoteToWatchOnly
  | enterPaperMonitoring | enterCooldown | archiveStaleToken | archiveUnusableLiquidity
  | archiveAfterMemoryWindow | reopenRevivedToken | instantRejectBadData
  | instantRejectUnsupportedChain | instantRejectUnusablePair | watchOnlyRefresh
  | sourceDataStale | sourceDataConflicting | manualReview
  deriving DecidableEq, Repr

inductive QueueStatus
  | queued | active | paused | cooldown | archived | skipped
  deriving DecidableEq, Repr

def QueueStatus.value : QueueStatus → String
  | .queued => "QUEUED"
  | .active => "ACTIVE"
  | .paused => "PAUSED"
  | .cooldown => "COOLDOWN"
  | .archived => "ARCHIVED"
  | .skipped => "SKIPPED"

def QueueStatus.all : List QueueStatus := [.queued, .active, .paused, .cooldown, .archived, .skipped]

/-- `QueueStatus(text)`; `none` is its `ValueError`. -/
def QueueStatus.ofValue? (text : String) : Option QueueStatus :=
  all.find? fun status => status.value = text

@[simp] theorem QueueStatus.ofValue?_value (status : QueueStatus) :
    ofValue? status.value = some status := by
  cases status <;> decide

def liveTrackingOwnershipStatuses : List QueueStatus := [.queued, .active, .paused]

def terminalTrackingStatuses : List QueueStatus := [.skipped, .archived]

end PrinterV1.Lifecycle
