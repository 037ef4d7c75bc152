import PrinterV1.Snapshots.CadencePolicy

/-!
# From fifteen minutes to the first hour

`evaluate_15m_to_1h_continuity` judges whether an hour continues one window of
fifteen minutes. Its deadline is the close of that window and three quarters of
an hour, and the gap to its first snapshot is graded by the lane. A text without
an offset is read by the host's clock.
-/

namespace PrinterV1.Snapshots.FirstHour

open Python

variable (clock : LocalClock)

/-- `_parse_ts` of a text column; beyond the calendar it raises. -/
def readTs (value : Option String) : Except String (Option Instant) :=
  let column := value.elim .none Cadence.TimeValue.text
  if Cadence.overflows clock column then .error "OverflowError"
  else .ok (Cadence.parseTs clock column)

def continuation1hSeconds : ℤ := 2700

/-- `compute_1h_continuation_deadline` -/
def compute1hContinuationDeadline (fifteenMCloseAt : Option String) :
    Except String (Option Instant) := do
  match ← readTs clock fifteenMCloseAt with
  | none => return none
  | some close =>
    let deadline := close + seconds continuation1hSeconds
    if InRange deadline then return some deadline else throw "OverflowError"

structure TransitionThresholds where
  expectedMaxSeconds : ℤ
  dirtyAboveSeconds : ℤ
  blockAboveSeconds : ℤ
  deriving DecidableEq, Repr

/-- `_TRANSITION.get(lane)` -/
def transitionThresholds (lane : String) : Option TransitionThresholds :=
  if lane = "TRACK_FAST" then some ⟨120, 180, 240⟩
  else if lane = "TRACK_NORMAL" then some ⟨240, 360, 480⟩
  else none

inductive TransitionStatus
  | clean | dirty | blocked | unknown
  deriving DecidableEq, Repr

structure TransitionGap where
  transitionStatus : TransitionStatus
  transitionGap : Option ℤ := none
  thresholds : Option TransitionThresholds := none
  reason : Option String := none
  deriving DecidableEq, Repr

/-- `evaluate_transition_gap` -/
def evaluateTransitionGap (prev15mCloseAt first1hSnapshotAt : Option String) (lane : String) :
    Except String TransitionGap := do
  let start ← readTs clock prev15mCloseAt
  let stop ← readTs clock first1hSnapshotAt
  match transitionThresholds lane, start, stop with
  | some thresholds, some start, some stop =>
    let gap := stop - start
    if gap < 0 then
      return {
        transitionStatus := .blocked
        transitionGap := some gap
        reason := some "negative_transition_gap_delayed_restart_disguised_as_continuation" }
    else if gap > seconds thresholds.blockAboveSeconds then
      return ⟨.blocked, some gap, some thresholds, some "transition_gap_exceeds_block"⟩
    else if gap > seconds thresholds.dirtyAboveSeconds then
      return ⟨.dirty, some gap, some thresholds, some "transition_gap_dirty"⟩
    else return ⟨.clean, some gap, some thresholds, none⟩
  | _, _, _ =>
    return { transitionStatus := .unknown, reason := some "missing_lane_or_timestamps" }

/-- The row of a fifteen minute window, with its run and its lane. -/
structure FifteenM where
  id : Option ℤ
  runId : Option String
  tokenId : Option ℤ
  pairId : Option ℤ
  trackingLane : Option String
  snapshotEndId : Option ℤ
  closedAt : Option String
  windowEndAt : Option String
  deriving DecidableEq, Repr

/-- `closed_at or window_end_at` -/
def FifteenM.closeAt (w : FifteenM) : Option String :=
  if w.closedAt.getD "" = "" then w.windowEndAt else w.closedAt

/-- The link of an hour to its window. -/
structure OneH where
  runId : Option String
  tokenId : Option ℤ
  pairId : Option ℤ
  trackingLane : Option String
  continuationOfWindowId : Option ℤ
  linkedClosingSnapshotId : Option ℤ
  linkedFirstSnapshotId : Option ℤ
  firstSnapshotAt : Option String
  deadlineAt : Option String
  deriving DecidableEq, Repr

inductive ContinuityStatus
  | continuous | dirty | blocked | unknown
  deriving DecidableEq, Repr

inductive ContinuityReason
  | unknownLane (lane : String)
  | runMismatch | tokenMismatch | pairMismatch | laneMismatch
  | notLinkedToWindow (linked actual : Option ℤ)
  | notLinkedToClosingSnapshot (linked closing : Option ℤ)
  | reusedHistoricalWindow (id : ℤ)
  | missingFirstSnapshot
  | missingCloseForDeadline
  | deadlineDrift (drift : ℤ)
  | transition (gap : TransitionGap)
  deriving DecidableEq, Repr

structure ContinuityResult where
  status : ContinuityStatus
  reasons : List ContinuityReason
  expectedDeadline : Option Instant := none
  actualDeadline : Option Instant := none
  transition : Option TransitionGap := none
  deriving DecidableEq, Repr

/-- `do_not_train` of a result. -/
def ContinuityResult.doNotTrain (r : ContinuityResult) : Bool :=
  r.status = .dirty ∨ r.status = .blocked

/-- Both identities are there and the same. -/
def agree {α : Type} [DecidableEq α] (a b : Option α) : Bool := a ≠ none ∧ a = b

/-- `_identity_reasons` -/
def identityReasons (a : FifteenM) (b : OneH) (lane : String) : List ContinuityReason :=
  (if agree a.runId b.runId then [] else [.runMismatch]) ++
    (if agree a.tokenId b.tokenId then [] else [.tokenMismatch]) ++
    (if agree a.pairId b.pairId then [] else [.pairMismatch]) ++
    (if a.trackingLane ≠ b.trackingLane ∨ a.trackingLane ≠ some lane then [.laneMismatch] else [])

/-- The reasons that stand against a link, before the gap is looked at. -/
def linkReasons (fifteenM : FifteenM) (oneH : OneH) (lane : String) (consumed : List ℤ)
    (expected actual : Option Instant) : List ContinuityReason :=
  identityReasons fifteenM oneH lane ++
    (if agree oneH.continuationOfWindowId fifteenM.id then []
      else [.notLinkedToWindow oneH.continuationOfWindowId fifteenM.id]) ++
    (if agree oneH.linkedClosingSnapshotId fifteenM.snapshotEndId then []
      else [.notLinkedToClosingSnapshot oneH.linkedClosingSnapshotId fifteenM.snapshotEndId]) ++
    (match fifteenM.id with
      | some id => if id ∈ consumed then [.reusedHistoricalWindow id] else []
      | none => []) ++
    (if oneH.linkedFirstSnapshotId = none then [.missingFirstSnapshot] else []) ++
    match expected, actual with
      | none, _ => [.missingCloseForDeadline]
      | some expected, some actual =>
        if |actual - expected| > seconds 1 then [.deadlineDrift |actual - expected|] else []
      | some _, none => []

/-- `evaluate_15m_to_1h_continuity`, for the lane of the closing snapshot. -/
def evaluate15mTo1hContinuity (fifteenM : FifteenM) (oneH : OneH) (lane : String)
    (consumed15mWindowIds : List ℤ) : Except String ContinuityResult := do
  if lane ∉ ["TRACK_FAST", "TRACK_NORMAL"] then
    return { status := .unknown, reasons := [.unknownLane lane] }
  else
    let expected ← compute1hContinuationDeadline clock fifteenM.closeAt
    let actual ← readTs clock oneH.deadlineAt
    let reasons := linkReasons fifteenM oneH lane consumed15mWindowIds expected actual
    let gap ← evaluateTransitionGap clock fifteenM.closeAt oneH.firstSnapshotAt lane
    if reasons ≠ [] then return ⟨.blocked, reasons, expected, actual, some gap⟩
    else
      match gap.transitionStatus with
      | .blocked => return ⟨.blocked, [.transition gap], expected, actual, some gap⟩
      | .dirty => return ⟨.dirty, [.transition gap], expected, actual, some gap⟩
      | .unknown => return ⟨.unknown, [.transition gap], expected, actual, some gap⟩
      | .clean => return ⟨.continuous, [], expected, actual, some gap⟩

end PrinterV1.Snapshots.FirstHour
