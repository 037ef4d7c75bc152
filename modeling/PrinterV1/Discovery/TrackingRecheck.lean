import PrinterV1.Discovery.Observations
import PrinterV1.Lifecycle.TrackingQueue

/-!
# The tracking and cooldown recheck

`_atomic_tracking_and_cooldown_recheck` binds the tracking gate of every
observation with a mint and a pool to the queue and to the rotation state as
they are now, and hashes the observation again.
-/

namespace PrinterV1.Discovery

open Python Lifecycle

structure TokenRow where
  id : ℤ
  tokenMint : String
  deriving DecidableEq, Repr

structure PairRow where
  id : ℤ
  tokenId : ℤ
  pairAddress : String
  deriving DecidableEq, Repr

/-- A row of `printer_selection_rotation_state`. -/
structure RotationRow where
  tokenMint : String
  pairAddress : String
  lastSelectedBatchSeq : Option ℤ
  deriving DecidableEq, Repr

/-- The tables an execution reads and never writes. `rowCounts` counts the rows
of the other capability tables. -/
structure Surroundings where
  tokens : List TokenRow
  pairs : List PairRow
  queue : Queue
  rotation : List RotationRow
  rowCounts : String → ℕ

/-- The join of the queue with its token and pair. -/
def Surroundings.sameIdentity (s : Surroundings) (tokenMint pairAddress : String)
    (lane : TokenLifecycleState) (row : QueueRow) : Bool :=
  row.trackingLane = lane && s.tokens.any fun token =>
    token.id = row.tokenId && token.tokenMint = tokenMint && s.pairs.any fun pair =>
      row.pairId = some pair.id && pair.tokenId = token.id && pair.pairAddress = pairAddress

def Surroundings.assessTrackingHandoffByIdentity (s : Surroundings)
    (tokenMint pairAddress : String) (lane : TokenLifecycleState) (assessedAt : Instant) :
    TrackingHandoffAssessment :=
  handoffAssessment (latestRow s.queue (s.sameIdentity tokenMint pairAddress lane))
    (some ⟨assessedAt, some 0⟩)

/-- `COALESCE(MAX(last_selected_batch_seq), 0) + 1` -/
def Surroundings.nextBatchSeq (s : Surroundings) : ℤ :=
  ((s.rotation.filterMap fun row => row.lastSelectedBatchSeq).max?).getD 0 + 1

def cooldownWindow : ℤ := 3

/-- Fewer batches than the cooldown window lie behind the last selection of the
rows. -/
def inCooldown (rows : List RotationRow) (currentBatchSeq : ℤ) : Bool :=
  ((rows.filterMap fun row => row.lastSelectedBatchSeq).max?).any fun last =>
    currentBatchSeq - last < cooldownWindow

/-- `check_token_selection_cooldown`: the reason of a refusal. -/
def Surroundings.tokenCooldown (s : Surroundings) (tokenMint : String) (seq : ℤ) : Option String :=
  if inCooldown (s.rotation.filter fun row => row.tokenMint = tokenMint) seq then
    some "TOKEN_SELECTION_COOLDOWN"
  else none

/-- `check_pair_selection_cooldown`: the reason of a refusal. -/
def Surroundings.pairCooldown (s : Surroundings) (pairAddress : String) (seq : ℤ) : Option String :=
  if inCooldown (s.rotation.filter fun row => row.pairAddress = pairAddress) seq then
    some "PAIR_SELECTION_COOLDOWN"
  else none

/-- The reason a lane refuses the pair. -/
def Surroundings.laneRefusal (s : Surroundings) (mint pool : String) (instant : Instant)
    (lane : TokenLifecycleState) : Option String :=
  let assessment := s.assessTrackingHandoffByIdentity mint pool lane instant
  if assessment.eligible then none
  else some (assessment.reasonCode.getD "TRACKING_STATE_BLOCKED")

/-- Every reason a pair is refused for now, sorted. -/
def Surroundings.refusals (s : Surroundings) (mint pool : String) (instant : Instant) :
    List String :=
  sortedSet
    ([TokenLifecycleState.trackFast, .trackNormal].filterMap (s.laneRefusal mint pool instant) ++
      (s.tokenCooldown mint s.nextBatchSeq).toList ++ (s.pairCooldown pool s.nextBatchSeq).toList)

/-- The facts an observation of a pair is given. -/
def gateFacts (reasons : List String) (assessedAt : String) (seq : ℤ) (facts : Dict) : Dict :=
  let status := if reasons = [] then "PASS" else "FAIL"
  ((((facts.set "tracking_status" (.str status)).set "tracking_atomic_recheck" (.str status)).set
    "tracking_atomic_recheck_reasons" (.list (reasons.map .str))).set
    "tracking_atomic_recheck_at" (.str assessedAt)).set "selection_cooldown_batch_seq" (.int seq)

/-- One observation, bound to the current state. -/
def recheckItem (L : Library) (s : Surroundings) (assessedAt : String) (instant : Instant)
    (executionId : String) (item : Item) : Item :=
  match item.mint, item.pool with
  | some mint, some pool =>
    Content.seal L executionId
      { item.toContent with
        facts := gateFacts (s.refusals mint pool instant) assessedAt s.nextBatchSeq item.facts }
  | _, _ => item

theorem recheckItem_facts {L : Library} {s : Surroundings} {assessedAt : String} {instant : Instant}
    {executionId mint pool : String} {item : Item} (hmint : item.mint = some mint)
    (hpool : item.pool = some pool) :
    (recheckItem L s assessedAt instant executionId item).facts =
      gateFacts (s.refusals mint pool instant) assessedAt s.nextBatchSeq item.facts := by
  simp only [recheckItem, hmint, hpool]
  rfl

def atomicTrackingAndCooldownRecheck (L : Library) (s : Surroundings) (items : List Item)
    (assessedAt executionId : String) : Except Fault (List Item) := do
  let instant ← iso assessedAt
  return sortBy Item.sortKey (items.map (recheckItem L s assessedAt instant executionId))

end PrinterV1.Discovery
