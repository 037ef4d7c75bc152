import PrinterV1.Python.Datetime

/-!
# Trajectories

`build_fixed_trajectory` collects reasons against observed evidence: identity
and provenance, the order of the observations, the visible gaps between them,
and the phase and reversal claims that rest on them. A datetime is the instant
it denotes.
-/

namespace PrinterV1.Scheduler

open Python

inductive TrajectoryPhase
  | openingState | quietPreparation | initialExpansion | pullback | continuation | consolidation
  | breakdown | reclaim | secondExpansion | distribution | liquidityDeterioration | collapse
  | survival | revival | finalOutcome | evidenceGap | unknownPhase
  deriving DecidableEq, Repr

inductive TrajectoryReversal
  | noConfirmedReversal | breakdownToReclaim | expansionToDistribution | collapseToRevival
  | reversalUnknown
  deriving DecidableEq, Repr

inductive TrajectoryCheckpointVerdict
  | valid | blocked
  deriving DecidableEq, Repr

def trajectoryPhases : List (String × TrajectoryPhase) :=
  [("OPENING_STATE", .openingState), ("QUIET_PREPARATION", .quietPreparation),
    ("INITIAL_EXPANSION", .initialExpansion), ("PULLBACK", .pullback),
    ("CONTINUATION", .continuation), ("CONSOLIDATION", .consolidation),
    ("BREAKDOWN", .breakdown), ("RECLAIM", .reclaim), ("SECOND_EXPANSION", .secondExpansion),
    ("DISTRIBUTION", .distribution), ("LIQUIDITY_DETERIORATION", .liquidityDeterioration),
    ("COLLAPSE", .collapse), ("SURVIVAL", .survival), ("REVIVAL", .revival),
    ("FINAL_OUTCOME", .finalOutcome), ("EVIDENCE_GAP", .evidenceGap),
    ("UNKNOWN_PHASE", .unknownPhase)]

def trajectoryReversals : List (String × TrajectoryReversal) :=
  [("NO_CONFIRMED_REVERSAL", .noConfirmedReversal), ("BREAKDOWN_TO_RECLAIM", .breakdownToReclaim),
    ("EXPANSION_TO_DISTRIBUTION", .expansionToDistribution),
    ("COLLAPSE_TO_REVIVAL", .collapseToRevival), ("REVERSAL_UNKNOWN", .reversalUnknown)]

/-- `resolve_phase` -/
def resolvePhase (value : String) : TrajectoryPhase :=
  (trajectoryPhases.lookup value).getD .unknownPhase

/-- `resolve_reversal` -/
def resolveReversal (value : String) : TrajectoryReversal :=
  (trajectoryReversals.lookup value).getD .reversalUnknown

def sourceRegistry : List String :=
  ["dexscreener", "geckoterminal", "birdeye", "solana_tracker", "pumpportal", "alternative_me",
    "coingecko", "defillama", "goplus", "solana_rpc", "helius_free", "pumpswap", "jupiter_quote"]

def sourceStatuses : List String := ["COMPLETE", "PARTIAL", "FAILED", "STALE", "CONFLICTING"]

def dataQualityLabels : List String :=
  ["CLEAN_DATA", "ACCEPTABLE_PARTIAL_DATA", "DIRTY_DATA", "STALE_DATA", "MISSING_CRITICAL_DATA",
    "CONFLICTING_DATA", "DO_NOT_TRAIN"]

structure TrajectoryIdentity where
  campaignId : String
  runId : String
  cycleId : String
  tokenSlotId : String
  tokenId : String
  mintId : String
  pairId : String
  root15mLifecycleId : String
  containingMainWindowId : String
  deriving DecidableEq, Repr

structure GovernedSourceProvenance where
  sourceName : String
  sourceRequestId : ℤ
  sourceResponseId : ℤ
  schedulerWorkId : String
  sourceStatus : String
  dataQualityLabel : String
  governorApproved : Bool
  traceable : Bool
  deriving DecidableEq, Repr

structure TrajectoryObservation where
  snapshotId : ℤ
  identity : TrajectoryIdentity
  observedAt : Datetime
  provenance : GovernedSourceProvenance
  freshnessWithinContract : Bool := true
  observedPeak : Bool := false
  deriving DecidableEq, Repr

structure VisibleEvidenceGap where
  gapId : String
  beforeSnapshotId : ℤ
  afterSnapshotId : ℤ
  openedAt : Datetime
  closedAt : Datetime
  reason : String
  visible : Bool := true
  deriving DecidableEq, Repr

/-- A `PhaseClaim` or a `ReversalClaim`, by what is claimed. -/
structure Claim (μ : Type) where
  meaning : μ
  supportingSnapshotIds : List ℤ
  deriving DecidableEq, Repr

structure FixedTrajectoryRequest where
  identity : TrajectoryIdentity
  expectedIdentity : TrajectoryIdentity
  schedulerWorkId : String
  observations : List TrajectoryObservation
  gaps : List VisibleEvidenceGap
  phases : List (Claim String)
  reversals : List (Claim String)
  deriving DecidableEq, Repr

structure FixedTrajectory where
  identity : TrajectoryIdentity
  schedulerWorkId : String
  observations : List TrajectoryObservation
  gaps : List VisibleEvidenceGap
  phases : List (Claim TrajectoryPhase)
  reversals : List (Claim TrajectoryReversal)
  observedPeakSnapshotIds : List ℤ
  realisticallyCapturableExit : String := "UNKNOWN_REQUIRES_RESEARCH"
  representationOnly : Bool := true
  support5mHasMainAuthority : Bool := false
  retrievalAuthority : Bool := false
  decisionAuthority : Bool := false
  financialAuthority : Bool := false
  deriving DecidableEq, Repr

structure TrajectoryResult where
  verdict : TrajectoryCheckpointVerdict
  reasons : List String
  trajectory : Option FixedTrajectory
  deriving DecidableEq, Repr

/-- `_valid_text` -/
def validText (value : String) : Bool := strip value ≠ ""

/-- `_valid_identity` -/
def validIdentity (i : TrajectoryIdentity) : Bool :=
  [i.campaignId, i.runId, i.cycleId, i.tokenSlotId, i.tokenId, i.mintId, i.pairId,
    i.root15mLifecycleId, i.containingMainWindowId].all validText

/-- `_utc`; `none` is its `ValueError`. -/
def utc (value : Datetime) : Option Instant := value.utcoffset.map (value.wall - ·)

/-- `if condition: reasons.append(reason)` -/
def reasonIf (condition : Prop) [Decidable condition] (reason : String) : List String :=
  if condition then [reason] else []

@[simp] theorem reasonIf_eq_nil {condition : Prop} [Decidable condition] {reason : String} :
    reasonIf condition reason = [] ↔ ¬condition := by
  unfold reasonIf
  split_ifs with h <;> simp [h]

/-- `_append_provenance_reasons` -/
def provenanceReasons (p : GovernedSourceProvenance) (schedulerWorkId : String) : List String :=
  reasonIf (p.sourceName ∉ sourceRegistry) "unregistered_source_provenance" ++
  reasonIf (p.sourceRequestId ≤ 0 ∨ p.sourceResponseId ≤ 0)
    "source_provenance_identity_missing" ++
  reasonIf (p.schedulerWorkId ≠ schedulerWorkId) "source_provenance_scheduler_work_mismatch" ++
  reasonIf (!p.governorApproved ∨ !p.traceable) "source_provenance_untraceable_or_ungoverned" ++
  reasonIf (p.sourceStatus ∉ sourceStatuses ∨ p.dataQualityLabel ∉ dataQualityLabels)
    "source_provenance_status_or_quality_unknown"

def observationReasons (request : FixedTrajectoryRequest) (o : TrajectoryObservation) :
    List String :=
  reasonIf (o.identity ≠ request.identity) "foreign_or_mismatched_observation" ++
  reasonIf ((utc o.observedAt).isNone) "observation_time_not_timezone_aware" ++
  reasonIf (!o.freshnessWithinContract) "stale_trajectory_observation" ++
  provenanceReasons o.provenance request.schedulerWorkId

/-- `{snapshot_id: index for index, snapshot_id in enumerate(snapshot_ids)}`: the last index. -/
def position : List ℤ → ℤ → Option ℕ
  | [], _ => none
  | x :: xs, id =>
    match position xs id with
    | some i => some (i + 1)
    | none => if x = id then some 0 else none

/-- The time of the observation at an index. -/
def timeAt (observations : List TrajectoryObservation) (i : ℕ) : Option Instant :=
  observations[i]?.bind fun o => utc o.observedAt

/-- The times of a gap against those of its two observations. -/
def gapTimeReasons (observations : List TrajectoryObservation) (before after : ℕ)
    (gap : VisibleEvidenceGap) : List String :=
  match utc gap.openedAt, utc gap.closedAt with
  | some openedAt, some closedAt =>
    reasonIf (closedAt ≤ openedAt) "gap_time_order_invalid" ++
    match timeAt observations before with
    | none => ["gap_time_not_timezone_aware"]
    | some opening =>
      reasonIf (openedAt < opening) "gap_opens_before_preceding_observation" ++
      match timeAt observations after with
      | none => ["gap_time_not_timezone_aware"]
      | some closing => reasonIf (closing < closedAt) "gap_closes_after_following_observation"
  | _, _ => ["gap_time_not_timezone_aware"]

/-- `_append_gap_reasons`, with the identities seen and the position after the gap before. -/
def gapReasons (ids : List ℤ) (observations : List TrajectoryObservation) :
    List String → ℤ → List VisibleEvidenceGap → List String
  | _, _, [] => []
  | seen, priorAfterPosition, gap :: gaps =>
    reasonIf (!validText gap.gapId ∨ gap.gapId ∈ seen) "duplicate_or_invalid_gap_identity" ++
    reasonIf (!gap.visible) "evidence_gap_must_remain_visible" ++
    match position ids gap.beforeSnapshotId, position ids gap.afterSnapshotId with
    | some before, some after =>
      reasonIf (after ≤ before) "gap_snapshot_order_invalid" ++
      reasonIf ((before : ℤ) < priorAfterPosition) "evidence_gaps_not_ordered" ++
      gapTimeReasons observations before after gap ++
      reasonIf (!validText gap.reason) "gap_reason_required" ++
      gapReasons ids observations (gap.gapId :: seen) after gaps
    | _, _ =>
      "gap_snapshot_identity_missing" ::
        gapReasons ids observations (gap.gapId :: seen) priorAfterPosition gaps

section Claims

variable {μ : Type}

/-- The claim has a position at or before the gap, and one at or after it. -/
def crossesGap (ids : List ℤ) (claimPositions : List ℕ) (gap : VisibleEvidenceGap) : Bool :=
  match position ids gap.beforeSnapshotId, position ids gap.afterSnapshotId with
  | some before, some after =>
    claimPositions.min?.any (· ≤ before) && claimPositions.max?.any (after ≤ ·)
  | _, _ => false

/-- `_append_claim_reasons`, for one claim. -/
def claimReasons (ids : List ℤ) (gaps : List VisibleEvidenceGap) (label : String)
    (claim : Claim μ) : List String :=
  if claim.supportingSnapshotIds = [] ∨ ¬claim.supportingSnapshotIds.Nodup then
    [label ++ "_claim_requires_unique_exact_observations"]
  else
    match claim.supportingSnapshotIds.mapM (position ids) with
    | none => [label ++ "_claim_observation_missing"]
    | some claimPositions => gaps.flatMap fun gap =>
      reasonIf (crossesGap ids claimPositions gap = true)
        (label ++ "_claim_crosses_visible_evidence_gap")

/-- `_append_conflicting_claim_reasons`, with the meanings by support so far. -/
def conflictingClaimReasons [DecidableEq μ] (label : String) :
    List (List ℤ × μ) → List (Claim μ) → List String
  | _, [] => []
  | meanings, claim :: claims =>
    (match meanings.lookup claim.supportingSnapshotIds with
      | none => []
      | some existing =>
        if existing = claim.meaning then ["duplicate_" ++ label ++ "_claim"]
        else ["conflicting_" ++ label ++ "_claim"]) ++
    conflictingClaimReasons label ((claim.supportingSnapshotIds, claim.meaning) :: meanings) claims

end Claims

/-- A reversal needs observations on both sides. -/
def reversalReasons (claim : Claim TrajectoryReversal) : List String :=
  reasonIf (claim.meaning ∉ [.noConfirmedReversal, .reversalUnknown] ∧
    claim.supportingSnapshotIds.length < 2) "reversal_requires_observations_on_both_sides"

def resolvedPhases (request : FixedTrajectoryRequest) : List (Claim TrajectoryPhase) :=
  request.phases.map fun c => ⟨resolvePhase c.meaning, c.supportingSnapshotIds⟩

def resolvedReversals (request : FixedTrajectoryRequest) : List (Claim TrajectoryReversal) :=
  request.reversals.map fun c => ⟨resolveReversal c.meaning, c.supportingSnapshotIds⟩

def snapshotIds (request : FixedTrajectoryRequest) : List ℤ :=
  request.observations.map TrajectoryObservation.snapshotId

def observedTimes (request : FixedTrajectoryRequest) : List Instant :=
  request.observations.filterMap fun o => utc o.observedAt

/-- The reasons that `build_fixed_trajectory` collects, in its order. -/
def trajectoryReasons (request : FixedTrajectoryRequest) : List String :=
  let ids := snapshotIds request
  let times := observedTimes request
  reasonIf (request.identity ≠ request.expectedIdentity) "trajectory_identity_mismatch" ++
  reasonIf (!validIdentity request.identity) "invalid_trajectory_identity" ++
  reasonIf (!validText request.schedulerWorkId) "invalid_scheduler_work_identity" ++
  reasonIf (request.observations = []) "trajectory_observations_required" ++
  reasonIf (ids.any (· ≤ 0)) "invalid_snapshot_identity" ++
  reasonIf (¬ids.Nodup) "duplicate_snapshot_identity" ++
  request.observations.flatMap (observationReasons request) ++
  reasonIf ((times.zip times.tail).any fun pair => pair.2 ≤ pair.1)
    "observations_not_strictly_chronological" ++
  gapReasons ids request.observations [] (-1) request.gaps ++
  (resolvedPhases request).flatMap (claimReasons ids request.gaps "phase") ++
  (resolvedReversals request).flatMap (claimReasons ids request.gaps "reversal") ++
  conflictingClaimReasons "phase" [] (resolvedPhases request) ++
  conflictingClaimReasons "reversal" [] (resolvedReversals request) ++
  (resolvedReversals request).flatMap reversalReasons

/-- `build_fixed_trajectory` -/
def buildFixedTrajectory (request : FixedTrajectoryRequest) : TrajectoryResult :=
  if trajectoryReasons request ≠ [] then
    { verdict := .blocked, reasons := (trajectoryReasons request).eraseDups, trajectory := none }
  else
    { verdict := .valid
      reasons := ["fixed_trajectory_valid"]
      trajectory := some
        { identity := request.identity
          schedulerWorkId := request.schedulerWorkId
          observations := request.observations
          gaps := request.gaps
          phases := resolvedPhases request
          reversals := resolvedReversals request
          observedPeakSnapshotIds :=
            (request.observations.filter TrajectoryObservation.observedPeak).map
              TrajectoryObservation.snapshotId } }

end PrinterV1.Scheduler
