import Mathlib.Data.List.Nodup
import PrinterV1.Scheduler.HiddenGaps

/-!
# Checkpoints and later evidence

A checkpoint holds what a valid trajectory had observed up to a time. Evidence
that comes later is checked against the checkpoint alone, and passes exactly
where the trajectory would have been valid with it.
-/

namespace PrinterV1.Scheduler

open Python

/-! ## Checkpoints -/

inductive CheckpointKind
  | scheduledCadence | scheduledDeadline | approvedEvent
  deriving DecidableEq, Repr

inductive EvaluationPath
  | entryReview | holdReview | exitReview | waitReview | avoidReview | noActionReview
  | freshReentryReview
  deriving DecidableEq, Repr

inductive SupportTriggerFamily
  | fastCoordinatedPump | fastDumpOrCollapse | wickOrLateBuyTrap | exitRealismChange
  | liquidityShock | fastBreakdownOrReclaim
  deriving DecidableEq, Repr

def checkpointKinds : List (String × CheckpointKind) :=
  [("SCHEDULED_CADENCE", .scheduledCadence), ("SCHEDULED_DEADLINE", .scheduledDeadline),
    ("APPROVED_EVENT", .approvedEvent)]

def evaluationPaths : List (String × EvaluationPath) :=
  [("ENTRY_REVIEW", .entryReview), ("HOLD_REVIEW", .holdReview), ("EXIT_REVIEW", .exitReview),
    ("WAIT_REVIEW", .waitReview), ("AVOID_REVIEW", .avoidReview),
    ("NO_ACTION_REVIEW", .noActionReview), ("FRESH_REENTRY_REVIEW", .freshReentryReview)]

/-- A capture, with its nine identities together and the ids of its snapshots. -/
structure SupportOnly5mCapture where
  identity : TrajectoryIdentity
  schedulerWorkId : String
  triggerFamily : SupportTriggerFamily
  triggerTime : Datetime
  triggeringSnapshotIds : List ℤ
  supportOnly : Bool := true
  mainOutcomeMemory : Bool := false
  deriving DecidableEq, Repr

structure CheckpointRequest where
  checkpointId : String
  trajectory : FixedTrajectory
  kind : String
  checkpointTime : Datetime
  evidenceCutoff : Datetime
  eligiblePaths : List String
  schedulerWorkId : String
  eventCapture : Option SupportOnly5mCapture := none
  deriving DecidableEq, Repr

structure TrajectoryCheckpoint where
  checkpointId : String
  identity : TrajectoryIdentity
  kind : CheckpointKind
  checkpointTime : Instant
  evidenceCutoff : Instant
  schedulerWorkId : String
  orderedSnapshotIds : List ℤ
  provenance : List GovernedSourceProvenance
  gaps : List VisibleEvidenceGap
  phases : List (Claim TrajectoryPhase)
  reversals : List (Claim TrajectoryReversal)
  eligiblePaths : List EvaluationPath
  eventTriggerFamily : Option SupportTriggerFamily
  eventSupportSnapshotIds : List ℤ
  realisticallyCapturableExit : String := "UNKNOWN_REQUIRES_RESEARCH"
  representationOnly : Bool := true
  mutableByLaterEvidence : Bool := false
  support5mHasMainAuthority : Bool := false
  retrievalAuthority : Bool := false
  decisionAuthority : Bool := false
  financialAuthority : Bool := false
  deriving DecidableEq, Repr

structure CheckpointResult where
  verdict : TrajectoryCheckpointVerdict
  reasons : List String
  checkpoint : Option TrajectoryCheckpoint
  deriving DecidableEq, Repr

def trajectoryIds (t : FixedTrajectory) : List ℤ :=
  t.observations.map TrajectoryObservation.snapshotId

/-- `_validate_event_capture` -/
def eventReasons (request : CheckpointRequest) : List String :=
  match request.eventCapture with
  | none => ["approved_event_capture_required"]
  | some capture =>
    reasonIf (capture.identity ≠ request.trajectory.identity ∨
      capture.schedulerWorkId ≠ request.schedulerWorkId) "event_capture_identity_mismatch" ++
    reasonIf (!capture.supportOnly ∨ capture.mainOutcomeMemory) "event_capture_not_support_only" ++
    (match utc capture.triggerTime, utc request.checkpointTime with
      | some trigger, some time => reasonIf (trigger ≠ time) "event_trigger_time_mismatch"
      | _, _ => ["event_trigger_time_not_timezone_aware"]) ++
    reasonIf (¬∀ id ∈ capture.triggeringSnapshotIds, id ∈ trajectoryIds request.trajectory)
      "event_support_snapshots_not_exact_linked"

/-- The check of an observation against the cutoff; a cutoff without a time zone cannot be compared
with its time. -/
def cutoffReasons (cutoff : Option Instant) (o : TrajectoryObservation) : List String :=
  match utc o.observedAt, cutoff with
  | some observedAt, some cutoff =>
    reasonIf (cutoff < observedAt) "post_cutoff_observation_rejected"
  | _, _ => ["observation_time_not_timezone_aware"]

def checkpointPaths (request : CheckpointRequest) : List EvaluationPath :=
  request.eligiblePaths.filterMap fun path => evaluationPaths.lookup path

/-- The reasons that `build_checkpoint` collects, in its order. -/
def checkpointReasons (request : CheckpointRequest) : List String :=
  reasonIf (!validText request.checkpointId) "invalid_checkpoint_identity" ++
  reasonIf (request.schedulerWorkId ≠ request.trajectory.schedulerWorkId)
    "checkpoint_scheduler_work_mismatch" ++
  reasonIf (checkpointKinds.lookup request.kind = none) "unsupported_checkpoint_kind" ++
  (match utc request.checkpointTime, utc request.evidenceCutoff with
    | some time, some cutoff =>
      reasonIf (cutoff ≠ time) "evidence_cutoff_must_equal_checkpoint_time"
    | _, _ => ["checkpoint_time_or_cutoff_not_timezone_aware"]) ++
  request.eligiblePaths.flatMap (fun path =>
    reasonIf (evaluationPaths.lookup path = none) "unsupported_evaluation_path") ++
  reasonIf (¬(checkpointPaths request).Nodup) "duplicate_evaluation_path" ++
  request.trajectory.observations.flatMap (cutoffReasons (utc request.evidenceCutoff)) ++
  if checkpointKinds.lookup request.kind = some .approvedEvent then eventReasons request
  else reasonIf (request.eventCapture ≠ none) "event_capture_for_non_event_checkpoint"

/-- The event of an approved checkpoint. -/
def checkpointEvent (request : CheckpointRequest) : Option SupportOnly5mCapture :=
  if checkpointKinds.lookup request.kind = some .approvedEvent then request.eventCapture else none

/-- `_checkpoint_result` -/
def blockedCheckpoint (request : CheckpointRequest) : CheckpointResult :=
  { verdict := .blocked, reasons := (checkpointReasons request).eraseDups, checkpoint := none }

/-- `build_checkpoint` -/
def buildCheckpoint (request : CheckpointRequest) : CheckpointResult :=
  if checkpointReasons request ≠ [] then blockedCheckpoint request
  else
    match checkpointKinds.lookup request.kind, utc request.checkpointTime,
        utc request.evidenceCutoff with
    | some kind, some time, some cutoff =>
      { verdict := .valid
        reasons := ["immutable_checkpoint_valid"]
        checkpoint := some
          { checkpointId := request.checkpointId
            identity := request.trajectory.identity
            kind := kind
            checkpointTime := time
            evidenceCutoff := cutoff
            schedulerWorkId := request.schedulerWorkId
            orderedSnapshotIds := trajectoryIds request.trajectory
            provenance := request.trajectory.observations.map TrajectoryObservation.provenance
            gaps := request.trajectory.gaps
            phases := request.trajectory.phases
            reversals := request.trajectory.reversals
            eligiblePaths := checkpointPaths request
            eventTriggerFamily :=
              (checkpointEvent request).map SupportOnly5mCapture.triggerFamily
            eventSupportSnapshotIds :=
              ((checkpointEvent request).map SupportOnly5mCapture.triggeringSnapshotIds).getD [] } }
    | _, _, _ => blockedCheckpoint request

/-! ## Later evidence -/

structure CheckpointEvaluation where
  checkpoint : TrajectoryCheckpoint
  laterObservations : List TrajectoryObservation
  eligiblePaths : List EvaluationPath
  checkpointUnchanged : Bool := true
  evaluationOnly : Bool := true
  deriving DecidableEq, Repr

structure CheckpointEvaluationResult where
  verdict : TrajectoryCheckpointVerdict
  reasons : List String
  evaluation : Option CheckpointEvaluation
  deriving DecidableEq, Repr

/-- The loop over the later observations, with the time before and the ids so far. -/
def laterReasons (checkpoint : TrajectoryCheckpoint) :
    Instant → List ℤ → List TrajectoryObservation → List String
  | _, _, [] => []
  | previous, seen, o :: rest =>
    reasonIf (o.identity ≠ checkpoint.identity) "foreign_or_mismatched_later_observation" ++
    reasonIf (o.snapshotId ∈ seen ∨ o.snapshotId ≤ 0)
      "duplicate_or_invalid_later_snapshot_identity" ++
    (match utc o.observedAt with
      | some observedAt =>
        reasonIf (observedAt ≤ previous) "later_evidence_not_strictly_after_checkpoint"
      | none => ["later_observation_time_not_timezone_aware"]) ++
    reasonIf (!o.freshnessWithinContract) "stale_later_observation" ++
    provenanceReasons o.provenance checkpoint.schedulerWorkId ++
    laterReasons checkpoint ((utc o.observedAt).getD previous) (o.snapshotId :: seen) rest

/-- `evaluate_later_evidence` -/
def evaluateLaterEvidence (checkpoint : TrajectoryCheckpoint)
    (later : List TrajectoryObservation) : CheckpointEvaluationResult :=
  let reasons :=
    laterReasons checkpoint checkpoint.evidenceCutoff checkpoint.orderedSnapshotIds later
  if reasons ≠ [] then
    { verdict := .blocked, reasons := reasons.eraseDups, evaluation := none }
  else
    { verdict := .valid
      reasons := ["later_evidence_evaluated_without_checkpoint_mutation"]
      evaluation := some
        { checkpoint := checkpoint
          laterObservations := later
          eligiblePaths := checkpoint.eligiblePaths } }

/-! ## What passes -/

def idsOf (observations : List TrajectoryObservation) : List ℤ :=
  observations.map TrajectoryObservation.snapshotId

def timesOf (observations : List TrajectoryObservation) : List Instant :=
  observations.filterMap fun o => utc o.observedAt

/-- An observation that nothing is to be said against by itself. -/
structure Sound (identity : TrajectoryIdentity) (schedulerWorkId : String)
    (o : TrajectoryObservation) : Prop where
  identity : o.identity = identity
  aware : (utc o.observedAt).isSome
  fresh : o.freshnessWithinContract = true
  governed : provenanceReasons o.provenance schedulerWorkId = []

theorem observationReasons_nil {request : FixedTrajectoryRequest} {o : TrajectoryObservation} :
    observationReasons request o = [] ↔ Sound request.identity request.schedulerWorkId o := by
  simp only [observationReasons, List.append_eq_nil_iff, reasonIf_eq_nil, not_not,
    Bool.not_eq_true, Option.isNone_eq_false_iff, Bool.not_eq_false']
  constructor
  · rintro ⟨⟨⟨hidentity, haware⟩, hfresh⟩, hgoverned⟩
    exact ⟨hidentity, haware, hfresh, hgoverned⟩
  · intro h
    exact ⟨⟨⟨h.identity, h.aware⟩, h.fresh⟩, h.governed⟩

variable {checkpoint : TrajectoryCheckpoint} {later : List TrajectoryObservation}

/-- Nothing is said against later observations that are sound, new and in order behind the time. -/
theorem laterReasons_nil : ∀ {previous : Instant} {seen : List ℤ},
    laterReasons checkpoint previous seen later = [] ↔
      (∀ o ∈ later, Sound checkpoint.identity checkpoint.schedulerWorkId o ∧ 0 < o.snapshotId) ∧
        (idsOf later).Nodup ∧ (∀ id ∈ idsOf later, id ∉ seen) ∧
          (previous :: timesOf later).Pairwise (· < ·) := by
  induction later with
  | nil =>
    intro previous seen
    simp [laterReasons, idsOf, timesOf]
  | cons o rest ih =>
    intro previous seen
    have hids : idsOf (o :: rest) = o.snapshotId :: idsOf rest := rfl
    cases htime : utc o.observedAt with
    | none =>
      refine iff_of_false (fun h => ?_) fun h => ?_
      · simp only [laterReasons, htime, List.append_eq_nil_iff] at h
        exact absurd h.1.1.1.2 (List.cons_ne_nil _ _)
      · have haware := (h.1 o List.mem_cons_self).1.aware
        rw [htime] at haware
        cases haware
    | some t =>
      have htimes : timesOf (o :: rest) = t :: timesOf rest := by
        rw [timesOf, List.filterMap_cons, htime]
        rfl
      have hchain : (previous :: t :: timesOf rest).Pairwise (· < ·) ↔
          previous < t ∧ (t :: timesOf rest).Pairwise (· < ·) := by
        rw [← List.isChain_iff_pairwise, List.isChain_cons_cons, List.isChain_iff_pairwise]
      have hnew : (∀ id ∈ idsOf rest, id ∉ o.snapshotId :: seen) ↔
          o.snapshotId ∉ idsOf rest ∧ ∀ id ∈ idsOf rest, id ∉ seen := by
        refine ⟨fun h => ⟨fun hmem => h _ hmem List.mem_cons_self,
          fun id hid hmem => h id hid (List.mem_cons_of_mem _ hmem)⟩, fun h id hid hmem => ?_⟩
        rcases List.mem_cons.mp hmem with rfl | hmem
        · exact h.1 hid
        · exact h.2 id hid hmem
      rw [hids, htimes, hchain, List.nodup_cons, List.forall_mem_cons, List.forall_mem_cons]
      simp only [laterReasons, htime, List.append_eq_nil_iff, reasonIf_eq_nil, not_not, not_or,
        Int.not_le, Option.getD_some, Bool.not_eq_true, Bool.not_eq_false', ih, hnew]
      constructor
      · rintro ⟨⟨⟨⟨⟨hidentity, hfresh, hpositive⟩, hlate⟩, hwithin⟩, hgoverned⟩, hrest, hnodup,
          ⟨hother, hseen⟩, horder⟩
        exact ⟨⟨⟨⟨hidentity, by rw [htime]; rfl, hwithin, hgoverned⟩, hpositive⟩, hrest⟩,
          ⟨hother, hnodup⟩, ⟨hfresh, hseen⟩, hlate, horder⟩
      · rintro ⟨⟨⟨hsound, hpositive⟩, hrest⟩, ⟨hother, hnodup⟩, ⟨hfresh, hseen⟩, hlate, horder⟩
        exact ⟨⟨⟨⟨⟨hsound.identity, hfresh, hpositive⟩, hlate⟩, hsound.fresh⟩, hsound.governed⟩,
          hrest, hnodup, ⟨hother, hseen⟩, horder⟩

theorem evaluation_valid_iff : (evaluateLaterEvidence checkpoint later).verdict = .valid ↔
    laterReasons checkpoint checkpoint.evidenceCutoff checkpoint.orderedSnapshotIds later = [] := by
  unfold evaluateLaterEvidence
  by_cases h : laterReasons checkpoint checkpoint.evidenceCutoff checkpoint.orderedSnapshotIds later
      = []
  · simp [h]
  · simp [h]

/-! ## Trajectories with more observations -/

def FixedTrajectoryRequest.extend (request : FixedTrajectoryRequest)
    (later : List TrajectoryObservation) : FixedTrajectoryRequest :=
  { request with observations := request.observations ++ later }

theorem position_eq_none {ids : List ℤ} {id : ℤ} (h : id ∉ ids) : position ids id = none := by
  cases hposition : position ids id with
  | none => rfl
  | some i => exact absurd (List.mem_of_getElem? (position_some hposition)) h

/-- New ids behind leave the positions of the others. -/
theorem position_append {ids more : List ℤ} {id : ℤ} (h : id ∉ more) :
    position (ids ++ more) id = position ids id := by
  induction ids with
  | nil => exact position_eq_none h
  | cons x ids ih => simp only [List.cons_append, position, ih]

theorem position_extend {ids more : List ℤ} {id : ℤ} {i : ℕ} (hnew : ∀ id ∈ ids, id ∉ more)
    (h : position ids id = some i) : position (ids ++ more) id = some i := by
  rw [position_append (hnew id (List.mem_of_getElem? (position_some h))), h]

theorem timeAt_append {observations : List TrajectoryObservation} {i : ℕ} {t : Instant}
    (h : timeAt observations i = some t) : timeAt (observations ++ later) i = some t := by
  obtain ⟨o, ho, ht⟩ := Option.bind_eq_some_iff.mp h
  obtain ⟨hi, -⟩ := List.getElem?_eq_some_iff.mp ho
  rw [timeAt, List.getElem?_append_left hi, ho]
  exact ht

theorem gapTimeReasons_append {observations : List TrajectoryObservation} {before after : ℕ}
    {gap : VisibleEvidenceGap} (h : gapTimeReasons observations before after gap = []) :
    gapTimeReasons (observations ++ later) before after gap = [] := by
  obtain ⟨openedAt, closedAt, opening, closing, hopened, hclosed, hbefore, hafter, -, -, -⟩ :=
    gapTimeReasons_nil h
  simp only [gapTimeReasons, hopened, hclosed, hbefore, hafter, timeAt_append hbefore,
    timeAt_append hafter] at h ⊢
  exact h

/-- Gaps that nothing is said against stay so. -/
theorem gapReasons_extend {request : FixedTrajectoryRequest} {more : List ℤ}
    {gaps : List VisibleEvidenceGap} (hnew : ∀ id ∈ snapshotIds request, id ∉ more) :
    ∀ {seen : List String} {prior : ℤ},
      gapReasons (snapshotIds request) request.observations seen prior gaps = [] →
        gapReasons (snapshotIds request ++ more) (request.observations ++ later) seen prior gaps =
          [] := by
  induction gaps with
  | nil => exact fun _ => rfl
  | cons gap gaps ih =>
    intro seen prior h
    unfold gapReasons at h ⊢
    rw [List.append_eq_nil_iff] at h ⊢
    refine ⟨h.1, ?_⟩
    replace h := h.2
    cases hbefore : position (snapshotIds request) gap.beforeSnapshotId with
    | none => simp only [hbefore, reduceCtorEq] at h
    | some before =>
      cases hafter : position (snapshotIds request) gap.afterSnapshotId with
      | none => simp only [hbefore, hafter, reduceCtorEq] at h
      | some after =>
        simp only [hbefore, hafter, List.append_eq_nil_iff] at h
        obtain ⟨⟨⟨horder, htimes⟩, hreason⟩, hrest⟩ := h
        simp only [position_extend hnew hbefore, position_extend hnew hafter,
          List.append_eq_nil_iff]
        exact ⟨⟨⟨horder, gapTimeReasons_append htimes⟩, hreason⟩, ih hrest⟩

theorem mapM_extend {ids more support : List ℤ} (hnew : ∀ id ∈ ids, id ∉ more) :
    ∀ {positions : List ℕ}, support.mapM (position ids) = some positions →
      support.mapM (position (ids ++ more)) = some positions := by
  induction support with
  | nil => exact fun h => h
  | cons x support ih =>
    intro positions h
    rw [List.mapM_cons] at h ⊢
    obtain ⟨i, hi, h⟩ := Option.bind_eq_some_iff.mp h
    obtain ⟨rest, hrest, h⟩ := Option.bind_eq_some_iff.mp h
    rw [position_extend hnew hi, ih hrest]
    exact h

/-- Claims that nothing is said against stay so, over gaps whose observations are there. -/
theorem claimReasons_extend {μ : Type} {ids more : List ℤ} {gaps : List VisibleEvidenceGap}
    {label : String} {claim : Claim μ} (hnew : ∀ id ∈ ids, id ∉ more)
    (hgaps : ∀ gap ∈ gaps, ∃ before after, position ids gap.beforeSnapshotId = some before ∧
      position ids gap.afterSnapshotId = some after)
    (h : claimReasons ids gaps label claim = []) :
    claimReasons (ids ++ more) gaps label claim = [] := by
  unfold claimReasons at h ⊢
  split_ifs at h ⊢
  cases hpositions : claim.supportingSnapshotIds.mapM (position ids) with
  | none => simp only [hpositions, reduceCtorEq] at h
  | some positions =>
    simp only [hpositions, List.flatMap_eq_nil_iff] at h
    simp only [mapM_extend hnew hpositions, List.flatMap_eq_nil_iff]
    intro gap hgap
    obtain ⟨before, after, hbefore, hafter⟩ := hgaps gap hgap
    have hcross := h gap hgap
    simp only [crossesGap, hbefore, hafter] at hcross
    simp only [crossesGap, position_extend hnew hbefore, position_extend hnew hafter]
    exact hcross

theorem pairwise_iff_zip_tail {times : List Instant} :
    (¬((times.zip times.tail).any fun pair => pair.2 ≤ pair.1) = true) ↔
      times.Pairwise (· < ·) := by
  refine ⟨pairwise_of_zip_tail, fun h => ?_⟩
  rw [← List.isChain_iff_pairwise] at h
  induction times with
  | nil => simp
  | cons t times ih =>
    cases times with
    | nil => simp
    | cons u times =>
      obtain ⟨hlt, hrest⟩ := List.isChain_cons_cons.mp h
      simp only [List.tail_cons, List.zip_cons_cons, List.any_cons, Bool.or_eq_true,
        decide_eq_true_eq, not_or, Int.not_le]
      exact ⟨hlt, ih hrest⟩

/-- The parts of a valid request: its identities, its observations, and its gaps and claims. -/
structure Passed (request : FixedTrajectoryRequest) : Prop where
  expected : request.identity = request.expectedIdentity
  identity : validIdentity request.identity = true
  work : validText request.schedulerWorkId = true
  observed : request.observations ≠ []
  positive : ∀ id ∈ snapshotIds request, 0 < id
  unique : (snapshotIds request).Nodup
  sound : ∀ o ∈ request.observations, Sound request.identity request.schedulerWorkId o
  chronological : (observedTimes request).Pairwise (· < ·)
  gaps : gapReasons (snapshotIds request) request.observations [] (-1) request.gaps = []
  phases : ∀ claim ∈ resolvedPhases request,
    claimReasons (snapshotIds request) request.gaps "phase" claim = []
  reversals : ∀ claim ∈ resolvedReversals request,
    claimReasons (snapshotIds request) request.gaps "reversal" claim = []
  phaseConflicts : conflictingClaimReasons "phase" [] (resolvedPhases request) = []
  reversalConflicts : conflictingClaimReasons "reversal" [] (resolvedReversals request) = []
  sides : ∀ claim ∈ resolvedReversals request, reversalReasons claim = []

theorem passed_iff {request : FixedTrajectoryRequest} :
    (buildFixedTrajectory request).verdict = .valid ↔ Passed request := by
  have hany : (¬((snapshotIds request).any (· ≤ 0)) = true) ↔
      ∀ id ∈ snapshotIds request, 0 < id := by simp
  have htrue : ∀ b : Bool, (¬(!b) = true) ↔ b = true := by simp
  rw [valid_iff]
  simp only [trajectoryReasons, List.append_eq_nil_iff, reasonIf_eq_nil, not_not,
    List.flatMap_eq_nil_iff, pairwise_iff_zip_tail, observationReasons_nil, hany, htrue]
  constructor
  · rintro ⟨⟨⟨⟨⟨⟨⟨⟨⟨⟨⟨⟨⟨hexpected, hidentity⟩, hwork⟩, hobserved⟩, hpositive⟩, hunique⟩, hsound⟩,
      hchronological⟩, hgaps⟩, hphases⟩, hreversals⟩, hphaseConflicts⟩, hreversalConflicts⟩, hsides⟩
    exact ⟨hexpected, hidentity, hwork, hobserved, hpositive, hunique, hsound, hchronological,
      hgaps, hphases, hreversals, hphaseConflicts, hreversalConflicts, hsides⟩
  · intro h
    exact ⟨⟨⟨⟨⟨⟨⟨⟨⟨⟨⟨⟨⟨h.expected, h.identity⟩, h.work⟩, h.observed⟩, h.positive⟩, h.unique⟩,
      h.sound⟩, h.chronological⟩, h.gaps⟩, h.phases⟩, h.reversals⟩, h.phaseConflicts⟩,
      h.reversalConflicts⟩, h.sides⟩

/-- A valid request with later observations. -/
theorem extend_valid_iff {request : FixedTrajectoryRequest}
    (hvalid : (buildFixedTrajectory request).verdict = .valid) :
    (buildFixedTrajectory (request.extend later)).verdict = .valid ↔
      (∀ o ∈ later, Sound request.identity request.schedulerWorkId o ∧ 0 < o.snapshotId) ∧
        (snapshotIds request ++ idsOf later).Nodup ∧
          (timesOf request.observations ++ timesOf later).Pairwise (· < ·) := by
  have hpassed := passed_iff.mp hvalid
  have hids : snapshotIds (request.extend later) = snapshotIds request ++ idsOf later :=
    List.map_append
  have htimes : observedTimes (request.extend later) =
      timesOf request.observations ++ timesOf later := List.filterMap_append
  rw [passed_iff]
  constructor
  · intro h
    refine ⟨fun o ho => ⟨h.sound o (List.mem_append_right _ ho), h.positive _ ?_⟩,
      hids ▸ h.unique, htimes ▸ h.chronological⟩
    rw [hids]
    exact List.mem_append_right _ (List.mem_map_of_mem ho)
  · rintro ⟨hlater, hunique, hchronological⟩
    have hnew : ∀ id ∈ snapshotIds request, id ∉ idsOf later := fun id hid hmem =>
      (List.nodup_append.mp hunique).2.2 id hid id hmem rfl
    have hplaces : ∀ gap ∈ request.gaps, ∃ before after,
        position (snapshotIds request) gap.beforeSnapshotId = some before ∧
          position (snapshotIds request) gap.afterSnapshotId = some after := by
      intro gap hgap
      obtain ⟨before, after, _, _, _, _, hin⟩ := gapReasons_nil hpassed.gaps gap hgap
      exact ⟨before, after, hin.positionBefore, hin.positionAfter⟩
    have hpositive : ∀ id ∈ snapshotIds request ++ idsOf later, 0 < id := by
      intro id hid
      rcases List.mem_append.mp hid with hid | hid
      · exact hpassed.positive id hid
      · obtain ⟨o, ho, rfl⟩ := List.mem_map.mp hid
        exact (hlater o ho).2
    have hsound : ∀ o ∈ request.observations ++ later,
        Sound request.identity request.schedulerWorkId o := by
      intro o ho
      rcases List.mem_append.mp ho with ho | ho
      · exact hpassed.sound o ho
      · exact (hlater o ho).1
    exact
      { expected := hpassed.expected
        identity := hpassed.identity
        work := hpassed.work
        observed := fun hnil => hpassed.observed (List.append_eq_nil_iff.mp hnil).1
        positive := hids ▸ hpositive
        unique := hids ▸ hunique
        sound := hsound
        chronological := htimes ▸ hchronological
        gaps := hids ▸ gapReasons_extend hnew hpassed.gaps
        phases := fun claim hclaim =>
          hids ▸ claimReasons_extend hnew hplaces (hpassed.phases claim hclaim)
        reversals := fun claim hclaim =>
          hids ▸ claimReasons_extend hnew hplaces (hpassed.reversals claim hclaim)
        phaseConflicts := hpassed.phaseConflicts
        reversalConflicts := hpassed.reversalConflicts
        sides := hpassed.sides }

/-! ## Evidence against a checkpoint -/

/-- What a checkpoint holds of its trajectory. -/
structure Cut (t : FixedTrajectory) (checkpoint : TrajectoryCheckpoint) : Prop where
  identity : checkpoint.identity = t.identity
  work : checkpoint.schedulerWorkId = t.schedulerWorkId
  ids : checkpoint.orderedSnapshotIds = trajectoryIds t
  time : checkpoint.checkpointTime = checkpoint.evidenceCutoff
  past : ∀ time ∈ timesOf t.observations, time ≤ checkpoint.evidenceCutoff

theorem buildCheckpoint_cut {c : CheckpointRequest}
    (h : (buildCheckpoint c).checkpoint = some checkpoint) : Cut c.trajectory checkpoint := by
  unfold buildCheckpoint at h
  split_ifs at h with hreasons
  · cases h
  · rw [not_not] at hreasons
    cases hkind : checkpointKinds.lookup c.kind with
    | none =>
      simp only [hkind] at h
      cases h
    | some kind =>
      cases htime : utc c.checkpointTime with
      | none =>
        simp only [hkind, htime] at h
        cases h
      | some time =>
        cases hcutoff : utc c.evidenceCutoff with
        | none =>
          simp only [hkind, htime, hcutoff] at h
          cases h
        | some cutoff =>
          simp only [hkind, htime, hcutoff] at h
          obtain rfl := Option.some.inj h
          simp only [checkpointReasons, htime, hcutoff, List.append_eq_nil_iff, reasonIf_eq_nil,
            not_not, List.flatMap_eq_nil_iff] at hreasons
          obtain ⟨⟨⟨⟨⟨⟨⟨-, hwork⟩, -⟩, hsame⟩, -⟩, -⟩, hpast⟩, -⟩ := hreasons
          refine ⟨rfl, hwork, rfl, hsame.symm, fun t ht => ?_⟩
          obtain ⟨o, ho, hobserved⟩ := List.mem_filterMap.mp ht
          have hreason := hpast o ho
          simp only [cutoffReasons, hobserved, reasonIf_eq_nil, Int.not_lt] at hreason
          exact hreason

theorem buildFixedTrajectory_some {request : FixedTrajectoryRequest} {t : FixedTrajectory}
    (h : (buildFixedTrajectory request).trajectory = some t) :
    (buildFixedTrajectory request).verdict = .valid ∧ t.identity = request.identity ∧
      t.schedulerWorkId = request.schedulerWorkId ∧ t.observations = request.observations := by
  unfold buildFixedTrajectory at h ⊢
  split_ifs at h ⊢
  obtain rfl := Option.some.inj h
  exact ⟨rfl, rfl, rfl, rfl⟩

theorem laterReasons_cut {request : FixedTrajectoryRequest} {c : CheckpointRequest}
    (htrajectory : (buildFixedTrajectory request).trajectory = some c.trajectory)
    (hcheckpoint : (buildCheckpoint c).checkpoint = some checkpoint) :
    laterReasons checkpoint checkpoint.evidenceCutoff checkpoint.orderedSnapshotIds later = [] ↔
      (buildFixedTrajectory (request.extend later)).verdict = .valid ∧
        ∀ time ∈ timesOf later, checkpoint.evidenceCutoff < time := by
  obtain ⟨hvalid, hidentity, hwork, hobservations⟩ := buildFixedTrajectory_some htrajectory
  have hcut := buildCheckpoint_cut hcheckpoint
  have hpast := hcut.past
  have hids : checkpoint.orderedSnapshotIds = snapshotIds request := by
    rw [hcut.ids, trajectoryIds, hobservations]
    rfl
  rw [hobservations] at hpast
  rw [laterReasons_nil, extend_valid_iff hvalid, hids,
    hcut.identity.trans hidentity, hcut.work.trans hwork]
  constructor
  · rintro ⟨hsound, hnodup, hseen, horder⟩
    obtain ⟨hlate, horder⟩ := List.pairwise_cons.mp horder
    have hpassed := passed_iff.mp hvalid
    refine ⟨⟨hsound, ?_, ?_⟩, hlate⟩
    · refine List.nodup_append.mpr ⟨hpassed.unique, hnodup, fun id hid id' hid' heq => ?_⟩
      exact hseen id' hid' (heq ▸ hid)
    · refine List.pairwise_append.mpr ⟨hpassed.chronological, horder, fun t ht t' ht' => ?_⟩
      exact Int.lt_of_le_of_lt (hpast t ht) (hlate t' ht')
  · rintro ⟨⟨hsound, hnodup, htimes⟩, hlate⟩
    obtain ⟨-, hnodup', hdisjoint⟩ := List.nodup_append.mp hnodup
    refine ⟨hsound, hnodup', fun id hid hmem => hdisjoint id hmem id hid rfl, ?_⟩
    exact List.pairwise_cons.mpr ⟨hlate, (List.pairwise_append.mp htimes).2.1⟩

/-- Later evidence passes against a checkpoint exactly where the trajectory is valid with it and all
of it is later than the cutoff. -/
theorem evaluateLaterEvidence_valid_iff {request : FixedTrajectoryRequest} {c : CheckpointRequest}
    (htrajectory : (buildFixedTrajectory request).trajectory = some c.trajectory)
    (hcheckpoint : (buildCheckpoint c).checkpoint = some checkpoint)
    (later : List TrajectoryObservation) :
    (evaluateLaterEvidence checkpoint later).verdict = .valid ↔
      (buildFixedTrajectory (request.extend later)).verdict = .valid ∧
        ∀ time ∈ timesOf later, checkpoint.evidenceCutoff < time :=
  evaluation_valid_iff.trans (laterReasons_cut htrajectory hcheckpoint)

/-- A checkpoint of the request with one claim, and of later observations, at a minute. -/
def gapCheckpointRequest (later : List TrajectoryObservation) (time : ℤ) : CheckpointRequest where
  checkpointId := "checkpoint"
  trajectory :=
    { identity := gapIdentity
      schedulerWorkId := "work"
      observations := (gapRequest 2 3 [1, 2]).observations ++ later
      gaps := (gapRequest 2 3 [1, 2]).gaps
      phases := [⟨.continuation, [1, 2]⟩]
      reversals := []
      observedPeakSnapshotIds := [] }
  kind := "SCHEDULED_DEADLINE"
  checkpointTime := minute time
  evidenceCutoff := minute time
  eligiblePaths := ["WAIT_REVIEW"]
  schedulerWorkId := "work"

theorem evaluateLaterEvidence_minute_forty :
    ∃ checkpoint, (buildCheckpoint (gapCheckpointRequest [] 30)).checkpoint = some checkpoint ∧
      (evaluateLaterEvidence checkpoint [gapObservation 5 40]).verdict = .valid := by
  have htrajectory : (buildFixedTrajectory (gapRequest 2 3 [1, 2])).trajectory =
      some (gapCheckpointRequest [] 30).trajectory := by decide
  obtain ⟨checkpoint, hcheckpoint⟩ : ∃ checkpoint,
      (buildCheckpoint (gapCheckpointRequest [] 30)).checkpoint = some checkpoint :=
    Option.isSome_iff_exists.mp (by decide)
  have hcutoff : (buildCheckpoint (gapCheckpointRequest [] 30)).checkpoint.map
      TrajectoryCheckpoint.evidenceCutoff = some (minute 30).wall := by decide
  rw [hcheckpoint] at hcutoff
  refine ⟨checkpoint, hcheckpoint, ?_⟩
  refine (evaluateLaterEvidence_valid_iff htrajectory hcheckpoint _).mpr
    ⟨by decide, fun time htime => ?_⟩
  rw [Option.some.inj hcutoff]
  obtain rfl := List.mem_singleton.mp htime
  decide

/-! ## Portions of evidence -/

/-- Portions of evidence, each of which passes against a checkpoint of the trajectory that the
portions before it have led to. -/
inductive Accepted : FixedTrajectoryRequest → List (List TrajectoryObservation) → Prop
  | done (request : FixedTrajectoryRequest) : Accepted request []
  | next {request : FixedTrajectoryRequest} {c : CheckpointRequest}
    {checkpoint : TrajectoryCheckpoint} {portion : List TrajectoryObservation}
    {rest : List (List TrajectoryObservation)} :
    (buildFixedTrajectory request).trajectory = some c.trajectory →
      (buildCheckpoint c).checkpoint = some checkpoint →
        (evaluateLaterEvidence checkpoint portion).verdict = .valid →
          Accepted (request.extend portion) rest → Accepted request (portion :: rest)

theorem extend_extend (request : FixedTrajectoryRequest)
    (first second : List TrajectoryObservation) :
    (request.extend first).extend second = request.extend (first ++ second) := by
  unfold FixedTrajectoryRequest.extend
  rw [List.append_assoc]

/-- A trajectory stays valid with all the portions. -/
theorem Accepted.valid {request : FixedTrajectoryRequest}
    {portions : List (List TrajectoryObservation)} (h : Accepted request portions)
    (hvalid : (buildFixedTrajectory request).verdict = .valid) :
    (buildFixedTrajectory (request.extend portions.flatten)).verdict = .valid := by
  induction h with
  | done request =>
    have hnone : request.extend [].flatten = request := by
      unfold FixedTrajectoryRequest.extend
      rw [List.flatten_nil, List.append_nil]
    rwa [hnone]
  | next htrajectory hcheckpoint hportion _ ih =>
    rw [List.flatten_cons, ← extend_extend]
    exact ih ((laterReasons_cut htrajectory hcheckpoint).mp (evaluation_valid_iff.mp hportion)).1

/-- What passes portion by portion, each against a checkpoint of its own and the first not empty,
passes as a whole against the first checkpoint. -/
theorem evaluateLaterEvidence_portions {request : FixedTrajectoryRequest} {c : CheckpointRequest}
    (htrajectory : (buildFixedTrajectory request).trajectory = some c.trajectory)
    (hcheckpoint : (buildCheckpoint c).checkpoint = some checkpoint)
    {portion : List TrajectoryObservation} {rest : List (List TrajectoryObservation)}
    (hsome : portion ≠ [])
    (hportion : (evaluateLaterEvidence checkpoint portion).verdict = .valid)
    (hrest : Accepted (request.extend portion) rest) :
    (evaluateLaterEvidence checkpoint (portion ++ rest.flatten)).verdict = .valid := by
  obtain ⟨hvalid, -⟩ := buildFixedTrajectory_some htrajectory
  obtain ⟨hfirst, hlate⟩ :=
    (laterReasons_cut htrajectory hcheckpoint).mp (evaluation_valid_iff.mp hportion)
  have hwhole := hrest.valid hfirst
  rw [extend_extend] at hwhole
  rw [evaluation_valid_iff, laterReasons_cut htrajectory hcheckpoint]
  refine ⟨hwhole, fun t ht => ?_⟩
  obtain ⟨hsound, -, htimes⟩ := (extend_valid_iff hvalid).mp hwhole
  have hsplit : timesOf (portion ++ rest.flatten) = timesOf portion ++ timesOf rest.flatten :=
    List.filterMap_append
  rw [hsplit] at ht htimes
  rcases List.mem_append.mp ht with ht | ht
  · exact hlate t ht
  · obtain ⟨o, ho⟩ := List.exists_mem_of_ne_nil portion hsome
    obtain ⟨t₀, ht₀⟩ := Option.isSome_iff_exists.mp
      (hsound o (List.mem_append_left _ ho)).1.aware
    have hmem : t₀ ∈ timesOf portion := List.mem_filterMap.mpr ⟨o, ho, ht₀⟩
    have horder := (List.pairwise_append.mp (List.pairwise_append.mp htimes).2.1).2.2
    exact Int.lt_trans (hlate t₀ hmem) (horder t₀ hmem t ht)

theorem evaluateLaterEvidence_portions_fifty :
    ∃ checkpoint, (buildCheckpoint (gapCheckpointRequest [] 30)).checkpoint = some checkpoint ∧
      (evaluateLaterEvidence checkpoint [gapObservation 5 40, gapObservation 6 50]).verdict =
        .valid := by
  have hfirst : (buildCheckpoint (gapCheckpointRequest [] 30)).checkpoint.any (fun checkpoint =>
      (evaluateLaterEvidence checkpoint [gapObservation 5 40]).verdict = .valid) = true := by decide
  have hsecond : (buildCheckpoint (gapCheckpointRequest [gapObservation 5 40] 40)).checkpoint.any
      (fun checkpoint =>
        (evaluateLaterEvidence checkpoint [gapObservation 6 50]).verdict = .valid) = true := by
    decide
  obtain ⟨checkpoint, hcheckpoint, hpasses⟩ := (Option.any_eq_true _ _).mp hfirst
  obtain ⟨second, hnext, hlater⟩ := (Option.any_eq_true _ _).mp hsecond
  have htrajectory : (buildFixedTrajectory (gapRequest 2 3 [1, 2])).trajectory =
      some (gapCheckpointRequest [] 30).trajectory := by decide
  have hextended : (buildFixedTrajectory
      ((gapRequest 2 3 [1, 2]).extend [gapObservation 5 40])).trajectory =
        some (gapCheckpointRequest [gapObservation 5 40] 40).trajectory := by decide
  exact ⟨checkpoint, hcheckpoint, evaluateLaterEvidence_portions htrajectory hcheckpoint
    (List.cons_ne_nil _ _) (of_decide_eq_true hpasses)
    (.next hextended hnext (of_decide_eq_true hlater) (.done _))⟩

end PrinterV1.Scheduler
