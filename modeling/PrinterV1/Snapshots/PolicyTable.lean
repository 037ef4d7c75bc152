import PrinterV1.Snapshots.CadenceSoundness

/-!
# The table of cadence policies

`get_policy` of a window kind and a lane, and what an evaluation under a policy
can and cannot answer.
-/

namespace PrinterV1.Snapshots.Cadence

open Python

/-- The common fields of the long windows, which are not yet collected. -/
def longPolicy (windowKind trackingLane : String) (target dirtyAbove blockAbove close required : ℤ) :
    SnapshotCadencePolicy where
  windowKind := windowKind
  trackingLane := trackingLane
  targetSnapshotIntervalSeconds := target
  dirtyAboveGapSeconds := dirtyAbove
  maxCleanSnapshotGapSeconds := blockAbove
  windowCloseIntervalSeconds := close
  minimumRequiredSnapshots := required
  supportOnly := false
  enabledForRealCollection := false
  maxMissingSnapshotsForDirty := some 1
  blockGapAtThreshold := true
  requireFullAnchoredDuration := true
  requireForcedClosingSnapshot := true

/-- The common fields of the other windows. -/
def shortPolicy (windowKind trackingLane : String) (target dirtyAbove blockAbove close required : ℤ)
    (supportOnly : Bool) : SnapshotCadencePolicy where
  windowKind := windowKind
  trackingLane := trackingLane
  targetSnapshotIntervalSeconds := target
  dirtyAboveGapSeconds := dirtyAbove
  maxCleanSnapshotGapSeconds := blockAbove
  windowCloseIntervalSeconds := close
  minimumRequiredSnapshots := required
  supportOnly := supportOnly
  enabledForRealCollection := !supportOnly

/-- `_POLICIES` -/
def policies : List SnapshotCadencePolicy :=
  [shortPolicy "WINDOW_5M_MICRO_EVENT" "TRACK_FAST" 30 45 60 300 11 true,
    shortPolicy "WINDOW_5M_MICRO_EVENT" "TRACK_NORMAL" 60 90 120 300 6 true,
    shortPolicy "WINDOW_15M" "TRACK_FAST" 60 90 120 900 16 false,
    shortPolicy "WINDOW_15M" "TRACK_NORMAL" 120 180 240 900 9 false,
    shortPolicy "WINDOW_1H" "TRACK_FAST" 120 180 240 2700 24 false,
    shortPolicy "WINDOW_1H" "TRACK_NORMAL" 240 360 480 2700 13 false,
    longPolicy "WINDOW_4H" "TRACK_FAST" 180 225 360 10800 61,
    longPolicy "WINDOW_4H" "TRACK_NORMAL" 360 450 720 10800 31,
    longPolicy "WINDOW_12H" "TRACK_FAST" 300 375 600 28800 97,
    longPolicy "WINDOW_12H" "TRACK_NORMAL" 600 750 1200 28800 49,
    longPolicy "WINDOW_24H" "TRACK_FAST" 300 375 600 43200 145,
    longPolicy "WINDOW_24H" "TRACK_NORMAL" 600 750 1200 43200 73]

def anyLane : String := "*"

/-- `get_policy`: the exact lane, the wildcard, and without a lane the first of the kind. -/
def getPolicy (windowKind : String) (trackingLane : Option String) :
    Option SnapshotCadencePolicy :=
  let lane := (trackingLane.filter (· ≠ "")).getD anyLane
  (policies.find? fun p => p.windowKind = windowKind ∧ p.trackingLane = lane) <|>
    (policies.find? fun p => p.windowKind = windowKind ∧ p.trackingLane = anyLane) <|>
      (if trackingLane = none then policies.find? fun p => p.windowKind = windowKind else none)

theorem gradeGaps_ne_unknown (p : SnapshotCadencePolicy) (n : ℕ) (maxGap : ℤ)
    (closing : Option (ℤ × ClosingFreshness)) : (gradeGaps p n maxGap closing).1 ≠ .unknown := by
  unfold gradeGaps
  split_ifs
  · simp
  · simp
  · simp
  · simp
  · split <;> simp

theorem evaluateWindow_ne_unknown (p : SnapshotCadencePolicy) (n : ℕ) (times : List Instant)
    (windowStart windowEnd : Instant) :
    (evaluateWindow p n times windowStart windowEnd).cadencePolicyStatus ≠ .unknown := by
  rcases evaluateWindow_status p n times windowStart windowEnd with
    ⟨hblocked, -⟩ | ⟨closing, hstatus, -, -⟩
  · rw [hblocked]
    simp
  · rw [hstatus]
    exact gradeGaps_ne_unknown p n _ closing

section Evaluation

variable {clock : LocalClock} {snapshots : List TimeValue}
  {windowStartAt windowEndAt : TimeValue} {p : SnapshotCadencePolicy} {allowDisabled : Bool}

/-- With a policy and in production, no evaluation is unknown. -/
theorem evaluateCadencePolicy_ne_unknown :
    statusOf (evaluateCadencePolicy clock snapshots windowStartAt windowEndAt (some p) true
      allowDisabled) ≠ some .unknown := by
  intro h
  unfold evaluateCadencePolicy at h
  dsimp only at h
  split_ifs at h with hcaptured hproduction hdisabled hsupport hcalendar htimes
  · cases Option.some.inj h
  · exact hproduction rfl
  · cases Option.some.inj h
  · cases Option.some.inj h
  · cases h
  · split at h
    · cases h
    · cases Option.some.inj h
  · split at h
    · exact evaluateWindow_ne_unknown p _ _ _ _ (Option.some.inj h)
    · cases Option.some.inj h

end Evaluation

end PrinterV1.Snapshots.Cadence
