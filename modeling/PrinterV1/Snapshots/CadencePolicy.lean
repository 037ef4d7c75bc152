import PrinterV1.Foundation.Gaps
import PrinterV1.Foundation.Sorting
import PrinterV1.Python.LocalClock

/-!
# The cadence policy

`evaluate_cadence_policy` grades the snapshots of a window by their count, by
their gaps and by how late the closing one is. Durations are whole numbers of
microseconds, which the report rounds; a time beyond the calendar raises. A text
without an offset is a time of the host's local clock.
-/

namespace PrinterV1.Snapshots.Cadence

open Python

/-- What a time column holds. A datetime object is used for its instant on the host. -/
inductive TimeValue
  | none
  | moment (t : Instant)
  | text (s : String)
  deriving DecidableEq, Repr

/-- `_parse_ts` -/
def parseTs (clock : LocalClock) : TimeValue → Option Instant
  | .none => none
  | .moment t => some t
  | .text s => (fromisoformat (replaceZulu (strip s))).bind (Datetime.instantOn clock)

/-- `astimezone` raises `OverflowError`, which is not caught. -/
def overflows (clock : LocalClock) (value : TimeValue) : Bool :=
  (parseTs clock value).any fun t => ¬InRange t

structure SnapshotCadencePolicy where
  windowKind : String
  trackingLane : String
  assetState : String := "any"
  urgencyState : String := "any"
  targetSnapshotIntervalSeconds : ℤ
  dirtyAboveGapSeconds : ℤ
  maxCleanSnapshotGapSeconds : ℤ
  windowCloseIntervalSeconds : ℤ
  minimumRequiredSnapshots : ℤ
  supportOnly : Bool
  enabledForRealCollection : Bool
  maxMissingSnapshotsForDirty : Option ℤ := none
  blockGapAtThreshold : Bool := false
  requireFullAnchoredDuration : Bool := false
  requireForcedClosingSnapshot : Bool := false
  closingCleanLateSeconds : ℤ := 60
  deriving DecidableEq, Repr

namespace SnapshotCadencePolicy

variable (p : SnapshotCadencePolicy)

def cleanMaxGapSeconds : ℤ := p.dirtyAboveGapSeconds

def blockedAtGapSeconds : ℤ := p.maxCleanSnapshotGapSeconds

/-- `gap_blocks` -/
def gapBlocks (maxGap : ℤ) : Bool :=
  if p.blockGapAtThreshold then maxGap ≥ seconds p.blockedAtGapSeconds
  else maxGap > seconds p.blockedAtGapSeconds

/-- `missed`, of a count. -/
def missed (actualCount : ℕ) : ℤ := max 0 (p.minimumRequiredSnapshots - actualCount)

/-- More snapshots are missed than a dirty window may miss. -/
def tooManyMissing (actualCount : ℕ) : Bool :=
  p.maxMissingSnapshotsForDirty.any fun allowance => p.missed actualCount > allowance

end SnapshotCadencePolicy

inductive CadenceStatus
  | pass | dirty | blocked | unknown
  deriving DecidableEq, Repr

inductive ClosingFreshness
  | missingAtDeadline | blocked | clean | dirty
  deriving DecidableEq, Repr

/-- `blocked_reason`, with the numbers its text shows. -/
inductive Reason
  | missingCoverage
  | disabled
  | supportOnly
  | unparseableBoundaries
  | anchoredDurationInadequate (anchored required : ℤ)
  | closingMissing
  | closingPrecedesDeadline (offset : ℤ)
  | closingTooLate (late nominal : ℤ)
  | insufficientSnapshots (got : ℕ)
  | gapExceedsPolicy (maxGap blockAt : ℤ)
  | gapDirty (maxGap cleanMax : ℤ)
  | tooManyMissing (missed : ℤ) (allowance : Option ℤ)
  | missedSnapshots (expected : ℤ) (got : ℕ) (missed : ℤ)
  | closingDirty (late cleanLate : ℤ)
  deriving DecidableEq, Repr

structure CadenceEvaluation where
  policy : Option SnapshotCadencePolicy
  actualSnapshotCount : ℕ
  missedSnapshots : Option ℤ := none
  actualMaxGap : Option ℤ := none
  anchoredDuration : Option ℤ := none
  observedSpan : Option ℤ := none
  closingLateness : Option ℤ := none
  closingFreshness : Option ClosingFreshness := none
  actualGaps : List ℤ := []
  cadencePolicyStatus : CadenceStatus
  blockedReason : Option Reason := none
  deriving DecidableEq, Repr

/-- `_gap_series` of the parsed times in order. -/
def gapSeries (times : List Instant) (windowStart windowEnd : Instant) : List ℤ :=
  if times = [] then [windowEnd - windowStart]
  else
    Gaps.gaps windowStart
      ((times.map fun ts => min (max ts windowStart) windowEnd) ++ [windowEnd])

def maxGapOf (times : List Instant) (windowStart windowEnd : Instant) : ℤ :=
  (gapSeries times windowStart windowEnd).max?.getD 0

/-- `observed_span` -/
def observedSpan (times : List Instant) : Option ℤ :=
  if times.length ≥ 2 then
    match times.head?, times.getLast? with
    | some first, some last => some (last - first)
    | _, _ => none
  else none

/-- The check of the forced closing snapshot: a refusal, or the lateness with its grade where one
is asked for. -/
def closingCheck (p : SnapshotCadencePolicy) (actualCount : ℕ) (times : List Instant)
    (windowEnd : Instant) (base : CadenceEvaluation) :
    Except CadenceEvaluation (Option (ℤ × ClosingFreshness)) :=
  if !p.requireForcedClosingSnapshot then .ok none
  else
    match times.getLast? with
    | none =>
      .error { base with
        cadencePolicyStatus := .blocked
        blockedReason := some .closingMissing
        missedSnapshots := some p.minimumRequiredSnapshots }
    | some last =>
      let lateness := last - windowEnd
      if lateness < 0 then
        .error { base with
          cadencePolicyStatus := .blocked
          closingLateness := some lateness
          closingFreshness := some .missingAtDeadline
          blockedReason := some (.closingPrecedesDeadline lateness)
          missedSnapshots := some (p.missed actualCount) }
      else if lateness ≥ seconds p.targetSnapshotIntervalSeconds then
        .error { base with
          cadencePolicyStatus := .blocked
          closingLateness := some lateness
          closingFreshness := some .blocked
          blockedReason := some (.closingTooLate lateness p.targetSnapshotIntervalSeconds)
          missedSnapshots := some (p.missed actualCount) }
      else if lateness ≤ seconds p.closingCleanLateSeconds then .ok (some (lateness, .clean))
      else .ok (some (lateness, .dirty))

/-- The grade of the count and the gaps. -/
def gradeGaps (p : SnapshotCadencePolicy) (actualCount : ℕ) (maxGap : ℤ)
    (closing : Option (ℤ × ClosingFreshness)) : CadenceStatus × Option Reason :=
  if p.gapBlocks maxGap then (.blocked, some (.gapExceedsPolicy maxGap p.blockedAtGapSeconds))
  else if maxGap > seconds p.cleanMaxGapSeconds then
    (.dirty, some (.gapDirty maxGap p.cleanMaxGapSeconds))
  else if p.tooManyMissing actualCount then
    (.blocked, some (.tooManyMissing (p.missed actualCount) p.maxMissingSnapshotsForDirty))
  else if actualCount < p.minimumRequiredSnapshots then
    (.dirty,
      some (.missedSnapshots p.minimumRequiredSnapshots actualCount (p.missed actualCount)))
  else
    match closing with
    | some (lateness, .dirty) => (.dirty, some (.closingDirty lateness p.closingCleanLateSeconds))
    | _ => (.pass, none)

/-- The evaluation of a window whose ends were read, on the parsed times in order. -/
def evaluateWindow (p : SnapshotCadencePolicy) (actualCount : ℕ) (times : List Instant)
    (windowStart windowEnd : Instant) : CadenceEvaluation :=
  let anchored := windowEnd - windowStart
  let base : CadenceEvaluation :=
    { policy := some p
      actualSnapshotCount := actualCount
      anchoredDuration := some anchored
      observedSpan := observedSpan times
      cadencePolicyStatus := .unknown }
  if p.requireFullAnchoredDuration ∧ anchored < seconds p.windowCloseIntervalSeconds then
    { base with
      cadencePolicyStatus := .blocked
      blockedReason := some (.anchoredDurationInadequate anchored p.windowCloseIntervalSeconds)
      missedSnapshots := some (p.missed actualCount) }
  else
    match closingCheck p actualCount times windowEnd base with
    | .error refused => refused
    | .ok closing =>
      let closed : CadenceEvaluation :=
        { base with
          closingLateness := closing.map Prod.fst
          closingFreshness := closing.map Prod.snd }
      if actualCount < 2 then
        { closed with
          cadencePolicyStatus := .blocked
          blockedReason := some (.insufficientSnapshots actualCount)
          missedSnapshots := some (p.missed actualCount) }
      else
        let maxGap := maxGapOf times windowStart windowEnd
        let grade := gradeGaps p actualCount maxGap closing
        { closed with
          actualGaps := gapSeries times windowStart windowEnd
          actualMaxGap := some maxGap
          missedSnapshots := some (if grade.1 = .pass then 0 else p.missed actualCount)
          cadencePolicyStatus := grade.1
          blockedReason := grade.2 }

/-- The times that parse, in order. -/
def parsedTimes (clock : LocalClock) (snapshots : List TimeValue) : List Instant :=
  sortBy id (snapshots.filterMap (parseTs clock))

/-- `evaluate_cadence_policy`, on the `captured_at` of the snapshots. -/
def evaluateCadencePolicy (clock : LocalClock) (snapshots : List TimeValue)
    (windowStartAt windowEndAt : TimeValue) (policy : Option SnapshotCadencePolicy)
    (productionMode allowDisabled : Bool) : Except String CadenceEvaluation :=
  let count := snapshots.length
  match policy with
  | none => .ok { policy := none, actualSnapshotCount := count, cadencePolicyStatus := .unknown }
  | some p =>
    let base : CadenceEvaluation :=
      { policy := some p, actualSnapshotCount := count, cadencePolicyStatus := .blocked }
    if count = 0 then
      .ok (if productionMode then
        { base with
          blockedReason := some .missingCoverage
          missedSnapshots := some p.minimumRequiredSnapshots }
        else { base with cadencePolicyStatus := .unknown })
    else if !p.enabledForRealCollection && !allowDisabled then
      .ok { base with blockedReason := some .disabled }
    else if p.supportOnly then .ok { base with blockedReason := some .supportOnly }
    else if overflows clock windowStartAt || overflows clock windowEndAt then
      .error "OverflowError"
    else
      match parseTs clock windowStartAt, parseTs clock windowEndAt with
      | some windowStart, some windowEnd =>
        if snapshots.any (overflows clock) then .error "OverflowError"
        else .ok (evaluateWindow p count (parsedTimes clock snapshots) windowStart windowEnd)
      | _, _ => .ok { base with blockedReason := some .unparseableBoundaries }

/-- Every part of the window without a snapshot has a length with the property. A window that ends
before it starts has its negative length, and a gap of zero behind each snapshot. -/
def GapsWithin (P : ℤ → Prop) (windowStart windowEnd : Instant) (times : List Instant) : Prop :=
  if windowStart ≤ windowEnd then
    ∀ a b, windowStart ≤ a → a ≤ b → b ≤ windowEnd → Gaps.Free times a b → P (b - a)
  else P (windowEnd - windowStart) ∧ (times ≠ [] → P 0)

theorem gaps_of_all_eq {stop : ℤ} {ts : List ℤ} (h : ∀ t ∈ ts, t = stop) :
    ∀ g ∈ Gaps.gaps stop (ts ++ [stop]), g = 0 := by
  induction ts with
  | nil => simp [Gaps.gaps]
  | cons t ts ih =>
    intro g hg
    have ht : t = stop := h t List.mem_cons_self
    rw [ht, List.cons_append, Gaps.gaps, List.mem_cons] at hg
    rcases hg with rfl | hg
    · exact Int.sub_self stop
    · exact ih (fun u hu => h u (List.mem_cons_of_mem t hu)) g hg

theorem forall_gapSeries_iff {P : ℤ → Prop} (hdown : ∀ {g h}, h ≤ g → P g → P h)
    {windowStart windowEnd : Instant} {times : List Instant} (hsorted : times.Pairwise (· ≤ ·)) :
    (∀ g ∈ gapSeries times windowStart windowEnd, P g) ↔
      GapsWithin P windowStart windowEnd times := by
  unfold gapSeries GapsWithin
  by_cases hle : windowStart ≤ windowEnd
  · rw [if_pos hle]
    split_ifs with hnil
    · rw [hnil, ← Gaps.forall_gap_iff hdown hle List.Pairwise.nil (by simp)]
      simp [Gaps.gaps]
    · have hclamped : (times.map fun ts => min (max ts windowStart) windowEnd).Pairwise (· ≤ ·) := by
        rw [List.pairwise_map]
        apply hsorted.imp
        intro a b hab
        exact min_le_min_right _ (max_le_max_right _ hab)
      have hin : ∀ t ∈ times.map fun ts => min (max ts windowStart) windowEnd,
          windowStart ≤ t ∧ t ≤ windowEnd := by
        simp only [List.forall_mem_map]
        intro t _
        exact ⟨le_min (le_max_right _ _) hle, min_le_right _ _⟩
      rw [Gaps.forall_gap_iff hdown hle hclamped hin]
      constructor
      · intro h a b ha hab hb hfree
        exact h a b ha hab hb ((Gaps.free_clamp_iff ha hb).mpr hfree)
      · intro h a b ha hab hb hfree
        exact h a b ha hab hb ((Gaps.free_clamp_iff ha hb).mp hfree)
  · rw [if_neg hle]
    have hend : ∀ t : Instant, min (max t windowStart) windowEnd = windowEnd := by
      intro t
      exact min_eq_right ((not_le.mp hle).le.trans (le_max_right _ _))
    cases times with
    | nil => simp
    | cons t ts =>
      simp only [hend, List.map_cons, List.cons_append, Gaps.gaps, reduceCtorEq, if_false,
        List.mem_cons, forall_eq_or_imp, ne_eq, not_false_eq_true, forall_true_left]
      apply and_congr_right
      intro _
      have hall : ∀ u ∈ ts.map fun _ => windowEnd, u = windowEnd := by simp
      constructor
      · intro h
        cases ts with
        | nil => exact h 0 (by simp [Gaps.gaps])
        | cons u us => exact h 0 (by simp [Gaps.gaps])
      · intro h g hg
        rw [gaps_of_all_eq hall g hg]
        exact h

/-- The greatest gap has a property that shorter ones inherit when the parts of the window have. -/
theorem maxGap_iff {P : ℤ → Prop} (hdown : ∀ {g h}, h ≤ g → P g → P h)
    {windowStart windowEnd : Instant} {times : List Instant} (hsorted : times.Pairwise (· ≤ ·)) :
    P (maxGapOf times windowStart windowEnd) ↔ GapsWithin P windowStart windowEnd times := by
  rw [← forall_gapSeries_iff hdown hsorted]
  apply Gaps.of_max_iff hdown
  unfold gapSeries
  split_ifs
  · simp
  · cases times with
    | nil => simp [Gaps.gaps]
    | cons t ts => simp [Gaps.gaps]

end PrinterV1.Snapshots.Cadence
