import Mathlib.Algebra.Order.Field.Rat
import Mathlib.Tactic.Linarith
import PrinterV1.Foundation.Sorting
import PrinterV1.Python.Datetime

/-!
# Coverage of a memory window

`calculate_coverage` counts snapshots against an expected schedule and looks for
gaps. The label is decided by the count and by the gap before the close, so the
gaps between snapshots and the places of the snapshots do not keep a window from
being clean memory. The times are those `snapshot_captured_at` reads.
-/

namespace PrinterV1.Snapshots

open Python

inductive SnapshotGapLabel
  | noGap | minorGap | majorGap | windowBroken | missedWindowClose
  deriving DecidableEq, Repr

inductive CoverageLabel
  | fullCoverage | acceptableCoverage | partialCoverage | brokenCoverage | auditOnlyCoverage
  deriving DecidableEq, Repr

inductive MemoryStatus
  | cleanMemory | partialMemory | dirtyMemory | doNotTrain | auditOnly
  deriving DecidableEq, Repr

structure SnapshotGap where
  expectedCapturedAt : Instant
  actualCapturedAt : Option Instant
  gapSeconds : ℤ
  snapshotGapLabel : SnapshotGapLabel
  deriving DecidableEq, Repr

structure WindowCoverage where
  expectedSnapshotCount : ℤ
  actualSnapshotCount : ℤ
  missingSnapshotCount : ℤ
  maxGapSeconds : ℤ
  coverageLabel : CoverageLabel
  deriving DecidableEq, Repr

/-- `int((later - earlier).total_seconds())` -/
def wholeSeconds (later earlier : Instant) : ℤ := (later - earlier).tdiv microsPerSecond

/-- `classify_snapshot_gap` -/
def classifySnapshotGap (gapSeconds expectedIntervalSeconds : ℤ) : SnapshotGapLabel :=
  if gapSeconds ≤ expectedIntervalSeconds then .noGap
  else if gapSeconds ≤ expectedIntervalSeconds * 2 then .minorGap
  else if gapSeconds ≤ expectedIntervalSeconds * 4 then .majorGap
  else .windowBroken

/-- `calculate_expected_snapshot_count` -/
def calculateExpectedSnapshotCount (openedAt closedAt : Instant) (expectedIntervalSeconds : ℤ) :
    ℤ :=
  max (closedAt - openedAt) 0 / seconds expectedIntervalSeconds + 1

/-- The gaps before the snapshots, in order. -/
def gapsFrom (expectedIntervalSeconds : ℤ) : Instant → List Instant → List SnapshotGap
  | _, [] => []
  | prior, capturedAt :: rest =>
    let gapSeconds := wholeSeconds capturedAt prior
    let label := classifySnapshotGap gapSeconds expectedIntervalSeconds
    let later := gapsFrom expectedIntervalSeconds capturedAt rest
    if label ≠ .noGap then ⟨prior, some capturedAt, gapSeconds, label⟩ :: later else later

/-- `detect_snapshot_gaps` -/
def detectSnapshotGaps (captured : List Instant) (expectedIntervalSeconds : ℤ)
    (openedAt closedAt : Instant) : List SnapshotGap :=
  let capturedTimes := sortBy id captured
  match capturedTimes.getLast? with
  | none => [⟨openedAt, none, wholeSeconds closedAt openedAt, .windowBroken⟩]
  | some last =>
    let closeGapSeconds := wholeSeconds closedAt last
    gapsFrom expectedIntervalSeconds openedAt capturedTimes ++
      if closeGapSeconds > expectedIntervalSeconds then
        [⟨closedAt, some last, closeGapSeconds, .missedWindowClose⟩]
      else []

/-- `classify_window_coverage`: the ratio is compared exactly. -/
def classifyWindowCoverage (expectedCount actualCount missingCount maxGapSeconds : ℤ) :
    CoverageLabel :=
  if expectedCount ≤ 0 then .auditOnlyCoverage
  else if missingCount = 0 ∧ maxGapSeconds = 0 then .fullCoverage
  else if missingCount ≤ 1 ∧ (actualCount : ℚ) / expectedCount ≥ 4 / 5 then .acceptableCoverage
  else if (actualCount : ℚ) / expectedCount ≥ 1 / 2 then .partialCoverage
  else .brokenCoverage

/-- `calculate_coverage` -/
def calculateCoverage (openedAt closedAt : Instant) (captured : List Instant)
    (expectedIntervalSeconds : ℤ) : WindowCoverage :=
  let expectedCount := calculateExpectedSnapshotCount openedAt closedAt expectedIntervalSeconds
  let actualCount : ℤ := captured.length
  let missingCount := max (expectedCount - actualCount) 0
  let gaps := detectSnapshotGaps captured expectedIntervalSeconds openedAt closedAt
  let maxGapSeconds := (gaps.map SnapshotGap.gapSeconds).max?.getD 0
  let label := classifyWindowCoverage expectedCount actualCount missingCount maxGapSeconds
  { expectedSnapshotCount := expectedCount
    actualSnapshotCount := actualCount
    missingSnapshotCount := missingCount
    maxGapSeconds := maxGapSeconds
    coverageLabel :=
      if gaps.any fun gap => gap.snapshotGapLabel = .missedWindowClose then .brokenCoverage
      else label }

/-- `memory_status_for_coverage` -/
def memoryStatusForCoverage : CoverageLabel → MemoryStatus
  | .fullCoverage | .acceptableCoverage => .cleanMemory
  | .partialCoverage => .partialMemory
  | .auditOnlyCoverage => .auditOnly
  | .brokenCoverage => .doNotTrain

/-- The window is clean memory. -/
def Clean (openedAt closedAt : Instant) (expectedIntervalSeconds : ℤ) (captured : List Instant) :
    Prop :=
  memoryStatusForCoverage
    (calculateCoverage openedAt closedAt captured expectedIntervalSeconds).coverageLabel =
      .cleanMemory

instance (openedAt closedAt : Instant) (i : ℤ) (captured : List Instant) :
    Decidable (Clean openedAt closedAt i captured) :=
  inferInstanceAs (Decidable (_ = _))

/-- One snapshot may be missing, where the schedule has at least five. -/
def requiredCount (expectedCount : ℤ) : ℤ :=
  if expectedCount < 5 then expectedCount else expectedCount - 1

theorem clean_label_iff {expected actual maxGap : ℤ} (h : 1 ≤ expected) :
    memoryStatusForCoverage
        (classifyWindowCoverage expected actual (max (expected - actual) 0) maxGap) =
          .cleanMemory ↔
      requiredCount expected ≤ actual := by
  have hpos : (0 : ℚ) < expected := by exact_mod_cast h
  have hratio : (actual : ℚ) / expected ≥ 4 / 5 ↔ 4 * expected ≤ 5 * actual := by
    rw [ge_iff_le, le_div_iff₀ hpos]
    constructor
    · intro hle
      have hcast : ((4 * expected : ℤ) : ℚ) ≤ ((5 * actual : ℤ) : ℚ) := by
        push_cast
        linarith
      exact_mod_cast hcast
    · intro hle
      have hcast : ((4 * expected : ℤ) : ℚ) ≤ ((5 * actual : ℤ) : ℚ) := by exact_mod_cast hle
      push_cast at hcast
      linarith
  unfold classifyWindowCoverage requiredCount
  simp only [hratio]
  rw [if_neg (by omega)]
  split_ifs <;> simp only [memoryStatusForCoverage, reduceCtorEq, false_iff, true_iff] <;> omega

theorem not_missed_gapsFrom (i : ℤ) (ts : List Instant) : ∀ prior,
    ((gapsFrom i prior ts).any fun gap => gap.snapshotGapLabel = .missedWindowClose) = false := by
  induction ts with
  | nil => intro prior; rfl
  | cons t ts ih =>
    intro prior
    unfold gapsFrom
    have hlabel : classifySnapshotGap (wholeSeconds t prior) i ≠ .missedWindowClose := by
      unfold classifySnapshotGap
      split_ifs <;> simp
    dsimp only
    split_ifs
    · simp [ih, hlabel]
    · exact ih t

theorem wholeSeconds_gt_iff {i : ℤ} (hi : 0 < i) (later earlier : Instant) :
    wholeSeconds later earlier > i ↔ seconds (i + 1) ≤ later - earlier := by
  unfold wholeSeconds seconds microsPerSecond
  rcases Int.le_total 0 (later - earlier) with h | h
  · rw [Int.tdiv_eq_ediv_of_nonneg h]
    omega
  · have hneg : (later - earlier).tdiv 1000000 = -(-(later - earlier) / 1000000) := by
      rw [← Int.tdiv_eq_ediv_of_nonneg (by omega), Int.neg_tdiv, Int.neg_neg]
    omega

/-- The last of the sorted times is the greatest. -/
theorem le_getLast_sortBy {ts : List Instant} {last : Instant}
    (h : (sortBy id ts).getLast? = some last) : last ∈ ts ∧ ∀ t ∈ ts, t ≤ last := by
  obtain ⟨front, hfront⟩ := List.getLast?_eq_some_iff.mp h
  have hsorted := sortBy_sorted id ts
  rw [hfront, List.pairwise_append] at hsorted
  constructor
  · have hmem : last ∈ sortBy id ts := by rw [hfront]; simp
    exact mem_sortBy.mp hmem
  · intro t ht
    have hmem : t ∈ front ++ [last] := hfront ▸ mem_sortBy.mpr ht
    rcases List.mem_append.mp hmem with hmem | hmem
    · exact hsorted.2.2 t hmem last (List.mem_singleton.mpr rfl)
    · exact (List.mem_singleton.mp hmem).le

/-- The window's close is not missed: a snapshot stands within an interval before it, a second
that is begun not counted. -/
def CloseMet (closedAt : Instant) (i : ℤ) (ts : List Instant) : Prop :=
  ∃ t ∈ ts, closedAt - t < seconds (i + 1)

theorem missed_iff {i : ℤ} (hi : 0 < i) (openedAt closedAt : Instant) {ts : List Instant}
    (hne : ts ≠ []) :
    ((detectSnapshotGaps ts i openedAt closedAt).any fun gap =>
      gap.snapshotGapLabel = .missedWindowClose) = false ↔ CloseMet closedAt i ts := by
  unfold detectSnapshotGaps CloseMet
  dsimp only
  cases hlast : (sortBy id ts).getLast? with
  | none =>
    have hnil : sortBy id ts = [] := List.getLast?_eq_none_iff.mp hlast
    have hlength := (sortBy_perm id ts).length_eq
    rw [hnil] at hlength
    exact absurd (List.length_eq_zero_iff.mp hlength.symm) hne
  | some last =>
    obtain ⟨hmem, hmax⟩ := le_getLast_sortBy hlast
    have hgap := wholeSeconds_gt_iff hi closedAt last
    simp only
    rw [List.any_append, not_missed_gapsFrom, Bool.false_or]
    split_ifs with hmissed
    · have hfar := hgap.mp hmissed
      simp only [List.any_cons, List.any_nil, Bool.or_false, decide_true, Bool.true_eq_false,
        false_iff, not_exists, not_and, not_lt]
      intro t ht
      exact hfar.trans (Int.sub_le_sub_left (hmax t ht) closedAt)
    · simp only [List.any_nil, true_iff]
      exact ⟨last, hmem, not_le.mp (fun hfar => hmissed (hgap.mpr hfar))⟩

theorem expected_pos {i : ℤ} (hi : 0 < i) (openedAt closedAt : Instant) :
    1 ≤ calculateExpectedSnapshotCount openedAt closedAt i := by
  unfold calculateExpectedSnapshotCount
  have hsec : 0 ≤ seconds i := by unfold seconds microsPerSecond; omega
  have hdiv : 0 ≤ max (closedAt - openedAt) 0 / seconds i :=
    Int.ediv_nonneg (le_max_right _ _) hsec
  exact Int.add_le_add_right hdiv 1

/-- A window is clean exactly when it has the count and a snapshot near its close. -/
theorem clean_iff {i : ℤ} (hi : 0 < i) (openedAt closedAt : Instant) (ts : List Instant) :
    Clean openedAt closedAt i ts ↔
      requiredCount (calculateExpectedSnapshotCount openedAt closedAt i) ≤ ts.length ∧
        CloseMet closedAt i ts := by
  have hpos := expected_pos hi openedAt closedAt
  unfold Clean calculateCoverage
  dsimp only
  by_cases hne : ts = []
  · have hnone : ¬CloseMet closedAt i ts := by
      rintro ⟨t, ht, _⟩
      rw [hne] at ht
      cases ht
    have hcount : ¬requiredCount (calculateExpectedSnapshotCount openedAt closedAt i) ≤
        ts.length := by
      rw [hne]
      unfold requiredCount
      split_ifs <;> simp <;> omega
    split_ifs
    · simp [hnone, memoryStatusForCoverage]
    · rw [clean_label_iff hpos]
      tauto
  · rw [← missed_iff hi openedAt closedAt hne]
    split_ifs with hmissed
    · simp [hmissed, memoryStatusForCoverage]
    · rw [clean_label_iff hpos]
      simp [hmissed]

/-- Every part of the window that is longer than four expected intervals has a snapshot in it. -/
def NoBrokenGap (openedAt closedAt : Instant) (i : ℤ) (ts : List Instant) : Prop :=
  ∀ a b, openedAt ≤ a → b ≤ closedAt → seconds (4 * i) < b - a → ∃ t ∈ ts, a < t ∧ t < b

def InsideWindow (openedAt closedAt : Instant) (ts : List Instant) : Prop :=
  ∀ t ∈ ts, openedAt ≤ t ∧ t ≤ closedAt

structure HonestCoverage (openedAt closedAt : Instant) (i : ℤ) (ts : List Instant) : Prop where
  noBrokenGap : Clean openedAt closedAt i ts → NoBrokenGap openedAt closedAt i ts
  inside : Clean openedAt closedAt i ts → InsideWindow openedAt closedAt ts
  deletion : ¬Clean openedAt closedAt i ts → ∀ k, ¬Clean openedAt closedAt i (ts.eraseIdx k)
  repetition : ¬Clean openedAt closedAt i ts →
    ∀ t ∈ ts, ∀ ts', ts'.Perm (t :: ts) → ¬Clean openedAt closedAt i ts'

/-- The close is missed, the count is short by more than one, or the snapshots that are enough
stand in the window without a broken gap. -/
def SoundSnapshots (openedAt closedAt : Instant) (i : ℤ) (ts : List Instant) : Prop :=
  let required := requiredCount (calculateExpectedSnapshotCount openedAt closedAt i)
  (∀ t ∈ ts, seconds (i + 1) ≤ closedAt - t) ∨ (ts.length : ℤ) + 1 < required ∨
    (required ≤ ts.length ∧ InsideWindow openedAt closedAt ts ∧
      NoBrokenGap openedAt closedAt i ts)

theorem not_clean_of_far {openedAt closedAt : Instant} {i : ℤ} (hi : 0 < i) {ts : List Instant}
    (h : ∀ t ∈ ts, seconds (i + 1) ≤ closedAt - t) : ¬Clean openedAt closedAt i ts := by
  rw [clean_iff hi]
  rintro ⟨_, t, ht, hnear⟩
  exact absurd (h t ht) (not_le.mpr hnear)

theorem not_clean_of_few {openedAt closedAt : Instant} {i : ℤ} (hi : 0 < i) {ts : List Instant}
    (h : (ts.length : ℤ) <
      requiredCount (calculateExpectedSnapshotCount openedAt closedAt i)) :
    ¬Clean openedAt closedAt i ts := by
  rw [clean_iff hi]
  rintro ⟨hcount, _⟩
  omega

theorem honest_of_sound {openedAt closedAt : Instant} {i : ℤ} (hi : 0 < i) {ts : List Instant}
    (h : SoundSnapshots openedAt closedAt i ts) : HonestCoverage openedAt closedAt i ts := by
  rcases h with hfar | hfew | ⟨hcount, hinside, hgap⟩
  · have hnot : ¬Clean openedAt closedAt i ts := not_clean_of_far hi hfar
    constructor
    · exact fun hclean => absurd hclean hnot
    · exact fun hclean => absurd hclean hnot
    · intro _ k
      exact not_clean_of_far hi fun t ht => hfar t (List.mem_of_mem_eraseIdx ht)
    · intro _ t ht ts' hperm
      apply not_clean_of_far hi
      intro u hu
      rcases List.mem_cons.mp (hperm.subset hu) with rfl | hu
      · exact hfar u ht
      · exact hfar u hu
  · have hnot : ¬Clean openedAt closedAt i ts := not_clean_of_few hi (by omega)
    constructor
    · exact fun hclean => absurd hclean hnot
    · exact fun hclean => absurd hclean hnot
    · intro _ k
      apply not_clean_of_few hi
      have hle : (ts.eraseIdx k).length ≤ ts.length := List.length_eraseIdx_le ts k
      omega
    · intro _ t _ ts' hperm
      apply not_clean_of_few hi
      rw [hperm.length_eq, List.length_cons]
      push_cast
      exact hfew
  · constructor
    · exact fun _ => hgap
    · exact fun _ => hinside
    · intro hnot k hclean
      obtain ⟨_, t, ht, hnear⟩ := (clean_iff hi ..).mp hclean
      exact hnot ((clean_iff hi ..).mpr ⟨hcount, t, List.mem_of_mem_eraseIdx ht, hnear⟩)
    · intro hnot t ht ts' hperm hclean
      obtain ⟨_, u, hu, hnear⟩ := (clean_iff hi ..).mp hclean
      have hmem : u ∈ ts := by
        rcases List.mem_cons.mp (hperm.subset hu) with rfl | hu
        · exact ht
        · exact hu
      exact hnot ((clean_iff hi ..).mpr ⟨hcount, u, hmem, hnear⟩)

theorem sound_of_honest {openedAt closedAt : Instant} {i : ℤ} (hi : 0 < i) {ts : List Instant}
    (h : HonestCoverage openedAt closedAt i ts) : SoundSnapshots openedAt closedAt i ts := by
  unfold SoundSnapshots
  by_cases hfar : ∀ t ∈ ts, seconds (i + 1) ≤ closedAt - t
  · exact .inl hfar
  · have hmet : CloseMet closedAt i ts := by
      push Not at hfar
      exact hfar
    by_cases hcount : requiredCount (calculateExpectedSnapshotCount openedAt closedAt i) ≤ ts.length
    · have hclean : Clean openedAt closedAt i ts := (clean_iff hi ..).mpr ⟨hcount, hmet⟩
      exact .inr (.inr ⟨hcount, h.inside hclean, h.noBrokenGap hclean⟩)
    · refine .inr (.inl ?_)
      by_contra hone
      have hnot : ¬Clean openedAt closedAt i ts := not_clean_of_few hi (by omega)
      obtain ⟨t, ht, hnear⟩ := hmet
      -- one snapshot short: the repeated snapshot makes up the count
      apply h.repetition hnot t ht (t :: ts) (List.Perm.refl _)
      refine (clean_iff hi ..).mpr ⟨?_, t, List.mem_cons_self, hnear⟩
      rw [List.length_cons]
      push_cast
      omega

/-- Clean memory is honest exactly where the close is missed, the count is short by more than one,
or the snapshots that are enough stand in the window without a broken gap. -/
theorem honestCoverage_iff (openedAt closedAt : Instant) (i : ℤ) (ts : List Instant)
    (hi : 0 < i) :
    HonestCoverage openedAt closedAt i ts ↔ SoundSnapshots openedAt closedAt i ts :=
  ⟨sound_of_honest hi, honest_of_sound hi⟩

/-- A snapshot at the start of a window of ten minutes, and one after each minute. -/
def everyMinute : List Instant := (List.range 11).map fun n : ℕ => seconds (60 * (n : ℤ))

/-- Between two instants of the window that are four minutes apart there is a full minute. -/
theorem exists_fullMinute {a b : ℤ} (ha : 0 ≤ a) (hb : b ≤ 600000000) (hgap : 240000000 < b - a) :
    ∃ n : ℕ, n < 11 ∧ a < 60 * n * 1000000 ∧ 60 * n * 1000000 < b :=
  ⟨(a / 60000000).toNat + 1, by omega, by omega, by omega⟩

theorem noBrokenGap_everyMinute : NoBrokenGap 0 (seconds 600) 60 everyMinute := by
  intro a b ha hb hgap
  obtain ⟨n, hn, hafter, hbefore⟩ := exists_fullMinute ha hb hgap
  exact ⟨seconds (60 * n), List.mem_map_of_mem (List.mem_range.mpr hn), hafter, hbefore⟩

theorem honestCoverage_iff_minute :
    0 < (60 : ℤ) ∧ HonestCoverage 0 (seconds 600) 60 everyMinute := by
  refine ⟨by decide, (honestCoverage_iff _ _ 60 everyMinute (by decide)).mpr ?_⟩
  refine .inr (.inr ⟨by decide, ?_, noBrokenGap_everyMinute⟩)
  unfold InsideWindow
  decide

/-- Ten snapshots as the window opens and one as it closes: clean memory with ten minutes
between them, on a schedule of one a minute. -/
theorem not_honest_bunched :
    ¬HonestCoverage 0 (seconds 600) 60 (List.replicate 10 0 ++ [seconds 600]) := by
  intro h
  have hclean : Clean 0 (seconds 600) 60 (List.replicate 10 0 ++ [seconds 600]) :=
    (clean_iff (by decide) ..).mpr ⟨by decide, seconds 600, by decide, by decide⟩
  obtain ⟨t, ht, hinside⟩ :=
    h.noBrokenGap hclean 0 (seconds 600) (by decide) (by decide) (by decide)
  revert t
  decide

end PrinterV1.Snapshots
