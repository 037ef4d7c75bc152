import Mathlib.Data.List.Pairwise
import PrinterV1.Snapshots.CadencePolicy

/-!
# What a passed cadence means

A window passes when its gaps and its raw count do. Its order is not checked,
the count takes snapshots the window does not hold, and a dirty gap is reported
before the missing snapshots are.
-/

namespace PrinterV1.Snapshots.Cadence

open Python

/-! ## The property -/

/-- The snapshot has a time in the window. -/
def inWindow (clock : LocalClock) (windowStart windowEnd : Instant) (value : TimeValue) : Bool :=
  (parseTs clock value).any fun t => windowStart ≤ t ∧ t ≤ windowEnd

/-- The forced closing snapshot is after the end, within its clean lateness. -/
def closesClean (clock : LocalClock) (p : SnapshotCadencePolicy) (snapshots : List TimeValue)
    (windowEnd : Instant) : Bool :=
  p.requireForcedClosingSnapshot && (parsedTimes clock snapshots).getLast?.any fun last =>
    windowEnd < last ∧ last - windowEnd ≤ seconds p.closingCleanLateSeconds

/-- The snapshots with a time in the window, and the closing one after it within its clean
lateness. -/
def counted (clock : LocalClock) (p : SnapshotCadencePolicy) (snapshots : List TimeValue)
    (windowStart windowEnd : Instant) : ℕ :=
  snapshots.countP (inWindow clock windowStart windowEnd) +
    (closesClean clock p snapshots windowEnd).toNat

/-- The snapshots cover the window. -/
structure Covered (clock : LocalClock) (p : SnapshotCadencePolicy) (snapshots : List TimeValue)
    (windowStart windowEnd : Instant) : Prop where
  ordered : windowStart ≤ windowEnd
  enough : p.minimumRequiredSnapshots ≤ counted clock p snapshots windowStart windowEnd
  near : ∀ a b, windowStart ≤ a → a ≤ b → b ≤ windowEnd → seconds p.cleanMaxGapSeconds < b - a →
    ∃ t ∈ snapshots.filterMap (parseTs clock), a < t ∧ t < b

def statusOf (result : Except String CadenceEvaluation) : Option CadenceStatus :=
  result.toOption.map CadenceEvaluation.cadencePolicyStatus

/-- A pass stays a pass, and a dirty window is not blocked. -/
def NotWorse (before after : Option CadenceStatus) : Prop :=
  (before = some .pass → after = some .pass) ∧
    (before = some .dirty → after = some .pass ∨ after = some .dirty)

/-- A pass means coverage, in any order of the list, and a snapshot more is never worse. -/
structure CadenceSound (clock : LocalClock) (snapshots : List TimeValue)
    (windowStartAt windowEndAt : TimeValue) (policy : Option SnapshotCadencePolicy)
    (productionMode allowDisabled : Bool) : Prop where
  covered :
    statusOf (evaluateCadencePolicy clock snapshots windowStartAt windowEndAt policy
        productionMode allowDisabled) = some .pass →
      ∃ p windowStart windowEnd, policy = some p ∧
        parseTs clock windowStartAt = some windowStart ∧
          parseTs clock windowEndAt = some windowEnd ∧
            Covered clock p snapshots windowStart windowEnd
  ordered : ∀ others, others.Perm snapshots →
    evaluateCadencePolicy clock others windowStartAt windowEndAt policy productionMode
        allowDisabled =
      evaluateCadencePolicy clock snapshots windowStartAt windowEndAt policy productionMode
        allowDisabled
  added : ∀ windowStart windowEnd value t longer,
    parseTs clock windowStartAt = some windowStart → parseTs clock windowEndAt = some windowEnd →
    parseTs clock value = some t → windowStart ≤ t → t ≤ windowEnd →
    longer.Perm (value :: snapshots) →
    NotWorse
      (statusOf (evaluateCadencePolicy clock snapshots windowStartAt windowEndAt policy
        productionMode allowDisabled))
      (statusOf (evaluateCadencePolicy clock longer windowStartAt windowEndAt policy
        productionMode allowDisabled))

/-! ## Points of a window -/

theorem GapsWithin.mono {P : ℤ → Prop} {windowStart windowEnd : Instant} {times more : List Instant}
    (h : GapsWithin P windowStart windowEnd times) (hle : windowStart ≤ windowEnd)
    (hsub : times ⊆ more) : GapsWithin P windowStart windowEnd more := by
  unfold GapsWithin at h ⊢
  rw [if_pos hle] at h ⊢
  intro a b ha hab hb hfree
  exact h a b ha hab hb (hfree.mono hsub)

section Times

variable {clock : LocalClock} {snapshots : List TimeValue} {t : Instant}

theorem mem_parsedTimes :
    t ∈ parsedTimes clock snapshots ↔ ∃ s ∈ snapshots, parseTs clock s = some t := by
  simp [parsedTimes]

theorem parsedTimes_sorted (clock : LocalClock) (snapshots : List TimeValue) :
    (parsedTimes clock snapshots).Pairwise (· ≤ ·) :=
  sortBy_sorted id _

theorem parsedTimes_perm {others : List TimeValue} (h : others.Perm snapshots) :
    parsedTimes clock others = parsedTimes clock snapshots :=
  sortBy_eq_of_perm (h.filterMap (parseTs clock)) fun _ _ _ _ hkey => hkey

theorem mem_parsedTimes_cons {value : TimeValue} {u : Instant}
    (h : parseTs clock value = some t) :
    u ∈ parsedTimes clock (value :: snapshots) ↔ u = t ∨ u ∈ parsedTimes clock snapshots := by
  simp only [mem_parsedTimes, List.mem_cons, exists_eq_or_imp, h, Option.some_inj, @eq_comm _ t u]

end Times

/-- The last of a list in order is its greatest. -/
theorem getLast?_eq_some_iff {times : List Instant} (h : times.Pairwise (· ≤ ·)) {last : Instant} :
    times.getLast? = some last ↔ last ∈ times ∧ ∀ t ∈ times, t ≤ last := by
  have hle : ∀ m, times.getLast? = some m → ∀ t ∈ times, t ≤ m := by
    intro m hm t ht
    have hlast : times.getLast (List.ne_nil_of_mem ht) = m := by
      rw [List.getLast?_eq_some_getLast (List.ne_nil_of_mem ht)] at hm
      exact Option.some.inj hm
    rw [← hlast]
    exact h.rel_getLast ht
  constructor
  · intro hlast
    exact ⟨List.mem_of_getLast? hlast, hle last hlast⟩
  · rintro ⟨hmem, hall⟩
    obtain ⟨m, hm⟩ : ∃ m, times.getLast? = some m :=
      ⟨_, List.getLast?_eq_some_getLast (List.ne_nil_of_mem hmem)⟩
    rw [hm, le_antisymm (hall m (List.mem_of_getLast? hm)) (hle m hm last hmem)]

/-! ## When a window is graded -/

/-- The closing snapshot is at the end or after it, by less than the interval. -/
def ClosingOpen (p : SnapshotCadencePolicy) (times : List Instant) (windowEnd : Instant) : Prop :=
  p.requireForcedClosingSnapshot = true →
    ∃ last, times.getLast? = some last ∧ windowEnd ≤ last ∧
      last - windowEnd < seconds p.targetSnapshotIntervalSeconds

/-- The closing snapshot is later than a clean one. -/
def ClosingLate (p : SnapshotCadencePolicy) (times : List Instant) (windowEnd : Instant) : Prop :=
  p.requireForcedClosingSnapshot = true ∧
    ∃ last, times.getLast? = some last ∧ seconds p.closingCleanLateSeconds < last - windowEnd

theorem closingCheck_error {p : SnapshotCadencePolicy} {n : ℕ} {times : List Instant}
    {windowEnd : Instant} {base refused : CadenceEvaluation}
    (h : closingCheck p n times windowEnd base = .error refused) :
    refused.cadencePolicyStatus = .blocked ∧ ¬ClosingOpen p times windowEnd := by
  unfold closingCheck at h
  unfold ClosingOpen
  split_ifs at h with hforced
  have hforced : p.requireForcedClosingSnapshot = true := by simpa using hforced
  cases hlast : times.getLast? with
  | none =>
    rw [hlast] at h
    cases h
    simp [hforced]
  | some last =>
    rw [hlast] at h
    dsimp only at h
    split_ifs at h with hbefore hlate
    · cases h
      refine ⟨rfl, fun hopen => ?_⟩
      obtain ⟨_, hsome, hend, _⟩ := hopen hforced
      cases hsome
      exact absurd (Int.sub_nonneg_of_le hend) (not_le.mpr hbefore)
    · cases h
      refine ⟨rfl, fun hopen => ?_⟩
      obtain ⟨_, hsome, _, hnominal⟩ := hopen hforced
      cases hsome
      exact absurd hnominal (not_lt.mpr hlate)

theorem closingCheck_ok {p : SnapshotCadencePolicy} {n : ℕ} {times : List Instant}
    {windowEnd : Instant} {base : CadenceEvaluation} {closing : Option (ℤ × ClosingFreshness)}
    (h : closingCheck p n times windowEnd base = .ok closing) :
    ClosingOpen p times windowEnd ∧
      ((∃ lateness, closing = some (lateness, .dirty)) ↔ ClosingLate p times windowEnd) := by
  unfold closingCheck at h
  unfold ClosingOpen ClosingLate
  by_cases hforced : p.requireForcedClosingSnapshot = true
  · simp only [hforced, Bool.not_true, Bool.false_eq_true, if_false] at h
    cases hlast : times.getLast? with
    | none => simp [hlast] at h
    | some last =>
      rw [hlast] at h
      dsimp only at h
      split_ifs at h with hbefore hnominal hclean
      · cases h
        have hend : windowEnd ≤ last := Int.le_of_sub_nonneg (not_lt.mp hbefore)
        refine ⟨fun _ => ⟨last, rfl, hend, not_le.mp hnominal⟩, ?_⟩
        simp [hforced, hclean]
      · cases h
        have hend : windowEnd ≤ last := Int.le_of_sub_nonneg (not_lt.mp hbefore)
        refine ⟨fun _ => ⟨last, rfl, hend, not_le.mp hnominal⟩, ?_⟩
        simp [hforced, not_le.mp hclean]
  · simp only [hforced, Bool.not_false, if_true] at h
    cases h
    simp [hforced]

theorem gradeGaps_pass_iff {p : SnapshotCadencePolicy} {n : ℕ} {maxGap : ℤ}
    {closing : Option (ℤ × ClosingFreshness)} :
    (gradeGaps p n maxGap closing).1 = .pass ↔
      p.gapBlocks maxGap = false ∧ maxGap ≤ seconds p.cleanMaxGapSeconds ∧
        p.tooManyMissing n = false ∧ p.minimumRequiredSnapshots ≤ n ∧
          ¬∃ lateness, closing = some (lateness, .dirty) := by
  unfold gradeGaps
  split_ifs with hblocks hdirty hmissing hfew
  · simp [hblocks]
  · simp [not_le.mpr hdirty]
  · simp [hmissing]
  · simp [not_le.mpr hfew]
  · split
    · simp
    · rename_i hclosing
      simp only [Bool.not_eq_true] at hblocks hmissing
      simp only [hblocks, not_lt.mp hdirty, hmissing, not_lt.mp hfew, true_and, true_iff]
      rintro ⟨lateness, rfl⟩
      exact hclosing lateness rfl

theorem gradeGaps_dirty_iff {p : SnapshotCadencePolicy} {n : ℕ} {maxGap : ℤ}
    {closing : Option (ℤ × ClosingFreshness)} :
    (gradeGaps p n maxGap closing).1 = .dirty ↔
      p.gapBlocks maxGap = false ∧
        (¬maxGap ≤ seconds p.cleanMaxGapSeconds ∨
          p.tooManyMissing n = false ∧
            (n < p.minimumRequiredSnapshots ∨ ∃ lateness, closing = some (lateness, .dirty))) := by
  unfold gradeGaps
  split_ifs with hblocks hdirty hmissing hfew
  · simp [hblocks]
  · simp [hblocks, hdirty]
  · simp [hmissing, not_lt.mp hdirty]
  · simp [hblocks, hmissing, hfew]
  · split
    · simp [hblocks, hmissing]
    · rename_i hclosing
      simp only [reduceCtorEq, not_lt.mp hdirty, not_true_eq_false, hfew, false_or, false_iff,
        not_and]
      rintro _ _ ⟨lateness, rfl⟩
      exact hclosing lateness rfl

/-- No exit before the grade is taken. -/
structure Graded (p : SnapshotCadencePolicy) (n : ℕ) (times : List Instant)
    (windowStart windowEnd : Instant) : Prop where
  anchored : ¬(p.requireFullAnchoredDuration = true ∧
    windowEnd - windowStart < seconds p.windowCloseIntervalSeconds)
  closing : ClosingOpen p times windowEnd
  two : 2 ≤ n

/-- No part of the window without a snapshot blocks. -/
def NoBlockingGap (p : SnapshotCadencePolicy) (windowStart windowEnd : Instant)
    (times : List Instant) : Prop :=
  GapsWithin (fun gap => p.gapBlocks gap = false) windowStart windowEnd times

/-- No part of the window without a snapshot is longer than a clean gap. -/
def NoDirtyGap (p : SnapshotCadencePolicy) (windowStart windowEnd : Instant)
    (times : List Instant) : Prop :=
  GapsWithin (fun gap => gap ≤ seconds p.cleanMaxGapSeconds) windowStart windowEnd times

/-- The raw count, the gaps and the closing snapshot are those of a pass. -/
structure Passes (p : SnapshotCadencePolicy) (n : ℕ) (times : List Instant)
    (windowStart windowEnd : Instant) : Prop where
  graded : Graded p n times windowStart windowEnd
  open_ : NoBlockingGap p windowStart windowEnd times
  clean : NoDirtyGap p windowStart windowEnd times
  allowed : p.tooManyMissing n = false
  enough : p.minimumRequiredSnapshots ≤ n
  closed : ¬ClosingLate p times windowEnd

theorem gapBlocks_down (p : SnapshotCadencePolicy) {g h : ℤ} (hle : h ≤ g)
    (hopen : p.gapBlocks g = false) : p.gapBlocks h = false := by
  unfold SnapshotCadencePolicy.gapBlocks at hopen ⊢
  split_ifs at hopen ⊢
  · simp only [decide_eq_false_iff_not, ge_iff_le, not_le] at hopen ⊢
    exact hle.trans_lt hopen
  · simp only [decide_eq_false_iff_not, gt_iff_lt, not_lt] at hopen ⊢
    exact hle.trans hopen

section Window

variable {p : SnapshotCadencePolicy} {n : ℕ} {times : List Instant} {windowStart windowEnd : Instant}

theorem maxGap_open_iff (h : times.Pairwise (· ≤ ·)) :
    p.gapBlocks (maxGapOf times windowStart windowEnd) = false ↔
      NoBlockingGap p windowStart windowEnd times :=
  maxGap_iff (P := fun gap => p.gapBlocks gap = false) (gapBlocks_down p) h

theorem maxGap_clean_iff (h : times.Pairwise (· ≤ ·)) :
    maxGapOf times windowStart windowEnd ≤ seconds p.cleanMaxGapSeconds ↔
      NoDirtyGap p windowStart windowEnd times :=
  maxGap_iff (P := fun gap => gap ≤ seconds p.cleanMaxGapSeconds) le_trans h

/-- A window is blocked before the grade, or it is graded and its status is the grade. -/
theorem evaluateWindow_status (p : SnapshotCadencePolicy) (n : ℕ) (times : List Instant)
    (windowStart windowEnd : Instant) :
    ((evaluateWindow p n times windowStart windowEnd).cadencePolicyStatus = .blocked ∧
        ¬Graded p n times windowStart windowEnd) ∨
      ∃ closing,
        (evaluateWindow p n times windowStart windowEnd).cadencePolicyStatus =
            (gradeGaps p n (maxGapOf times windowStart windowEnd) closing).1 ∧
          Graded p n times windowStart windowEnd ∧
            ((∃ lateness, closing = some (lateness, .dirty)) ↔ ClosingLate p times windowEnd) := by
  unfold evaluateWindow
  extract_lets anchored base maxGap
  by_cases hanchored : p.requireFullAnchoredDuration = true ∧
      anchored < seconds p.windowCloseIntervalSeconds
  · rw [if_pos hanchored]
    exact Or.inl ⟨rfl, fun hgraded => hgraded.anchored hanchored⟩
  · rw [if_neg hanchored]
    cases hclosing : closingCheck p n times windowEnd base with
    | error refused =>
      obtain ⟨hblocked, hnot⟩ := closingCheck_error hclosing
      exact Or.inl ⟨hblocked, fun hgraded => hnot hgraded.closing⟩
    | ok closing =>
      obtain ⟨hopen, hlate⟩ := closingCheck_ok hclosing
      by_cases hfew : n < 2
      · simp only [if_pos hfew]
        exact Or.inl ⟨trivial, fun hgraded => absurd hgraded.two (not_le.mpr hfew)⟩
      · simp only [if_neg hfew]
        exact Or.inr ⟨closing, rfl, ⟨hanchored, hopen, not_lt.mp hfew⟩, hlate⟩

theorem evaluateWindow_pass_iff (h : times.Pairwise (· ≤ ·)) :
    (evaluateWindow p n times windowStart windowEnd).cadencePolicyStatus = .pass ↔
      Passes p n times windowStart windowEnd := by
  rcases evaluateWindow_status p n times windowStart windowEnd with
    ⟨hblocked, hnot⟩ | ⟨closing, hstatus, hgraded, hlate⟩
  · rw [hblocked]
    exact ⟨by simp, fun hpasses => absurd hpasses.graded hnot⟩
  · rw [hstatus, gradeGaps_pass_iff, maxGap_open_iff h, maxGap_clean_iff h, hlate]
    constructor
    · rintro ⟨hopen, hclean, hallowed, henough, hclosed⟩
      exact ⟨hgraded, hopen, hclean, hallowed, henough, hclosed⟩
    · intro hpasses
      exact ⟨hpasses.open_, hpasses.clean, hpasses.allowed, hpasses.enough, hpasses.closed⟩

theorem evaluateWindow_dirty_iff (h : times.Pairwise (· ≤ ·)) :
    (evaluateWindow p n times windowStart windowEnd).cadencePolicyStatus = .dirty ↔
      Graded p n times windowStart windowEnd ∧ NoBlockingGap p windowStart windowEnd times ∧
        (¬NoDirtyGap p windowStart windowEnd times ∨
          p.tooManyMissing n = false ∧
            (n < p.minimumRequiredSnapshots ∨ ClosingLate p times windowEnd)) := by
  rcases evaluateWindow_status p n times windowStart windowEnd with
    ⟨hblocked, hnot⟩ | ⟨closing, hstatus, hgraded, hlate⟩
  · simp [hblocked, hnot]
  · rw [hstatus, gradeGaps_dirty_iff, maxGap_open_iff h, maxGap_clean_iff h, hlate]
    simp [hgraded]

end Window

/-! ## When a list is evaluated -/

/-- The list, the policy and the ends of the window are read, and the window is evaluated. -/
structure Evaluated (clock : LocalClock) (snapshots : List TimeValue)
    (windowStartAt windowEndAt : TimeValue) (policy : Option SnapshotCadencePolicy)
    (allowDisabled : Bool) (p : SnapshotCadencePolicy) (windowStart windowEnd : Instant) :
    Prop where
  policy_eq : policy = some p
  captured : snapshots.length ≠ 0
  enabled : p.enabledForRealCollection = true ∨ allowDisabled = true
  main : p.supportOnly = false
  start_eq : parseTs clock windowStartAt = some windowStart
  end_eq : parseTs clock windowEndAt = some windowEnd
  calendar : overflows clock windowStartAt = false ∧ overflows clock windowEndAt = false ∧
    snapshots.any (overflows clock) = false

section List

variable {clock : LocalClock} {snapshots : List TimeValue}
  {windowStartAt windowEndAt : TimeValue} {policy : Option SnapshotCadencePolicy}
  {productionMode allowDisabled : Bool}

theorem Evaluated.evaluate_eq {p : SnapshotCadencePolicy} {windowStart windowEnd : Instant}
    (h : Evaluated clock snapshots windowStartAt windowEndAt policy allowDisabled p windowStart
      windowEnd) :
    evaluateCadencePolicy clock snapshots windowStartAt windowEndAt policy productionMode
        allowDisabled =
      .ok (evaluateWindow p snapshots.length (parsedTimes clock snapshots) windowStart
        windowEnd) := by
  obtain ⟨rfl, hcaptured, henabled, hmain, hstart, hend, hwindowStart, hwindowEnd, htimes⟩ := h
  have henabled : (!p.enabledForRealCollection && !allowDisabled) = false := by
    rcases henabled with h | h <;> simp [h]
  simp [evaluateCadencePolicy, hcaptured, henabled, hmain, hstart, hend, hwindowStart, hwindowEnd,
    htimes]

/-- A pass and a dirty status are the status of an evaluated window. -/
theorem Evaluated.of_status {status : CadenceStatus} (hblocked : status ≠ .blocked)
    (hunknown : status ≠ .unknown)
    (h : statusOf (evaluateCadencePolicy clock snapshots windowStartAt windowEndAt policy
      productionMode allowDisabled) = some status) :
    ∃ p windowStart windowEnd,
      Evaluated clock snapshots windowStartAt windowEndAt policy allowDisabled p windowStart
          windowEnd ∧
        (evaluateWindow p snapshots.length (parsedTimes clock snapshots) windowStart
          windowEnd).cadencePolicyStatus = status := by
  cases policy with
  | none => exact absurd (Option.some.inj h).symm hunknown
  | some p =>
    unfold evaluateCadencePolicy at h
    dsimp only at h
    split_ifs at h with hcaptured hproduction hdisabled hsupport hcalendar htimes
    · exact absurd (Option.some.inj h).symm hblocked
    · exact absurd (Option.some.inj h).symm hunknown
    · exact absurd (Option.some.inj h).symm hblocked
    · exact absurd (Option.some.inj h).symm hblocked
    · cases h
    · split at h
      · cases h
      · exact absurd (Option.some.inj h).symm hblocked
    · split at h
      · rename_i windowStart windowEnd hstart hend
        simp only [Bool.and_eq_true, Bool.not_eq_true', not_and_or, Bool.not_eq_false,
          Bool.or_eq_true, not_or, Bool.not_eq_true] at hdisabled hsupport hcalendar htimes
        exact ⟨p, windowStart, windowEnd,
          ⟨rfl, hcaptured, hdisabled, hsupport, hstart, hend, hcalendar.1, hcalendar.2, htimes⟩,
          Option.some.inj h⟩
      · exact absurd (Option.some.inj h).symm hblocked

/-- One list has one evaluation. -/
theorem Evaluated.unique {p q : SnapshotCadencePolicy} {s e s' e' : Instant}
    (h : Evaluated clock snapshots windowStartAt windowEndAt policy allowDisabled p s e)
    (h' : Evaluated clock snapshots windowStartAt windowEndAt policy allowDisabled q s' e') :
    p = q ∧ s = s' ∧ e = e' :=
  ⟨Option.some.inj (h.policy_eq.symm.trans h'.policy_eq),
    Option.some.inj (h.start_eq.symm.trans h'.start_eq),
    Option.some.inj (h.end_eq.symm.trans h'.end_eq)⟩

theorem evaluate_perm {others : List TimeValue} (h : others.Perm snapshots) :
    evaluateCadencePolicy clock others windowStartAt windowEndAt policy productionMode
        allowDisabled =
      evaluateCadencePolicy clock snapshots windowStartAt windowEndAt policy productionMode
        allowDisabled := by
  have hany : others.any (overflows clock) = snapshots.any (overflows clock) := by
    rw [Bool.eq_iff_iff, List.any_eq_true, List.any_eq_true]
    simp only [h.mem_iff]
  unfold evaluateCadencePolicy
  rw [h.length_eq, parsedTimes_perm h, hany]

/-- The evaluation goes by what is read of the times. -/
theorem evaluate_congr {clock' : LocalClock}
    (hsnapshots : ∀ value ∈ snapshots, parseTs clock value = parseTs clock' value)
    (hstart : parseTs clock windowStartAt = parseTs clock' windowStartAt)
    (hend : parseTs clock windowEndAt = parseTs clock' windowEndAt) :
    evaluateCadencePolicy clock snapshots windowStartAt windowEndAt policy productionMode
        allowDisabled =
      evaluateCadencePolicy clock' snapshots windowStartAt windowEndAt policy productionMode
        allowDisabled := by
  have hoverflows : ∀ {value}, parseTs clock value = parseTs clock' value →
      overflows clock value = overflows clock' value := by
    intro value hvalue
    rw [overflows, hvalue, overflows]
  have hany : snapshots.any (overflows clock) = snapshots.any (overflows clock') := by
    rw [Bool.eq_iff_iff, List.any_eq_true, List.any_eq_true]
    constructor
    · rintro ⟨value, hmem, hvalue⟩
      exact ⟨value, hmem, hoverflows (hsnapshots value hmem) ▸ hvalue⟩
    · rintro ⟨value, hmem, hvalue⟩
      exact ⟨value, hmem, (hoverflows (hsnapshots value hmem)).symm ▸ hvalue⟩
  have htimes : parsedTimes clock snapshots = parsedTimes clock' snapshots := by
    unfold parsedTimes
    rw [List.filterMap_congr hsnapshots]
  unfold evaluateCadencePolicy
  rw [hoverflows hstart, hoverflows hend, hstart, hend, hany, htimes]

end List

/-! ## One snapshot more -/

section Added

variable {p : SnapshotCadencePolicy} {n : ℕ} {times more : List Instant} {t : Instant}
  {windowStart windowEnd : Instant}

theorem getLast?_of_added (h : times.Pairwise (· ≤ ·)) (hmore : more.Pairwise (· ≤ ·))
    (hmem : ∀ u, u ∈ more ↔ u = t ∨ u ∈ times) {last : Instant} (hlast : times.getLast? = some last)
    (ht : t ≤ last) : more.getLast? = some last := by
  obtain ⟨hin, hle⟩ := (getLast?_eq_some_iff h).mp hlast
  rw [getLast?_eq_some_iff hmore]
  refine ⟨(hmem last).mpr (Or.inr hin), fun u hu => ?_⟩
  rcases (hmem u).mp hu with rfl | hu
  · exact ht
  · exact hle u hu

/-- A time in the window leaves it graded, with the same closing snapshot. -/
theorem Graded.added (hgraded : Graded p n times windowStart windowEnd)
    (h : times.Pairwise (· ≤ ·)) (hmore : more.Pairwise (· ≤ ·))
    (hmem : ∀ u, u ∈ more ↔ u = t ∨ u ∈ times) (ht : t ≤ windowEnd) :
    Graded p (n + 1) more windowStart windowEnd ∧
      (ClosingLate p more windowEnd ↔ ClosingLate p times windowEnd) := by
  constructor
  · refine ⟨hgraded.anchored, fun hforced => ?_, hgraded.two.trans (Nat.le_succ n)⟩
    obtain ⟨last, hlast, hend, hnominal⟩ := hgraded.closing hforced
    exact ⟨last, getLast?_of_added h hmore hmem hlast (ht.trans hend), hend, hnominal⟩
  · apply and_congr_right
    intro hforced
    obtain ⟨last, hlast, hend, _⟩ := hgraded.closing hforced
    rw [hlast, getLast?_of_added h hmore hmem hlast (ht.trans hend)]

theorem tooManyMissing_succ (h : p.tooManyMissing n = false) : p.tooManyMissing (n + 1) = false := by
  unfold SnapshotCadencePolicy.tooManyMissing SnapshotCadencePolicy.missed at h ⊢
  cases hallowance : p.maxMissingSnapshotsForDirty with
  | none => rfl
  | some allowance =>
    simp only [hallowance, Option.any_some, decide_eq_false_iff_not] at h ⊢
    push_cast
    omega

theorem Passes.added (hpasses : Passes p n times windowStart windowEnd)
    (h : times.Pairwise (· ≤ ·)) (hmore : more.Pairwise (· ≤ ·))
    (hmem : ∀ u, u ∈ more ↔ u = t ∨ u ∈ times) (ht : windowStart ≤ t) (ht' : t ≤ windowEnd) :
    Passes p (n + 1) more windowStart windowEnd := by
  have hsub : times ⊆ more := fun u hu => (hmem u).mpr (Or.inr hu)
  have hle : windowStart ≤ windowEnd := ht.trans ht'
  obtain ⟨hgraded, hlate⟩ := hpasses.graded.added h hmore hmem ht'
  have henough := hpasses.enough
  exact
    { graded := hgraded
      open_ := hpasses.open_.mono hle hsub
      clean := hpasses.clean.mono hle hsub
      allowed := tooManyMissing_succ hpasses.allowed
      enough := by push_cast; omega
      closed := fun hmoreLate => hpasses.closed (hlate.mp hmoreLate) }

end Added

/-! ## When a pass is sound -/

/-- The window ends before it starts. Its one part is its negative length, and there is a part of
zero for each time; the raw count and the closing snapshot are those of a pass. -/
structure Inverted (clock : LocalClock) (p : SnapshotCadencePolicy) (snapshots : List TimeValue)
    (windowStart windowEnd : Instant) : Prop where
  inverted : windowEnd < windowStart
  anchored : ¬(p.requireFullAnchoredDuration = true ∧
    windowEnd - windowStart < seconds p.windowCloseIntervalSeconds)
  closing : ClosingOpen p (parsedTimes clock snapshots) windowEnd
  closed : ¬ClosingLate p (parsedTimes clock snapshots) windowEnd
  two : 2 ≤ snapshots.length
  enough : p.minimumRequiredSnapshots ≤ snapshots.length
  allowed : p.tooManyMissing snapshots.length = false
  first : p.gapBlocks (windowEnd - windowStart) = false ∧
    windowEnd - windowStart ≤ seconds p.cleanMaxGapSeconds
  others : parsedTimes clock snapshots ≠ [] →
    p.gapBlocks 0 = false ∧ 0 ≤ seconds p.cleanMaxGapSeconds

/-- The snapshots that cannot be read or lie outside the window, the clean closing one apart. -/
def strays (clock : LocalClock) (p : SnapshotCadencePolicy) (snapshots : List TimeValue)
    (windowStart windowEnd : Instant) : ℕ :=
  snapshots.countP (fun value => !inWindow clock windowStart windowEnd value) -
    (closesClean clock p snapshots windowEnd).toNat

/-- The raw count reaches the minimum, and without the strays it would not; the gaps and the
closing snapshot are clean. -/
structure Padded (clock : LocalClock) (p : SnapshotCadencePolicy) (snapshots : List TimeValue)
    (windowStart windowEnd : Instant) : Prop where
  ordered : windowStart ≤ windowEnd
  graded : Graded p snapshots.length (parsedTimes clock snapshots) windowStart windowEnd
  closed : ¬ClosingLate p (parsedTimes clock snapshots) windowEnd
  open_ : NoBlockingGap p windowStart windowEnd (parsedTimes clock snapshots)
  clean : NoDirtyGap p windowStart windowEnd (parsedTimes clock snapshots)
  allowed : p.tooManyMissing snapshots.length = false
  enough : p.minimumRequiredSnapshots ≤ snapshots.length
  short : (snapshots.length : ℤ) <
    p.minimumRequiredSnapshots + strays clock p snapshots windowStart windowEnd

/-- A dirty gap hides that too many snapshots are missing, and one of them would close the gap. -/
structure Masked (clock : LocalClock) (p : SnapshotCadencePolicy) (snapshots : List TimeValue)
    (windowStart windowEnd : Instant) : Prop where
  graded : Graded p snapshots.length (parsedTimes clock snapshots) windowStart windowEnd
  open_ : NoBlockingGap p windowStart windowEnd (parsedTimes clock snapshots)
  dirty : ¬NoDirtyGap p windowStart windowEnd (parsedTimes clock snapshots)
  missing : p.tooManyMissing (snapshots.length + 1) = true
  closable : ∃ t, windowStart ≤ t ∧ t ≤ windowEnd ∧
    NoDirtyGap p windowStart windowEnd (t :: parsedTimes clock snapshots)

section Pass

variable {clock : LocalClock} {p : SnapshotCadencePolicy} {snapshots : List TimeValue}
  {windowStart windowEnd : Instant}

variable (clock p snapshots windowStart windowEnd) in
theorem closesClean_le :
    (closesClean clock p snapshots windowEnd).toNat ≤
      snapshots.countP fun value => !inWindow clock windowStart windowEnd value := by
  cases hclean : closesClean clock p snapshots windowEnd with
  | false => exact Nat.zero_le _
  | true =>
    rw [Bool.toNat_true, Nat.one_le_iff_ne_zero, ← Nat.pos_iff_ne_zero, List.countP_pos_iff]
    simp only [closesClean, Bool.and_eq_true, Option.any_eq_true, decide_eq_true_eq] at hclean
    obtain ⟨-, last, hlast, hafter, -⟩ := hclean
    obtain ⟨value, hmem, hread⟩ := mem_parsedTimes.mp (List.mem_of_getLast? hlast)
    refine ⟨value, hmem, ?_⟩
    simp [inWindow, hread, hafter]

variable (clock p snapshots windowStart windowEnd) in
/-- Every snapshot is counted or a stray. -/
theorem counted_add_strays :
    counted clock p snapshots windowStart windowEnd +
      strays clock p snapshots windowStart windowEnd = snapshots.length := by
  have hle := closesClean_le clock p snapshots windowStart windowEnd
  have hlength := List.length_eq_countP_add_countP (inWindow clock windowStart windowEnd)
    (l := snapshots)
  have hnot : (snapshots.countP fun value => !inWindow clock windowStart windowEnd value) =
      snapshots.countP fun value => decide ¬inWindow clock windowStart windowEnd value = true := by
    congr 1
    funext value
    cases inWindow clock windowStart windowEnd value <;> rfl
  unfold counted strays
  omega

theorem inverted_iff :
    Inverted clock p snapshots windowStart windowEnd ↔
      Passes p snapshots.length (parsedTimes clock snapshots) windowStart windowEnd ∧
        windowEnd < windowStart := by
  have hgaps : ∀ {P : ℤ → Prop}, windowEnd < windowStart →
      (GapsWithin P windowStart windowEnd (parsedTimes clock snapshots) ↔
        P (windowEnd - windowStart) ∧ (parsedTimes clock snapshots ≠ [] → P 0)) := by
    intro P hlt
    unfold GapsWithin
    rw [if_neg (not_le.mpr hlt)]
  constructor
  · rintro ⟨hlt, hanchored, hclosing, hclosed, htwo, henough, hallowed, hfirst, hothers⟩
    refine ⟨⟨⟨hanchored, hclosing, htwo⟩, ?_, ?_, hallowed, henough, hclosed⟩, hlt⟩
    · exact (hgaps hlt).mpr ⟨hfirst.1, fun hsome => (hothers hsome).1⟩
    · exact (hgaps hlt).mpr ⟨hfirst.2, fun hsome => (hothers hsome).2⟩
  · rintro ⟨⟨⟨hanchored, hclosing, htwo⟩, hopen, hclean, hallowed, henough, hclosed⟩, hlt⟩
    obtain ⟨hopenFirst, hopenOthers⟩ := (hgaps hlt).mp hopen
    obtain ⟨hcleanFirst, hcleanOthers⟩ := (hgaps hlt).mp hclean
    exact ⟨hlt, hanchored, hclosing, hclosed, htwo, henough, hallowed, ⟨hopenFirst, hcleanFirst⟩,
      fun hsome => ⟨hopenOthers hsome, hcleanOthers hsome⟩⟩

theorem padded_iff :
    Padded clock p snapshots windowStart windowEnd ↔
      windowStart ≤ windowEnd ∧
        Passes p snapshots.length (parsedTimes clock snapshots) windowStart windowEnd ∧
          counted clock p snapshots windowStart windowEnd < p.minimumRequiredSnapshots := by
  have hsum := counted_add_strays clock p snapshots windowStart windowEnd
  constructor
  · rintro ⟨hle, hgraded, hclosed, hopen, hclean, hallowed, henough, hshort⟩
    exact ⟨hle, ⟨hgraded, hopen, hclean, hallowed, henough, hclosed⟩, by omega⟩
  · rintro ⟨hle, ⟨hgraded, hopen, hclean, hallowed, henough, hclosed⟩, hfew⟩
    exact ⟨hle, hgraded, hclosed, hopen, hclean, hallowed, henough, by omega⟩

theorem Passes.covered
    (h : Passes p snapshots.length (parsedTimes clock snapshots) windowStart windowEnd)
    (hinverted : ¬Inverted clock p snapshots windowStart windowEnd)
    (hpadded : ¬Padded clock p snapshots windowStart windowEnd) :
    Covered clock p snapshots windowStart windowEnd := by
  have hle : windowStart ≤ windowEnd := not_lt.mp fun hlt => hinverted (inverted_iff.mpr ⟨h, hlt⟩)
  refine ⟨hle, not_lt.mp fun hlt => hpadded (padded_iff.mpr ⟨hle, h, hlt⟩), ?_⟩
  intro a b ha hab hb hlong
  have hclean := h.clean
  unfold NoDirtyGap GapsWithin at hclean
  rw [if_pos hle] at hclean
  by_contra hnone
  apply not_le.mpr hlong
  apply hclean a b ha hab hb
  intro t ht hbetween
  exact hnone ⟨t, mem_sortBy.mp ht, hbetween⟩

theorem Masked.worse (h : Masked clock p snapshots windowStart windowEnd) :
    (evaluateWindow p snapshots.length (parsedTimes clock snapshots) windowStart
        windowEnd).cadencePolicyStatus = .dirty ∧
      ∃ t, windowStart ≤ t ∧ t ≤ windowEnd ∧
        ∀ status, status = .pass ∨ status = .dirty →
          (evaluateWindow p (snapshots.length + 1) (parsedTimes clock (.moment t :: snapshots))
            windowStart windowEnd).cadencePolicyStatus ≠ status := by
  constructor
  · rw [evaluateWindow_dirty_iff (parsedTimes_sorted clock snapshots)]
    exact ⟨h.graded, h.open_, Or.inl h.dirty⟩
  · obtain ⟨t, ht, ht', hclean⟩ := h.closable
    have hsub : t :: parsedTimes clock snapshots ⊆ parsedTimes clock (.moment t :: snapshots) := by
      intro u hu
      exact (mem_parsedTimes_cons rfl).mpr (List.mem_cons.mp hu)
    have hclean' := hclean.mono (ht.trans ht') hsub
    refine ⟨t, ht, ht', ?_⟩
    rintro _ (rfl | rfl) hstatus
    · rw [evaluateWindow_pass_iff (parsedTimes_sorted clock _)] at hstatus
      exact Bool.noConfusion (h.missing.symm.trans hstatus.allowed)
    · rw [evaluateWindow_dirty_iff (parsedTimes_sorted clock _)] at hstatus
      rcases hstatus.2.2 with hdirty | ⟨hallowed, _⟩
      · exact hdirty hclean'
      · exact Bool.noConfusion (h.missing.symm.trans hallowed)

/-- Where no list is masked, one snapshot more leaves a dirty window dirty or passed. -/
theorem dirty_added {value : TimeValue} {t : Instant} (hvalue : parseTs clock value = some t)
    (ht : windowStart ≤ t) (ht' : t ≤ windowEnd)
    (hmasked : ¬Masked clock p snapshots windowStart windowEnd)
    (hdirty : (evaluateWindow p snapshots.length (parsedTimes clock snapshots) windowStart
      windowEnd).cadencePolicyStatus = .dirty) :
    ∃ status, (status = .pass ∨ status = .dirty) ∧
      (evaluateWindow p (snapshots.length + 1) (parsedTimes clock (value :: snapshots)) windowStart
        windowEnd).cadencePolicyStatus = status := by
  have hsorted := parsedTimes_sorted clock snapshots
  have hmore := parsedTimes_sorted clock (value :: snapshots)
  have hmem : ∀ u, u ∈ parsedTimes clock (value :: snapshots) ↔
      u = t ∨ u ∈ parsedTimes clock snapshots := fun u => mem_parsedTimes_cons hvalue
  have hsub : parsedTimes clock snapshots ⊆ parsedTimes clock (value :: snapshots) :=
    fun u hu => (hmem u).mpr (Or.inr hu)
  obtain ⟨hgraded, hopen, hcause⟩ := (evaluateWindow_dirty_iff hsorted).mp hdirty
  obtain ⟨hgraded', hlate⟩ := hgraded.added hsorted hmore hmem ht'
  have hopen' := hopen.mono (ht.trans ht') hsub
  by_cases hclean : NoDirtyGap p windowStart windowEnd (parsedTimes clock (value :: snapshots))
  · have hallowed : p.tooManyMissing (snapshots.length + 1) = false := by
      rcases hcause with hgap | ⟨hallowed, _⟩
      · rw [← Bool.not_eq_true]
        intro hmissing
        apply hmasked
        refine ⟨hgraded, hopen, hgap, hmissing, t, ht, ht', ?_⟩
        exact hclean.mono (ht.trans ht') fun u hu => List.mem_cons.mpr ((hmem u).mp hu)
      · exact tooManyMissing_succ hallowed
    by_cases hfew : (snapshots.length + 1 : ℕ) < p.minimumRequiredSnapshots ∨
        ClosingLate p (parsedTimes clock (value :: snapshots)) windowEnd
    · exact ⟨.dirty, Or.inr rfl,
        (evaluateWindow_dirty_iff hmore).mpr ⟨hgraded', hopen', Or.inr ⟨hallowed, hfew⟩⟩⟩
    · obtain ⟨henough, hclosed⟩ := not_or.mp hfew
      exact ⟨.pass, Or.inl rfl, (evaluateWindow_pass_iff hmore).mpr
        ⟨hgraded', hopen', hclean, hallowed, not_lt.mp henough, hclosed⟩⟩
  · exact ⟨.dirty, Or.inr rfl,
      (evaluateWindow_dirty_iff hmore).mpr ⟨hgraded', hopen', Or.inl hclean⟩⟩

/-- A time in the window can be read, so a list with it is evaluated with the same window. -/
theorem Evaluated.added {windowStartAt windowEndAt value : TimeValue}
    {policy : Option SnapshotCadencePolicy} {allowDisabled : Bool} {t : Instant}
    (h : Evaluated clock snapshots windowStartAt windowEndAt policy allowDisabled p windowStart
      windowEnd)
    (hvalue : parseTs clock value = some t) (ht : windowStart ≤ t) (ht' : t ≤ windowEnd) :
    Evaluated clock (value :: snapshots) windowStartAt windowEndAt policy allowDisabled p
      windowStart windowEnd := by
  obtain ⟨hpolicy, _, henabled, hmain, hstart, hend, hwindowStart, hwindowEnd, htimes⟩ := h
  refine ⟨hpolicy, by simp, henabled, hmain, hstart, hend, hwindowStart, hwindowEnd, ?_⟩
  have hrange : InRange t := by
    simp only [overflows, hstart, hend, Option.any_some, decide_eq_false_iff_not, not_not]
      at hwindowStart hwindowEnd
    exact ⟨hwindowStart.1.trans ht, ht'.trans_lt hwindowEnd.2⟩
  simp [overflows, hvalue, hrange]
  simpa [overflows] using htimes

end Pass

/-- A pass is coverage exactly where the window is in order, the count is of its own snapshots and
no dirty gap hides that too many are missing. -/
theorem cadenceSound_iff (clock : LocalClock) (snapshots : List TimeValue)
    (windowStartAt windowEndAt : TimeValue) (policy : Option SnapshotCadencePolicy)
    (productionMode allowDisabled : Bool) :
    CadenceSound clock snapshots windowStartAt windowEndAt policy productionMode allowDisabled ↔
      ∀ p windowStart windowEnd,
        Evaluated clock snapshots windowStartAt windowEndAt policy allowDisabled p windowStart
            windowEnd →
          ¬Inverted clock p snapshots windowStart windowEnd ∧
            ¬Padded clock p snapshots windowStart windowEnd ∧
              ¬Masked clock p snapshots windowStart windowEnd := by
  have hsorted := parsedTimes_sorted clock snapshots
  constructor
  · intro hsound p windowStart windowEnd hevaluated
    have hcovered :
        Passes p snapshots.length (parsedTimes clock snapshots) windowStart windowEnd →
          Covered clock p snapshots windowStart windowEnd := by
      intro hpasses
      obtain ⟨q, s, e, rfl, hstart, hend, hcovered⟩ := hsound.covered (by
        rw [hevaluated.evaluate_eq]
        exact congrArg some ((evaluateWindow_pass_iff hsorted).mpr hpasses))
      cases Option.some.inj hevaluated.policy_eq
      cases Option.some.inj (hstart.symm.trans hevaluated.start_eq)
      cases Option.some.inj (hend.symm.trans hevaluated.end_eq)
      exact hcovered
    refine ⟨fun h => ?_, fun h => ?_, fun h => ?_⟩
    · obtain ⟨hpasses, hlt⟩ := inverted_iff.mp h
      exact absurd (hcovered hpasses).ordered (not_le.mpr hlt)
    · obtain ⟨-, hpasses, hfew⟩ := padded_iff.mp h
      exact absurd (hcovered hpasses).enough (not_le.mpr hfew)
    · obtain ⟨hdirty, t, ht, ht', hworse⟩ := h.worse
      have hkept := hsound.added windowStart windowEnd (.moment t) t (.moment t :: snapshots)
        hevaluated.start_eq hevaluated.end_eq rfl ht ht' (List.Perm.refl _)
      rw [hevaluated.evaluate_eq, (hevaluated.added rfl ht ht').evaluate_eq] at hkept
      rcases hkept.2 (congrArg some hdirty) with hpass | hdirty'
      · exact hworse .pass (Or.inl rfl) (Option.some.inj hpass)
      · exact hworse .dirty (Or.inr rfl) (Option.some.inj hdirty')
  · intro h
    refine ⟨fun hpass => ?_, fun _ => evaluate_perm, ?_⟩
    · obtain ⟨p, windowStart, windowEnd, hevaluated, hstatus⟩ :=
        Evaluated.of_status (by simp) (by simp) hpass
      obtain ⟨hinverted, hpadded, _⟩ := h p windowStart windowEnd hevaluated
      exact ⟨p, windowStart, windowEnd, hevaluated.policy_eq, hevaluated.start_eq,
        hevaluated.end_eq,
        ((evaluateWindow_pass_iff hsorted).mp hstatus).covered hinverted hpadded⟩
    · intro windowStart windowEnd value t longer hstart hend hvalue ht ht' hperm
      rw [evaluate_perm hperm]
      -- A status to keep is one of an evaluated window, and that window has these ends.
      have hwindow : ∀ status, status ≠ .blocked → status ≠ .unknown →
          statusOf (evaluateCadencePolicy clock snapshots windowStartAt windowEndAt policy
            productionMode allowDisabled) = some status →
          ∃ p, Evaluated clock snapshots windowStartAt windowEndAt policy allowDisabled p
              windowStart windowEnd ∧
            (evaluateWindow p snapshots.length (parsedTimes clock snapshots) windowStart
              windowEnd).cadencePolicyStatus = status := by
        intro status hblocked hunknown hstatus
        obtain ⟨p, s, e, hevaluated, hstatus⟩ := Evaluated.of_status hblocked hunknown hstatus
        cases Option.some.inj (hstart.symm.trans hevaluated.start_eq)
        cases Option.some.inj (hend.symm.trans hevaluated.end_eq)
        exact ⟨p, hevaluated, hstatus⟩
      constructor
      · intro hpass
        obtain ⟨p, hevaluated, hstatus⟩ := hwindow .pass (by simp) (by simp) hpass
        have hpasses := (evaluateWindow_pass_iff hsorted).mp hstatus
        rw [(hevaluated.added hvalue ht ht').evaluate_eq]
        exact congrArg some ((evaluateWindow_pass_iff (parsedTimes_sorted clock _)).mpr
          (hpasses.added hsorted (parsedTimes_sorted clock _)
            (fun u => mem_parsedTimes_cons hvalue) ht ht'))
      · intro hdirty
        obtain ⟨p, hevaluated, hstatus⟩ := hwindow .dirty (by simp) (by simp) hdirty
        obtain ⟨_, _, hmasked⟩ := h p windowStart windowEnd hevaluated
        obtain ⟨status, hgood, hstatus'⟩ := dirty_added hvalue ht ht' hmasked hstatus
        rw [(hevaluated.added hvalue ht ht').evaluate_eq]
        rcases hgood with rfl | rfl
        · exact Or.inl (congrArg some hstatus')
        · exact Or.inr (congrArg some hstatus')

/-- The policy of a fifteen minute window on the normal lane. -/
def window15mNormal : SnapshotCadencePolicy where
  windowKind := "WINDOW_15M"
  trackingLane := "TRACK_NORMAL"
  targetSnapshotIntervalSeconds := 120
  dirtyAboveGapSeconds := 180
  maxCleanSnapshotGapSeconds := 240
  windowCloseIntervalSeconds := 900
  minimumRequiredSnapshots := 9
  supportOnly := false
  enabledForRealCollection := true

/-- Nine snapshots pass a window that ends a quarter of an hour before it starts. -/
theorem not_cadenceSound_inverted :
    ¬CadenceSound .utc (List.replicate 9 (.moment 0)) (.moment (seconds 900)) (.moment 0)
      (some window15mNormal) true false := by
  intro hsound
  obtain ⟨p, windowStart, windowEnd, _, hstart, hend, hcovered⟩ :=
    hsound.covered (by decide)
  cases hstart
  cases hend
  exact absurd hcovered.ordered (by decide)

end PrinterV1.Snapshots.Cadence
