import Mathlib.Data.List.Basic
import PrinterV1.Scheduler.TrajectoryCheckpoint

/-!
# Claims across gaps

Gaps are compared with claims by the positions of their two observations, and
carry times of their own. A claim spans a gap in time only through an
observation that stands between these two.
-/

namespace PrinterV1.Scheduler

open Python

theorem position_some {ids : List ℤ} {id : ℤ} : ∀ {i : ℕ},
    position ids id = some i → ids[i]? = some id := by
  induction ids with
  | nil =>
    intro i h
    cases h
  | cons x xs ih =>
    intro i h
    unfold position at h
    cases hrest : position xs id with
    | some j =>
      rw [hrest] at h
      obtain rfl := Option.some.inj h
      exact ih hrest
    | none =>
      simp only [hrest] at h
      split_ifs at h with hx
      obtain rfl := Option.some.inj h
      rw [hx]
      rfl

theorem mapM_position {ids support : List ℤ} : ∀ {positions : List ℕ},
    support.mapM (position ids) = some positions →
      ∀ id ∈ support, ∃ i ∈ positions, position ids id = some i := by
  induction support with
  | nil =>
    intro positions _ id hid
    cases hid
  | cons x xs ih =>
    intro positions h id hid
    rw [List.mapM_cons] at h
    obtain ⟨i, hi, h⟩ := Option.bind_eq_some_iff.mp h
    obtain ⟨rest, hrest, h⟩ := Option.bind_eq_some_iff.mp h
    obtain rfl := Option.some.inj h
    rcases List.mem_cons.mp hid with rfl | hid
    · exact ⟨i, List.mem_cons_self, hi⟩
    · obtain ⟨j, hj, hout⟩ := ih hrest id hid
      exact ⟨j, List.mem_cons_of_mem _ hj, hout⟩

/-- Neighbours in order make the whole list ordered. -/
theorem pairwise_of_zip_tail {times : List Instant}
    (h : ¬((times.zip times.tail).any fun pair => pair.2 ≤ pair.1) = true) :
    times.Pairwise (· < ·) := by
  rw [← List.isChain_iff_pairwise]
  induction times with
  | nil => exact .nil
  | cons t times ih =>
    cases times with
    | nil => exact .singleton t
    | cons u times =>
      simp only [List.tail_cons, List.zip_cons_cons, List.any_cons, Bool.or_eq_true,
        decide_eq_true_eq, not_or, Int.not_le] at h
      exact .cons_cons h.1 (ih h.2)

/-- The observations are in strictly increasing order of their times. -/
def Chronological (observations : List TrajectoryObservation) : Prop :=
  observations.Pairwise fun o o' =>
    ∃ t t', utc o.observedAt = some t ∧ utc o'.observedAt = some t' ∧ t < t'

theorem chronological_of_times {observations : List TrajectoryObservation}
    (haware : ∀ o ∈ observations, (utc o.observedAt).isSome)
    (h : (observations.filterMap fun o => utc o.observedAt).Pairwise (· < ·)) :
    Chronological observations := by
  rw [List.pairwise_filterMap] at h
  refine h.imp_of_mem ?_
  intro o o' ho ho' hlt
  obtain ⟨t, ht⟩ := Option.isSome_iff_exists.mp (haware o ho)
  obtain ⟨t', ht'⟩ := Option.isSome_iff_exists.mp (haware o' ho')
  exact ⟨t, t', ht, ht', hlt t ht t' ht'⟩

theorem Chronological.lt_of_time_lt {observations : List TrajectoryObservation}
    (h : Chronological observations) {i j : ℕ} {t u : Instant}
    (hi : timeAt observations i = some t) (hj : timeAt observations j = some u) (hlt : t < u) :
    i < j := by
  obtain ⟨o, ho, ht⟩ := Option.bind_eq_some_iff.mp hi
  obtain ⟨o', ho', hu⟩ := Option.bind_eq_some_iff.mp hj
  obtain ⟨hio, rfl⟩ := List.getElem?_eq_some_iff.mp ho
  obtain ⟨hjo, rfl⟩ := List.getElem?_eq_some_iff.mp ho'
  rcases Nat.lt_trichotomy i j with hij | rfl | hji
  · exact hij
  · rw [ht] at hu
    obtain rfl := Option.some.inj hu
    exact absurd hlt (Int.lt_irrefl t)
  · obtain ⟨u', t', hu', ht', horder⟩ := List.pairwise_iff_getElem.mp h j i hjo hio hji
    obtain rfl := Option.some.inj (hu.symm.trans hu')
    obtain rfl := Option.some.inj (ht.symm.trans ht')
    exact absurd hlt (Int.not_lt.mpr (Int.le_of_lt horder))

section Valid

variable {request : FixedTrajectoryRequest}

/-- What a gap of a valid request satisfies: its observations are in order, and its times are in
order between theirs. -/
structure GapInOrder (request : FixedTrajectoryRequest) (gap : VisibleEvidenceGap)
    (before after : ℕ) (openedAt closedAt opening closing : Instant) : Prop where
  positionBefore : position (snapshotIds request) gap.beforeSnapshotId = some before
  positionAfter : position (snapshotIds request) gap.afterSnapshotId = some after
  timeOpened : utc gap.openedAt = some openedAt
  timeClosed : utc gap.closedAt = some closedAt
  timeBefore : timeAt request.observations before = some opening
  timeAfter : timeAt request.observations after = some closing
  opens : opening ≤ openedAt
  lasts : openedAt < closedAt
  closes : closedAt ≤ closing

theorem gapTimeReasons_nil {observations : List TrajectoryObservation} {before after : ℕ}
    {gap : VisibleEvidenceGap} (h : gapTimeReasons observations before after gap = []) :
    ∃ openedAt closedAt opening closing, utc gap.openedAt = some openedAt ∧
      utc gap.closedAt = some closedAt ∧ timeAt observations before = some opening ∧
      timeAt observations after = some closing ∧
      opening ≤ openedAt ∧ openedAt < closedAt ∧ closedAt ≤ closing := by
  unfold gapTimeReasons at h
  cases hopened : utc gap.openedAt with
  | none => simp only [hopened, reduceCtorEq] at h
  | some openedAt =>
    cases hclosed : utc gap.closedAt with
    | none => simp only [hopened, hclosed, reduceCtorEq] at h
    | some closedAt =>
      simp only [hopened, hclosed, List.append_eq_nil_iff, reasonIf_eq_nil, Int.not_le] at h
      obtain ⟨hlasts, h⟩ := h
      cases hbefore : timeAt observations before with
      | none => simp only [hbefore, reduceCtorEq] at h
      | some opening =>
        simp only [hbefore, List.append_eq_nil_iff, reasonIf_eq_nil, Int.not_lt] at h
        obtain ⟨hopens, h⟩ := h
        cases hafter : timeAt observations after with
        | none => simp only [hafter, reduceCtorEq] at h
        | some closing =>
          simp only [hafter, reasonIf_eq_nil, Int.not_lt] at h
          exact ⟨openedAt, closedAt, opening, closing, rfl, rfl, rfl, rfl, hopens, hlasts, h⟩

theorem gapReasons_nil {gaps : List VisibleEvidenceGap} :
    ∀ {seen : List String} {priorAfterPosition : ℤ},
      gapReasons (snapshotIds request) request.observations seen priorAfterPosition gaps = [] →
      ∀ gap ∈ gaps, ∃ before after openedAt closedAt opening closing,
        GapInOrder request gap before after openedAt closedAt opening closing := by
  induction gaps with
  | nil =>
    intro seen prior _ gap hgap
    cases hgap
  | cons first gaps ih =>
    intro seen prior h gap hgap
    unfold gapReasons at h
    rw [List.append_eq_nil_iff, List.append_eq_nil_iff] at h
    obtain ⟨_, h⟩ := h
    cases hbefore : position (snapshotIds request) first.beforeSnapshotId with
    | none => simp only [hbefore, reduceCtorEq] at h
    | some before =>
      cases hafter : position (snapshotIds request) first.afterSnapshotId with
      | none => simp only [hbefore, hafter, reduceCtorEq] at h
      | some after =>
        simp only [hbefore, hafter, List.append_eq_nil_iff] at h
        obtain ⟨⟨⟨_, htimes⟩, _⟩, hrest⟩ := h
        rcases List.mem_cons.mp hgap with rfl | hgap
        · obtain ⟨openedAt, closedAt, opening, closing, hopened, hclosed, hopening, hclosing,
            hopens, hlasts, hcloses⟩ := gapTimeReasons_nil htimes
          exact ⟨before, after, openedAt, closedAt, opening, closing, hbefore, hafter, hopened,
            hclosed, hopening, hclosing, hopens, hlasts, hcloses⟩
        · exact ih hrest gap hgap

/-- A claim without reasons has all its observations, and for each gap they all stand behind its
first observation or all before its second. -/
theorem claimReasons_nil {μ : Type} {ids : List ℤ} {gaps : List VisibleEvidenceGap}
    {label : String} {claim : Claim μ} (h : claimReasons ids gaps label claim = [])
    {gap : VisibleEvidenceGap} (hgap : gap ∈ gaps) {before after : ℕ}
    (hbefore : position ids gap.beforeSnapshotId = some before)
    (hafter : position ids gap.afterSnapshotId = some after)
    {a b : ℤ} (ha : a ∈ claim.supportingSnapshotIds) (hb : b ∈ claim.supportingSnapshotIds) :
    ∃ i j, position ids a = some i ∧ position ids b = some j ∧ (before < i ∨ j < after) := by
  unfold claimReasons at h
  split_ifs at h
  cases hpositions : claim.supportingSnapshotIds.mapM (position ids) with
  | none => simp only [hpositions, reduceCtorEq] at h
  | some positions =>
    simp only [hpositions] at h
    have hcross := List.flatMap_eq_nil_iff.mp h gap hgap
    rw [reasonIf_eq_nil, crossesGap] at hcross
    simp only [hbefore, hafter, Bool.and_eq_true, not_and_or] at hcross
    obtain ⟨i, hi, hposition⟩ := mapM_position hpositions a ha
    obtain ⟨j, hj, hposition'⟩ := mapM_position hpositions b hb
    refine ⟨i, j, hposition, hposition', ?_⟩
    rcases hcross with hmin | hmax
    · left
      cases hleast : positions.min? with
      | none =>
        rw [List.min?_eq_none_iff.mp hleast] at hi
        cases hi
      | some least =>
        have hle : least ≤ i := (List.min?_eq_some_iff.mp hleast).2 i hi
        simp only [hleast, Option.any_some, decide_eq_true_eq] at hmin
        omega
    · right
      cases hmost : positions.max? with
      | none =>
        rw [List.max?_eq_none_iff.mp hmost] at hj
        cases hj
      | some most =>
        have hle : j ≤ most := (List.max?_eq_some_iff.mp hmost).2 j hj
        simp only [hmost, Option.any_some, decide_eq_true_eq] at hmax
        omega

theorem valid_iff : (buildFixedTrajectory request).verdict = .valid ↔
    trajectoryReasons request = [] := by
  unfold buildFixedTrajectory
  by_cases h : trajectoryReasons request = []
  · simp [h]
  · simp [h]

/-- What a request satisfies that has no reasons against it. -/
structure ValidRequest (request : FixedTrajectoryRequest) : Prop where
  unique : (snapshotIds request).Nodup
  chronological : Chronological request.observations
  gaps : ∀ gap ∈ request.gaps, ∃ before after openedAt closedAt opening closing,
    GapInOrder request gap before after openedAt closedAt opening closing
  phases : ∀ claim ∈ resolvedPhases request,
    claimReasons (snapshotIds request) request.gaps "phase" claim = []
  reversals : ∀ claim ∈ resolvedReversals request,
    claimReasons (snapshotIds request) request.gaps "reversal" claim = []

theorem validRequest (h : (buildFixedTrajectory request).verdict = .valid) :
    ValidRequest request := by
  have hreasons := valid_iff.mp h
  simp only [trajectoryReasons, List.append_eq_nil_iff, reasonIf_eq_nil, not_not,
    List.flatMap_eq_nil_iff] at hreasons
  obtain ⟨⟨⟨⟨⟨⟨⟨⟨⟨_, hunique⟩, hobservations⟩, htimes⟩, hgaps⟩, hphases⟩, hreversals⟩, _⟩, _⟩, _⟩ :=
    hreasons
  have haware : ∀ o ∈ request.observations, (utc o.observedAt).isSome := by
    intro o ho
    have hnone := hobservations o ho
    simp only [observationReasons, List.append_eq_nil_iff, reasonIf_eq_nil] at hnone
    obtain ⟨⟨⟨_, htime⟩, _⟩, _⟩ := hnone
    rwa [Bool.not_eq_true, Option.isNone_eq_false_iff] at htime
  exact {
    unique := hunique
    chronological := chronological_of_times haware (pairwise_of_zip_tail htimes)
    gaps := gapReasons_nil hgaps
    phases := hphases
    reversals := hreversals }

end Valid

/-- The snapshot was observed at the time. -/
def ObservedAt (request : FixedTrajectoryRequest) (id : ℤ) (t : Instant) : Prop :=
  ∃ o ∈ request.observations, o.snapshotId = id ∧ utc o.observedAt = some t

/-- The claim rests on the snapshots on both sides of the gap: one observed at or before its
opening and one at or after its closing. -/
def Straddles (request : FixedTrajectoryRequest) (gap : VisibleEvidenceGap) (support : List ℤ)
    (a b : ℤ) : Prop :=
  a ∈ support ∧ b ∈ support ∧ ∃ openedAt closedAt ta tb, utc gap.openedAt = some openedAt ∧
    utc gap.closedAt = some closedAt ∧ ObservedAt request a ta ∧ ta ≤ openedAt ∧
    ObservedAt request b tb ∧ closedAt ≤ tb

/-- The snapshot stands between the two observations of the gap. -/
def Inside (request : FixedTrajectoryRequest) (gap : VisibleEvidenceGap) (id : ℤ) : Prop :=
  ∃ before i after, position (snapshotIds request) gap.beforeSnapshotId = some before ∧
    position (snapshotIds request) id = some i ∧
    position (snapshotIds request) gap.afterSnapshotId = some after ∧ before < i ∧ i < after

/-- The supports of the claims of a request. -/
def supports (request : FixedTrajectoryRequest) : List (List ℤ) :=
  request.phases.map Claim.supportingSnapshotIds ++
    request.reversals.map Claim.supportingSnapshotIds

/-- The observations are in order with identities of their own, and no claim spans a gap. -/
structure NoHiddenGap (request : FixedTrajectoryRequest) : Prop where
  chronological : Chronological request.observations
  unique : (snapshotIds request).Nodup
  claims : ∀ gap ∈ request.gaps, ∀ support ∈ supports request,
    ¬∃ a b, Straddles request gap support a b

/-- No claim spans a gap through a snapshot that stands between its observations. -/
def NoInsideSpan (request : FixedTrajectoryRequest) : Prop :=
  ∀ gap ∈ request.gaps, ∀ support ∈ supports request, ∀ a b,
    Straddles request gap support a b → ¬Inside request gap a ∧ ¬Inside request gap b

section Span

variable {request : FixedTrajectoryRequest}

theorem timeAt_position {id : ℤ} {i : ℕ} {t : Instant} (hunique : (snapshotIds request).Nodup)
    (hposition : position (snapshotIds request) id = some i) (ht : ObservedAt request id t) :
    timeAt request.observations i = some t := by
  obtain ⟨o, ho, hid, htime⟩ := ht
  obtain ⟨k, hk, rfl⟩ := List.getElem_of_mem ho
  have hi := position_some hposition
  have hkid : (snapshotIds request)[k]? = some id := by
    rw [snapshotIds, List.getElem?_map, List.getElem?_eq_getElem hk, ← hid]
    rfl
  have hsame : i = k := by
    have hlt : i < (snapshotIds request).length := (List.getElem?_eq_some_iff.mp hi).1
    exact (List.getElem?_inj hlt hunique).mp (hi.trans hkid.symm)
  rw [hsame, timeAt, List.getElem?_eq_getElem hk]
  exact htime

/-- In a valid request a claim that spans a gap does so through a snapshot inside it. -/
theorem inside_of_straddles (hvalid : ValidRequest request) {gap : VisibleEvidenceGap}
    (hgap : gap ∈ request.gaps) {support : List ℤ} (hsupport : support ∈ supports request)
    {a b : ℤ} (h : Straddles request gap support a b) :
    Inside request gap a ∨ Inside request gap b := by
  obtain ⟨before, after, openedAt, closedAt, opening, closing, horder⟩ := hvalid.gaps gap hgap
  obtain ⟨ha, hb, openedAt', closedAt', ta, tb, hopened, hclosed, hta, hle, htb, hge⟩ := h
  obtain rfl := Option.some.inj (horder.timeOpened.symm.trans hopened)
  obtain rfl := Option.some.inj (horder.timeClosed.symm.trans hclosed)
  have hclaim : ∃ i j, position (snapshotIds request) a = some i ∧
      position (snapshotIds request) b = some j ∧ (before < i ∨ j < after) := by
    rcases List.mem_append.mp hsupport with hmem | hmem
    · obtain ⟨claim, hclaim, rfl⟩ := List.mem_map.mp hmem
      have hreasons := hvalid.phases _ (List.mem_map_of_mem hclaim)
      exact claimReasons_nil hreasons hgap horder.positionBefore horder.positionAfter ha hb
    · obtain ⟨claim, hclaim, rfl⟩ := List.mem_map.mp hmem
      have hreasons := hvalid.reversals _ (List.mem_map_of_mem hclaim)
      exact claimReasons_nil hreasons hgap horder.positionBefore horder.positionAfter ha hb
  obtain ⟨i, j, hi, hj, hside⟩ := hclaim
  have htimea := timeAt_position hvalid.unique hi hta
  have htimeb := timeAt_position hvalid.unique hj htb
  -- the earlier snapshot is observed before the gap's second one, the later after its first one
  have hfirst : ta < closing :=
    Int.lt_of_le_of_lt hle (Int.lt_of_lt_of_le horder.lasts horder.closes)
  have hsecond : opening < tb :=
    Int.lt_of_le_of_lt horder.opens (Int.lt_of_lt_of_le horder.lasts hge)
  have hafter : i < after :=
    hvalid.chronological.lt_of_time_lt htimea horder.timeAfter hfirst
  have hbefore : before < j :=
    hvalid.chronological.lt_of_time_lt horder.timeBefore htimeb hsecond
  rcases hside with hside | hside
  · exact Or.inl ⟨before, i, after, horder.positionBefore, hi, horder.positionAfter, hside, hafter⟩
  · exact Or.inr ⟨before, j, after, horder.positionBefore, hj, horder.positionAfter, hbefore, hside⟩

/-- A valid request has no hidden gap where no claim spans one through a snapshot inside it. -/
theorem noHiddenGap_iff (h : (buildFixedTrajectory request).verdict = .valid) :
    NoHiddenGap request ↔ NoInsideSpan request := by
  have hvalid := validRequest h
  constructor
  · intro hclaims gap hgap support hsupport a b hspan
    exact absurd ⟨a, b, hspan⟩ (hclaims.claims gap hgap support hsupport)
  · intro hinside
    refine ⟨hvalid.chronological, hvalid.unique, ?_⟩
    rintro gap hgap support hsupport ⟨a, b, hspan⟩
    obtain ⟨ha, hb⟩ := hinside gap hgap support hsupport a b hspan
    exact (inside_of_straddles hvalid hgap hsupport hspan).elim ha hb

/-- Gaps between neighbouring observations have no snapshot inside them. -/
theorem noInsideSpan_of_neighbours (h : ∀ gap ∈ request.gaps, ∀ before after,
    position (snapshotIds request) gap.beforeSnapshotId = some before →
    position (snapshotIds request) gap.afterSnapshotId = some after → after = before + 1) :
    NoInsideSpan request := by
  intro gap hgap support _ a b _
  have hempty : ∀ id, ¬Inside request gap id := by
    rintro id ⟨before, i, after, hbefore, _, hafter, hlt, hgt⟩
    have hnext := h gap hgap before after hbefore hafter
    omega
  exact ⟨hempty a, hempty b⟩

end Span

def minute (n : ℤ) : Datetime := ⟨n * 60 * microsPerSecond, some 0⟩

def gapIdentity : TrajectoryIdentity :=
  ⟨"campaign", "run", "cycle", "slot", "token", "mint", "pair", "root", "window"⟩

def gapObservation (id time : ℤ) : TrajectoryObservation where
  snapshotId := id
  identity := gapIdentity
  observedAt := minute time
  provenance := ⟨"dexscreener", 11, 12, "work", "COMPLETE", "CLEAN_DATA", true, true⟩

/-- Four observations, a gap from the eleventh to the nineteenth minute, and one claim. -/
def gapRequest (before after : ℤ) (support : List ℤ) : FixedTrajectoryRequest where
  identity := gapIdentity
  expectedIdentity := gapIdentity
  schedulerWorkId := "work"
  observations :=
    [gapObservation 1 0, gapObservation 2 10, gapObservation 3 20, gapObservation 4 30]
  gaps := [⟨"gap", before, after, minute 11, minute 19, "missed cadence", true⟩]
  phases := [⟨"CONTINUATION", support⟩]
  reversals := []

/-- A gap between neighbouring observations hides nothing. -/
theorem noHiddenGap_neighbours : NoHiddenGap (gapRequest 2 3 [1, 2]) := by
  have hvalid : (buildFixedTrajectory (gapRequest 2 3 [1, 2])).verdict = .valid := by
    decide
  rw [noHiddenGap_iff hvalid]
  apply noInsideSpan_of_neighbours
  intro gap hgap before after hbefore hafter
  obtain rfl := List.mem_singleton.mp hgap
  obtain rfl : 1 = before := Option.some.inj hbefore
  obtain rfl : 2 = after := Option.some.inj hafter
  rfl

/-- A claim on the two observations inside a gap is valid, and spans the gap. -/
theorem not_noHiddenGap_inside :
    ¬((buildFixedTrajectory (gapRequest 1 4 [2, 3])).verdict = .valid →
      NoHiddenGap (gapRequest 1 4 [2, 3])) := by
  intro h
  have hvalid : (buildFixedTrajectory (gapRequest 1 4 [2, 3])).verdict = .valid := by
    decide
  apply (h hvalid).claims _ List.mem_cons_self _ List.mem_cons_self
  exact ⟨2, 3, by decide, by decide, (minute 11).wall, (minute 19).wall, (minute 10).wall,
    (minute 20).wall, rfl, rfl, ⟨gapObservation 2 10, by decide, rfl, rfl⟩, by decide,
    ⟨gapObservation 3 20, by decide, rfl, rfl⟩, by decide⟩

end PrinterV1.Scheduler
