import PrinterV1.Discovery.TrackingRecheck
import PrinterV1.Foundation.Runs

/-!
# Claiming a tracking lane again

A claim inserts a row where its lane has none, and where the latest row of the
lane is in a cooldown that is over at the instant of the claim and the claim
brings fresh evidence. The lifecycle events of a lane name, one after another, the
rows that were succeeded.
-/

namespace PrinterV1.Discovery

open Python Lifecycle Runs

/-! ## The latest row -/

/-- The row of the lane with the largest id. -/
structure IsLatest (queue : Queue) (p : QueueRow → Bool) (row : QueueRow) : Prop where
  mem : row ∈ queue.rows
  holds : p row = true
  largest : ∀ r ∈ queue.rows, p r = true → r.id ≤ row.id

theorem latestRow_iff {queue : Queue} {p : QueueRow → Bool} {row : QueueRow} :
    latestRow queue p = some row ↔ IsLatest queue p row := by
  have hspec : ∀ {r : QueueRow}, latestRow queue p = some r → IsLatest queue p r := by
    intro r hr
    have hmem : r ∈ queue.rows.filter p := List.maxOn?_mem hr
    obtain ⟨hrow, hp⟩ := List.mem_filter.mp hmem
    refine ⟨hrow, hp, ?_⟩
    intro x hx hxp
    have hle := List.le_apply_get_maxOn?_of_mem (f := QueueRow.id) (List.mem_filter.mpr ⟨hx, hxp⟩)
    have hget : (queue.rows.filter p).maxOn? QueueRow.id = some r := hr
    simpa [hget] using hle
  constructor
  · exact hspec
  · intro h
    cases hlatest : latestRow queue p with
    | none =>
      have hempty : queue.rows.filter p = [] := by
        by_contra hsome
        have hisSome : (latestRow queue p).isSome := List.isSome_maxOn?_iff.mpr hsome
        rw [hlatest] at hisSome
        cases hisSome
      have hmem : row ∈ queue.rows.filter p := List.mem_filter.mpr ⟨h.mem, h.holds⟩
      rw [hempty] at hmem
      cases hmem
    | some r =>
      have hr := hspec hlatest
      have hid : r.id = row.id := le_antisymm (h.largest r hr.mem hr.holds)
        (hr.largest row h.mem h.holds)
      rw [queue.eq_of_key hr.mem h.mem hid]

theorem latestRow_eq_none_iff {queue : Queue} {p : QueueRow → Bool} :
    latestRow queue p = none ↔ ∀ r ∈ queue.rows, p r = false := by
  rw [latestRow, ← Option.not_isSome_iff_eq_none, List.isSome_maxOn?_iff, not_not,
    List.filter_eq_nil_iff]
  simp

/-! ## The assessment -/

/-- The row is in a cooldown that is over at the instant. -/
structure CooldownOver (row : QueueRow) (assessedAt : Option Datetime) : Prop where
  status : row.queueStatus = some QueueStatus.cooldown.value
  expired : ∃ expiry instant, (effectiveCooldownExpiry row).1 = some expiry ∧
    assessedAt = some instant ∧ expiry ≤ instant.instantUtc

/-- What the assessment of a row says. -/
structure AssessesRow (row : QueueRow) (assessedAt : Option Datetime)
    (assessment : TrackingHandoffAssessment) : Prop where
  eligible_iff : assessment.eligible = true ↔ CooldownOver row assessedAt
  requalifies : assessment.requalificationEligible = assessment.eligible
  queueId : assessment.queueId = some row.id

theorem assessesRow_refuse {row : QueueRow} {assessedAt : Option Datetime} (category : String)
    (queueStatus : Option String)
    (h : row.queueStatus ≠ some QueueStatus.cooldown.value) :
    AssessesRow row assessedAt (refuseHandoff row category queueStatus) :=
  ⟨iff_of_false (by simp [refuseHandoff]) fun hover => h hover.status, rfl, rfl⟩

theorem assessesRow_cooldown {row : QueueRow} (assessedAt : Option Datetime)
    (h : row.queueStatus = some QueueStatus.cooldown.value) :
    AssessesRow row assessedAt (assessCooldown row assessedAt) := by
  unfold assessCooldown
  dsimp only
  cases hexpiry : (effectiveCooldownExpiry row).1 with
  | none =>
    refine ⟨iff_of_false (by simp [refuseHandoff]) ?_, rfl, rfl⟩
    rintro ⟨-, expiry, instant, hsome, -⟩
    rw [hexpiry] at hsome
    cases hsome
  | some cooldownUntil =>
    cases assessedAt with
    | none =>
      refine ⟨iff_of_false (by simp [refuseHandoff]) ?_, rfl, rfl⟩
      rintro ⟨-, expiry, instant, -, hsome, -⟩
      cases hsome
    | some instant =>
      dsimp only
      by_cases hover : instant.instantUtc ≥ cooldownUntil
      · rw [if_pos hover]
        exact ⟨iff_of_true rfl ⟨h, cooldownUntil, instant, hexpiry, rfl, hover⟩, rfl, rfl⟩
      · rw [if_neg hover]
        refine ⟨iff_of_false (by simp [refuseHandoff]) ?_, rfl, rfl⟩
        rintro ⟨-, expiry, instant', hsome, hinstant, hle⟩
        rw [hexpiry] at hsome
        obtain rfl := Option.some.inj hsome
        obtain rfl := Option.some.inj hinstant
        exact hover hle

theorem assessesRow (row : QueueRow) (assessedAt : Option Datetime) :
    AssessesRow row assessedAt (handoffAssessment (some row) assessedAt) := by
  have hcooldown : row.queueStatus = some QueueStatus.cooldown.value →
      QueueStatus.ofValue? (row.queueStatus.getD "") = some .cooldown := by
    intro h
    rw [h]
    exact QueueStatus.ofValue?_value .cooldown
  unfold handoffAssessment
  dsimp only
  cases hstatus : QueueStatus.ofValue? (row.queueStatus.getD "") with
  | none =>
    apply assessesRow_refuse
    intro h
    rw [hcooldown h] at hstatus
    cases hstatus
  | some status =>
    by_cases hsame : status = .cooldown
    · subst hsame
      have hvalue : (row.queueStatus.getD "") = QueueStatus.cooldown.value := by
        have hfound := List.find?_some hstatus
        exact (of_decide_eq_true hfound).symm
      apply assessesRow_cooldown
      cases hraw : row.queueStatus with
      | none =>
        rw [hraw] at hvalue
        simp [QueueStatus.value] at hvalue
      | some text =>
        rw [hraw] at hvalue
        exact congrArg some hvalue
    · have hne : row.queueStatus ≠ some QueueStatus.cooldown.value := by
        intro h
        rw [hcooldown h] at hstatus
        exact hsame (Option.some.inj hstatus).symm
      cases status with
      | cooldown => exact absurd rfl hsame
      | _ =>
        dsimp only
        split_ifs <;> exact assessesRow_refuse _ _ hne

/-! ## The claim -/

/-- The lane of a claim. -/
def laneOf (a : ClaimArgs) : QueueRow → Bool := sameTracking a.tokenId a.pairId a.trackingLane

/-- The latest row of the lane may be succeeded. -/
def Succeeds (queue : Queue) (a : ClaimArgs) (row : QueueRow) : Prop :=
  IsLatest queue (laneOf a) row ∧ CooldownOver row a.assessedAt ∧
    a.freshEvidenceRequalification = true

theorem assessment_none {queue : Queue} {a : ClaimArgs}
    (h : latestRow queue (laneOf a) = none) :
    a.assessment queue = handoffAssessment none a.assessedAt := by
  rw [ClaimArgs.assessment, assessTrackingHandoff]
  exact congrArg (handoffAssessment · a.assessedAt) h

theorem assessment_some {queue : Queue} {a : ClaimArgs} {row : QueueRow}
    (h : latestRow queue (laneOf a) = some row) :
    AssessesRow row a.assessedAt (a.assessment queue) := by
  have heq : a.assessment queue = handoffAssessment (some row) a.assessedAt := by
    rw [ClaimArgs.assessment, assessTrackingHandoff]
    exact congrArg (handoffAssessment · a.assessedAt) h
  rw [heq]
  exact assessesRow row a.assessedAt

theorem admitted_some_iff {queue : Queue} {a : ClaimArgs} {row : QueueRow}
    (h : latestRow queue (laneOf a) = some row) :
    a.admitted queue = true ↔ CooldownOver row a.assessedAt ∧
      a.freshEvidenceRequalification = true := by
  have hassess := assessment_some h
  rw [ClaimArgs.admitted, hassess.requalifies, ← hassess.eligible_iff]
  cases (a.assessment queue).eligible <;> simp

theorem admitted_iff (queue : Queue) (a : ClaimArgs) :
    a.admitted queue = true ↔
      (∀ r ∈ queue.rows, laneOf a r = false) ∨ ∃ row, Succeeds queue a row := by
  cases hlatest : latestRow queue (laneOf a) with
  | none =>
    have hadmitted : a.admitted queue = true := by
      rw [ClaimArgs.admitted, assessment_none hlatest]
      rfl
    exact iff_of_true hadmitted (.inl (latestRow_eq_none_iff.mp hlatest))
  | some row =>
    have hrow := latestRow_iff.mp hlatest
    rw [admitted_some_iff hlatest]
    constructor
    · exact fun h => .inr ⟨row, hrow, h⟩
    · rintro (hnone | ⟨row', hrow', h⟩)
      · have hfalse := hnone row hrow.mem
        rw [hrow.holds] at hfalse
        cases hfalse
      · have hsame := Option.some.inj (hlatest.symm.trans (latestRow_iff.mpr hrow'))
        rwa [hsame]

theorem claim_refused {s : Tracking} {a : ClaimArgs} (h : a.admitted s.queue = false) :
    claimTrackingItem s a = ((false, none), s) := by
  rw [claimTrackingItem, h]
  rfl

theorem claim_queue {s : Tracking} {a : ClaimArgs} (h : a.admitted s.queue = true) :
    (claimTrackingItem s a).2.queue = Lifecycle.insertRow s.queue a := by
  rw [claimTrackingItem, if_pos h]

theorem claim_first {s : Tracking} {a : ClaimArgs} (h : a.admitted s.queue = true)
    (hnone : latestRow s.queue (laneOf a) = none) :
    (claimTrackingItem s a).2.events = s.events := by
  rw [claimTrackingItem, if_pos h, assessment_none hnone]
  rfl

theorem claim_again {s : Tracking} {a : ClaimArgs} (h : a.admitted s.queue = true) {row : QueueRow}
    (hlatest : latestRow s.queue (laneOf a) = some row) :
    (claimTrackingItem s a).2.events =
      s.events ++ [a.event (a.assessment s.queue) (nextQueueId s.queue)] := by
  have hassess := assessment_some hlatest
  have hrequalifies : (a.assessment s.queue).requalificationEligible = true := by
    rw [hassess.requalifies, hassess.eligible_iff]
    exact ((admitted_some_iff hlatest).mp h).1
  rw [claimTrackingItem, if_pos h]
  dsimp only
  rw [if_pos hrequalifies]

/-- The lineage of a claim leaves the name of the predecessor alone. -/
def PlainLineage (a : ClaimArgs) : Prop := a.requalificationLineage.has "predecessor_queue_id" = false

/-- The event names the row. -/
def Names (e : LifecycleEventRow) (row : QueueRow) : Prop :=
  e.eventPayload.get "predecessor_queue_id" = .int row.id

theorem event_names {queue : Queue} {a : ClaimArgs} (hplain : PlainLineage a) {row : QueueRow}
    (hlatest : latestRow queue (laneOf a) = some row) (queueId : ℤ) :
    Names (a.event (a.assessment queue) queueId) row := by
  have hassess := assessment_some hlatest
  have hlineage : a.requalificationLineage.has "predecessor_queue_id" = false := hplain
  rw [Names, ClaimArgs.event, Dict.get_merge, hlineage, hassess.queueId]
  simp [optionValue]

/-- What one claim does. -/
structure ClaimAnswered (s : Tracking) (a : ClaimArgs) : Prop where
  inserts_iff : (claimTrackingItem s a).1.1 = true ↔
    (∀ r ∈ s.queue.rows, laneOf a r = false) ∨ ∃ row, Succeeds s.queue a row
  refused : (claimTrackingItem s a).1.1 = false → (claimTrackingItem s a).2 = s
  inserted : (claimTrackingItem s a).1.1 = true → ∃ row, laneOf a row = true ∧
    (claimTrackingItem s a).2.queue.rows = s.queue.rows ++ [row]
  first : (∀ r ∈ s.queue.rows, laneOf a r = false) → (claimTrackingItem s a).2.events = s.events
  again : ∀ row, IsLatest s.queue (laneOf a) row → (claimTrackingItem s a).1.1 = true →
    ∃ e, (claimTrackingItem s a).2.events = s.events ++ [e] ∧
      e.lifecycleEvent = .reopenRevivedToken ∧ (PlainLineage a → Names e row)
  terminal : ∀ row, IsLatest s.queue (laneOf a) row →
    (∃ status ∈ terminalTrackingStatuses, row.queueStatus = some status.value) →
    (claimTrackingItem s a).1.1 = false

theorem claim_answer (s : Tracking) (a : ClaimArgs) :
    (claimTrackingItem s a).1.1 = a.admitted s.queue := by
  unfold claimTrackingItem
  cases a.admitted s.queue <;> rfl

theorem laneOf_row (a : ClaimArgs) (assessment : TrackingHandoffAssessment) (id : ℤ) :
    laneOf a (a.row assessment id) = true := by
  simp [laneOf, sameTracking, ClaimArgs.row]

theorem claimAnswered (s : Tracking) (a : ClaimArgs) : ClaimAnswered s a := by
  constructor
  · rw [claim_answer]
    exact admitted_iff s.queue a
  · intro h
    rw [claim_answer] at h
    rw [claim_refused h]
  · intro h
    rw [claim_answer] at h
    refine ⟨_, laneOf_row a (a.assessment s.queue) (nextQueueId s.queue), ?_⟩
    rw [claim_queue h]
    rfl
  · intro hnone
    have hlatest := latestRow_eq_none_iff.mpr hnone
    exact claim_first ((admitted_iff s.queue a).mpr (.inl hnone)) hlatest
  · intro row hrow h
    rw [claim_answer] at h
    have hlatest := latestRow_iff.mpr hrow
    exact ⟨_, claim_again h hlatest, rfl, fun hplain => event_names hplain hlatest _⟩
  · rintro row hrow ⟨status, hterminal, hstatus⟩
    rw [claim_answer, Bool.eq_false_iff, ne_eq, admitted_some_iff (latestRow_iff.mpr hrow)]
    rintro ⟨hover, -⟩
    have hvalue : status.value = QueueStatus.cooldown.value :=
      Option.some.inj (hstatus.symm.trans hover.status)
    revert hterminal hvalue
    cases status <;> decide

/-! ## Runs -/

/-- The columns of a row that its other owners write. -/
structure Columns where
  trackingAction : LifecycleEvent
  priorityReason : String
  nextCheckAt : Option String
  lastCheckedAt : Option String
  queueStatus : Option String
  updatedAt : String

def Columns.write (c : Columns) (r : QueueRow) : QueueRow :=
  { r with
    trackingAction := c.trackingAction
    priorityReason := c.priorityReason
    nextCheckAt := c.nextCheckAt
    lastCheckedAt := c.lastCheckedAt
    queueStatus := c.queueStatus
    updatedAt := c.updatedAt }

/-- A claim, a status set by the queue itself, or columns written by another owner. -/
inductive Action
  | claim (a : ClaimArgs)
  | setQueueStatus (queueId : ℤ) (status : QueueStatus) (utcNow : Instant)
  | write (queueId : ℤ) (columns : Columns)

def act (s : Tracking) : Action → Tracking
  | .claim a => (claimTrackingItem s a).2
  | .setQueueStatus queueId status utcNow => setQueueStatus s queueId status utcNow
  | .write queueId columns =>
    { s with queue := s.queue.updateKey queueId ⟨columns.write, fun _ => rfl⟩ }

/-- A token, a pair and a lane. -/
abbrev Lane := ℤ × ℤ × TokenLifecycleState

def rowLane (r : QueueRow) : Lane := (r.tokenId, normalizePairId r.pairId, r.trackingLane)

def claimLane (a : ClaimArgs) : Lane := (a.tokenId, normalizePairId a.pairId, a.trackingLane)

def eventLane (e : LifecycleEventRow) : Lane := (e.tokenId, normalizePairId e.pairId, e.newState)

theorem laneOf_eq (a : ClaimArgs) (r : QueueRow) : laneOf a r = decide (rowLane r = claimLane a) := by
  simp [laneOf, sameTracking, rowLane, claimLane, Bool.and_assoc]

def rowsOf (s : Tracking) (lane : Lane) : List QueueRow :=
  s.queue.rows.filter fun r => rowLane r = lane

def reopeningsOf (s : Tracking) (lane : Lane) : List LifecycleEventRow :=
  s.events.filter fun e => e.lifecycleEvent = .reopenRevivedToken && eventLane e = lane

/-- The events of the lane name its rows but the last, one after another. -/
def Chained (s : Tracking) (lane : Lane) : Prop :=
  (reopeningsOf s lane).map (fun e => e.eventPayload.get "predecessor_queue_id") =
    (rowsOf s lane).dropLast.map fun r => .int r.id

/-- The rows stand in the order of their ids, and every lane is chained. -/
structure Kept (s : Tracking) : Prop where
  increasing : s.queue.rows.Pairwise fun a b => a.id < b.id
  chained : ∀ lane, Chained s lane

theorem latestRow_eq_getLast? {queue : Queue} {p : QueueRow → Bool}
    (h : queue.rows.Pairwise fun a b => a.id < b.id) :
    latestRow queue p = (queue.rows.filter p).getLast? := by
  cases hlast : (queue.rows.filter p).getLast? with
  | none =>
    rw [latestRow, List.getLast?_eq_none_iff.mp hlast]
    rfl
  | some row =>
    obtain ⟨init, hinit⟩ := List.getLast?_eq_some_iff.mp hlast
    have hsorted := h.sublist (List.filter_sublist (p := p))
    have hrow : row ∈ queue.rows.filter p := by simp [hinit]
    rw [latestRow_iff]
    refine ⟨(List.mem_filter.mp hrow).1, (List.mem_filter.mp hrow).2, ?_⟩
    intro r hr hp
    have hmem : r ∈ queue.rows.filter p := List.mem_filter.mpr ⟨hr, hp⟩
    rw [hinit] at hmem hsorted
    rcases List.mem_append.mp hmem with hmem | hmem
    · exact le_of_lt ((List.pairwise_append.mp hsorted).2.2 r hmem row (by simp))
    · rw [List.mem_singleton.mp hmem]

/-- An update of columns keeps the lanes and the ids. -/
theorem Kept.updateKey {s : Tracking} (h : Kept s) (queueId : ℤ) {u : Update QueueRow.id}
    (hlane : ∀ r, rowLane (u.apply r) = rowLane r) :
    Kept { s with queue := s.queue.updateKey queueId u } := by
  constructor
  · have hids : ((s.queue.updateKey queueId u).rows.map QueueRow.id) =
        s.queue.rows.map QueueRow.id := by
      change ((s.queue.rows.map _).map QueueRow.id) = _
      rw [List.map_map]
      apply List.map_congr_left
      intro r _
      by_cases hr : r.id = queueId <;> simp [hr, u.key_apply]
    have hsorted := List.pairwise_map.mpr h.increasing
    rw [← hids] at hsorted
    exact List.pairwise_map.mp hsorted
  · intro lane
    have hrows : rowsOf { s with queue := s.queue.updateKey queueId u } lane =
        (rowsOf s lane).map fun r => if decide (r.id = queueId) = true then u.apply r else r :=
      Table.filter_updateWhere_eq_map fun r => by rw [hlane r]
    have hold := h.chained lane
    rw [Chained, hrows, ← List.map_dropLast, List.map_map]
    refine hold.trans ?_
    apply List.map_congr_left
    intro r _
    by_cases hr : r.id = queueId <;> simp [hr, u.key_apply]

theorem Kept.claim {s : Tracking} (h : Kept s) {a : ClaimArgs} (hplain : PlainLineage a) :
    Kept (claimTrackingItem s a).2 := by
  cases hadmitted : a.admitted s.queue with
  | false =>
    rw [claim_refused hadmitted]
    exact h
  | true =>
    have hqueue : (claimTrackingItem s a).2.queue.rows =
        s.queue.rows ++ [a.row (a.assessment s.queue) (nextQueueId s.queue)] := by
      rw [claim_queue hadmitted]
      rfl
    have hfilter : s.queue.rows.filter (laneOf a) = rowsOf s (claimLane a) :=
      List.filter_congr fun r _ => laneOf_eq a r
    have hlast := latestRow_eq_getLast? (p := laneOf a) h.increasing
    rw [hfilter] at hlast
    have hrows : ∀ lane, rowsOf (claimTrackingItem s a).2 lane = rowsOf s lane ++
        if claimLane a = lane then [a.row (a.assessment s.queue) (nextQueueId s.queue)] else [] := by
      intro lane
      rw [rowsOf, hqueue, List.filter_append]
      by_cases hlane : claimLane a = lane
      · have hnew : decide (rowLane (a.row (a.assessment s.queue) (nextQueueId s.queue)) = lane) =
            true := decide_eq_true hlane
        rw [if_pos hlane, List.filter_cons_of_pos (p := fun r => decide (rowLane r = lane)) hnew]
        rfl
      · have hnew : ¬decide (rowLane (a.row (a.assessment s.queue) (nextQueueId s.queue)) = lane) =
            true := fun hc => hlane (of_decide_eq_true hc)
        rw [if_neg hlane, List.filter_cons_of_neg (p := fun r => decide (rowLane r = lane)) hnew]
        rfl
    constructor
    · rw [hqueue, List.pairwise_append]
      refine ⟨h.increasing, List.pairwise_singleton _ _, ?_⟩
      intro r hr x hx
      rw [List.mem_singleton.mp hx]
      exact lt_nextRowid (List.mem_map_of_mem hr)
    · intro lane
      have hold := h.chained lane
      rw [Chained] at hold ⊢
      rw [hrows]
      cases hlatest : latestRow s.queue (laneOf a) with
      | none =>
        rw [hlatest] at hlast
        have hnil := List.getLast?_eq_none_iff.mp hlast.symm
        rw [reopeningsOf, claim_first hadmitted hlatest]
        by_cases hlane : claimLane a = lane
        · subst hlane
          rw [hnil] at hold
          rw [if_pos rfl, hnil]
          exact hold
        · rw [if_neg hlane, List.append_nil]
          exact hold
      | some row =>
        rw [hlatest] at hlast
        obtain ⟨init, hinit⟩ := List.getLast?_eq_some_iff.mp hlast.symm
        rw [reopeningsOf, claim_again hadmitted hlatest, List.filter_append, List.map_append]
        have hnames := event_names hplain hlatest (nextQueueId s.queue)
        by_cases hlane : claimLane a = lane
        · subst hlane
          have hevent : eventLane (a.event (a.assessment s.queue) (nextQueueId s.queue)) =
              claimLane a := rfl
          have hkind : (a.event (a.assessment s.queue) (nextQueueId s.queue)).lifecycleEvent =
              .reopenRevivedToken := rfl
          rw [if_pos rfl, List.dropLast_concat,
            List.filter_cons_of_pos (by simp only [hevent, hkind]; simp)]
          change (reopeningsOf s (claimLane a)).map _ ++ _ = _
          rw [hold, hinit, List.dropLast_concat, List.map_append]
          congr 1
          exact congrArg (fun v => [v]) hnames
        · have hevent : eventLane (a.event (a.assessment s.queue) (nextQueueId s.queue)) ≠ lane :=
            hlane
          rw [if_neg hlane, List.append_nil, List.filter_cons_of_neg (by simp [hevent])]
          rw [List.filter_nil, List.map_nil, List.append_nil]
          exact hold

theorem Kept.act {s : Tracking} (h : Kept s) (x : Action)
    (hplain : ∀ a, x = .claim a → PlainLineage a) : Kept (act s x) := by
  cases x with
  | claim a => exact h.claim (hplain a rfl)
  | setQueueStatus queueId status utcNow => exact h.updateKey queueId fun _ => rfl
  | write queueId columns => exact h.updateKey queueId fun _ => rfl

theorem kept_start : Kept .start := ⟨List.Pairwise.nil, fun _ => rfl⟩

theorem kept_run {xs : List Action} (h : ∀ a, .claim a ∈ xs → PlainLineage a) :
    Kept (run Discovery.act .start xs) := by
  have hall : ∀ (xs : List Action) (s : Tracking), Kept s →
      (∀ a, .claim a ∈ xs → PlainLineage a) → Kept (run Discovery.act s xs) := by
    intro xs
    induction xs with
    | nil => exact fun s hs _ => hs
    | cons x xs ih =>
      intro s hs hplain
      apply ih
      · exact hs.act x fun a ha => hplain a (ha ▸ List.mem_cons_self)
      · exact fun a ha => hplain a (List.mem_cons_of_mem x ha)
  exact hall xs .start kept_start h

/-! ## Two assessments -/

/-- The tokens and the pairs, with the constraints of their tables. -/
structure Identities where
  tokens : Table TokenRow.id
  pairs : Table PairRow.id
  mints : (tokens.rows.map TokenRow.tokenMint).Nodup
  addresses : (pairs.rows.map PairRow.pairAddress).Nodup
  positive : ∀ p ∈ pairs.rows, 0 < p.id

def Identities.surroundings (ids : Identities) (queue : Queue) : Surroundings where
  tokens := ids.tokens.rows
  pairs := ids.pairs.rows
  queue := queue
  rotation := []
  rowCounts := fun _ => 0

/-- `assess_tracking_handoff_by_identity` -/
def Identities.assess (ids : Identities) (queue : Queue) (tokenMint pairAddress : String)
    (lane : TokenLifecycleState) (assessedAt : Option Datetime) : TrackingHandoffAssessment :=
  handoffAssessment
    (latestRow queue ((ids.surroundings queue).sameIdentity tokenMint pairAddress lane)) assessedAt

theorem sameIdentity_eq (ids : Identities) (queue : Queue) {token : TokenRow} {pair : PairRow}
    (htoken : token ∈ ids.tokens.rows) (hpair : pair ∈ ids.pairs.rows)
    (howner : pair.tokenId = token.id) (lane : TokenLifecycleState) :
    (ids.surroundings queue).sameIdentity token.tokenMint pair.pairAddress lane =
      sameTracking token.id (some pair.id) lane := by
  have hpositive := ids.positive pair hpair
  funext r
  rw [Bool.eq_iff_iff]
  simp only [Surroundings.sameIdentity, Identities.surroundings, sameTracking, normalizePairId,
    Bool.and_eq_true, List.any_eq_true, decide_eq_true_eq, Option.getD_some]
  constructor
  · rintro ⟨hlane, token', htoken', ⟨hid, hmint⟩, pair', hpair', ⟨hpairId, -⟩, haddress⟩
    obtain rfl := List.inj_on_of_nodup_map ids.mints htoken' htoken hmint
    obtain rfl := List.inj_on_of_nodup_map ids.addresses hpair' hpair haddress
    rw [hpairId]
    exact ⟨⟨hid.symm, by simp⟩, hlane⟩
  · rintro ⟨⟨hid, hpairId⟩, hlane⟩
    have hsome : r.pairId = some pair.id := by
      cases hr : r.pairId with
      | none =>
        rw [hr] at hpairId
        have hnegative : (-1 : ℤ) = pair.id := of_decide_eq_true hpairId
        omega
      | some id =>
        rw [hr] at hpairId
        exact congrArg some (of_decide_eq_true hpairId)
    exact ⟨hlane, token, htoken, ⟨hid.symm, rfl⟩, pair, hpair, ⟨hsome, howner⟩, rfl⟩

/-- A pair of the token is assessed alike by its ids and by its addresses. -/
theorem assess_eq (ids : Identities) (queue : Queue) {token : TokenRow} {pair : PairRow}
    (htoken : token ∈ ids.tokens.rows) (hpair : pair ∈ ids.pairs.rows)
    (howner : pair.tokenId = token.id) (lane : TokenLifecycleState)
    (assessedAt : Option Datetime) :
    ids.assess queue token.tokenMint pair.pairAddress lane assessedAt =
      assessTrackingHandoff queue token.id (some pair.id) lane assessedAt := by
  rw [Identities.assess, sameIdentity_eq ids queue htoken hpair howner lane]
  rfl

/-- In every run of claims and status changes each claim is kept, and with plain lineages every lane
is chained; the two assessments agree on the pairs of a token. -/
theorem trackingReclaim_kept (xs : List Action) :
    (∀ pre a, pre ++ [.claim a] <+: xs → ClaimAnswered (run act .start pre) a) ∧
      ((∀ a, .claim a ∈ xs → PlainLineage a) → ∀ lane, Chained (run act .start xs) lane) ∧
      ∀ (ids : Identities) (token : TokenRow) (pair : PairRow) (lane : TokenLifecycleState)
        (assessedAt : Option Datetime), token ∈ ids.tokens.rows → pair ∈ ids.pairs.rows →
        pair.tokenId = token.id →
        ids.assess (run act .start xs).queue token.tokenMint pair.pairAddress lane assessedAt =
          assessTrackingHandoff (run act .start xs).queue token.id (some pair.id) lane assessedAt := by
  refine ⟨fun pre a _ => claimAnswered _ a, fun hplain => (kept_run hplain).chained, ?_⟩
  intro ids token pair lane assessedAt htoken hpair howner
  exact assess_eq ids _ htoken hpair howner lane assessedAt

/-! ## A pair of another token, and a lineage with a name of its own -/

def otherPair : Identities where
  tokens := ⟨[⟨1, "mint-a"⟩, ⟨2, "mint-b"⟩], by decide⟩
  pairs := ⟨[⟨1, 2, "pair"⟩], by decide⟩
  mints := by decide
  addresses := by decide
  positive := by decide

def firstClaim : ClaimArgs :=
  { tokenId := 1, pairId := some 1, trackingLane := .trackNormal, trackingAction := .newDiscovery
    priorityReason := "new", nextCheckAt := 0, sourceStatus := .complete
    dataQualityLabel := .cleanData, insertedAt := "" }

def cooled : Columns where
  trackingAction := .enterCooldown
  priorityReason := "cooldown"
  nextCheckAt := some "2026-01-01T01:00:00+00:00"
  lastCheckedAt := some "2026-01-01T00:00:00+00:00"
  queueStatus := some "COOLDOWN"
  updatedAt := ""

def renamingClaim : ClaimArgs :=
  { firstClaim with
    assessedAt := some ⟨ymdToDays 2026 1 2 * microsPerDay, none⟩
    freshEvidenceRequalification := true
    requalificationLineage := [("predecessor_queue_id", .int 99)] }

/-- By its ids the pair of another token is tracked, and by its addresses it is fresh; and the event
of a claim names what its lineage names. -/
theorem not_trackingReclaim_otherPair :
    (otherPair.assess (run act .start [.claim firstClaim]).queue "mint-a" "pair" .trackNormal none ≠
      assessTrackingHandoff (run act .start [.claim firstClaim]).queue 1 (some 1) .trackNormal
        none) ∧
      ∃ e, (run act .start [.claim firstClaim, .write 1 cooled, .claim renamingClaim]).events =
        [e] ∧ e.eventPayload.get "predecessor_queue_id" = .int 99 := by
  constructor
  · decide
  · refine ⟨_, rfl, ?_⟩
    decide

end PrinterV1.Discovery
