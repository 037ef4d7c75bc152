import PrinterV1.Foundation.Runs
import PrinterV1.Lifecycle.TrackingQueue

/-!
# Live ownership of a tracking lane

At most one row of a token, pair and lane should be queued, active or paused. A
claim respects this, because it inserts only where the queue has no row at all:
no function of this module records a check, so no cooldown ever ends. The
functions that re-lane a row or set its status look at no other row.
-/

namespace PrinterV1.Lifecycle

open Python Runs

/-- The row owns its lane. -/
def QueueRow.Live (r : QueueRow) : Prop :=
  ∃ status ∈ liveTrackingOwnershipStatuses, r.queueStatus = some status.value

def QueueRow.slot (r : QueueRow) : ℤ × Option ℤ × TokenLifecycleState :=
  (r.tokenId, r.pairId, r.trackingLane)

/-- No two live rows have one token, pair and lane. -/
def NoDuplicateLive (queue : Queue) : Prop := queue.Exclusive QueueRow.Live QueueRow.slot

/-- A live row other than `id` has the slot. -/
def SlotTaken (queue : Queue) (slot : ℤ × Option ℤ × TokenLifecycleState) (id : ℤ) : Prop :=
  ∃ b ∈ queue.rows, b.id ≠ id ∧ b.Live ∧ b.slot = slot

/-- A call of one of the functions that write the queue. -/
inductive Call
  | claimTrackingItem (a : ClaimArgs)
  | enqueueTrackingItem (a : ClaimArgs)
  | updateTrackingLane (queueId : ℤ) (lane : TokenLifecycleState) (action : LifecycleEvent)
      (reason : String) (nextCheckAt utcNow : Instant)
  | setQueueStatus (queueId : ℤ) (status : QueueStatus) (utcNow : Instant)
  | pauseTrackingItem (queueId : ℤ) (utcNow : Instant)
  | archiveTrackingItem (queueId : ℤ) (utcNow : Instant)
  deriving DecidableEq, Repr

def perform (s : Tracking) : Call → Tracking
  | .claimTrackingItem a => (claimTrackingItem s a).2
  | .enqueueTrackingItem a => (enqueueTrackingItem s a).2
  | .updateTrackingLane queueId lane action reason nextCheckAt utcNow =>
    updateTrackingLane s queueId lane action reason nextCheckAt utcNow
  | .setQueueStatus queueId status utcNow => setQueueStatus s queueId status utcNow
  | .pauseTrackingItem queueId utcNow => pauseTrackingItem s queueId utcNow
  | .archiveTrackingItem queueId utcNow => archiveTrackingItem s queueId utcNow

/-- No row was ever checked. -/
def NeverChecked (queue : Queue) : Prop := ∀ r ∈ queue.rows, r.lastCheckedAt = none

theorem effectiveCooldownExpiry_of_unchecked {row : QueueRow} (h : row.lastCheckedAt = none) :
    effectiveCooldownExpiry row = (none, false) := by
  simp [effectiveCooldownExpiry, parseTimestamp, h]

/-- A row that was never checked refuses every handoff. -/
theorem handoffAssessment_of_unchecked {row : QueueRow} (h : row.lastCheckedAt = none)
    (assessedAt : Option Datetime) : (handoffAssessment (some row) assessedAt).eligible = false := by
  have hexpiry := effectiveCooldownExpiry_of_unchecked h
  unfold handoffAssessment
  dsimp only
  split
  · rfl
  · simp [assessCooldown, hexpiry, refuseHandoff]
  · split <;> rfl

theorem latestRow_mem {queue : Queue} {p : QueueRow → Bool} {r : QueueRow}
    (h : latestRow queue p = some r) : r ∈ queue.rows ∧ p r = true := by
  have hr : r ∈ queue.rows.filter p := List.maxOn?_mem h
  exact List.mem_filter.mp hr

theorem latestRow_eq_none {queue : Queue} {p : QueueRow → Bool} (h : latestRow queue p = none) :
    ∀ r ∈ queue.rows, p r = false := by
  have hempty : queue.rows.filter p = [] := by
    by_contra hsome
    have hlatest : (latestRow queue p).isSome := List.isSome_maxOn?_iff.mpr hsome
    rw [h] at hlatest
    cases hlatest
  intro r hr
  simpa using List.filter_eq_nil_iff.mp hempty r hr

/-- An admitted claim finds no row of its token, pair and lane. -/
theorem admitted_fresh {queue : Queue} (hq : NeverChecked queue) {a : ClaimArgs}
    (h : a.admitted queue = true) :
    ∀ r ∈ queue.rows, r.slot ≠ (a.tokenId, a.pairId, a.trackingLane) := by
  have heligible : (a.assessment queue).eligible = true := by
    simp only [ClaimArgs.admitted, Bool.and_eq_true] at h
    exact h.1
  have hnone : latestRow queue (sameTracking a.tokenId a.pairId a.trackingLane) = none := by
    cases hlatest : latestRow queue (sameTracking a.tokenId a.pairId a.trackingLane) with
    | none => rfl
    | some row =>
      have hrow := hq row (latestRow_mem hlatest).1
      have hrefused := handoffAssessment_of_unchecked hrow a.assessedAt
      simp only [ClaimArgs.assessment, assessTrackingHandoff, hlatest] at heligible
      rw [hrefused] at heligible
      simp at heligible
  intro r hr hslot
  have hsame := latestRow_eq_none hnone r hr
  simp only [QueueRow.slot, Prod.mk.injEq] at hslot
  obtain ⟨htoken, hpair, hlane⟩ := hslot
  simp [sameTracking, htoken, hpair, hlane] at hsame

theorem claimTrackingItem_noDuplicateLive {s : Tracking} (hs : NoDuplicateLive s.queue)
    (hq : NeverChecked s.queue) (a : ClaimArgs) :
    NoDuplicateLive (claimTrackingItem s a).2.queue := by
  unfold claimTrackingItem
  dsimp only
  by_cases h : a.admitted s.queue = true
  · rw [if_pos h]
    apply (Table.exclusive_insert_iff (h := nextQueueId_fresh s.queue) hs).mpr
    intro _ b hb _
    exact admitted_fresh hq h b hb
  · rw [if_neg h]
    exact hs

theorem claimTrackingItem_neverChecked {s : Tracking} (hq : NeverChecked s.queue) (a : ClaimArgs) :
    NeverChecked (claimTrackingItem s a).2.queue := by
  unfold claimTrackingItem
  dsimp only
  by_cases h : a.admitted s.queue = true
  · rw [if_pos h]
    exact Table.forall_insert (h := nextQueueId_fresh s.queue) hq rfl
  · rw [if_neg h]
    exact hq

theorem live_of_status {r : QueueRow} {status : QueueStatus} (h : r.queueStatus = some status.value) :
    r.Live ↔ status ∈ liveTrackingOwnershipStatuses := by
  constructor
  · intro hlive
    obtain ⟨status', hmem, hstatus⟩ := hlive
    have hvalue : status.value = status'.value := Option.some.inj (h.symm.trans hstatus)
    have hsame : some status = some status' := by
      rw [← QueueStatus.ofValue?_value, ← QueueStatus.ofValue?_value, hvalue]
    rw [Option.some.inj hsame]
    exact hmem
  · intro hmem
    exact ⟨status, hmem, h⟩

theorem updateTrackingLane_noDuplicateLive_iff {s : Tracking} (hs : NoDuplicateLive s.queue)
    (queueId : ℤ) (lane : TokenLifecycleState) (action : LifecycleEvent) (reason : String)
    (nextCheckAt utcNow : Instant) :
    NoDuplicateLive (updateTrackingLane s queueId lane action reason nextCheckAt utcNow).queue ↔
      ∀ r, s.queue.find? queueId = some r →
        ¬ SlotTaken s.queue (r.tokenId, r.pairId, lane) queueId := by
  refine (Table.exclusive_updateKey_iff hs).trans ?_
  have hlive : ∀ r, (relaneRow lane action reason nextCheckAt utcNow r).Live := by
    intro r
    have hqueued : (relaneRow lane action reason nextCheckAt utcNow r).queueStatus =
        some QueueStatus.queued.value := rfl
    exact (live_of_status hqueued).mpr (by decide)
  constructor
  · intro h r hfind htaken
    obtain ⟨hr, hid⟩ := Table.find?_eq_some_iff.mp hfind
    obtain ⟨b, hb, hne, hb', hslot⟩ := htaken
    exact h r hr hid (hlive r) b hb hne hb' hslot
  · intro h r hr hid _ b hb hne hb' hslot
    exact h r (Table.find?_eq_some_iff.mpr ⟨hr, hid⟩) ⟨b, hb, hne, hb', hslot⟩

theorem setQueueStatus_noDuplicateLive_iff {s : Tracking} (hs : NoDuplicateLive s.queue)
    (queueId : ℤ) (status : QueueStatus) (utcNow : Instant) :
    NoDuplicateLive (setQueueStatus s queueId status utcNow).queue ↔
      (status ∈ liveTrackingOwnershipStatuses → ∀ r, s.queue.find? queueId = some r →
        ¬ SlotTaken s.queue r.slot queueId) := by
  refine (Table.exclusive_updateKey_iff hs).trans ?_
  have hlive : ∀ r, (statusRow status utcNow r).Live ↔ status ∈ liveTrackingOwnershipStatuses :=
    fun r => live_of_status rfl
  constructor
  · intro h hstatus r hfind htaken
    obtain ⟨hr, hid⟩ := Table.find?_eq_some_iff.mp hfind
    obtain ⟨b, hb, hne, hb', hslot⟩ := htaken
    exact h r hr hid ((hlive r).mpr hstatus) b hb hne hb' hslot
  · intro h r hr hid hl b hb hne hb' hslot
    exact h ((hlive r).mp hl) r (Table.find?_eq_some_iff.mpr ⟨hr, hid⟩) ⟨b, hb, hne, hb', hslot⟩

theorem updateKey_neverChecked {queue : Queue} (hq : NeverChecked queue) {queueId : ℤ}
    {u : Update QueueRow.id} (hu : ∀ r, (u.apply r).lastCheckedAt = r.lastCheckedAt) :
    NeverChecked (queue.updateKey queueId u) :=
  Table.forall_updateWhere hq fun r _ _ hr => (hu r).trans hr

theorem perform_neverChecked {s : Tracking} (hq : NeverChecked s.queue) (c : Call) :
    NeverChecked (perform s c).queue := by
  cases c with
  | claimTrackingItem a => exact claimTrackingItem_neverChecked hq a
  | enqueueTrackingItem a => exact claimTrackingItem_neverChecked hq _
  | updateTrackingLane => exact updateKey_neverChecked hq fun _ => rfl
  | setQueueStatus => exact updateKey_neverChecked hq fun _ => rfl
  | pauseTrackingItem => exact updateKey_neverChecked hq fun _ => rfl
  | archiveTrackingItem => exact updateKey_neverChecked hq fun _ => rfl

/-- The condition on one call: a row that is re-laned, paused or given a live
status gets a slot that no other live row has. -/
def KeepsSlots (s : Tracking) : Call → Prop
  | .updateTrackingLane queueId lane _ _ _ _ => ∀ r, s.queue.find? queueId = some r →
      ¬ SlotTaken s.queue (r.tokenId, r.pairId, lane) queueId
  | .setQueueStatus queueId status _ => status ∈ liveTrackingOwnershipStatuses →
      ∀ r, s.queue.find? queueId = some r → ¬ SlotTaken s.queue r.slot queueId
  | .pauseTrackingItem queueId _ => ∀ r, s.queue.find? queueId = some r →
      ¬ SlotTaken s.queue r.slot queueId
  | _ => True

theorem perform_noDuplicateLive_iff {s : Tracking} (hs : NoDuplicateLive s.queue)
    (hq : NeverChecked s.queue) (c : Call) :
    NoDuplicateLive (perform s c).queue ↔ KeepsSlots s c := by
  cases c with
  | claimTrackingItem a => exact iff_of_true (claimTrackingItem_noDuplicateLive hs hq a) trivial
  | enqueueTrackingItem a => exact iff_of_true (claimTrackingItem_noDuplicateLive hs hq _) trivial
  | updateTrackingLane queueId lane action reason nextCheckAt utcNow =>
    exact updateTrackingLane_noDuplicateLive_iff hs queueId lane action reason nextCheckAt utcNow
  | setQueueStatus queueId status utcNow =>
    exact setQueueStatus_noDuplicateLive_iff hs queueId status utcNow
  | pauseTrackingItem queueId utcNow =>
    have hpaused : QueueStatus.paused ∈ liveTrackingOwnershipStatuses := by decide
    refine (setQueueStatus_noDuplicateLive_iff hs queueId .paused utcNow).trans ?_
    simp only [hpaused, true_implies, KeepsSlots]
  | archiveTrackingItem queueId utcNow =>
    have harchived : QueueStatus.archived ∉ liveTrackingOwnershipStatuses := by decide
    refine (setQueueStatus_noDuplicateLive_iff hs queueId .archived utcNow).trans ?_
    simp only [harchived, false_implies, KeepsSlots]

/-- From the empty queue no lane is ever owned twice exactly when each update
gives its row a slot that no other live row has. -/
theorem noDuplicateLive_throughout_iff (xs : List Call) :
    Throughout perform (fun s => NoDuplicateLive s.queue) .start xs ↔
      Along perform KeepsSlots .start xs := by
  have hchecked : ∀ pre : List Call, NeverChecked (run perform .start pre).queue := by
    intro pre
    apply invariant (I := fun s : Tracking => NeverChecked s.queue)
    · intro s c hs
      exact perform_neverChecked hs c
    · intro r hr
      simp [Tracking.start] at hr
  have hboth : Throughout perform (fun s => NoDuplicateLive s.queue ∧ NeverChecked s.queue)
      .start xs ↔ Along perform KeepsSlots .start xs := by
    apply throughout_iff_along
    · intro s c hs
      simp only [perform_noDuplicateLive_iff hs.1 hs.2, perform_neverChecked hs.2, and_true]
    · exact ⟨Table.exclusive_empty, hchecked []⟩
  rw [← hboth]
  constructor
  · intro h pre hpre
    exact ⟨h pre hpre, hchecked pre⟩
  · intro h pre hpre
    exact (h pre hpre).1

/-- A claim of one lane. -/
def normalLaneClaim : ClaimArgs :=
  { tokenId := 1, pairId := some 1, trackingLane := .trackNormal, trackingAction := .newDiscovery
    priorityReason := "new", nextCheckAt := 0, sourceStatus := .complete
    dataQualityLabel := .cleanData, insertedAt := "" }

/-- A normal row is re-laned to the fast lane, which another row owns. -/
def relanedDuplicate : List Call :=
  [.claimTrackingItem normalLaneClaim,
    .claimTrackingItem { normalLaneClaim with trackingLane := .trackFast },
    .updateTrackingLane 1 .trackFast .promoteToTrackFast "promoted" 0 0]

theorem relanedDuplicate_duplicateLive :
    ¬ Throughout perform (fun s => NoDuplicateLive s.queue) .start relanedDuplicate := by
  intro h
  have hend := h relanedDuplicate (List.prefix_refl _)
  have hrows : (run perform .start relanedDuplicate).queue.rows.map
      (fun r => (r.id, r.slot, r.queueStatus)) =
      [(1, (1, some 1, .trackFast), some "QUEUED"), (2, (1, some 1, .trackFast), some "QUEUED")] := by
    decide
  obtain ⟨a, rest, hsplit, ha, hrest⟩ := List.map_eq_cons_iff.mp hrows
  obtain ⟨b, _, hsplit', hb, _⟩ := List.map_eq_cons_iff.mp hrest
  obtain ⟨haid, haslot, hastatus⟩ : a.id = 1 ∧ a.slot = (1, some 1, .trackFast) ∧
      a.queueStatus = some QueueStatus.queued.value := by simpa [QueueStatus.value] using ha
  obtain ⟨hbid, hbslot, hbstatus⟩ : b.id = 2 ∧ b.slot = (1, some 1, .trackFast) ∧
      b.queueStatus = some QueueStatus.queued.value := by simpa [QueueStatus.value] using hb
  have hsame := hend a (by simp [hsplit]) b (by simp [hsplit, hsplit'])
    ((live_of_status hastatus).mpr (by decide)) ((live_of_status hbstatus).mpr (by decide))
    (haslot.trans hbslot.symm)
  rw [haid, hbid] at hsame
  exact absurd hsame (by decide)

end PrinterV1.Lifecycle
