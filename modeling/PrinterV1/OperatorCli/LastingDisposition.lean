import PrinterV1.Foundation.Maxima
import PrinterV1.Foundation.Runs
import PrinterV1.OperatorCli.PostCycleLifecycle

/-!
# One lasting disposition

Calls of the reconciliation for one factory run. A turn of the loop writes the
rows of its own token and pair and cancels jobs, so each token can be looked at
by itself. A call lasts exactly where it closes the row it finds at the first
reconciliation and finds nothing to close at a later one.
-/

namespace PrinterV1.OperatorCli.PostCycle

open Python Scheduler Snapshots Runs Maxima

/-- The tables after a call; one that raises writes nothing. -/
def after (F : Factory) (db : Database) (c : Call) : Database :=
  match reconcileFactoryPostCycleLifecycle F db c with
  | .ok (db', _) => db'
  | .error _ => db

def Call.Supported (c : Call) : Prop := c.archivePolicy = "cooldown" ∨ c.archivePolicy = "archive"

instance (c : Call) : Decidable c.Supported := inferInstanceAs (Decidable (_ ∨ _))

/-- The row a call resolves for a token. -/
def resolved (F : Factory) (db : Database) (t : Target) : Option QueueRow :=
  resolveQueueRow (queueRowsOf db.queue t) t.trackingLane (F.handoff t).trackingQueueId

/-- The reconciliation events of the run for a token. -/
def recorded (F : Factory) (db : Database) (t : Target) : List EventRow :=
  (eventsOf db.events t).filter fun e =>
    e.payload.map Payload.factoryReconciliationKey = some (F.reconciliationKey t)

/-- The queue row an event names has the status of its disposition, and is checked
next when the cooldown of the event is over. -/
def Agrees (rows : List QueueRow) (e : EventRow) : Prop :=
  ∀ p, e.payload = some p → ∀ q, p.trackingQueueId = some q →
    ∃ r ∈ rows, r.id = q ∧
      (∃ d : Disposition, e.lifecycleEvent = d.lifecycleEvent ∧ r.queueStatus = some d.status) ∧
      ∀ until', p.cooldownUntil = some until' → r.nextCheckAt = some until'

/-- A job of the resolved queue row, of the supplied handoff or of a support step. -/
def GoesWith (F : Factory) (db : Database) (t : Target) (j : Job) : Prop :=
  (F.handoff t).schedulerJobId = some j.id ∨
    (∃ r, resolved F db t = some r ∧ j.targetTable = some "printer_tracking_queue" ∧
      j.targetId = some r.id) ∨
    ∃ s ∈ supportRows F db.steps t, s.schedulerJobId = some j.id

/-! ## A turn of the loop -/

variable {F : Factory} {c : Call} {db db' : Database} {t t' : Target} {d : Disposition}

theorem mem_of_maxOn? {rows : List QueueRow} {lane : String} {r : QueueRow}
    (h : (laneRows rows lane).maxOn? QueueRow.id = some r) :
    r ∈ rows ∧ r.trackingLane = lane ∧ r.active = true := by
  have hmem := (isLargest_of_maxOn? h).mem
  obtain ⟨hr, hlane⟩ := List.mem_filter.mp hmem
  exact ⟨hr, of_decide_eq_true hlane⟩

theorem suppliedRow_eq_some {rows : List QueueRow} {supplied : Option ℤ} {r : QueueRow}
    (h : suppliedRow rows supplied = some r) : r ∈ rows ∧ supplied = some r.id := by
  obtain ⟨id, hid, hfind⟩ := Option.bind_eq_some_iff.mp h
  have hrid := List.find?_some hfind
  exact ⟨List.mem_of_find?_eq_some hfind, by rw [hid, of_decide_eq_true hrid]⟩

theorem mem_of_resolved {r : QueueRow} (h : resolved F db t = some r) :
    r ∈ queueRowsOf db.queue t := by
  unfold resolved resolveQueueRow at h
  split at h
  · rename_i row hrow
    obtain rfl := Option.some.inj h
    exact (suppliedRow_eq_some hrow).1
  · exact (mem_of_maxOn? h).1

theorem mem_queueRowsOf {queue : Table QueueRow.id} {r : QueueRow} :
    r ∈ queueRowsOf queue t ↔
      r ∈ queue.rows ∧ (r.tokenId, r.pairId) = (t.tokenId, some t.pairId) := by
  simp [queueRowsOf]

/-- Rows of one token and pair under one id are one. -/
theorem eq_of_id {queue : Table QueueRow.id} {a b : QueueRow} (ha : a ∈ queueRowsOf queue t)
    (hb : b ∈ queueRowsOf queue t') (h : a.id = b.id) : a = b :=
  queue.eq_of_key (mem_queueRowsOf.mp ha).1 (mem_queueRowsOf.mp hb).1 h

/-- The rows of a token after its turn. -/
def closed (F : Factory) (c : Call) (db : Database) (t : Target) (r : QueueRow) : QueueRow :=
  if (resolved F db t).map QueueRow.id = some r.id ∧ r.closes (c.disposition t) = true then
    (closeRow (c.disposition t)
      ("factory_terminal:" ++ c.stopReason ++ ":" ++ (c.outcome t).terminal)
      (cooldownUntil (c.disposition t)
        (findReconciliationEvent (eventsOf db.events t) (F.reconciliationKey t))
        (c.clock t.key).2)
      (c.clock t.key).2).apply r
  else r

theorem queueRowsOf_own : queueRowsOf (reconcileTarget F c db t).1.queue t =
    (queueRowsOf db.queue t).map (closed F c db t) := by
  have hmap := Table.filter_updateWhere_eq_map
    (t := db.queue) (p := fun r => (resolved F db t).map QueueRow.id = some r.id ∧
      r.closes (c.disposition t) = true)
    (q := fun r => r.tokenId = t.tokenId ∧ r.pairId = some t.pairId)
    (u := closeRow (c.disposition t)
      ("factory_terminal:" ++ c.stopReason ++ ":" ++ (c.outcome t).terminal)
      (cooldownUntil (c.disposition t)
        (findReconciliationEvent (eventsOf db.events t) (F.reconciliationKey t))
        (c.clock t.key).2)
      (c.clock t.key).2) (fun r => rfl)
  refine hmap.trans (List.map_congr_left fun r _ => ?_)
  simp [closed]

/-- Another token's turn leaves the rows of a token alone. -/
theorem queueRowsOf_other (h : t'.key ≠ t.key) :
    queueRowsOf (reconcileTarget F c db t').1.queue t = queueRowsOf db.queue t := by
  apply Table.filter_updateWhere fun r => rfl
  intro r hr hp
  obtain ⟨hid, _⟩ := of_decide_eq_true hp
  obtain ⟨row, hrow, hrid⟩ := Option.map_eq_some_iff.mp hid
  have hmem := mem_of_resolved hrow
  have hsame : row = r := db.queue.eq_of_key (mem_queueRowsOf.mp hmem).1 hr hrid
  obtain ⟨_, hkey⟩ := mem_queueRowsOf.mp (hsame ▸ hmem)
  refine decide_eq_false fun hother => h ?_
  obtain ⟨htoken, hpair⟩ := Prod.mk.inj hkey
  exact Prod.ext (htoken.symm.trans hother.1) (Option.some.inj (hpair.symm.trans hother.2))

theorem find_eq_none_iff :
    findReconciliationEvent (eventsOf db.events t) (F.reconciliationKey t) = none ↔
      recorded F db t = [] := by
  rw [findReconciliationEvent, List.find?_eq_none, recorded, List.filter_eq_nil_iff]
  exact forall_congr' fun e => by rw [mem_sortBy]

/-- The event a token's turn records. -/
def recordedEvent (F : Factory) (c : Call) (db : Database) (t : Target) : EventRow :=
  newEvent F c t (supportRows F db.steps t) ((resolved F db t).map QueueRow.id)
    (cooldownUntil (c.disposition t) none (c.clock t.key).2) (c.clock t.key).2
    (nextEventId db.events)

theorem recorded_own_new (h : recorded F db t = []) :
    recorded F (reconcileTarget F c db t).1 t = [recordedEvent F c db t] := by
  have hnone := find_eq_none_iff.mpr h
  have hrows : (reconcileTarget F c db t).1.events.rows =
      db.events.rows ++ [recordedEvent F c db t] := by
    simp only [reconcileTarget, hnone]
    rfl
  rw [recorded, eventsOf, hrows, List.filter_append, List.filter_append]
  have hold : (db.events.rows.filter fun e => e.tokenId = t.tokenId ∧
      e.pairId = some t.pairId).filter (fun e =>
        e.payload.map Payload.factoryReconciliationKey = some (F.reconciliationKey t)) = [] := h
  rw [hold]
  simp [recordedEvent, newEvent]

theorem recorded_own_old (h : recorded F db t ≠ []) :
    (reconcileTarget F c db t).1.events = db.events := by
  cases hfind : findReconciliationEvent (eventsOf db.events t) (F.reconciliationKey t) with
  | none => exact absurd (find_eq_none_iff.mp hfind) h
  | some e => simp only [reconcileTarget, hfind]

theorem eventsOf_other (h : t'.key ≠ t.key) :
    eventsOf (reconcileTarget F c db t').1.events t = eventsOf db.events t := by
  by_cases hrec : recorded F db t' = []
  · have hnone := find_eq_none_iff.mpr hrec
    have hrows : (reconcileTarget F c db t').1.events.rows =
        db.events.rows ++ [recordedEvent F c db t'] := by
      simp only [reconcileTarget, hnone]
      rfl
    have hnot : ¬((recordedEvent F c db t').tokenId = t.tokenId ∧
        (recordedEvent F c db t').pairId = some t.pairId) := by
      rintro ⟨htoken, hpair⟩
      exact h (Prod.ext htoken (Option.some.inj hpair))
    rw [eventsOf, hrows, List.filter_append, List.filter_singleton]
    simp [hnot, eventsOf]
  · rw [recorded_own_old hrec]

theorem mem_supportRows {steps : Table Snapshots.RunStep.id} {s : Snapshots.RunStep} :
    s ∈ supportRows F steps t ↔ s ∈ steps.rows ∧ s.runId = F.runId ∧
      s.tokenId = some t.tokenId ∧ s.pairId = some t.pairId ∧ s.stepKind = "SUPPORT_5M" := by
  simp [supportRows]

/-- After a token's turn its support steps are closed. -/
theorem supportRows_own {s' : Snapshots.RunStep}
    (h : s' ∈ supportRows F (reconcileTarget F c db t).1.steps t) :
    stepOpen s' = false ∧
      ∃ s ∈ supportRows F db.steps t, s.schedulerJobId = s'.schedulerJobId := by
  obtain ⟨hmem, hkind⟩ := mem_supportRows.mp h
  obtain ⟨s, hs, rfl⟩ := Table.mem_updateWhere.mp hmem
  by_cases hopen : s ∈ supportRows F db.steps t ∧ stepOpen s = true
  · rw [if_pos (decide_eq_true hopen)]
    exact ⟨rfl, s, hopen.1, rfl⟩
  · rw [if_neg (by simpa using hopen)] at hkind ⊢
    have hsupport := mem_supportRows.mpr ⟨hs, hkind⟩
    exact ⟨by simpa [hsupport] using hopen, s, hsupport, rfl⟩

theorem supportRows_other (h : t'.key ≠ t.key) :
    supportRows F (reconcileTarget F c db t').1.steps t = supportRows F db.steps t := by
  apply congrArg (sortBy Snapshots.RunStep.id)
  apply Table.filter_updateWhere fun s => rfl
  intro s _ hp
  obtain ⟨hsupport, _⟩ := of_decide_eq_true hp
  obtain ⟨_, _, htoken, hpair, _⟩ := mem_supportRows.mp hsupport
  refine decide_eq_false fun hother => h ?_
  obtain ⟨_, htoken', hpair', _⟩ := hother
  exact Prod.ext (Option.some.inj (htoken.symm.trans htoken'))
    (Option.some.inj (hpair.symm.trans hpair'))

/-- Each job of the later table was there with its target, and was active if it is. -/
def Follows (jobs jobs' : Jobs) : Prop :=
  ∀ j' ∈ jobs'.rows, ∃ j ∈ jobs.rows, j.id = j'.id ∧ j.targetTable = j'.targetTable ∧
    j.targetId = j'.targetId ∧ (j'.status.Active → j.status.Active)

theorem Follows.refl (jobs : Jobs) : Follows jobs jobs := fun j hj =>
  ⟨j, hj, rfl, rfl, rfl, id⟩

theorem Follows.trans {a b e : Jobs} (hab : Follows a b) (hbe : Follows b e) : Follows a e := by
  intro j hj
  obtain ⟨k, hk, hid, htable, htarget, hactive⟩ := hbe j hj
  obtain ⟨l, hl, hid', htable', htarget', hactive'⟩ := hab k hk
  exact ⟨l, hl, hid'.trans hid, htable'.trans htable, htarget'.trans htarget,
    fun h => hactive' (hactive h)⟩

theorem follows_turn : Follows db.jobs (reconcileTarget F c db t).1.jobs := by
  intro j' hj'
  obtain ⟨j, hj, rfl⟩ := Table.mem_updateWhere.mp hj'
  split_ifs
  · exact ⟨j, hj, rfl, rfl, rfl, fun h => absurd h (by decide : ¬JobStatus.cancelled.Active)⟩
  · exact ⟨j, hj, rfl, rfl, rfl, id⟩

/-- After a token's turn no job that goes with it is active. -/
theorem not_active_own {j : Job} (hj : j ∈ (reconcileTarget F c db t).1.jobs.rows)
    (h : GoesWith F db t j) : ¬j.status.Active := by
  intro hactive
  obtain ⟨hold, hnot⟩ | ⟨old, _, _, rfl⟩ := Table.mem_updateWhere_iff.mp hj
  · refine of_decide_eq_false hnot ⟨?_, hactive⟩
    simp only [associatedJobs, List.mem_append, List.mem_filterMap, Option.mem_toList]
    rcases h with hsupplied | ⟨r, hr, htable, htarget⟩ | hsupport
    · exact .inl (.inl hsupplied)
    · refine .inl (.inr ?_)
      have hqueue : (resolveQueueRow (queueRowsOf db.queue t) t.trackingLane
          (F.handoff t).trackingQueueId).map QueueRow.id = some r.id := congrArg _ hr
      rw [hqueue]
      exact List.mem_map_of_mem
        (List.mem_filter.mpr ⟨hold, decide_eq_true ⟨htable, htarget, hactive⟩⟩)
    · exact .inr hsupport
  · exact absurd hactive (by decide : ¬JobStatus.cancelled.Active)

/-! ## The turns of a call -/

/-- The rows of a token are the same. -/
structure SameView (F : Factory) (t : Target) (db db' : Database) : Prop where
  queue : queueRowsOf db'.queue t = queueRowsOf db.queue t
  events : eventsOf db'.events t = eventsOf db.events t
  support : supportRows F db'.steps t = supportRows F db.steps t

theorem SameView.refl (F : Factory) (t : Target) (db : Database) : SameView F t db db :=
  ⟨rfl, rfl, rfl⟩

theorem SameView.trans {a b e : Database} (hab : SameView F t a b) (hbe : SameView F t b e) :
    SameView F t a e :=
  ⟨hbe.queue.trans hab.queue, hbe.events.trans hab.events, hbe.support.trans hab.support⟩

theorem sameView_other (h : t'.key ≠ t.key) :
    SameView F t db (reconcileTarget F c db t').1 :=
  ⟨queueRowsOf_other h, eventsOf_other h, supportRows_other h⟩

theorem SameView.resolved (h : SameView F t db db') : resolved F db' t = resolved F db t := by
  rw [PostCycle.resolved, PostCycle.resolved, h.queue]

theorem SameView.recorded (h : SameView F t db db') : recorded F db' t = recorded F db t := by
  rw [PostCycle.recorded, PostCycle.recorded, h.events]

theorem follows_targets (ts : List Target) :
    ∀ db, Follows db.jobs (reconcileTargets F c db ts).1.jobs := by
  induction ts with
  | nil => intro db; exact Follows.refl _
  | cons t ts ih => intro db; exact follows_turn.trans (ih _)

theorem sameView_targets (ts : List Target) (h : ∀ t' ∈ ts, t'.key ≠ t.key) :
    ∀ db, SameView F t db (reconcileTargets F c db ts).1 := by
  induction ts with
  | nil => intro db; exact SameView.refl F t db
  | cons t' ts ih =>
    intro db
    have hrest := ih (fun u hu => h u (List.mem_cons_of_mem _ hu)) (reconcileTarget F c db t').1
    exact (sameView_other (h t' List.mem_cons_self)).trans hrest

/-- Each token has its turn: nothing of it changes before or after. -/
theorem exists_turn (c : Call) {ts : List Target} (hnodup : (ts.map Target.key).Nodup)
    (ht : t ∈ ts) : ∀ db, ∃ turn, SameView F t db turn ∧
      SameView F t (reconcileTarget F c turn t).1 (reconcileTargets F c db ts).1 ∧
      Follows (reconcileTarget F c turn t).1.jobs (reconcileTargets F c db ts).1.jobs := by
  induction ts with
  | nil => cases ht
  | cons u ts ih =>
    intro db
    rw [List.map_cons, List.nodup_cons] at hnodup
    rcases List.mem_cons.mp ht with rfl | hin
    · have hothers : ∀ t' ∈ ts, t'.key ≠ t.key := fun t' ht' heq =>
        hnodup.1 (List.mem_map.mpr ⟨t', ht', heq⟩)
      exact ⟨db, SameView.refl F t db, sameView_targets ts hothers _, follows_targets ts _⟩
    · have hne : u.key ≠ t.key := fun heq =>
        hnodup.1 (List.mem_map.mpr ⟨t, hin, heq.symm⟩)
      obtain ⟨turn, hbefore, hafter⟩ := ih hnodup.2 hin (reconcileTarget F c db u).1
      exact ⟨turn, (sameView_other hne).trans hbefore, hafter⟩

theorem after_eq (h : c.Supported) :
    after F db c = (reconcileTargets F c db F.selectedTokens).1 := by
  have hnot : ¬(c.archivePolicy ≠ "cooldown" ∧ c.archivePolicy ≠ "archive") := by
    rintro ⟨hcooldown, harchive⟩
    exact h.elim hcooldown harchive
  rw [after, reconcileFactoryPostCycleLifecycle, if_neg hnot]

theorem after_of_not_supported (h : ¬c.Supported) : after F db c = db := by
  have hboth : c.archivePolicy ≠ "cooldown" ∧ c.archivePolicy ≠ "archive" := not_or.mp h
  rw [after, reconcileFactoryPostCycleLifecycle, if_pos hboth]

theorem closed_congr (h : SameView F t db db') : closed F c db' t = closed F c db t := by
  funext r
  rw [closed, closed, h.resolved, h.events]

theorem queueRowsOf_after (db : Database) (hc : c.Supported) (ht : t ∈ F.selectedTokens) :
    queueRowsOf (after F db c).queue t = (queueRowsOf db.queue t).map (closed F c db t) := by
  obtain ⟨turn, hbefore, hafter, _⟩ := exists_turn c F.distinct ht db
  rw [after_eq hc, hafter.queue, queueRowsOf_own, hbefore.queue, closed_congr hbefore]

theorem recorded_after_old (hc : c.Supported) (ht : t ∈ F.selectedTokens)
    (h : recorded F db t ≠ []) : recorded F (after F db c) t = recorded F db t := by
  obtain ⟨turn, hbefore, hafter, _⟩ := exists_turn c F.distinct ht db
  have hturn : recorded F turn t ≠ [] := by rwa [hbefore.recorded]
  rw [after_eq hc, hafter.recorded, ← hbefore.recorded, recorded, recorded,
    recorded_own_old hturn]

/-- The event of a first reconciliation, but for its id. -/
theorem recorded_after_new (hc : c.Supported) (ht : t ∈ F.selectedTokens)
    (h : recorded F db t = []) : ∃ id, recorded F (after F db c) t =
      [newEvent F c t (supportRows F db.steps t) ((resolved F db t).map QueueRow.id)
        (cooldownUntil (c.disposition t) none (c.clock t.key).2) (c.clock t.key).2 id] := by
  obtain ⟨turn, hbefore, hafter, _⟩ := exists_turn c F.distinct ht db
  refine ⟨nextEventId turn.events, ?_⟩
  rw [after_eq hc, hafter.recorded, recorded_own_new (by rwa [hbefore.recorded]), recordedEvent,
    hbefore.resolved, hbefore.support]

/-- No job that goes with a token is active after a call. -/
theorem not_active_after (hc : c.Supported) (ht : t ∈ F.selectedTokens) {j : Job}
    (hj : j ∈ (after F db c).jobs.rows) (h : GoesWith F db t j) : ¬j.status.Active := by
  obtain ⟨turn, hbefore, _, hfollows⟩ := exists_turn c F.distinct ht db
  rw [after_eq hc] at hj
  intro hactive
  obtain ⟨old, hold, hid, htable, htarget, hstill⟩ := hfollows j hj
  refine not_active_own hold ?_ (hstill hactive)
  unfold GoesWith at h ⊢
  rwa [hid, htable, htarget, hbefore.resolved, hbefore.support]

theorem supportRows_after (hc : c.Supported) (ht : t ∈ F.selectedTokens) {s' : Snapshots.RunStep}
    (h : s' ∈ supportRows F (after F db c).steps t) :
    stepOpen s' = false ∧
      ∃ s ∈ supportRows F db.steps t, s.schedulerJobId = s'.schedulerJobId := by
  obtain ⟨turn, hbefore, hafter, _⟩ := exists_turn c F.distinct ht db
  rw [after_eq hc, hafter.support] at h
  rw [← hbefore.support]
  exact supportRows_own h

/-! ## Closing -/

@[simp] theorem not_closes_closeRow (r : QueueRow) (reason : String) (until' : Option String)
    (now : Instant) : ((closeRow d reason until' now).apply r).closes d = false := by
  simp [closeRow, QueueRow.closes]

theorem id_closed (r : QueueRow) : (closed F c db t r).id = r.id := by
  unfold closed
  split_ifs <;> rfl

theorem lane_closed (r : QueueRow) : (closed F c db t r).trackingLane = r.trackingLane := by
  unfold closed
  split_ifs <;> rfl

/-- Only the resolved row is closed. -/
theorem closed_eq_self {r : QueueRow} (hr : r ∈ queueRowsOf db.queue t)
    (h : r ∉ resolved F db t ∨ r.closes (c.disposition t) = false) : closed F c db t r = r := by
  refine if_neg ?_
  rintro ⟨hid, hcloses⟩
  obtain ⟨row, hrow, hrid⟩ := Option.map_eq_some_iff.mp hid
  obtain rfl := eq_of_id (mem_of_resolved hrow) hr hrid
  rcases h with h | h
  · exact h hrow
  · rw [h] at hcloses
    cases hcloses

theorem closed_of_closes {r : QueueRow} (hr : r ∈ resolved F db t)
    (h : r.closes (c.disposition t) = true) :
    (closed F c db t r).queueStatus = some (c.disposition t).status ∧
      (closed F c db t r).closes (c.disposition t) = false := by
  have hresolved : (resolved F db t).map QueueRow.id = some r.id := congrArg _ hr
  rw [closed, if_pos ⟨hresolved, h⟩]
  exact ⟨rfl, not_closes_closeRow r _ _ _⟩

/-- The rows of a token stay as they are exactly where the resolved row is not closed. -/
theorem map_closed_eq_iff : (queueRowsOf db.queue t).map (closed F c db t) =
    queueRowsOf db.queue t ↔ ∀ r ∈ resolved F db t, r.closes (c.disposition t) = false := by
  constructor
  · intro h r hr
    by_contra hcloses
    have hsame : ∀ x ∈ queueRowsOf db.queue t, closed F c db t x = id x :=
      List.map_inj_left.mp (h.trans (List.map_id _).symm)
    have hclosed := (closed_of_closes hr (by simpa using hcloses)).2
    rw [hsame r (mem_of_resolved hr), id] at hclosed
    exact hcloses hclosed
  · intro h
    conv_rhs => rw [← List.map_id (queueRowsOf db.queue t)]
    apply List.map_congr_left
    intro r hr
    by_cases hresolved : r ∈ resolved F db t
    · exact closed_eq_self hr (.inr (h r hresolved))
    · exact closed_eq_self hr (.inl hresolved)

theorem status_active_iff : d.status ∈ activeQueueStatuses ↔ d = .cooldown := by
  cases d <;> decide

/-! ## Calls that last -/

/-- The row of a first reconciliation is closed, or already as the event will say, and
for good; at a later reconciliation there is no row to close. -/
def Keeps (F : Factory) (db : Database) (c : Call) (t : Target) : Prop :=
  ∀ r ∈ resolved F db t,
    (recorded F db t ≠ [] → r.closes (c.disposition t) = false) ∧
    (recorded F db t = [] →
      (r.closes (c.disposition t) = true ∨
        r.queueStatus = some (c.disposition t).status ∧
          (c.disposition t = .cooldown →
            r.nextCheckAt = cooldownUntil .cooldown none (c.clock t.key).2)) ∧
      (c.disposition t = .cooldown ∨
        (suppliedRow (queueRowsOf db.queue t) (F.handoff t).trackingQueueId).isSome = true ∨
        ∀ x ∈ laneRows (queueRowsOf db.queue t) t.trackingLane, x = r))

/-- The token has no event of the run yet, or one that agrees with its row. -/
def Recorded (F : Factory) (db : Database) : Prop :=
  ∀ t ∈ F.selectedTokens, recorded F db t = [] ∨
    ∃ e, recorded F db t = [e] ∧ Agrees (queueRowsOf db.queue t) e

/-- What a call leaves of each selected token: one event, kept if it was there, and a
queue row that agrees with it, untouched if the event was there; a call again
with equal arguments changes nothing; no job that goes with the token is active;
and neither steps nor jobs had a part in the rows or the disposition. -/
structure Lasts (F : Factory) (db : Database) (c : Call) : Prop where
  oneEvent : ∀ t ∈ F.selectedTokens, ∃ e, recorded F (after F db c) t = [e] ∧
    Agrees (queueRowsOf (after F db c).queue t) e
  kept : ∀ t ∈ F.selectedTokens, recorded F db t ≠ [] →
    recorded F (after F db c) t = recorded F db t ∧
      queueRowsOf (after F db c).queue t = queueRowsOf db.queue t
  replay : ∀ clock, after F (after F db c) { c with clock := clock } = after F db c
  noJobs : ∀ t ∈ F.selectedTokens, ∀ j ∈ (after F db c).jobs.rows, GoesWith F db t j →
    ¬j.status.Active
  support : ∀ steps jobs, ∀ t ∈ F.selectedTokens,
    queueRowsOf (after F { db with steps := steps, jobs := jobs } c).queue t =
      queueRowsOf (after F db c).queue t ∧
    (recorded F (after F { db with steps := steps, jobs := jobs } c) t).map
        EventRow.lifecycleEvent =
      (recorded F (after F db c) t).map EventRow.lifecycleEvent

/-! ## A call again -/

theorem suppliedRow_closed (rows : List QueueRow) (supplied : Option ℤ) :
    suppliedRow (rows.map (closed F c db t)) supplied =
      (suppliedRow rows supplied).map (closed F c db t) := by
  cases supplied with
  | none => rfl
  | some id =>
    have hid : ((fun r : QueueRow => decide (r.id = id)) ∘ closed F c db t) =
        fun r => decide (r.id = id) := by
      funext r
      rw [Function.comp_apply, id_closed]
    rw [suppliedRow, Option.bind_some, List.find?_map, hid, suppliedRow, Option.bind_some]

/-- After a call that keeps a token, its row is found again or none is, and there is
nothing to close. -/
theorem resolved_after (hc : c.Supported) (ht : t ∈ F.selectedTokens) (hkeeps : Keeps F db c t)
    {r' : QueueRow} (hr' : r' ∈ resolved F (after F db c) t) :
    r'.closes (c.disposition t) = false ∧ ∃ r ∈ resolved F db t, r.id = r'.id := by
  have hrows := queueRowsOf_after db hc ht
  by_cases hopen : ∀ r ∈ resolved F db t, r.closes (c.disposition t) = false
  · have hsame : resolved F (after F db c) t = resolved F db t := by
      rw [resolved, hrows, map_closed_eq_iff.mpr hopen, resolved]
    rw [hsame] at hr'
    exact ⟨hopen r' hr', r', hr', rfl⟩
  · obtain ⟨r, hr, hcloses⟩ : ∃ r ∈ resolved F db t, r.closes (c.disposition t) = true := by
      by_contra hnone
      exact hopen fun r hr => by simpa using fun h => hnone ⟨r, hr, h⟩
    obtain ⟨hold, hnew⟩ := hkeeps r hr
    have hrec : recorded F db t = [] := by
      by_contra hrec
      rw [hold hrec] at hcloses
      cases hcloses
    obtain ⟨_, honly⟩ := hnew hrec
    obtain ⟨hstatus, hclosed⟩ := closed_of_closes hr hcloses
    -- a row of the token after the call is a row before it, closed if it is the resolved one
    have hmem := mem_of_resolved hr'
    rw [hrows] at hmem
    obtain ⟨x, hx, rfl⟩ := List.mem_map.mp hmem
    have hr_mem := mem_of_resolved hr
    suffices hid : x = r by
      subst hid
      exact ⟨hclosed, x, hr, (id_closed x).symm⟩
    by_contra hne
    have hxid : x.id ≠ r.id := fun h => hne (eq_of_id hx hr_mem h)
    have hnot : x ∉ resolved F db t := by
      intro hin
      exact hne (Option.some.inj (hin.symm.trans hr))
    rw [closed_eq_self hx (.inl hnot)] at hr'
    have hr'' : resolved F (after F db c) t = some x := hr'
    have hr₀ : resolved F db t = some r := hr
    unfold resolved resolveQueueRow at hr'' hr₀
    rw [hrows, suppliedRow_closed] at hr''
    cases hsupplied : suppliedRow (queueRowsOf db.queue t) (F.handoff t).trackingQueueId with
    | some row =>
      rw [hsupplied] at hr₀ hr''
      obtain rfl := Option.some.inj hr₀
      exact hxid (by rw [← Option.some.inj hr'', id_closed])
    | none =>
      rw [hsupplied] at hr₀ hr''
      obtain ⟨_, hlane, hactive⟩ := mem_of_maxOn? hr''
      have hlarge := isLargest_of_maxOn? hr₀
      have hxlane : x ∈ laneRows (queueRowsOf db.queue t) t.trackingLane :=
        List.mem_filter.mpr ⟨hx, decide_eq_true ⟨hlane, hactive⟩⟩
      rcases honly with hcooldown | hsome | hone
      · -- the closed row is in cooldown, active still, and has the larger id
        have hrlane : closed F c db t r ∈
            laneRows ((queueRowsOf db.queue t).map (closed F c db t)) t.trackingLane := by
          refine List.mem_filter.mpr ⟨List.mem_map_of_mem hr_mem, decide_eq_true ⟨?_, ?_⟩⟩
          · rw [lane_closed]
            exact (mem_of_maxOn? hr₀).2.1
          · rw [QueueRow.active, hstatus, Option.any_some]
            exact decide_eq_true (status_active_iff.mpr hcooldown)
        have hle := (isLargest_of_maxOn? hr'').le _ hrlane
        rw [id_closed] at hle
        exact hxid (le_antisymm (hlarge.le x hxlane) hle)
      · rw [hsupplied] at hsome
        cases hsome
      · exact hne (hone x hxlane)

/-- A turn that finds its event, nothing to close and nothing active changes nothing. -/
theorem turn_eq_self (hrec : recorded F db t ≠ [])
    (hrows : ∀ r ∈ resolved F db t, r.closes (c.disposition t) = false)
    (hsteps : ∀ s ∈ supportRows F db.steps t, stepOpen s = false)
    (hjobs : ∀ j ∈ db.jobs.rows, GoesWith F db t j → ¬j.status.Active) :
    (reconcileTarget F c db t).1 = db := by
  apply Database.ext
  · apply Table.updateWhere_of_none
    intro r hr
    refine decide_eq_false ?_
    rintro ⟨hid, hcloses⟩
    obtain ⟨row, hrow, hrid⟩ := Option.map_eq_some_iff.mp hid
    obtain rfl := db.queue.eq_of_key (mem_queueRowsOf.mp (mem_of_resolved hrow)).1 hr hrid
    rw [hrows row hrow] at hcloses
    cases hcloses
  · apply Table.updateWhere_of_none
    intro s _
    refine decide_eq_false ?_
    rintro ⟨hsupport, hopen⟩
    rw [hsteps s hsupport] at hopen
    cases hopen
  · apply Table.updateWhere_of_none
    intro j hj
    refine decide_eq_false ?_
    rintro ⟨hid, hactive⟩
    refine hjobs j hj ?_ hactive
    simp only [associatedJobs, List.mem_append, List.mem_filterMap, Option.mem_toList] at hid
    rcases hid with (hsupplied | hqueue) | hsupport
    · exact .inl hsupplied
    · cases hresolved : resolved F db t with
      | none =>
        have hnone : resolveQueueRow (queueRowsOf db.queue t) t.trackingLane
            (F.handoff t).trackingQueueId = none := hresolved
        rw [hnone] at hqueue
        cases hqueue
      | some r =>
        have hsome : resolveQueueRow (queueRowsOf db.queue t) t.trackingLane
            (F.handoff t).trackingQueueId = some r := hresolved
        rw [hsome] at hqueue
        obtain ⟨k, hk, hkid⟩ := List.mem_map.mp hqueue
        obtain ⟨hkmem, hktarget⟩ := List.mem_filter.mp hk
        obtain rfl := db.jobs.eq_of_key hkmem hj hkid
        obtain ⟨htable, htarget, _⟩ := of_decide_eq_true hktarget
        exact .inr (.inl ⟨r, hresolved, htable, htarget⟩)
    · exact .inr (.inr hsupport)
  · exact recorded_own_old hrec

theorem targets_eq_self {ts : List Target} (h : ∀ t ∈ ts, (reconcileTarget F c db t).1 = db) :
    (reconcileTargets F c db ts).1 = db := by
  induction ts with
  | nil => rfl
  | cons t ts ih =>
    have hstep : (reconcileTargets F c db (t :: ts)).1 =
        (reconcileTargets F c (reconcileTarget F c db t).1 ts).1 := rfl
    rw [hstep, h t List.mem_cons_self]
    exact ih fun u hu => h u (List.mem_cons_of_mem _ hu)

theorem goesWith_of_after (hc : c.Supported) (ht : t ∈ F.selectedTokens)
    (hkeeps : Keeps F db c t) {j : Job} (h : GoesWith F (after F db c) t j) :
    GoesWith F db t j := by
  rcases h with hsupplied | ⟨r', hr', htable, htarget⟩ | ⟨s', hs', hjob⟩
  · exact .inl hsupplied
  · obtain ⟨_, r, hr, hid⟩ := resolved_after hc ht hkeeps hr'
    exact .inr (.inl ⟨r, hr, htable, by rw [htarget, hid]⟩)
  · obtain ⟨_, s, hs, hsame⟩ := supportRows_after hc ht hs'
    exact .inr (.inr ⟨s, hs, hsame.trans hjob⟩)

/-- A call again changes nothing, whatever its clock. -/
theorem after_after (hc : c.Supported) (hkeeps : ∀ t ∈ F.selectedTokens, Keeps F db c t)
    (hrec : ∀ t ∈ F.selectedTokens, recorded F (after F db c) t ≠ [])
    (clock : ℤ × ℤ → Instant × Instant) :
    after F (after F db c) { c with clock := clock } = after F db c := by
  have hc' : ({ c with clock := clock } : Call).Supported := hc
  rw [after_eq hc']
  apply targets_eq_self
  intro t ht
  apply turn_eq_self (hrec t ht)
  · intro r' hr'
    exact (resolved_after hc ht (hkeeps t ht) hr').1
  · intro s hs
    exact (supportRows_after hc ht hs).1
  · intro j hj hgoes
    exact not_active_after hc ht hj (goesWith_of_after hc ht (hkeeps t ht) hgoes)

/-! ## The event and the row -/

theorem closes_eq_false_of_status {r : QueueRow} (h : r.queueStatus = some d.status) :
    r.closes d = false := by
  simp [QueueRow.closes, h]

/-- The event of a first reconciliation agrees with the row the call leaves. -/
theorem agrees_newEvent {support : List Snapshots.RunStep} {id : ℤ} (hkeeps : Keeps F db c t)
    (hrec : recorded F db t = []) :
    Agrees ((queueRowsOf db.queue t).map (closed F c db t))
      (newEvent F c t support ((resolved F db t).map QueueRow.id)
        (cooldownUntil (c.disposition t) none (c.clock t.key).2) (c.clock t.key).2 id) := by
  intro p hp q hq
  obtain rfl := Option.some.inj hp
  obtain ⟨r, hr, rfl⟩ := Option.map_eq_some_iff.mp hq
  have hmem := mem_of_resolved hr
  refine ⟨closed F c db t r, List.mem_map_of_mem hmem, id_closed r, ⟨c.disposition t, rfl, ?_⟩, ?_⟩
  · rcases ((hkeeps r hr).2 hrec).1 with hcloses | ⟨hstatus, _⟩
    · exact (closed_of_closes hr hcloses).1
    · rw [closed_eq_self hmem (.inr (closes_eq_false_of_status hstatus)), hstatus]
  · intro until' huntil
    have huntil' : cooldownUntil (c.disposition t) none (c.clock t.key).2 = some until' := huntil
    have hcooldown : c.disposition t = .cooldown := by
      by_contra hne
      rw [cooldownUntil, if_neg hne] at huntil'
      cases huntil'
    rcases ((hkeeps r hr).2 hrec).1 with hcloses | ⟨hstatus, hnext⟩
    · have hresolved : (resolved F db t).map QueueRow.id = some r.id := congrArg _ hr
      rw [closed, if_pos ⟨hresolved, hcloses⟩, find_eq_none_iff.mpr hrec, huntil']
      rfl
    · rw [closed_eq_self hmem (.inr (closes_eq_false_of_status hstatus)), hnext hcooldown,
        ← huntil', hcooldown]

theorem one_event (hc : c.Supported) (h : Recorded F db)
    (hkeeps : ∀ t ∈ F.selectedTokens, Keeps F db c t) (ht : t ∈ F.selectedTokens) :
    ∃ e, recorded F (after F db c) t = [e] ∧ Agrees (queueRowsOf (after F db c).queue t) e := by
  rw [queueRowsOf_after db hc ht]
  rcases h t ht with hrec | ⟨e, hrec, hagrees⟩
  · obtain ⟨id, hnew⟩ := recorded_after_new hc ht hrec
    exact ⟨_, hnew, agrees_newEvent (hkeeps t ht) hrec⟩
  · have hne : recorded F db t ≠ [] := by simp [hrec]
    have hsame := map_closed_eq_iff.mpr fun r hr => (hkeeps t ht r hr).1 hne
    rw [recorded_after_old hc ht hne, hsame]
    exact ⟨e, hrec, hagrees⟩

theorem lifecycleEvent_injective {d' : Disposition} (h : d.lifecycleEvent = d'.lifecycleEvent) :
    d = d' := by
  cases d <;> cases d' <;> first | rfl | exact absurd h (by decide)

/-- The row resolved in a lane is closed by a disposition other than a cooldown. -/
theorem closes_of_active {r : QueueRow} (hactive : r.active = true) (hd : d ≠ .cooldown) :
    r.closes d = true := by
  refine decide_eq_true ⟨hactive, ?_⟩
  intro hstatus
  rw [QueueRow.active, hstatus, Option.any_some] at hactive
  exact hd (status_active_iff.mp (of_decide_eq_true hactive))

/-- A call that lasts closes the rows it finds, and at a later reconciliation finds none. -/
theorem keeps_of_lasts (hc : c.Supported) (h : Lasts F db c) (ht : t ∈ F.selectedTokens) :
    Keeps F db c t := by
  intro r hr
  have hrows := queueRowsOf_after db hc ht
  have hmem := mem_of_resolved hr
  constructor
  · intro hrec
    obtain ⟨_, hsame⟩ := h.kept t ht hrec
    rw [hrows] at hsame
    exact map_closed_eq_iff.mp hsame r hr
  · intro hrec
    constructor
    · by_cases hcloses : r.closes (c.disposition t) = true
      · exact .inl hcloses
      · have hopen : r.closes (c.disposition t) = false := by simpa using hcloses
        -- the row is as it was, so it agrees with the new event already
        obtain ⟨e, he, hagrees⟩ := h.oneEvent t ht
        obtain ⟨id, hnew⟩ := recorded_after_new hc ht hrec
        obtain rfl := (List.cons.inj (he.symm.trans hnew)).1
        have hresolved : (resolved F db t).map QueueRow.id = some r.id := congrArg _ hr
        obtain ⟨r', hr', hid, ⟨d, hevent, hstatus⟩, hnext⟩ := hagrees _ rfl r.id hresolved
        have hd : c.disposition t = d := lifecycleEvent_injective hevent
        rw [hrows] at hr'
        obtain ⟨x, hx, rfl⟩ := List.mem_map.mp hr'
        obtain rfl := eq_of_id hx hmem ((id_closed x).symm.trans hid)
        rw [closed_eq_self hx (.inr hopen)] at hstatus hnext
        refine .inr ⟨by rw [hd, hstatus], fun hcooldown => ?_⟩
        have huntil : cooldownUntil (c.disposition t) none (c.clock t.key).2 =
            some (isoformat ((c.clock t.key).2 + seconds Lifecycle.trackingCooldownSeconds)) := by
          rw [cooldownUntil, if_pos hcooldown]
        rw [hnext _ huntil, ← huntil, hcooldown]
    · by_contra hnot
      rw [not_or, not_or] at hnot
      obtain ⟨hcooldown, hunsupplied, hothers⟩ := hnot
      have hsupplied : suppliedRow (queueRowsOf db.queue t) (F.handoff t).trackingQueueId =
          none := by simpa using hunsupplied
      -- a second active row of the lane is there after the call, and would be closed
      obtain ⟨x, hx, hne⟩ : ∃ x ∈ laneRows (queueRowsOf db.queue t) t.trackingLane, x ≠ r := by
        by_contra hall
        exact hothers fun x hx => by_contra fun hne => hall ⟨x, hx, hne⟩
      obtain ⟨hxmem, hxlane⟩ := List.mem_filter.mp hx
      have hxstays : x ∈ laneRows ((queueRowsOf db.queue t).map (closed F c db t))
          t.trackingLane := by
        refine List.mem_filter.mpr ⟨List.mem_map.mpr ⟨x, hxmem, ?_⟩, hxlane⟩
        exact closed_eq_self hxmem (.inl fun hin => hne (Option.some.inj (hin.symm.trans hr)))
      obtain ⟨r', hr'⟩ := Option.isSome_iff_exists.mp
        (List.isSome_maxOn?_iff (f := QueueRow.id).mpr (List.ne_nil_of_mem hxstays))
      have hresolved : resolved F (after F db c) t = some r' := by
        rw [resolved, resolveQueueRow, hrows, suppliedRow_closed, hsupplied]
        exact hr'
      have hcloses := closes_of_active (mem_of_maxOn? hr').2.2 hcooldown
      have hagain := h.replay c.clock
      have hsame : queueRowsOf (after F (after F db c) c).queue t =
          queueRowsOf (after F db c).queue t := by
        rw [hagain]
      rw [queueRowsOf_after _ hc ht] at hsame
      rw [map_closed_eq_iff.mp hsame r' hresolved] at hcloses
      cases hcloses

/-- Steps and jobs have no part in the rows and the disposition. -/
theorem queueRowsOf_after_support (hc : c.Supported) (ht : t ∈ F.selectedTokens)
    (steps : Table Snapshots.RunStep.id) (jobs : Jobs) :
    queueRowsOf (after F { db with steps := steps, jobs := jobs } c).queue t =
      queueRowsOf (after F db c).queue t := by
  rw [queueRowsOf_after _ hc ht, queueRowsOf_after _ hc ht]
  rfl

theorem recorded_after_support (hc : c.Supported) (ht : t ∈ F.selectedTokens)
    (steps : Table Snapshots.RunStep.id) (jobs : Jobs) :
    (recorded F (after F { db with steps := steps, jobs := jobs } c) t).map
        EventRow.lifecycleEvent =
      (recorded F (after F db c) t).map EventRow.lifecycleEvent := by
  have hsame : recorded F { db with steps := steps, jobs := jobs } t = recorded F db t := rfl
  by_cases hrec : recorded F db t = []
  · obtain ⟨id, hnew⟩ := recorded_after_new hc ht hrec
    obtain ⟨id', hnew'⟩ := recorded_after_new hc ht (hsame.trans hrec)
    rw [hnew, hnew']
    rfl
  · rw [recorded_after_old hc ht hrec, recorded_after_old hc ht (by rwa [hsame]), hsame]

/-- Where the events so far agree with their rows, a call lasts exactly if it keeps
every selected token. -/
theorem lasts_iff (hc : c.Supported) (h : Recorded F db) :
    Lasts F db c ↔ ∀ t ∈ F.selectedTokens, Keeps F db c t := by
  constructor
  · intro hlasts t ht
    exact keeps_of_lasts hc hlasts ht
  · intro hkeeps
    have hone := fun t ht => one_event hc h hkeeps (t := t) ht
    constructor
    case oneEvent => exact hone
    case kept =>
      intro t ht hrec
      rw [queueRowsOf_after db hc ht]
      exact ⟨recorded_after_old hc ht hrec,
        map_closed_eq_iff.mpr fun r hr => (hkeeps t ht r hr).1 hrec⟩
    case replay =>
      refine after_after hc hkeeps fun t ht => ?_
      obtain ⟨e, he, _⟩ := hone t ht
      rw [he]
      exact List.cons_ne_nil e []
    case noJobs => exact fun t ht j hj hgoes => not_active_after hc ht hj hgoes
    case support =>
      intro steps jobs t ht
      exact ⟨queueRowsOf_after_support hc ht steps jobs, recorded_after_support hc ht steps jobs⟩

/-- The calls that do not raise last, along a run of calls, exactly where each keeps
every selected token. -/
theorem along_lasts_iff (F : Factory) (db : Database) (h : Recorded F db) (calls : List Call) :
    Along (after F) (fun db c => c.Supported → Lasts F db c) db calls ↔
      Along (after F) (fun db c => c.Supported → ∀ t ∈ F.selectedTokens, Keeps F db c t)
        db calls := by
  apply along_iff_along (L := fun _ _ => True) (I := Recorded F)
  · intro db c hdb _ hkeeps
    by_cases hc : c.Supported
    · intro t ht
      exact .inr (one_event hc hdb (hkeeps hc) ht)
    · rwa [after_of_not_supported hc]
  · intro db c hdb _
    exact forall_congr' fun hc => lasts_iff hc hdb
  · exact h
  · exact along_trivial _ (fun _ _ => trivial) db calls

/-! ## Two calls -/

instance (F : Factory) (db : Database) (c : Call) (t : Target) : Decidable (Keeps F db c t) :=
  inferInstanceAs (Decidable (∀ r ∈ resolved F db t, _ ∧ _))

/-- A run with one selected token, and nothing handed on. -/
def oneToken : Factory where
  runId := "run-1"
  selectedTokens := [{ tokenId := 1, pairId := 2, trackingLane := "TRACK_FAST" }]
  discoveryResults := []
  distinct := by decide

/-- A queued row of the token. -/
def queuedRow (id : ℤ) : QueueRow where
  id := id
  tokenId := 1
  pairId := some 2
  trackingLane := "TRACK_FAST"
  trackingAction := "NEW_DISCOVERY"
  priorityReason := none
  nextCheckAt := none
  lastCheckedAt := none
  queueStatus := some "QUEUED"
  updatedAt := ""

def queuedOnce : Database := ⟨⟨[queuedRow 1], by decide⟩, Table.empty, Table.empty, Table.empty⟩

def queuedTwice : Database :=
  ⟨⟨[queuedRow 1, queuedRow 2], by decide⟩, Table.empty, Table.empty, Table.empty⟩

/-- A call with the outcome of the token. -/
def outcomeCall (terminalStatus archivePolicy : String) : Call where
  perTokenOutcomes :=
    [{ tokenId := some 1
       pairId := some 2
       terminalStatus := some terminalStatus
       reachedTerminalWindow := true }]
  stopReason := "done"
  archivePolicy := archivePolicy
  clock := fun _ => (0, 0)

theorem along_lasts_cooldown_twice :
    Along (after oneToken) (fun db c => c.Supported → Lasts oneToken db c) queuedOnce
      [outcomeCall "CLEAN" "cooldown", outcomeCall "DIRTY" "cooldown"] :=
  (along_lasts_iff oneToken queuedOnce (fun _ _ => .inl rfl) _).mpr (by decide)

/-- A cooldown that a later call archives, and a skipped token of which a call again
closes a second row. -/
theorem not_along_lasts_archive :
    (¬Along (after oneToken) (fun db c => c.Supported → Lasts oneToken db c) queuedOnce
      [outcomeCall "CLEAN" "cooldown", outcomeCall "CLEAN" "archive"]) ∧
    ¬Along (after oneToken) (fun db c => c.Supported → Lasts oneToken db c) queuedTwice
      [outcomeCall "FAILED" "cooldown"] := by
  constructor
  · rintro ⟨_, h, _⟩
    have hkept := (h (.inr rfl)).kept _ List.mem_cons_self (by decide)
    revert hkept
    decide
  · rintro ⟨h, _⟩
    have hreplay := (h (.inl rfl)).replay fun _ => (0, 0)
    have hrows := congrArg (fun db => db.queue.rows) hreplay
    revert hrows
    decide

end PrinterV1.OperatorCli.PostCycle
