import Mathlib.Data.List.ReduceOption
import PrinterV1.Foundation.Faults
import PrinterV1.Foundation.Runs
import PrinterV1.Snapshots.LifecycleContinuity

/-!
# A predecessor feeds one successor

A stored window that names its predecessor uses it up, and a blocked transition stays
blocked. Both hold over every run of insertions and blocks whose contexts can be read by
the two scanners alike, and whose blocks reach every active job of what they block.
-/

namespace PrinterV1.Snapshots

open Python Scheduler Runs

variable (R : Value.Rendering)

/-! ## Runs -/

/-- The database, and the transitions that calls have blocked. -/
structure ContinuityState where
  db : ContinuityDb
  blocked : List BlockTarget

/-- No window yet, and any steps and jobs. -/
def ContinuityState.start (steps : Table RunStep.id) (jobs : Jobs) : ContinuityState :=
  ⟨⟨Table.empty, steps, jobs⟩, []⟩

inductive ContinuityCall
  | insertWindow (w : MemoryWindow)
  | block (t : BlockTarget) (trackingLane reason : String) (clocks : Clocks)
      (refusal : Option String)

/-- `INSERT INTO printer_memory_windows`, under the next row id. -/
def ContinuityDb.insertWindow (db : ContinuityDb) (w : MemoryWindow) : ContinuityDb :=
  { db with
    windows := db.windows.insert { w with id := nextRowid (db.windows.rows.map (·.id)) }
      fun old hold => by
        have hlt : old.id < nextRowid (db.windows.rows.map (·.id)) :=
          lt_nextRowid (List.mem_map_of_mem hold)
        exact Int.ne_of_lt hlt }

def continuityStep (s : ContinuityState) : ContinuityCall → ContinuityState
  | .insertWindow w => { s with db := s.db.insertWindow w }
  | .block t trackingLane reason clocks refusal =>
    let r := terminallyBlockLongContinuation s.db t trackingLane reason clocks refusal
    match r.2 with
    | .ok _ => ⟨r.1, t :: s.blocked⟩
    | .error _ => { s with db := r.1 }

/-! ## What is claimed -/

/-- The block of a context that may name a predecessor. -/
def continuityBlock (entries : Dict) : Dict :=
  match entries.get "continuity" with
  | .dict block => block
  | _ => []

/-- The context names a predecessor, at the top level or in its continuity block. -/
def Names (context : Option Value) (p : ℤ) : Prop :=
  ∃ entries : Dict, context = some (.dict entries) ∧
    (entries.get "continuation_of_window_id" = .int p ∨
      (continuityBlock entries).get "continuation_of_window_id" = .int p)

/-- A predecessor that a stored window names is consumed, and is not resolved again. -/
def UsedUp (db : ContinuityDb) : Prop :=
  ∀ w ∈ db.windows.rows, ∀ pairId, w.pairId = some pairId → ∀ p, Names w.supportingContext p →
    (∃ ids, consumedLongPredecessorIds R db w.tokenId pairId w.windowKind = .ok ids ∧ p ∈ ids) ∧
    (w.windowKind = "WINDOW_1H" → ∀ exclude1h, exclude1h ≠ some w.id →
      ∃ ids, consumed15mIds R db w.tokenId pairId exclude1h = .ok ids ∧ p ∈ ids) ∧
    ∀ choice runId lane stepId r, resolveCurrentRunLongPredecessor R choice db runId w.tokenId
      pairId lane w.windowKind stepId = .ok r → r.resolved = true → r.windowId ≠ some p

def RunStep.payloadKind (s : RunStep) : Value :=
  match s.result with
  | some (.dict entries) => Dict.get entries "successor_window_kind"
  | _ => .none

/-- A step of the token, the pair and the successor kind, in any run. -/
def RunStep.ofKind (s : RunStep) (t : BlockTarget) : Prop :=
  s.tokenId = some t.tokenId ∧ s.pairId = some t.pairId ∧ s.payloadKind = .str t.successorKind

instance (s : RunStep) (t : BlockTarget) : Decidable (s.ofKind t) :=
  inferInstanceAs (Decidable (_ ∧ _))

/-- No pending step and no active job of the transition is left in the run. -/
def Cleared (db : ContinuityDb) (t : BlockTarget) : Prop :=
  ∀ s ∈ db.steps.rows, s.runId = t.runId → s.ofKind t → s.stepStatus ≠ "PENDING" ∧
    ∀ job ∈ db.jobs.rows, s.schedulerJobId = some job.id → ¬ job.status.Active

instance (db : ContinuityDb) (t : BlockTarget) : Decidable (Cleared db t) :=
  inferInstanceAs (Decidable (∀ s ∈ db.steps.rows, _))

/-- A transition that is blocked for good. -/
structure BlockedForGood (db : ContinuityDb) (t : BlockTarget) : Prop where
  unresolved : ∀ choice lane stepId r, resolveCurrentRunLongPredecessor R choice db t.runId
    t.tokenId t.pairId lane t.successorKind stepId = .ok r → r.resolved = false
  again : ∀ lane reason clocks refusal, ∃ id,
    terminallyBlockLongContinuation db t lane reason clocks refusal = (db, .ok ⟨true, true, 0, id⟩)
  cleared : Cleared db t

def Faithful (s : ContinuityState) : Prop :=
  UsedUp R s.db ∧ ∀ t ∈ s.blocked, BlockedForGood R s.db t

/-- A block leaves the steps and the jobs of other tokens, pairs and kinds as they are. -/
def Untouched (s : ContinuityState) : ContinuityCall → Prop
  | .insertWindow _ => True
  | .block t lane reason clocks refusal =>
    let db' := (terminallyBlockLongContinuation s.db t lane reason clocks refusal).1
    ∀ other ∈ s.db.steps.rows, ¬ other.ofKind t → other ∈ db'.steps.rows ∧
      ∀ job ∈ s.db.jobs.rows, other.schedulerJobId = some job.id → job ∈ db'.jobs.rows

/-! ## The condition -/

/-- The two scanners read the context alike: an identifier is an integer, one at both places is
the same, and the context of a 1h window names its predecessor at the top level. -/
def Legible (windowKind : String) (entries : Dict) : Prop :=
  let top := entries.get "continuation_of_window_id"
  let nested := (continuityBlock entries).get "continuation_of_window_id"
  (∃ p, top = .int p ∧ ∀ q, nested = .int q → q = p) ∨
    top = .none ∧ (nested = .none ∨ windowKind ≠ "WINDOW_1H" ∧ ∃ p, nested = .int p) ∧
      ((entries.get "continuity").truthy = true → ∃ block, entries.get "continuity" = .dict block)

/-- A job of a step that is cancelled is one of that transition alone. -/
def OwnJobs (db : ContinuityDb) (t : BlockTarget) : Prop :=
  ∀ s ∈ db.steps.rows, s.pendingLong t = true → s.ofKind t → ∀ other ∈ db.steps.rows,
    ¬ other.ofKind t → s.schedulerJobId ≠ none → other.schedulerJobId ≠ s.schedulerJobId

instance (db : ContinuityDb) (t : BlockTarget) : Decidable (OwnJobs db t) :=
  inferInstanceAs (Decidable (∀ s ∈ db.steps.rows, _))

/-- Every pending step of the transition is a long continuation, and every active job of a step
of it is one that such a step is waiting for. -/
def Reached (db : ContinuityDb) (t : BlockTarget) : Prop :=
  ∀ s ∈ db.steps.rows, s.runId = t.runId → s.ofKind t →
    (s.stepStatus = "PENDING" → s.pendingLong t = true) ∧
    ∀ job ∈ db.jobs.rows, s.schedulerJobId = some job.id → job.status.Active →
      ∃ s' ∈ db.steps.rows, s'.pendingLong t = true ∧ s'.ofKind t ∧
        s'.schedulerJobId = some job.id

instance (db : ContinuityDb) (t : BlockTarget) : Decidable (Reached db t) :=
  inferInstanceAs (Decidable (∀ s ∈ db.steps.rows, _))

/-- The key of the block is free, or held by a block of the transition after which nothing of
it is left. -/
def KeyFits (db : ContinuityDb) (t : BlockTarget) : Prop :=
  ∀ s ∈ db.steps.rows, s.runId = t.runId →
    s.stepKey = longBlockStepKey t.tokenId t.pairId t.successorKind →
    s.blocks t.runId t.tokenId t.pairId t.successorKind = true ∧ Cleared db t

instance (db : ContinuityDb) (t : BlockTarget) : Decidable (KeyFits db t) :=
  inferInstanceAs (Decidable (∀ s ∈ db.steps.rows, _))

def Regular (s : ContinuityState) : ContinuityCall → Prop
  | .insertWindow w => ∀ v, w.supportingContext = some v →
      ∃ entries : Dict, v = .dict entries ∧ Legible w.windowKind entries
  | .block t _ _ _ _ => OwnJobs s.db t ∧ Reached s.db t ∧ KeyFits s.db t

/-! ## Reading contexts -/

section Reading

variable {R : Value.Rendering}

theorem identifier_int (p : ℤ) : identifier R (.int p) = .ok (some p) := rfl

/-- A legible context is read, and gives the predecessor that it names. -/
theorem linkedId_of_legible {windowKind : String} {entries : Dict}
    (h : Legible windowKind entries) :
    ∃ id, linkedId R (some (.dict entries)) = .ok id ∧
      ∀ p, Names (some (.dict entries)) p → id = some p := by
  have hnames : ∀ p, Names (some (.dict entries)) p →
      entries.get "continuation_of_window_id" = .int p ∨
        (continuityBlock entries).get "continuation_of_window_id" = .int p := by
    rintro p ⟨entries', heq, hname⟩
    obtain rfl := Value.dict.inj (Option.some.inj heq)
    exact hname
  rcases h with ⟨p, htop, hnested⟩ | ⟨htop, hnested, hblock⟩
  · refine ⟨some p, ?_, fun q hq => ?_⟩
    · simp [linkedId, mapping, bind, Except.bind, htop, identifier_int]
    · rcases hnames q hq with hq | hq
      · rw [htop] at hq
        rw [Value.int.inj hq]
      · rw [hnested q hq]
  · have hread : linkedId R (some (.dict entries)) =
        identifier R ((continuityBlock entries).get "continuation_of_window_id") := by
      by_cases htruthy : (entries.get "continuity").truthy = true
      · obtain ⟨block, hcontinuity⟩ := hblock htruthy
        rw [hcontinuity] at htruthy
        simp [linkedId, mapping, bind, Except.bind, htop, continuityBlock, hcontinuity, htruthy]
      · have hempty : (continuityBlock entries).get "continuation_of_window_id" = .none := by
          unfold continuityBlock
          cases hcontinuity : entries.get "continuity" with
          | dict block =>
            have hnil : block = [] := by simpa [hcontinuity, Value.truthy] using htruthy
            rw [hnil]
            rfl
          | _ => rfl
        rw [hempty]
        simp [linkedId, mapping, bind, Except.bind, htop, htruthy]
        rfl
    rw [hread]
    rcases hnested with hnone | ⟨_, p, hp⟩
    · refine ⟨none, by rw [hnone]; rfl, fun q hq => ?_⟩
      rcases hnames q hq with hq | hq
      · rw [htop] at hq
        cases hq
      · rw [hnone] at hq
        cases hq
    · refine ⟨some p, by rw [hp]; rfl, fun q hq => ?_⟩
      rcases hnames q hq with hq | hq
      · rw [htop] at hq
        cases hq
      · rw [hp] at hq
        rw [Value.int.inj hq]

/-- The other scanner reads it as well, and finds what a 1h window names. -/
theorem topLinkedId_of_legible {entries : Dict} (h : Legible "WINDOW_1H" entries) :
    ∃ id, topLinkedId R (some (.dict entries)) = .ok id ∧
      ∀ p, Names (some (.dict entries)) p → id = some p := by
  have hread : topLinkedId R (some (.dict entries)) =
      identifier R (entries.get "continuation_of_window_id") := rfl
  rw [hread]
  have hnames : ∀ p, Names (some (.dict entries)) p →
      entries.get "continuation_of_window_id" = .int p ∨
        (continuityBlock entries).get "continuation_of_window_id" = .int p := by
    rintro p ⟨entries', heq, hname⟩
    obtain rfl := Value.dict.inj (Option.some.inj heq)
    exact hname
  rcases h with ⟨p, htop, hnested⟩ | ⟨htop, hnested, _⟩
  · refine ⟨some p, by rw [htop]; rfl, fun q hq => ?_⟩
    rcases hnames q hq with hq | hq
    · rw [htop] at hq
      rw [Value.int.inj hq]
    · rw [hnested q hq]
  · have hnone := hnested.resolve_right fun h => h.1 rfl
    refine ⟨none, by rw [htop]; rfl, fun q hq => ?_⟩
    rcases hnames q hq with hq | hq
    · rw [htop] at hq
      cases hq
    · rw [hnone] at hq
      cases hq

/-- A scan that every row lets pass finds what each row gives. -/
theorem mapM_reduceOption {α β ε : Type} {f : α → Except ε (Option β)} {xs : List α}
    (h : ∀ x ∈ xs, ∃ y, f x = .ok y) :
    ∃ ys, xs.mapM f = .ok ys ∧ ∀ x ∈ xs, ∀ b, f x = .ok (some b) → b ∈ ys.reduceOption := by
  induction xs with
  | nil => exact ⟨[], rfl, by simp⟩
  | cons x xs ih =>
    obtain ⟨y, hy⟩ := h x (by simp)
    obtain ⟨ys, hys, hmem⟩ := ih fun x' hx' => h x' (by simp [hx'])
    refine ⟨y :: ys, ?_, fun x' hx' b hb => ?_⟩
    · rw [List.mapM_cons, hy, hys]
      rfl
    · rw [List.reduceOption_mem_iff, List.mem_cons]
      rcases List.mem_cons.mp hx' with rfl | hx'
      · rw [hy] at hb
        exact Or.inl (Except.ok.inj hb).symm
      · exact Or.inr (List.reduceOption_mem_iff.mp (hmem x' hx' b hb))

end Reading

/-! ## Used up -/

/-- Every stored context can be read. -/
def LegibleWindows (db : ContinuityDb) : Prop :=
  ∀ w ∈ db.windows.rows, ∀ v, w.supportingContext = some v →
    ∃ entries : Dict, v = .dict entries ∧ Legible w.windowKind entries

section Used

variable {R : Value.Rendering} {db : ContinuityDb}

theorem linkedId_of_window (h : LegibleWindows db) {w : MemoryWindow} (hw : w ∈ db.windows.rows) :
    ∃ id, linkedId R w.supportingContext = .ok id ∧
      ∀ p, Names w.supportingContext p → id = some p := by
  cases hcontext : w.supportingContext with
  | none =>
    refine ⟨none, rfl, ?_⟩
    rintro p ⟨entries, hnone, _⟩
    cases hnone
  | some v =>
    obtain ⟨entries, rfl, hlegible⟩ := h w hw v hcontext
    exact linkedId_of_legible hlegible

theorem topLinkedId_of_window (h : LegibleWindows db) {w : MemoryWindow}
    (hw : w ∈ db.windows.rows) (hkind : w.windowKind = "WINDOW_1H") :
    ∃ id, topLinkedId R w.supportingContext = .ok id ∧
      ∀ p, Names w.supportingContext p → id = some p := by
  cases hcontext : w.supportingContext with
  | none =>
    refine ⟨none, rfl, ?_⟩
    rintro p ⟨entries, hnone, _⟩
    cases hnone
  | some v =>
    obtain ⟨entries, rfl, hlegible⟩ := h w hw v hcontext
    rw [hkind] at hlegible
    exact topLinkedId_of_legible hlegible

/-- A named predecessor is found by the scan over the windows of the kind. -/
theorem consumedLong_of_names (h : LegibleWindows db) {w : MemoryWindow}
    (hw : w ∈ db.windows.rows) {pairId : ℤ} (hpair : w.pairId = some pairId) {p : ℤ}
    (hnames : Names w.supportingContext p) :
    ∃ ids, consumedLongPredecessorIds R db w.tokenId pairId w.windowKind = .ok ids ∧ p ∈ ids := by
  have hread : ∀ x ∈ db.windows.rows.filter fun x => x.tokenId = w.tokenId ∧
      x.pairId = some pairId ∧ x.windowKind = w.windowKind,
      ∃ id, linkedId R x.supportingContext = .ok id := fun x hx =>
    (linkedId_of_window h (List.mem_of_mem_filter hx)).imp fun _ hid => hid.1
  obtain ⟨ids, hids, hmem⟩ := mapM_reduceOption hread
  refine ⟨ids.reduceOption, ?_, ?_⟩
  · rw [consumedLongPredecessorIds, hids]
    rfl
  · obtain ⟨id, hread, hid⟩ := linkedId_of_window (R := R) h hw
    refine hmem w (by simp [hw, hpair]) p ?_
    rw [hread, hid p hnames]

theorem consumed15m_of_names (h : LegibleWindows db) {w : MemoryWindow}
    (hw : w ∈ db.windows.rows) (hkind : w.windowKind = "WINDOW_1H") {pairId : ℤ}
    (hpair : w.pairId = some pairId) {p : ℤ} (hnames : Names w.supportingContext p)
    {exclude1h : Option ℤ} (hexclude : exclude1h ≠ some w.id) :
    ∃ ids, consumed15mIds R db w.tokenId pairId exclude1h = .ok ids ∧ p ∈ ids := by
  have hread : ∀ x ∈ db.windows.rows.filter fun x => x.windowKind = "WINDOW_1H" ∧
      x.tokenId = w.tokenId ∧ x.pairId = some pairId ∧ exclude1h ≠ some x.id,
      ∃ id, topLinkedId R x.supportingContext = .ok id := by
    intro x hx
    obtain ⟨hmem, hcond⟩ := List.mem_filter.mp hx
    have hkind' : x.windowKind = "WINDOW_1H" := (of_decide_eq_true hcond).1
    exact (topLinkedId_of_window h hmem hkind').imp fun _ hid => hid.1
  obtain ⟨ids, hids, hmem⟩ := mapM_reduceOption hread
  refine ⟨ids.reduceOption, ?_, ?_⟩
  · rw [consumed15mIds, hids]
    rfl
  · obtain ⟨id, hread, hid⟩ := topLinkedId_of_window (R := R) h hw hkind
    refine hmem w (by simp [hw, hpair, hkind, hexclude]) p ?_
    rw [hread, hid p hnames]

/-- What a resolution of a window means: nothing stands against it. -/
theorem resolve_resolved {choice : ℕ} {runId lane kind : String} {tokenId pairId : ℤ}
    {stepId : Option ℤ} {r : Resolution}
    (h : resolveCurrentRunLongPredecessor R choice db runId tokenId pairId lane kind stepId = .ok r)
    (hresolved : r.resolved = true) :
    ∃ w s consumed, consumedLongPredecessorIds R db tokenId pairId kind = .ok consumed ∧
      predecessorReasons db w s runId tokenId pairId lane kind consumed = [] ∧
      r.windowId = some w.id := by
  unfold resolveCurrentRunLongPredecessor at h
  split at h
  · obtain rfl := Except.ok.inj h
    cases hresolved
  · split at h
    · rename_i w s _
      split at h
      · cases h
      · obtain ⟨consumed, hconsumed, h⟩ := Faults.bind_ok h
        dsimp only at h
        split_ifs at h with hreasons hplan
        · obtain rfl := Except.ok.inj h
          cases hresolved
        · obtain rfl := Except.ok.inj h
          cases hresolved
        · obtain rfl := Except.ok.inj h
          exact ⟨w, s, consumed, hconsumed, not_not.mp hreasons, rfl⟩
    · obtain rfl := Except.ok.inj h
      cases hresolved

theorem usedUp_of_legible (h : LegibleWindows db) : UsedUp R db := by
  intro w hw pairId hpair p hnames
  refine ⟨consumedLong_of_names h hw hpair hnames,
    fun hkind exclude1h hexclude => consumed15m_of_names h hw hkind hpair hnames hexclude, ?_⟩
  intro choice runId lane stepId r hresolve hresolved hwindow
  obtain ⟨w', s, consumed, hconsumed, hreasons, hid⟩ := resolve_resolved hresolve hresolved
  obtain ⟨ids, hids, hmem⟩ := consumedLong_of_names (R := R) h hw hpair hnames
  obtain rfl := Except.ok.inj (hconsumed.symm.trans hids)
  rw [hid] at hwindow
  rw [← Option.some.inj hwindow] at hmem
  simp [predecessorReasons, hmem] at hreasons

/-- A recorded block stands against every predecessor. -/
theorem unresolved_of_marker {t : BlockTarget} {s : RunStep} (hs : s ∈ db.steps.rows)
    (hblocks : s.blocks t.runId t.tokenId t.pairId t.successorKind = true) (choice : ℕ)
    (lane : String) (stepId : Option ℤ) (r : Resolution)
    (h : resolveCurrentRunLongPredecessor R choice db t.runId t.tokenId t.pairId lane
      t.successorKind stepId = .ok r) : r.resolved = false := by
  by_contra hresolved
  obtain ⟨w, s', consumed, _, hreasons, _⟩ := resolve_resolved h (by simpa using hresolved)
  have hany : (db.steps.rows.any fun s =>
      s.blocks t.runId t.tokenId t.pairId t.successorKind) = true :=
    List.any_eq_true.mpr ⟨s, hs, hblocks⟩
  simp [predecessorReasons, hany] at hreasons

end Used

/-! ## What a block does -/

/-- A step after a loop of cancellations: as it was, or cancelled. -/
def RunStep.Follows (old new : RunStep) : Prop :=
  new = old ∨ ∃ reason sqlNow, new = cancelledStep reason sqlNow old

theorem RunStep.Follows.trans {a b c : RunStep} (hab : a.Follows b) (hbc : b.Follows c) :
    a.Follows c := by
  rcases hbc with rfl | ⟨reason, sqlNow, rfl⟩
  · exact hab
  · rcases hab with rfl | ⟨_, _, rfl⟩
    · exact Or.inr ⟨reason, sqlNow, rfl⟩
    · exact Or.inr ⟨reason, sqlNow, rfl⟩

/-- All but the status and the times stay. -/
theorem RunStep.Follows.same {old new : RunStep} (h : old.Follows new) :
    new.id = old.id ∧ new.runId = old.runId ∧ new.stepKey = old.stepKey ∧
      new.stepKind = old.stepKind ∧ new.tokenId = old.tokenId ∧ new.pairId = old.pairId ∧
      new.schedulerJobId = old.schedulerJobId ∧ new.result = old.result ∧
      (new.stepStatus = old.stepStatus ∨ new.stepStatus = "CANCELLED") := by
  rcases h with rfl | ⟨_, _, rfl⟩
  · exact ⟨rfl, rfl, rfl, rfl, rfl, rfl, rfl, rfl, Or.inl rfl⟩
  · exact ⟨rfl, rfl, rfl, rfl, rfl, rfl, rfl, rfl, Or.inr rfl⟩

theorem RunStep.Follows.ofKind_iff {old new : RunStep} (h : old.Follows new) (t : BlockTarget) :
    new.ofKind t ↔ old.ofKind t := by
  obtain ⟨_, _, _, _, htoken, hpair, _, hresult, _⟩ := h.same
  simp only [RunStep.ofKind, RunStep.payloadKind, htoken, hpair, hresult]

/-- A job after a loop of cancellations: as it was, or cancelled. -/
def JobFollows (old new : Job) : Prop := new = old ∨ new.id = old.id ∧ new.status = .cancelled

theorem JobFollows.trans {a b c : Job} (hab : JobFollows a b) (hbc : JobFollows b c) :
    JobFollows a c := by
  rcases hbc with rfl | ⟨hid, hstatus⟩
  · exact hab
  · rcases hab with rfl | ⟨hid', _⟩
    · exact Or.inr ⟨hid, hstatus⟩
    · exact Or.inr ⟨hid.trans hid', hstatus⟩

/-- The kind in the payload of a step that was read. -/
theorem payloadKind_of_mapping {s : RunStep} {payload : Dict} (h : mapping s.result = .ok payload) :
    payload.get "successor_window_kind" = s.payloadKind := by
  unfold RunStep.payloadKind
  cases hresult : s.result with
  | none =>
    rw [hresult] at h
    obtain rfl := Except.ok.inj h
    rfl
  | some v =>
    rw [hresult] at h
    cases v with
    | dict entries =>
      obtain rfl := Except.ok.inj h
      rfl
    | _ => cases h

theorem mem_cancel_steps {db : ContinuityDb} {row new : RunStep} {reason : String}
    {clocks : Clocks} : new ∈ (db.cancel row reason clocks).steps.rows ↔
      (new ∈ db.steps.rows ∧ new.id ≠ row.id) ∨
        ∃ old ∈ db.steps.rows, old.id = row.id ∧ cancelledStep reason clocks.sqlNow old = new :=
  Table.mem_updateKey

theorem mem_cancel_jobs {db : ContinuityDb} {row : RunStep} {new : Job} {reason : String}
    {clocks : Clocks} : new ∈ (db.cancel row reason clocks).jobs.rows ↔
      (new ∈ db.jobs.rows ∧ row.schedulerJobId ≠ some new.id) ∨
        ∃ old ∈ db.jobs.rows, row.schedulerJobId = some old.id ∧
          finishRow .cancelled clocks.now old = new := by
  unfold ContinuityDb.cancel
  cases hid : row.schedulerJobId with
  | none => simp
  | some jobId =>
    refine Table.mem_updateKey.trans (or_congr (and_congr_right fun _ => ?_) ?_)
    · exact not_congr ⟨fun h => by rw [h], fun h => (Option.some.inj h).symm⟩
    · refine exists_congr fun old => and_congr_right fun _ => and_congr_left fun _ => ?_
      exact ⟨fun h => by rw [h], fun h => (Option.some.inj h).symm⟩

/-- What the loop leaves of the database. -/
structure Cancels (kind : String) (rows : List RunStep) (db db' : ContinuityDb) : Prop where
  windows : db'.windows = db.windows
  steps : ∀ new ∈ db'.steps.rows, ∃ old ∈ db.steps.rows, old.Follows new
  later : ∀ old ∈ db.steps.rows, ∃ new ∈ db'.steps.rows, old.Follows new
  jobs : ∀ new ∈ db'.jobs.rows, ∃ old ∈ db.jobs.rows, JobFollows old new
  keptStep : ∀ s ∈ db.steps.rows,
    (∀ row ∈ rows, row.payloadKind = .str kind → row.id ≠ s.id) → s ∈ db'.steps.rows
  keptJob : ∀ job ∈ db.jobs.rows,
    (∀ row ∈ rows, row.payloadKind = .str kind → row.schedulerJobId ≠ some job.id) →
      job ∈ db'.jobs.rows

theorem cancelLong_cancels (kind reason : String) (clocks : Clocks) (rows : List RunStep) :
    ∀ db, Cancels kind rows db (cancelLong kind reason clocks rows db).1 := by
  induction rows with
  | nil =>
    intro db
    exact ⟨rfl, fun s hs => ⟨s, hs, Or.inl rfl⟩, fun s hs => ⟨s, hs, Or.inl rfl⟩,
      fun j hj => ⟨j, hj, Or.inl rfl⟩, fun s hs _ => hs, fun j hj _ => hj⟩
  | cons row rows ih =>
    intro db
    unfold cancelLong
    cases hmapping : mapping row.result with
    | error e =>
      exact ⟨rfl, fun s hs => ⟨s, hs, Or.inl rfl⟩, fun s hs => ⟨s, hs, Or.inl rfl⟩,
        fun j hj => ⟨j, hj, Or.inl rfl⟩, fun s hs _ => hs, fun j hj _ => hj⟩
    | ok payload =>
      dsimp only
      rw [payloadKind_of_mapping hmapping]
      by_cases hkind : row.payloadKind = .str kind
      · rw [if_neg (not_not.mpr hkind)]
        dsimp only
        obtain ⟨hwindows, hsteps, hlater, hjobs, hkeptStep, hkeptJob⟩ :=
          ih (db.cancel row reason clocks)
        refine ⟨hwindows, fun new hnew => ?_, fun old hold => ?_, fun new hnew => ?_,
          fun s hs hnot => ?_, fun job hjob hnot => ?_⟩
        · obtain ⟨s, hs, hfollows⟩ := hsteps new hnew
          rcases mem_cancel_steps.mp hs with ⟨hold, _⟩ | ⟨old, hold, _, rfl⟩
          · exact ⟨s, hold, hfollows⟩
          · exact ⟨old, hold, .trans (Or.inr ⟨reason, clocks.sqlNow, rfl⟩) hfollows⟩
        · by_cases hid : old.id = row.id
          · obtain ⟨new, hnew, hfollows⟩ := hlater _ (mem_cancel_steps.mpr
              (Or.inr ⟨old, hold, hid, rfl⟩))
            exact ⟨new, hnew, .trans (Or.inr ⟨reason, clocks.sqlNow, rfl⟩) hfollows⟩
          · exact hlater old (mem_cancel_steps.mpr (Or.inl ⟨hold, hid⟩))
        · obtain ⟨job, hjob, hfollows⟩ := hjobs new hnew
          rcases mem_cancel_jobs.mp hjob with ⟨hold, _⟩ | ⟨old, hold, _, rfl⟩
          · exact ⟨job, hold, hfollows⟩
          · have hcancelled : JobFollows old (finishRow .cancelled clocks.now old) :=
              Or.inr ⟨rfl, rfl⟩
            exact ⟨old, hold, hcancelled.trans hfollows⟩
        · refine hkeptStep s ?_ fun r hr => hnot r (List.mem_cons_of_mem _ hr)
          have hne := hnot row List.mem_cons_self hkind
          exact mem_cancel_steps.mpr (Or.inl ⟨hs, Ne.symm hne⟩)
        · refine hkeptJob job ?_ fun r hr => hnot r (List.mem_cons_of_mem _ hr)
          exact mem_cancel_jobs.mpr (Or.inl ⟨hjob, hnot row List.mem_cons_self hkind⟩)
      · rw [if_pos hkind]
        obtain ⟨hwindows, hsteps, hlater, hjobs, hkeptStep, hkeptJob⟩ := ih db
        refine ⟨hwindows, hsteps, hlater, hjobs,
          fun s hs hnot => hkeptStep s hs fun r hr => hnot r (List.mem_cons_of_mem _ hr),
          fun job hjob hnot => hkeptJob job hjob fun r hr => hnot r (List.mem_cons_of_mem _ hr)⟩

theorem map_eq_ok {α β ε : Type} {f : α → β} {x : Except ε α} {y : β} (h : x.map f = .ok y) :
    ∃ a, x = .ok a ∧ f a = y := by
  cases x with
  | error e => cases h
  | ok a => exact ⟨a, rfl, Except.ok.inj h⟩

/-- Where the loop gets through, every step of the kind is cancelled, and so is its job. -/
theorem cancelLong_through (kind reason : String) (clocks : Clocks) (rows : List RunStep) :
    ∀ db cancelled, (cancelLong kind reason clocks rows db).2 = .ok cancelled →
      ∀ row ∈ rows, row.payloadKind = .str kind →
        (∀ new ∈ (cancelLong kind reason clocks rows db).1.steps.rows, new.id = row.id →
          new.stepStatus = "CANCELLED") ∧
        ∀ new ∈ (cancelLong kind reason clocks rows db).1.jobs.rows,
          row.schedulerJobId = some new.id → new.status = .cancelled := by
  induction rows with
  | nil =>
    intro db cancelled _ row hrow
    cases hrow
  | cons first rows ih =>
    intro db cancelled hok row hrow hkind
    unfold cancelLong at hok ⊢
    cases hmapping : mapping first.result with
    | error e =>
      rw [hmapping] at hok
      cases hok
    | ok payload =>
      rw [hmapping] at hok
      dsimp only at hok ⊢
      rw [payloadKind_of_mapping hmapping] at hok ⊢
      by_cases hfirst : first.payloadKind = .str kind
      · rw [if_neg (not_not.mpr hfirst)] at hok ⊢
        dsimp only at hok ⊢
        obtain ⟨cancelled', hok', _⟩ := map_eq_ok hok
        rcases List.mem_cons.mp hrow with rfl | hrest
        · -- the first row is cancelled at once, and the rest does not undo that
          obtain ⟨_, hsteps, _, hjobs, _, _⟩ :=
            cancelLong_cancels kind reason clocks rows (db.cancel row reason clocks)
          constructor
          · intro new hnew hid
            obtain ⟨s, hs, hfollows⟩ := hsteps new hnew
            obtain ⟨hsid, _, _, _, _, _, _, _, hstatus⟩ := hfollows.same
            rcases mem_cancel_steps.mp hs with ⟨_, hne⟩ | ⟨old, _, _, rfl⟩
            · exact absurd (hsid.symm.trans hid) hne
            · rcases hstatus with h | h <;> rw [h]
              rfl
          · intro new hnew hid
            obtain ⟨job, hjob, hfollows⟩ := hjobs new hnew
            have hsame : new.id = job.id := by
              rcases hfollows with rfl | ⟨h, _⟩
              · rfl
              · exact h
            rw [hsame] at hid
            rcases mem_cancel_jobs.mp hjob with ⟨_, hne⟩ | ⟨old, _, _, rfl⟩
            · exact absurd hid hne
            · rcases hfollows with rfl | ⟨_, hstatus⟩
              · rfl
              · exact hstatus
        · exact ih (db.cancel first reason clocks) cancelled' hok' row hrest hkind
      · rw [if_pos hfirst] at hok ⊢
        rcases List.mem_cons.mp hrow with rfl | hrest
        · exact absurd hkind hfirst
        · exact ih db cancelled hok row hrest hkind

/-! ## Calls -/

/-- The steps that the loop of a block goes through. -/
def pendingRows (db : ContinuityDb) (t : BlockTarget) : List RunStep :=
  db.steps.rows.filter fun s => s.pendingLong t

/-- The step holds the key of the block. -/
def RunStep.HoldsKey (s : RunStep) (t : BlockTarget) : Prop :=
  s.runId = t.runId ∧ s.stepKey = longBlockStepKey t.tokenId t.pairId t.successorKind

theorem RunStep.HoldsKey.of_blocks {s : RunStep} {t : BlockTarget}
    (h : s.blocks t.runId t.tokenId t.pairId t.successorKind = true) : s.HoldsKey t := by
  simp only [RunStep.blocks, decide_eq_true_eq] at h
  exact ⟨h.1, h.2.2.2.2⟩

section Calls

variable {db : ContinuityDb} {t : BlockTarget} {lane reason : String} {clocks : Clocks}
  {refusal : Option String}

/-- Where the key is taken, a call changes nothing. -/
theorem block_taken {s : RunStep} (hs : s ∈ db.steps.rows) (hkey : s.HoldsKey t)
    (lane reason : String) (clocks : Clocks) (refusal : Option String) : ∃ id,
    terminallyBlockLongContinuation db t lane reason clocks refusal =
      (db, .ok ⟨true, true, 0, id⟩) := by
  unfold terminallyBlockLongContinuation
  split
  · rename_i existing _
    exact ⟨existing.id, rfl⟩
  · rename_i hnone
    have hfree := List.find?_eq_none.mp hnone s hs
    exact absurd (decide_eq_true (And.intro hkey.1 hkey.2)) hfree

theorem blockStep_id (t : BlockTarget) (lane reason sqlNow : String) (id : ℤ) :
    (blockStep t lane reason sqlNow id).id = id := rfl

/-- Where it is free, the loop runs, and either the call raises or the block is recorded. -/
theorem block_free (hfree : ∀ s ∈ db.steps.rows, ¬ s.HoldsKey t) :
    let r := cancelLong t.successorKind reason clocks (pendingRows db t) db
    let call := terminallyBlockLongContinuation db t lane reason clocks refusal
    (call.1 = r.1 ∧ ∃ e, call.2 = .error e) ∨
      ∃ cancelled, r.2 = .ok cancelled ∧ call =
        (r.1.insertStep (blockStep t lane reason clocks.sqlNow)
          (blockStep_id t lane reason clocks.sqlNow),
          .ok ⟨true, false, cancelled, r.1.nextStepId⟩) := by
  dsimp only
  have hnone : (db.steps.rows.find? fun s => s.runId = t.runId ∧
      s.stepKey = longBlockStepKey t.tokenId t.pairId t.successorKind) = none := by
    refine List.find?_eq_none.mpr fun s hs h => hfree s hs ?_
    simpa [RunStep.HoldsKey] using h
  unfold terminallyBlockLongContinuation
  rw [hnone]
  dsimp only [pendingRows]
  cases hloop : (cancelLong t.successorKind reason clocks
      (db.steps.rows.filter fun s => s.pendingLong t) db).2 with
  | error e => exact Or.inl ⟨rfl, e, rfl⟩
  | ok cancelled =>
    cases refusal with
    | some text => exact Or.inl ⟨rfl, _, rfl⟩
    | none => exact Or.inr ⟨cancelled, rfl, rfl⟩

/-- What any call leaves: a step as it was or cancelled, or the block of it. -/
structure Blocks (t : BlockTarget) (db db' : ContinuityDb) : Prop where
  windows : db'.windows = db.windows
  steps : ∀ new ∈ db'.steps.rows, (∃ old ∈ db.steps.rows, old.Follows new) ∨
    new.stepStatus = "FAILED" ∧ new.schedulerJobId = none
  later : ∀ old ∈ db.steps.rows, ∃ new ∈ db'.steps.rows, old.Follows new
  jobs : ∀ new ∈ db'.jobs.rows, ∃ old ∈ db.jobs.rows, JobFollows old new

theorem mem_recorded {sqlNow : String} {s : RunStep} :
    s ∈ (db.insertStep (blockStep t lane reason sqlNow)
        (blockStep_id t lane reason sqlNow)).steps.rows ↔
      s ∈ db.steps.rows ∨ s = blockStep t lane reason sqlNow db.nextStepId := by
  simp [ContinuityDb.insertStep]

theorem block_blocks (db : ContinuityDb) (t : BlockTarget) (lane reason : String)
    (clocks : Clocks) (refusal : Option String) :
    Blocks t db (terminallyBlockLongContinuation db t lane reason clocks refusal).1 := by
  by_cases hkey : ∃ s ∈ db.steps.rows, s.HoldsKey t
  · obtain ⟨s, hs, hkey⟩ := hkey
    obtain ⟨id, hcall⟩ := block_taken hs hkey lane reason clocks refusal
    rw [hcall]
    exact ⟨rfl, fun s hs => Or.inl ⟨s, hs, Or.inl rfl⟩, fun s hs => ⟨s, hs, Or.inl rfl⟩,
      fun job hjob => ⟨job, hjob, Or.inl rfl⟩⟩
  · have hfree : ∀ s ∈ db.steps.rows, ¬ s.HoldsKey t := fun s hs h => hkey ⟨s, hs, h⟩
    obtain ⟨hwindows, hsteps, hlater, hjobs, _, _⟩ :=
      cancelLong_cancels t.successorKind reason clocks (pendingRows db t) db
    rcases block_free hfree with ⟨hdb, _⟩ | ⟨cancelled, _, hcall⟩
    · rw [hdb]
      exact ⟨hwindows, fun new hnew => Or.inl (hsteps new hnew), hlater, hjobs⟩
    · rw [hcall]
      refine ⟨hwindows, fun new hnew => ?_, fun old hold => ?_, hjobs⟩
      · rcases mem_recorded.mp hnew with hnew | rfl
        · exact Or.inl (hsteps new hnew)
        · exact Or.inr ⟨rfl, rfl⟩
      · obtain ⟨new, hnew, hfollows⟩ := hlater old hold
        refine ⟨new, ?_, hfollows⟩
        exact mem_recorded.mpr (Or.inl hnew)

end Calls

/-! ## Blocked for good -/

/-- A block of the transition is recorded, and nothing of it is left. -/
def Marked (db : ContinuityDb) (t : BlockTarget) : Prop :=
  (∃ s ∈ db.steps.rows, s.blocks t.runId t.tokenId t.pairId t.successorKind = true) ∧ Cleared db t

variable {R} in
theorem blockedForGood_of_marked {db : ContinuityDb} {t : BlockTarget} (h : Marked db t) :
    BlockedForGood R db t := by
  obtain ⟨⟨s, hs, hblocks⟩, hcleared⟩ := h
  refine ⟨fun choice lane stepId r hr => ?_, fun lane reason clocks refusal => ?_, hcleared⟩
  · exact unresolved_of_marker hs hblocks choice lane stepId r hr
  · exact block_taken hs (.of_blocks hblocks) lane reason clocks refusal

theorem RunStep.Follows.blocks_eq {old new : RunStep} (h : old.Follows new) (runId : String)
    (tokenId pairId : ℤ) (kind : String) :
    new.blocks runId tokenId pairId kind = old.blocks runId tokenId pairId kind := by
  obtain ⟨_, hrun, hkey, hkind, htoken, hpair, _, _, _⟩ := h.same
  simp only [RunStep.blocks, hrun, hkey, hkind, htoken, hpair]

/-- What is blocked stays blocked under any later call. -/
theorem marked_of_blocks {db db' : ContinuityDb} {t t' : BlockTarget} (h : Blocks t' db db')
    (hmarked : Marked db t) : Marked db' t := by
  obtain ⟨⟨s, hs, hblocks⟩, hcleared⟩ := hmarked
  constructor
  · obtain ⟨new, hnew, hfollows⟩ := h.later s hs
    exact ⟨new, hnew, by rw [hfollows.blocks_eq, hblocks]⟩
  · intro new hnew hrun hkind
    rcases h.steps new hnew with ⟨old, hold, hfollows⟩ | ⟨hfailed, hjob⟩
    · obtain ⟨_, hrun', _, _, _, _, hjobId, _, hstatus⟩ := hfollows.same
      obtain ⟨hpending, hinactive⟩ :=
        hcleared old hold (hrun'.symm.trans hrun) ((hfollows.ofKind_iff t).mp hkind)
      refine ⟨?_, fun job hjob hid hactive => ?_⟩
      · rcases hstatus with hstatus | hstatus <;> rw [hstatus]
        · exact hpending
        · decide
      · obtain ⟨job', hjob', hfollows'⟩ := h.jobs job hjob
        rcases hfollows' with rfl | ⟨_, hcancelled⟩
        · exact hinactive job hjob' (hjobId.symm.trans hid) hactive
        · rw [hcancelled] at hactive
          revert hactive
          decide
    · refine ⟨by rw [hfailed]; decide, fun job _ hid => ?_⟩
      rw [hjob] at hid
      cases hid

/-- A call that succeeds under the condition leaves its transition blocked. -/
theorem marked_of_block {db : ContinuityDb} {t : BlockTarget} (hreached : Reached db t)
    (hfits : KeyFits db t) {lane reason : String} {clocks : Clocks} {refusal : Option String}
    {result : BlockResult}
    (hok : (terminallyBlockLongContinuation db t lane reason clocks refusal).2 = .ok result) :
    Marked (terminallyBlockLongContinuation db t lane reason clocks refusal).1 t := by
  by_cases hkey : ∃ s ∈ db.steps.rows, s.HoldsKey t
  · obtain ⟨s, hs, hkey⟩ := hkey
    obtain ⟨id, hcall⟩ := block_taken hs hkey lane reason clocks refusal
    obtain ⟨hblocks, hcleared⟩ := hfits s hs hkey.1 hkey.2
    rw [hcall]
    exact ⟨⟨s, hs, hblocks⟩, hcleared⟩
  · have hfree : ∀ s ∈ db.steps.rows, ¬ s.HoldsKey t := fun s hs h => hkey ⟨s, hs, h⟩
    rcases block_free hfree with ⟨_, e, herror⟩ | ⟨cancelled, hthrough, hcall⟩
    · rw [herror] at hok
      cases hok
    rw [hcall]
    obtain ⟨_, hsteps, _, hjobs, _, _⟩ :=
      cancelLong_cancels t.successorKind reason clocks (pendingRows db t) db
    have hgone := cancelLong_through t.successorKind reason clocks (pendingRows db t) db cancelled
      hthrough
    constructor
    · refine ⟨_, mem_recorded.mpr (Or.inr rfl), ?_⟩
      simp [RunStep.blocks, blockStep]
    · intro new hnew hrun hkind
      rcases mem_recorded.mp hnew with hnew | rfl
      · obtain ⟨old, hold, hfollows⟩ := hsteps new hnew
        obtain ⟨hid, hrun', _, _, _, _, hjobId, _, hstatus⟩ := hfollows.same
        have hkind' := (hfollows.ofKind_iff t).mp hkind
        obtain ⟨hpending, hactive⟩ := hreached old hold (hrun'.symm.trans hrun) hkind'
        refine ⟨fun hstill => ?_, fun job hjob hjid hstill => ?_⟩
        · -- a step that is still pending was pending before, so the loop cancelled it
          have hbefore : old.stepStatus = "PENDING" := by
            rcases hstatus with h | h
            · rw [← h, hstill]
            · rw [h] at hstill
              exact absurd hstill (by decide)
          have hrow : old ∈ pendingRows db t := List.mem_filter.mpr ⟨hold, hpending hbefore⟩
          rw [(hgone old hrow hkind'.2.2).1 new hnew hid] at hstill
          exact absurd hstill (by decide)
        · obtain ⟨job', hjob', hfollows'⟩ := hjobs job hjob
          rcases hfollows' with rfl | ⟨_, hcancelled⟩
          · obtain ⟨row, hrow, hlong, hrowKind, hrowJob⟩ :=
              hactive job hjob' (hjobId.symm.trans hjid) hstill
            have hmem : row ∈ pendingRows db t := List.mem_filter.mpr ⟨hrow, hlong⟩
            rw [(hgone row hmem hrowKind.2.2).2 job hjob hrowJob] at hstill
            revert hstill
            decide
          · rw [hcancelled] at hstill
            revert hstill
            decide
      · refine ⟨by simp [blockStep], fun job _ hid => ?_⟩
        cases hid

/-! ## What a block leaves alone -/

theorem untouched_of_ownJobs {db : ContinuityDb} {t : BlockTarget} (hown : OwnJobs db t)
    (lane reason : String) (clocks : Clocks) (refusal : Option String) :
    let db' := (terminallyBlockLongContinuation db t lane reason clocks refusal).1
    ∀ other ∈ db.steps.rows, ¬ other.ofKind t → other ∈ db'.steps.rows ∧
      ∀ job ∈ db.jobs.rows, other.schedulerJobId = some job.id → job ∈ db'.jobs.rows := by
  intro db' other hother hkind
  by_cases hkey : ∃ s ∈ db.steps.rows, s.HoldsKey t
  · obtain ⟨s, hs, hkey⟩ := hkey
    obtain ⟨id, hcall⟩ := block_taken hs hkey lane reason clocks refusal
    have hdb : db' = db := by
      dsimp only [db']
      rw [hcall]
    rw [hdb]
    exact ⟨hother, fun job hjob _ => hjob⟩
  · have hfree : ∀ s ∈ db.steps.rows, ¬ s.HoldsKey t := fun s hs h => hkey ⟨s, hs, h⟩
    obtain ⟨_, _, _, _, hkeptStep, hkeptJob⟩ :=
      cancelLong_cancels t.successorKind reason clocks (pendingRows db t) db
    have hofKind : ∀ row ∈ pendingRows db t, row.payloadKind = .str t.successorKind →
        row ∈ db.steps.rows ∧ row.pendingLong t = true ∧ row.ofKind t := by
      intro row hrow hpayload
      obtain ⟨hmem, hlong⟩ := List.mem_filter.mp hrow
      have hcolumns := hlong
      simp only [RunStep.pendingLong, decide_eq_true_eq] at hcolumns
      exact ⟨hmem, hlong, hcolumns.2.1, hcolumns.2.2.1, hpayload⟩
    have hstep := hkeptStep other hother fun row hrow hpayload hid => by
      obtain ⟨hmem, _, hrowKind⟩ := hofKind row hrow hpayload
      rw [db.steps.eq_of_key hmem hother hid] at hrowKind
      exact hkind hrowKind
    have hjobs : ∀ job ∈ db.jobs.rows, other.schedulerJobId = some job.id → job ∈
        (cancelLong t.successorKind reason clocks (pendingRows db t) db).1.jobs.rows := by
      intro job hjob hid
      refine hkeptJob job hjob fun row hrow hpayload hrowJob => ?_
      obtain ⟨hmem, hlong, hrowKind⟩ := hofKind row hrow hpayload
      refine hown row hmem hlong hrowKind other hother hkind ?_ (hid.trans hrowJob.symm)
      rw [hrowJob]
      exact Option.some_ne_none _
    rcases block_free hfree with ⟨hdb, _⟩ | ⟨cancelled, _, hcall⟩
    · dsimp only [db']
      rw [hdb]
      exact ⟨hstep, hjobs⟩
    · dsimp only [db']
      rw [hcall]
      exact ⟨mem_recorded.mpr (Or.inl hstep), hjobs⟩

/-! ## Every run -/

/-- What every state of a run under the condition meets. -/
structure Sound (s : ContinuityState) : Prop where
  legible : LegibleWindows s.db
  marked : ∀ t ∈ s.blocked, Marked s.db t

variable {R} in
theorem Sound.faithful {s : ContinuityState} (h : Sound s) : Faithful R s :=
  ⟨usedUp_of_legible h.legible, fun t ht => blockedForGood_of_marked (h.marked t ht)⟩

theorem sound_start (steps : Table RunStep.id) (jobs : Jobs) : Sound (.start steps jobs) where
  legible := by
    intro w hw
    cases hw
  marked := by
    intro t ht
    cases ht

theorem sound_insertWindow {s : ContinuityState} (h : Sound s) {w : MemoryWindow}
    (hw : Regular s (.insertWindow w)) : Sound (continuityStep s (.insertWindow w)) where
  legible := by
    intro w' hw' v hv
    have hcases : w' ∈ s.db.windows.rows ∨
        w' = { w with id := nextRowid (s.db.windows.rows.map (·.id)) } := by
      simpa [continuityStep, ContinuityDb.insertWindow] using hw'
    rcases hcases with hw' | rfl
    · exact h.legible w' hw' v hv
    · exact hw v hv
  marked := h.marked

theorem sound_block {s : ContinuityState} (h : Sound s) {t : BlockTarget} {lane reason : String}
    {clocks : Clocks} {refusal : Option String}
    (hregular : Regular s (.block t lane reason clocks refusal)) :
    Sound (continuityStep s (.block t lane reason clocks refusal)) := by
  obtain ⟨_, hreached, hfits⟩ := hregular
  have hblocks := block_blocks s.db t lane reason clocks refusal
  have hlegible :
      LegibleWindows (terminallyBlockLongContinuation s.db t lane reason clocks refusal).1 := by
    intro w hw
    rw [hblocks.windows] at hw
    exact h.legible w hw
  have hkept : ∀ t' ∈ s.blocked,
      Marked (terminallyBlockLongContinuation s.db t lane reason clocks refusal).1 t' :=
    fun t' ht' => marked_of_blocks hblocks (h.marked t' ht')
  dsimp only [continuityStep]
  split
  · rename_i result hok
    refine ⟨hlegible, fun t' ht' => ?_⟩
    rcases List.mem_cons.mp ht' with rfl | ht'
    · exact marked_of_block hreached hfits hok
    · exact hkept t' ht'
  · exact ⟨hlegible, hkept⟩

theorem sound_step (s : ContinuityState) (c : ContinuityCall) (h : Sound s) (hc : Regular s c) :
    Sound (continuityStep s c) := by
  cases c with
  | insertWindow w => exact sound_insertWindow h hc
  | block t lane reason clocks refusal => exact sound_block h hc

/-- In every run whose calls meet the condition, a predecessor that is named is used up, a
blocked transition is blocked for good, and a block leaves the others alone. -/
theorem predecessors_used_once (steps : Table RunStep.id) (jobs : Jobs)
    (calls : List ContinuityCall)
    (h : Along continuityStep Regular (ContinuityState.start steps jobs) calls) :
    Throughout continuityStep (Faithful R) (ContinuityState.start steps jobs) calls ∧
      Along continuityStep Untouched (ContinuityState.start steps jobs) calls := by
  have hstart := sound_start steps jobs
  constructor
  · intro pre hpre
    obtain ⟨rest, rfl⟩ := hpre
    have hsound := invariant_along sound_step hstart ((along_append _).mp h).1
    exact hsound.faithful
  · refine along_of_invariant sound_step (fun s c _ hc => ?_) hstart h
    cases c with
    | insertWindow w => trivial
    | block t lane reason clocks refusal =>
      exact untouched_of_ownJobs hc.1 lane reason clocks refusal

/-! ## A window and a block of one pair -/

def demoStep (id : ℤ) (kind : String) : RunStep where
  id := id
  runId := "run-1"
  stepKey := kind
  stepKind := "LONG_CONTINUATION_FAST"
  stepStatus := "PENDING"
  tokenId := some 1
  pairId := some 2
  trackingLane := some "TRACK_FAST"
  schedulerJobId := some id
  snapshotId := none
  memoryWindowId := none
  result := some (.dict [("successor_window_kind", .str kind)])
  errorOrSkipReason := none
  finishedAt := none
  updatedAt := "2026-07-20T00:00:00+00:00"

def demoJob (id : ℤ) : Job where
  id := id
  jobName := "long continuation"
  jobKind := .trackFast4h
  targetTable := some "printer_factory_run_steps"
  targetId := some id
  priority := 3
  status := .pending
  scheduledFor := "2026-07-20T00:00:00+00:00"
  startedAt := none
  finishedAt := none
  lockedAt := none
  lockOwner := none
  retryCount := 0
  lastError := none
  updatedAt := "2026-07-20T00:00:00+00:00"

/-- A step of two kinds each, with a job for each. -/
def demoSteps : Table RunStep.id := ⟨[demoStep 1 "WINDOW_4H", demoStep 2 "WINDOW_12H"], by decide⟩

def demoJobs : Jobs := ⟨[demoJob 1, demoJob 2], by decide⟩

/-- A 1h window of the pair, under the given context. -/
def demoWindow (context : Dict) : MemoryWindow where
  id := 0
  tokenId := 1
  pairId := some 2
  windowKind := "WINDOW_1H"
  windowStatus := some "WINDOW_CLOSED"
  snapshotEndId := some 9
  closedAt := some "2026-07-20T00:00:00+00:00"
  windowEndAt := none
  supportingContext := some (.dict context)

def demoRendering : Value.Rendering := ⟨fun _ => "", fun _ => ""⟩

def demoTarget : BlockTarget := ⟨"run-1", 1, 2, "WINDOW_4H"⟩

def demoCalls : List ContinuityCall :=
  [.insertWindow (demoWindow [("continuation_of_window_id", .int 7)]),
    .block demoTarget "TRACK_FAST" "closing snapshot missing" ⟨0, "2026-07-20 00:00:00"⟩ none]

theorem predecessors_used_once_demo :
    Along continuityStep Regular (ContinuityState.start demoSteps demoJobs) demoCalls ∧
      Faithful demoRendering
        (run continuityStep (ContinuityState.start demoSteps demoJobs) demoCalls) := by
  have hregular :
      Along continuityStep Regular (ContinuityState.start demoSteps demoJobs) demoCalls := by
    refine ⟨fun v hv => ?_, ?_, trivial⟩
    · obtain rfl := Option.some.inj hv
      refine ⟨_, rfl, Or.inl ⟨7, by decide, fun q hq => ?_⟩⟩
      cases hq
    · exact ⟨by decide, by decide, by decide⟩
  have hfaithful :=
    (predecessors_used_once demoRendering demoSteps demoJobs demoCalls hregular).1
  exact ⟨hregular, hfaithful demoCalls (List.prefix_refl _)⟩

/-- A 1h window that names its predecessor in its continuity block alone does not use it up. -/
theorem not_faithful_nested :
    ¬ Throughout continuityStep (Faithful demoRendering)
      (ContinuityState.start Table.empty Table.empty)
      [.insertWindow (demoWindow
        [("continuity", .dict [("continuation_of_window_id", .int 7)])])] := by
  intro h
  have husedUp := (h _ (List.prefix_refl _)).1
  have hconsumed := (husedUp _ (List.mem_singleton.mpr rfl) 2 rfl 7
    ⟨_, rfl, Or.inr (by decide)⟩).2.1 rfl none (by decide)
  obtain ⟨ids, hids, hmem⟩ := hconsumed
  obtain rfl : ids = [] := (Except.ok.inj hids).symm
  cases hmem

end PrinterV1.Snapshots
