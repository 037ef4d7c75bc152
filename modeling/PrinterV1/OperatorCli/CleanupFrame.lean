import PrinterV1.Foundation.Runs
import PrinterV1.OperatorCli.CampaignCleanup
import PrinterV1.OperatorCli.LeaseSafety

/-!
# What the cleanup of a run leaves and what it leaves alone

A cleanup ends everything its run owns and changes no row of another campaign or
run, but for the jobs: one that another campaign or run owns as well is cancelled
with the others. A later cleanup keeps what the first one recorded.
-/

namespace PrinterV1.OperatorCli

open Python Scheduler Runs

/-! ## The frame -/

/-- Every row of another campaign or run, and every job that one owns, is the same. -/
structure Framed (db db' : CampaignDb) (ids : SupervisionIds) : Prop where
  schedulerWork : (db'.schedulerWork.rows.filter fun r =>
      ¬(r.campaignId = ids.campaignId ∧ r.runId = ids.runId)) =
    db.schedulerWork.rows.filter fun r => ¬(r.campaignId = ids.campaignId ∧ r.runId = ids.runId)
  discoveryWork : (db'.discoveryWork.rows.filter fun r =>
      ¬(r.campaignId = ids.campaignId ∧ r.runId = ids.runId)) =
    db.discoveryWork.rows.filter fun r => ¬(r.campaignId = ids.campaignId ∧ r.runId = ids.runId)
  discoveryBatches : (db'.discoveryBatches.rows.filter fun r =>
      ¬(r.campaignId = ids.campaignId ∧ r.runId = ids.runId)) =
    db.discoveryBatches.rows.filter fun r => ¬(r.campaignId = ids.campaignId ∧ r.runId = ids.runId)
  windows : (db'.windows.rows.filter fun r =>
      ¬(r.campaignId = ids.campaignId ∧ r.runId = ids.runId)) =
    db.windows.rows.filter fun r => ¬(r.campaignId = ids.campaignId ∧ r.runId = ids.runId)
  cycles : (db'.cycles.rows.filter fun r =>
      ¬(r.campaignId = ids.campaignId ∧ r.runId = ids.runId)) =
    db.cycles.rows.filter fun r => ¬(r.campaignId = ids.campaignId ∧ r.runId = ids.runId)
  runs : (db'.runs.rows.filter fun r =>
      ¬(r.campaignId = ids.campaignId ∧ r.identity = ids.runId)) =
    db.runs.rows.filter fun r => ¬(r.campaignId = ids.campaignId ∧ r.identity = ids.runId)
  campaigns : (db'.campaigns.rows.filter fun r => r.identity ≠ ids.campaignId) =
    db.campaigns.rows.filter fun r => r.identity ≠ ids.campaignId
  jobs : (db'.jobs.rows.filter fun j => db.ownsElsewhere ids.campaignId ids.runId j.id) =
    db.jobs.rows.filter fun j => db.ownsElsewhere ids.campaignId ids.runId j.id
  tokenSlots : db'.tokenSlots = db.tokenSlots
  factoryRuns : db'.factoryRuns = db.factoryRuns
  runSteps : db'.runSteps = db.runSteps
  selectedItemLinks : db'.selectedItemLinks = db.selectedItemLinks
  trackingQueue : db'.trackingQueue = db.trackingQueue

theorem Framed.refl (db : CampaignDb) (ids : SupervisionIds) : Framed db db ids :=
  ⟨rfl, rfl, rfl, rfl, rfl, rfl, rfl, rfl, rfl, rfl, rfl, rfl, rfl⟩

/-- No work of the run is active, and no job that it owns is active or locked. -/
structure Clean (db : CampaignDb) (ids : SupervisionIds) : Prop where
  schedulerWork : ∀ r ∈ db.schedulerWork.rows, r.campaignId = ids.campaignId → r.runId = ids.runId →
    r.state ∉ activeWorkStates
  discoveryWork : ∀ r ∈ db.discoveryWork.rows, r.campaignId = ids.campaignId → r.runId = ids.runId →
    r.state ∉ activeWorkStates
  jobs : ∀ j ∈ db.jobs.rows, db.owns ids.campaignId ids.runId j.id = true → uncleared j = false

/-- An active or locked job of the run is another campaign's or run's too. -/
def CancelsForeignJob (db : CampaignDb) (ids : SupervisionIds) : Prop :=
  ∃ j ∈ db.jobs.rows, uncleared j = true ∧ db.owns ids.campaignId ids.runId j.id = true ∧
    db.ownsElsewhere ids.campaignId ids.runId j.id = true

section Tables

variable {db : CampaignDb} {ids : SupervisionIds} {status : TerminalStatus}
variable {cause timestamp : String}

theorem uncleared_cancelJob (cause timestamp : String) (j : Job) :
    uncleared ((cancelJob cause timestamp).apply j) = false := by
  simp [uncleared, cancelJob]

theorem cancelJob_ne {j : Job} (h : uncleared j = true) :
    (cancelJob cause timestamp).apply j ≠ j := by
  intro heq
  have hcleared := uncleared_cancelJob cause timestamp j
  rw [heq, h] at hcleared
  cases hcleared

/-- The updates leave the ownership of jobs as it is. -/
theorem owns_cleanupTables (db : CampaignDb) (ids : SupervisionIds) (status : TerminalStatus)
    (cause timestamp : String) (jobId : ℤ) :
    (cleanupTables db ids.campaignId ids.runId status cause timestamp).owns ids.campaignId
      ids.runId jobId = db.owns ids.campaignId ids.runId jobId := by
  unfold CampaignDb.owns CampaignDb.worksOn CampaignDb.discoversWith cleanupTables
  congr 1
  · exact Table.any_updateWhere fun _ => rfl
  · exact Table.any_updateWhere fun _ => rfl

theorem clean_cleanupTables (db : CampaignDb) (ids : SupervisionIds) (status : TerminalStatus)
    (cause timestamp : String) :
    Clean (cleanupTables db ids.campaignId ids.runId status cause timestamp) ids := by
  refine ⟨?_, ?_, ?_⟩
  · intro r hr hcampaign hrun hactive
    rcases Table.mem_updateWhere_iff.mp hr with ⟨_, hp⟩ | ⟨old, _, _, rfl⟩
    · simp [hcampaign, hrun, hactive] at hp
    · simp [cancelWork, endRow, activeWorkStates] at hactive
  · intro r hr hcampaign hrun hactive
    rcases Table.mem_updateWhere_iff.mp hr with ⟨_, hp⟩ | ⟨old, _, _, rfl⟩
    · simp [hcampaign, hrun, hactive] at hp
    · simp [failDiscovery, activeWorkStates] at hactive
  · intro j hj howns
    rw [owns_cleanupTables] at howns
    rcases Table.mem_updateWhere_iff.mp hj with ⟨_, hp⟩ | ⟨old, _, _, rfl⟩
    · simpa [howns] using hp
    · exact uncleared_cancelJob _ _ _

theorem owns_of_work {w : SchedulerWork} {jobId : ℤ} (hw : w ∈ db.schedulerWork.rows)
    (hcampaign : w.campaignId = ids.campaignId) (hrun : w.runId = ids.runId)
    (hjob : w.schedulerJobId = some jobId) : db.owns ids.campaignId ids.runId jobId = true := by
  unfold CampaignDb.owns
  rw [Bool.or_eq_true]
  exact Or.inl (List.any_eq_true.mpr ⟨w, hw, by simp [hcampaign, hrun, hjob]⟩)

theorem owns_of_discovery {w : DiscoveryWork} (hw : w ∈ db.discoveryWork.rows)
    (hcampaign : w.campaignId = ids.campaignId) (hrun : w.runId = ids.runId) :
    db.owns ids.campaignId ids.runId w.schedulerJobId = true := by
  unfold CampaignDb.owns
  rw [Bool.or_eq_true]
  exact Or.inr (List.any_eq_true.mpr ⟨w, hw, by simp [hcampaign, hrun]⟩)

/-- Clean tables count no active work. -/
theorem Clean.activeWork (h : Clean db ids) : db.activeWork ids.campaignId ids.runId = 0 := by
  unfold CampaignDb.activeWork
  rw [Table.countWhere_eq_zero_iff]
  intro w hw
  rw [decide_eq_false_iff_not]
  rintro ⟨hcampaign, hrun, hactive | huncleared⟩
  · exact h.schedulerWork w hw hcampaign hrun hactive
  · rw [Option.any_eq_true] at huncleared
    obtain ⟨j, hj, huncleared⟩ := huncleared
    obtain ⟨jobId, hjob, hfind⟩ := Option.bind_eq_some_iff.mp hj
    obtain ⟨hmem, rfl⟩ := Table.find?_eq_some_iff.mp hfind
    rw [h.jobs j hmem (owns_of_work hw hcampaign hrun hjob)] at huncleared
    cases huncleared

theorem Clean.activeDiscovery (h : Clean db ids) :
    db.activeDiscovery ids.campaignId ids.runId = 0 := by
  unfold CampaignDb.activeDiscovery
  rw [Table.countWhere_eq_zero_iff]
  intro w hw
  rw [decide_eq_false_iff_not]
  rintro ⟨hcampaign, hrun, hactive | huncleared⟩
  · exact h.discoveryWork w hw hcampaign hrun hactive
  · rw [Option.any_eq_true] at huncleared
    obtain ⟨j, hfind, huncleared⟩ := huncleared
    obtain ⟨hmem, hid⟩ := Table.find?_eq_some_iff.mp hfind
    rw [h.jobs j hmem (hid ▸ owns_of_discovery hw hcampaign hrun)] at huncleared
    cases huncleared

/-- The updates stay within the run, but for the jobs that others own too. -/
theorem framed_cleanupTables_iff
    (hrun : ∀ r ∈ db.runs.rows, r.identity = ids.runId → r.campaignId = ids.campaignId) :
    Framed db (cleanupTables db ids.campaignId ids.runId status cause timestamp) ids ↔
      ¬CancelsForeignJob db ids := by
  have hjobs : ((cleanupTables db ids.campaignId ids.runId status cause timestamp).jobs.rows.filter
        fun j => db.ownsElsewhere ids.campaignId ids.runId j.id) =
      (db.jobs.rows.filter fun j => db.ownsElsewhere ids.campaignId ids.runId j.id) ↔
      ¬CancelsForeignJob db ids := by
    simp only [cleanupTables]
    rw [Table.filter_updateWhere_iff fun _ => rfl]
    constructor
    · rintro h ⟨j, hj, huncleared, howns, helsewhere⟩
      exact cancelJob_ne huncleared (h j hj (by simp [howns, huncleared]) helsewhere)
    · intro h j hj hp helsewhere
      obtain ⟨howns, huncleared⟩ := of_decide_eq_true hp
      exact absurd ⟨j, hj, huncleared, howns, helsewhere⟩ h
  refine ⟨fun h => hjobs.mp h.jobs, fun h => ?_⟩
  refine ⟨?_, ?_, ?_, ?_, ?_, ?_, ?_, hjobs.mpr h, rfl, rfl, rfl, rfl, rfl⟩
  · exact Table.filter_updateWhere (fun _ => rfl) (by simp +contextual)
  · exact Table.filter_updateWhere (fun _ => rfl) (by simp +contextual)
  · exact Table.filter_updateWhere (fun _ => rfl) (by simp +contextual)
  · exact Table.filter_updateWhere (fun _ => rfl) (by simp +contextual)
  · exact Table.filter_updateWhere (fun _ => rfl) (by simp +contextual)
  · refine Table.filter_updateWhere (fun _ => rfl) fun r hr hp => ?_
    have hid : r.identity = ids.runId := of_decide_eq_true hp
    simp [hid, hrun r hr hid]
  · exact Table.filter_updateWhere (fun _ => rfl) (by simp +contextual)

end Tables

/-! ## The transaction -/

section Transaction

variable {db db' : SupervisedDb} {ids : SupervisionIds} {q : CleanupRequest} {row : Supervision}

/-- A supervision's run is one of its campaign. -/
theorem run_of_supervision (hrow : db.supervision.find? ids.supervisionId = some row)
    (hids : row.toSupervisionIds = ids) :
    ∀ r ∈ db.runs.rows, r.identity = ids.runId → r.campaignId = ids.campaignId := by
  intro r hr hid
  obtain ⟨run, hrun, hcampaign⟩ := db.linked row (Table.find?_eq_some_iff.mp hrow).1
  rw [hids] at hrun hcampaign
  obtain ⟨hmem, hkey⟩ := Table.find?_eq_some_iff.mp hrun
  rw [db.runs.eq_of_key hr hmem (hid.trans hkey.symm)]
  exact hcampaign

theorem clean_cleaned (db : SupervisedDb) (ids : SupervisionIds) (q : CleanupRequest) :
    Clean (cleaned db ids q).toCampaignDb ids :=
  clean_cleanupTables db.toCampaignDb ids q.status q.cause q.timestamp

/-- What the transaction asks of the database and of the cause. -/
structure Committed (db : CampaignDb) (ids : SupervisionIds) (q : CleanupRequest) : Prop where
  unshared : db.sharesWork ids.campaignId ids.runId = false
  consistent : db.inconsistent ids = false
  filled : Sqlite.filled q.cause = true

theorem cleanupActive_ok_iff :
    cleanupActive db ids q = .ok db' ↔ Committed db.toCampaignDb ids q ∧ db' = cleaned db ids q := by
  have hclean := clean_cleaned db ids q
  have hleft : ¬((cleaned db ids q).activeWork ids.campaignId ids.runId ≠ 0 ∨
      (cleaned db ids q).activeDiscovery ids.campaignId ids.runId ≠ 0) := by
    rw [hclean.activeWork, hclean.activeDiscovery]
    simp
  unfold cleanupActive
  rw [if_neg hleft]
  constructor
  · intro h
    obtain ⟨hunshared, h⟩ := Faults.check_ok h
    obtain ⟨hconsistent, h⟩ := Faults.check_ok h
    obtain ⟨hfilled, h⟩ := Faults.check_ok h
    exact ⟨⟨by simpa using hunshared, by simpa using hconsistent, not_not.mp hfilled⟩,
      (Except.ok.inj h).symm⟩
  · rintro ⟨h, rfl⟩
    simp [h.unshared, h.consistent, h.filled, pure, Except.pure]

theorem loadExact_ok_iff {row : Supervision} :
    loadExact row ids = .ok () ↔ row.toSupervisionIds = ids := by
  unfold loadExact
  split_ifs with h <;> simp [h]

/-- A transaction that ends well found the row of the call. -/
theorem cleanupTransaction_ok {c : CleanupCall} {result : ℕ → CleanupResult}
    (h : cleanupTransaction db c q = .ok (db', result)) :
    c.faults.transaction = none ∧
      ∃ row, db.supervision.find? c.ids.supervisionId = some row ∧ row.toSupervisionIds = c.ids ∧
        (row.supervisionState = .terminal ∧ db' = db ∧ result = replayResult row q ∨
          row.supervisionState ≠ .terminal ∧ Committed db.toCampaignDb c.ids q ∧
            db' = cleaned db c.ids q) := by
  obtain ⟨_, hfault, h⟩ := Faults.bind_ok h
  have hnone : c.faults.transaction = none := by
    cases hf : c.faults.transaction with
    | none => rfl
    | some f =>
      rw [hf] at hfault
      cases hfault
  refine ⟨hnone, ?_⟩
  cases hrow : db.supervision.find? c.ids.supervisionId with
  | none =>
    rw [hrow] at h
    cases h
  | some row =>
    rw [hrow] at h
    obtain ⟨_, hids, h⟩ := Faults.bind_ok h
    refine ⟨row, rfl, loadExact_ok_iff.mp hids, ?_⟩
    by_cases hterminal : row.supervisionState = .terminal
    · rw [if_pos hterminal] at h
      obtain ⟨rfl, rfl⟩ := Prod.mk.inj (Except.ok.inj h)
      exact Or.inl ⟨hterminal, rfl, rfl⟩
    · rw [if_neg hterminal] at h
      obtain ⟨db₁, hactive, h⟩ := Faults.bind_ok h
      obtain ⟨rfl, _⟩ := Prod.mk.inj (Except.ok.inj h)
      obtain ⟨hcommitted, hdb⟩ := cleanupActive_ok_iff.mp hactive
      exact Or.inr ⟨hterminal, hcommitted, hdb⟩

theorem cleanupTransaction_replay {c : CleanupCall} (hfault : c.faults.transaction = none)
    (hrow : db.supervision.find? c.ids.supervisionId = some row)
    (hids : row.toSupervisionIds = c.ids) (hterminal : row.supervisionState = .terminal) :
    cleanupTransaction db c q = .ok (db, replayResult row q) := by
  simp [cleanupTransaction, hfault, dbStep, hrow, loadExact_ok_iff.mpr hids, hterminal, bind,
    Except.bind, pure, Except.pure]

theorem cleanupTransaction_commits {c : CleanupCall} (hfault : c.faults.transaction = none)
    (hrow : db.supervision.find? c.ids.supervisionId = some row)
    (hids : row.toSupervisionIds = c.ids) (hactive : row.supervisionState ≠ .terminal)
    (h : Committed db.toCampaignDb c.ids q) :
    cleanupTransaction db c q =
      .ok (cleaned db c.ids q, cleanupResult db.toCampaignDb c.ids q) := by
  simp [cleanupTransaction, hfault, dbStep, hrow, loadExact_ok_iff.mpr hids, hactive,
    cleanupActive_ok_iff.mpr ⟨h, rfl⟩, bind, Except.bind, pure, Except.pure]

end Transaction

/-! ## The release -/

/-- Nothing after the transaction fails: the lease is gone, or the owner's and taken away. -/
structure Releases (s : CleanupState) (c : CleanupCall) (row : Supervision) : Prop where
  reading : c.faults.reading = none
  lookup : c.faults.release.lookup = none
  lock : s.locks row.leaseLockPath = .missing ∨
    Held c.faults.release.read (s.locks row.leaseLockPath) row.toSupervisionIds ∧
      c.faults.release.unlink = none ∧ c.faults.release.remains = false
  finish : c.faults.finish = none

theorem held_iff {f : ReadFaults} {file : LockFile} {ids : SupervisionIds} :
    Held f file ids ↔ ∃ payload, readExact f file ids = .ok payload := by
  constructor
  · rintro ⟨rfl, payload, rfl, hexact⟩
    exact ⟨payload, readExact_payload hexact⟩
  · rintro ⟨payload, h⟩
    obtain ⟨hf, hfile, hexact⟩ := readExact_ok h
    exact ⟨hf, payload, hfile, hexact⟩

theorem releaseLock_ok_iff {f : ReleaseFaults} {file : LockFile} {ids : SupervisionIds} :
    (releaseLock f file ids).1 = .ok true ↔ f.lookup = none ∧ (file = .missing ∨
      Held f.read file ids ∧ f.unlink = none ∧ f.remains = false) := by
  rw [held_iff]
  unfold releaseLock
  cases hlookup : f.lookup with
  | some message => simp
  | none =>
    cases file with
    | missing => simp
    | undecodable | ambiguous | payload =>
      cases hread : readExact f.read _ ids with
      | error e => simp
      | ok _ => cases hunlink : f.unlink <;> simp

/-- The end of a call returns just where it releases the lease, and writes its row only then. -/
theorem finishCleanup_error_or {s : CleanupState} {c : CleanupCall} (q : CleanupRequest)
    (result : ℕ → CleanupResult) {row : Supervision}
    (hrow : s.db.supervision.find? c.ids.supervisionId = some row) :
    Releases s c row ∧ (∃ r, (finishCleanup s c q result).1 = .ok r) ∧
        (finishCleanup s c q result).2.db =
          s.db.updateSupervision c.ids [.terminal] (releasedAt q.timestamp) ∨
      ¬Releases s c row ∧ (∃ e, (finishCleanup s c q result).1 = .error e) ∧
        (finishCleanup s c q result).2.db = s.db := by
  unfold finishCleanup
  rw [hrow]
  cases hreading : c.faults.reading with
  | some f => exact Or.inr ⟨fun h => (by cases h.reading.symm.trans hreading), ⟨_, rfl⟩, rfl⟩
  | none =>
    simp only [dbStep]
    have hiff : (releaseLock c.faults.release (s.locks row.leaseLockPath)
        row.toSupervisionIds).1 = .ok true ↔ _ := releaseLock_ok_iff
    cases hreleased : (releaseLock c.faults.release (s.locks row.leaseLockPath)
        row.toSupervisionIds).1 with
    | error e =>
      refine Or.inr ⟨fun h => ?_, ⟨e, rfl⟩, rfl⟩
      cases hreleased.symm.trans (hiff.mpr ⟨h.lookup, h.lock⟩)
    | ok gone =>
      cases gone with
      | false =>
        refine Or.inr ⟨fun h => ?_, ⟨_, rfl⟩, rfl⟩
        cases hreleased.symm.trans (hiff.mpr ⟨h.lookup, h.lock⟩)
      | true =>
        obtain ⟨hlookup, hlock⟩ := hiff.mp hreleased
        cases hfinish : c.faults.finish with
        | some f => exact Or.inr ⟨fun h => (by cases h.finish.symm.trans hfinish), ⟨_, rfl⟩, rfl⟩
        | none => exact Or.inl ⟨⟨hreading, hlookup, hlock, hfinish⟩, ⟨_, rfl⟩, rfl⟩

/-! ## One call -/

/-- The call raises and changes no row, or it leaves the run clean and the rest alone. -/
def CleanupHolds (s : CleanupState) (c : CleanupCall) : Prop :=
  (∃ e, (cleanupCampaignSupervision s c).1 = .error e) ∧ (cleanupStep s c).db = s.db ∨
    Clean (cleanupStep s c).db.toCampaignDb c.ids ∧
      Framed s.db.toCampaignDb (cleanupStep s c).db.toCampaignDb c.ids

/-- Where the call gets to its transaction: a supervision that has ended is of a clean run,
if its lease can be released; and a run that is cleaned up shares none of its active or
locked jobs. -/
def CleanupSound (s : CleanupState) (c : CleanupCall) : Prop :=
  ∀ q row, cleanupRequest c = .ok q → c.faults.transaction = none →
    s.db.supervision.find? c.ids.supervisionId = some row → row.toSupervisionIds = c.ids →
    (row.supervisionState = .terminal → Releases s c row → Clean s.db.toCampaignDb c.ids) ∧
      (row.supervisionState ≠ .terminal → Committed s.db.toCampaignDb c.ids q →
        ¬CancelsForeignJob s.db.toCampaignDb c.ids)

/-- The row of a supervision that has just been cleaned up is there. -/
theorem find?_cleaned {db : SupervisedDb} {ids : SupervisionIds} (q : CleanupRequest)
    {row : Supervision} (hrow : db.supervision.find? ids.supervisionId = some row) :
    ∃ row', (cleaned db ids q).supervision.find? ids.supervisionId = some row' := by
  have hfind : (cleaned db ids q).supervision.find? ids.supervisionId =
      (db.supervision.find? ids.supervisionId).map _ := Table.find?_updateWhere _
  rw [hfind, hrow]
  exact ⟨_, rfl⟩

/-- A call on a supervision that has ended: it returns just where it releases the lease. -/
theorem replay_holds_iff {s : CleanupState} {c : CleanupCall} {q : CleanupRequest}
    {result : ℕ → CleanupResult} {row : Supervision}
    (hrow : s.db.supervision.find? c.ids.supervisionId = some row) :
    ((∃ e, (finishCleanup s c q result).1 = .error e) ∧ (finishCleanup s c q result).2.db = s.db ∨
        Clean (finishCleanup s c q result).2.db.toCampaignDb c.ids ∧
          Framed s.db.toCampaignDb (finishCleanup s c q result).2.db.toCampaignDb c.ids) ↔
      (Releases s c row → Clean s.db.toCampaignDb c.ids) := by
  rcases finishCleanup_error_or q result hrow with
    ⟨hreleases, ⟨r, hr⟩, hdb⟩ | ⟨hreleases, herror, hdb⟩
  · rw [hr, hdb]
    constructor
    · rintro (⟨⟨e, he⟩, _⟩ | ⟨hclean, _⟩) _
      · cases he
      · exact hclean
    · intro h
      exact Or.inr ⟨h hreleases, Framed.refl _ _⟩
  · exact iff_of_true (Or.inl ⟨herror, hdb⟩) fun h => absurd h hreleases

/-- A call that cleans the run up: whatever becomes of the lease, its rows are committed. -/
theorem cleaned_holds_iff {s : CleanupState} (s' : CleanupState) {c : CleanupCall} {q : CleanupRequest}
    {result : ℕ → CleanupResult} {row : Supervision}
    (hrow : s.db.supervision.find? c.ids.supervisionId = some row)
    (hids : row.toSupervisionIds = c.ids) (hs' : s'.db = cleaned s.db c.ids q) :
    ((∃ e, (finishCleanup s' c q result).1 = .error e) ∧ (finishCleanup s' c q result).2.db = s.db ∨
        Clean (finishCleanup s' c q result).2.db.toCampaignDb c.ids ∧
          Framed s.db.toCampaignDb (finishCleanup s' c q result).2.db.toCampaignDb c.ids) ↔
      ¬CancelsForeignJob s.db.toCampaignDb c.ids := by
  obtain ⟨row', hrow'⟩ := find?_cleaned q hrow
  rw [← hs'] at hrow'
  have htables : (finishCleanup s' c q result).2.db.toCampaignDb =
      (cleaned s.db c.ids q).toCampaignDb := by
    rcases finishCleanup_error_or q result hrow' with ⟨_, _, hdb⟩ | ⟨_, _, hdb⟩
    · rw [hdb, hs']
      rfl
    · rw [hdb, hs']
  have hframed : Framed s.db.toCampaignDb (cleaned s.db c.ids q).toCampaignDb c.ids ↔
      ¬CancelsForeignJob s.db.toCampaignDb c.ids :=
    framed_cleanupTables_iff (run_of_supervision hrow hids)
  rw [htables, ← hframed]
  constructor
  · rintro (⟨_, hdb⟩ | ⟨_, h⟩)
    · rw [← htables, hdb]
      exact Framed.refl _ _
    · exact h
  · intro h
    exact Or.inr ⟨clean_cleaned s.db c.ids q, h⟩

theorem cleanupHolds_iff (s : CleanupState) (c : CleanupCall) :
    CleanupHolds s c ↔ CleanupSound s c := by
  unfold CleanupHolds CleanupSound cleanupStep cleanupCampaignSupervision
  cases hrequest : cleanupRequest c with
  | error e => simp
  | ok q =>
    simp only
    cases htransaction : cleanupTransaction s.db c q with
    | error e =>
      refine iff_of_true (Or.inl ⟨⟨e, rfl⟩, rfl⟩) ?_
      rintro q' row hq hfault hrow hids
      obtain rfl := Except.ok.inj hq
      refine ⟨fun hterminal => ?_, fun hactive hcommitted => ?_⟩
      · rw [cleanupTransaction_replay hfault hrow hids hterminal] at htransaction
        cases htransaction
      · rw [cleanupTransaction_commits hfault hrow hids hactive hcommitted] at htransaction
        cases htransaction
    | ok settled =>
      obtain ⟨db', result⟩ := settled
      obtain ⟨hfault, row, hrow, hids, ⟨hterminal, rfl, _⟩ | ⟨hactive, hcommitted, rfl⟩⟩ :=
        cleanupTransaction_ok htransaction
      · simp only
        rw [replay_holds_iff (s := s) hrow]
        constructor
        · rintro h q' row' _ _ hrow' _
          obtain rfl := Option.some.inj (hrow.symm.trans hrow')
          exact ⟨fun _ => h, fun hactive => absurd hterminal hactive⟩
        · intro h
          exact (h q row rfl hfault hrow hids).1 hterminal
      · simp only
        rw [cleaned_holds_iff { s with db := cleaned s.db c.ids q } hrow hids rfl]
        constructor
        · rintro h q' row' _ _ hrow' _
          obtain rfl := Option.some.inj (hrow.symm.trans hrow')
          exact ⟨fun hterminal => absurd hterminal hactive, fun _ _ => h⟩
        · intro h
          exact (h q row rfl hfault hrow hids).2 hactive hcommitted

/-! ## Later calls -/

/-- A supervision that has ended keeps its status, its cause and its times. -/
def FirstTerminalKept (s s' : CleanupState) : Prop :=
  ∀ supervisionId row, s.db.supervision.find? supervisionId = some row →
    row.supervisionState = .terminal →
    ∃ row', s'.db.supervision.find? supervisionId = some row' ∧
      row'.supervisionState = .terminal ∧ row'.terminalStatus = row.terminalStatus ∧
      row'.firstTerminalCause = row.firstTerminalCause ∧
      row'.cleanupCompletedAt = row.cleanupCompletedAt ∧
      (row.leaseReleasedAt ≠ none → row'.leaseReleasedAt = row.leaseReleasedAt)

/-- A call on a supervision that has ended changes no row of the campaign tables. -/
def LeavesTables (s : CleanupState) (c : CleanupCall) : Prop :=
  ∀ row, s.db.supervision.find? c.ids.supervisionId = some row →
    row.supervisionState = .terminal →
    (cleanupStep s c).db.toCampaignDb = s.db.toCampaignDb

theorem firstTerminalKept_refl (s : CleanupState) : FirstTerminalKept s s :=
  fun _ row hrow hterminal => ⟨row, hrow, hterminal, rfl, rfl, rfl, fun _ => rfl⟩

theorem FirstTerminalKept.trans {a b c : CleanupState} (hab : FirstTerminalKept a b)
    (hbc : FirstTerminalKept b c) : FirstTerminalKept a c := by
  intro supervisionId row hrow hterminal
  obtain ⟨row₁, hrow₁, hterminal₁, hstatus₁, hcause₁, hat₁, hreleased₁⟩ :=
    hab supervisionId row hrow hterminal
  obtain ⟨row₂, hrow₂, hterminal₂, hstatus₂, hcause₂, hat₂, hreleased₂⟩ :=
    hbc supervisionId row₁ hrow₁ hterminal₁
  refine ⟨row₂, hrow₂, hterminal₂, hstatus₂.trans hstatus₁, hcause₂.trans hcause₁, hat₂.trans hat₁,
    fun h => ?_⟩
  have hkept := hreleased₁ h
  rw [← hkept]
  exact hreleased₂ (by rwa [hkept])

/-- An update of supervisions that have not ended, or one that keeps what the end recorded. -/
theorem firstTerminalKept_update {s s' : CleanupState} (ids : SupervisionIds)
    (states : List SupervisionState) (u : SupervisionUpdate)
    (hdb : s'.db.supervision = (s.db.updateSupervision ids states u).supervision)
    (hu : ∀ r, .terminal ∈ states → r.supervisionState = .terminal →
      (u.apply r).supervisionState = .terminal ∧ (u.apply r).terminalStatus = r.terminalStatus ∧
      (u.apply r).firstTerminalCause = r.firstTerminalCause ∧
      (u.apply r).cleanupCompletedAt = r.cleanupCompletedAt ∧
      (r.leaseReleasedAt ≠ none → (u.apply r).leaseReleasedAt = r.leaseReleasedAt)) :
    FirstTerminalKept s s' := by
  intro supervisionId row hrow hterminal
  have hfind : s'.db.supervision.find? supervisionId =
      (s.db.supervision.find? supervisionId).map fun r =>
        if (decide (r.supervisionId = ids.supervisionId ∧ r.ownerId = ids.ownerId ∧
          r.supervisionState ∈ states)) then u.apply r else r := by
    rw [hdb]
    exact Table.find?_updateWhere _
  rw [hrow, Option.map_some] at hfind
  refine ⟨_, hfind, ?_⟩
  split_ifs with hp
  · have hstate : row.supervisionState ∈ states := (of_decide_eq_true hp).2.2
    rw [hterminal] at hstate
    exact hu row hstate hterminal
  · exact ⟨hterminal, rfl, rfl, rfl, fun _ => rfl⟩

theorem finishCleanup_firstTerminalKept {s : CleanupState} {c : CleanupCall} {q : CleanupRequest}
    {result : ℕ → CleanupResult} {row : Supervision}
    (hrow : s.db.supervision.find? c.ids.supervisionId = some row) :
    FirstTerminalKept s (finishCleanup s c q result).2 := by
  rcases finishCleanup_error_or q result hrow with ⟨_, _, hdb⟩ | ⟨_, _, hdb⟩
  · refine firstTerminalKept_update c.ids [.terminal] (releasedAt q.timestamp) (by rw [hdb])
      fun r _ hterminal => ?_
    refine ⟨hterminal, rfl, rfl, rfl, fun hreleased => ?_⟩
    cases hr : r.leaseReleasedAt with
    | none => exact absurd hr hreleased
    | some t => simp [releasedAt, hr]
  · intro supervisionId row hrow hterminal
    rw [← hdb] at hrow
    exact ⟨row, hrow, hterminal, rfl, rfl, rfl, fun _ => rfl⟩

theorem cleanupStep_firstTerminalKept (s : CleanupState) (c : CleanupCall) :
    FirstTerminalKept s (cleanupStep s c) := by
  unfold cleanupStep cleanupCampaignSupervision
  cases cleanupRequest c with
  | error e => exact firstTerminalKept_refl s
  | ok q =>
    simp only
    cases htransaction : cleanupTransaction s.db c q with
    | error e => exact firstTerminalKept_refl s
    | ok settled =>
      obtain ⟨db', result⟩ := settled
      obtain ⟨_, row, hrow, _, ⟨_, rfl, _⟩ | ⟨_, _, rfl⟩⟩ := cleanupTransaction_ok htransaction
      · exact finishCleanup_firstTerminalKept (s := s) hrow
      · obtain ⟨row', hrow'⟩ := find?_cleaned q hrow
        refine FirstTerminalKept.trans (b := { s with db := cleaned s.db c.ids q }) ?_
          (finishCleanup_firstTerminalKept hrow')
        exact firstTerminalKept_update c.ids [.active, .stopping] (terminate q) rfl
          fun _ hmem => by simp at hmem

theorem cleanupStep_leavesTables (s : CleanupState) (c : CleanupCall) : LeavesTables s c := by
  intro row hrow hterminal
  unfold cleanupStep cleanupCampaignSupervision
  cases cleanupRequest c with
  | error e => rfl
  | ok q =>
    simp only
    cases htransaction : cleanupTransaction s.db c q with
    | error e => rfl
    | ok settled =>
      obtain ⟨db', result⟩ := settled
      obtain ⟨_, row', hrow', _, ⟨_, rfl, _⟩ | ⟨hactive, _, _⟩⟩ :=
        cleanupTransaction_ok htransaction
      · rcases finishCleanup_error_or (s := s) q result hrow with ⟨_, _, hdb⟩ | ⟨_, _, hdb⟩
        · exact (congrArg SupervisedDb.toCampaignDb hdb).trans rfl
        · exact congrArg SupervisedDb.toCampaignDb hdb
      · obtain rfl := Option.some.inj (hrow.symm.trans hrow')
        exact absurd hterminal hactive

/-- A cleanup raises and changes no row, or leaves the run clean and everything of the
others as it was, exactly where no active or locked job is shared and no ended supervision
has active work; and over every sequence of calls the first end of a supervision is kept. -/
theorem cleanup_frame_and_replay (s : CleanupState) (c : CleanupCall) (calls : List CleanupCall) :
    (CleanupHolds s c ↔ CleanupSound s c) ∧ Kept cleanupStep FirstTerminalKept s calls ∧
      Along cleanupStep LeavesTables s calls := by
  refine ⟨cleanupHolds_iff s c, ?_, along_trivial cleanupStep cleanupStep_leavesTables s calls⟩
  exact (kept_iff_along firstTerminalKept_refl fun _ _ _ => FirstTerminalKept.trans).mpr
    (along_trivial cleanupStep cleanupStep_firstTerminalKept s calls)

/-! ## A job that two campaigns own -/

def openRow {σ : Type} (identity : String) (state : σ) : StateRow σ :=
  ⟨identity, state, none, none, "2026-07-27T20:00:00+00:00"⟩

def supervisedRow : Supervision where
  toSupervisionIds := renewedIds
  supervisionState := .active
  terminalStatus := none
  firstTerminalCause := none
  heartbeatAt := "2026-07-27T20:00:00+00:00"
  leaseExpiresAt := "2026-07-27T20:00:30+00:00"
  leaseLockPath := "/var/campaign.lock"
  cancellationRequestedAt := none
  cleanupCompletedAt := none
  leaseReleasedAt := none
  updatedAt := "2026-07-27T20:00:00+00:00"

/-- A running job, discovered with by the supervised run and worked on by another campaign. -/
def sharedJob : CampaignDb :=
  { CampaignDb.empty with
    jobs := ⟨[{
      id := 7
      jobName := "refresh"
      jobKind := .discoveryRefresh
      targetTable := none
      targetId := none
      priority := 1
      status := .running
      scheduledFor := "2026-07-27T20:00:00+00:00"
      startedAt := none
      finishedAt := none
      lockedAt := some "2026-07-27T20:00:00+00:00"
      lockOwner := some "worker"
      retryCount := 0
      lastError := none
      updatedAt := "2026-07-27T20:00:00+00:00" }], by decide⟩
    discoveryWork := ⟨[{
      toStateRow := openRow "discovery" .running
      discoveryBatchId := "batch"
      campaignId := "campaign"
      runId := "run"
      cycleId := "cycle"
      schedulerJobId := 7 }], by decide⟩
    schedulerWork := ⟨[{
      toStateRow := openRow "work" .running
      campaignId := "other-campaign"
      runId := "other-run"
      cycleId := "other-cycle"
      tokenSlotId := some "slot"
      windowId := some "window"
      workIntent := "COLLECT"
      deadlineAt := "2026-07-27T21:00:00+00:00"
      schedulerJobId := some 7
      sourceRequestId := none
      sourceResponseId := none
      sourceFailureId := none
      ownershipContractVersion := .v1WindowBound
      stageId := none
      workScope := none
      targetCategory := none
      targetIdentity := none
      factoryRunId := none }], by decide⟩
    runs := ⟨[{
      toStateRow := openRow "run" .running
      campaignId := "campaign"
      authoritativeRunId := none }], by decide⟩
    campaigns := ⟨[{ toStateRow := openRow "campaign" .running }], by decide⟩ }

def sharedState : CleanupState where
  db :=
    { sharedJob with
      supervision := ⟨[supervisedRow], by decide⟩
      linked := by decide }
  locks := fun _ => .missing

def cancelRun : CleanupCall :=
  ⟨renewedIds, "CANCELLED", "OPERATOR_STOP", tenSecondsLater, 0, .quiet⟩

/-- The job of the other campaign is cancelled with the run's. -/
theorem not_cleanupHolds_shared : ¬CleanupHolds sharedState cancelRun := by
  rw [cleanupHolds_iff]
  intro h
  have hrequest : cleanupRequest cancelRun =
      .ok ⟨.cancelled, "OPERATOR_STOP", "2026-07-27T20:00:10+00:00"⟩ := by decide
  have hcommitted : Committed sharedState.db.toCampaignDb cancelRun.ids
      ⟨.cancelled, "OPERATOR_STOP", "2026-07-27T20:00:10+00:00"⟩ :=
    ⟨by decide, by decide, by decide⟩
  refine (h _ supervisedRow hrequest rfl (by decide) rfl).2 (by decide) hcommitted ?_
  unfold CancelsForeignJob
  decide

end PrinterV1.OperatorCli
