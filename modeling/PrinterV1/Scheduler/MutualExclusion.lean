import PrinterV1.Scheduler.Interleaving

/-!
# Claims of one job exclude each other

The guard of `claim_due_job` is checked on a row that was read earlier, and its
update is keyed by the id alone. So two claims of one job both return
`ACQUIRED` without a release between them exactly when an update of a claim
finds the row locked.
-/

namespace PrinterV1.Scheduler.Machine

open Python Runs

variable {ω : Type*}

def Acquires (jobId : ℤ) (e : Event ω) : Prop := ∃ client, e = .acquired client jobId

def Releases (jobId : ℤ) (e : Event ω) : Prop := e = .released jobId

/-- Between two claims of the job that return `ACQUIRED` its lock is released. -/
def SingleHolder (jobId : ℤ) (trace : List (Event ω)) : Prop :=
  Separated (Acquires jobId) (Releases jobId) trace

/-- A claim has returned `ACQUIRED` and the lock has not been released since. -/
def Held (jobId : ℤ) (trace : List (Event ω)) : Prop :=
  Open (Acquires jobId) (Releases jobId) trace

theorem releases_not_acquires (jobId : ℤ) (t : Jobs) (p : Job → Bool) :
    ∀ e ∈ (releases t p : List (Event ω)), ¬ Acquires jobId e := by
  intro e he h
  obtain ⟨r, _, _, rfl⟩ := mem_releases.mp he
  obtain ⟨client, h⟩ := h
  cases h

theorem releases_releases_iff (jobId : ℤ) (t : Jobs) (p : Job → Bool) :
    (∃ e ∈ (releases t p : List (Event ω)), Releases jobId e) ↔
      ∃ r, t.find? jobId = some r ∧ p r = true := by
  constructor
  · intro h
    obtain ⟨e, he, rfl⟩ := h
    obtain ⟨r, hr, hp, hid⟩ := mem_releases.mp he
    refine ⟨r, Table.find?_eq_some_iff.mpr ⟨hr, ?_⟩, hp⟩
    cases hid
    rfl
  · intro h
    obtain ⟨r, hfind, hp⟩ := h
    obtain ⟨hr, hid⟩ := Table.find?_eq_some_iff.mp hfind
    exact ⟨.released r.id, mem_releases.mpr ⟨r, hr, hp, rfl⟩, by simp [Releases, hid]⟩

theorem acquires_acquired {jobId jobId' : ℤ} {client : ω} :
    Acquires jobId (.acquired client jobId') ↔ jobId' = jobId := by
  constructor
  · intro h
    obtain ⟨other, h⟩ := h
    cases h
    rfl
  · intro h
    exact ⟨client, by rw [h]⟩

theorem held_append_acquired {jobId jobId' : ℤ} {client : ω} {trace : List (Event ω)} :
    Held jobId (trace ++ [.acquired client jobId']) ↔ jobId' = jobId ∨ Held jobId trace := by
  unfold Held
  rw [open_append_singleton, acquires_acquired]
  have hcloses : ¬ Releases jobId (.acquired client jobId') := by simp [Releases]
  simp [hcloses]

theorem held_append_releases {jobId : ℤ} {t : Jobs} {p : Job → Bool} {trace : List (Event ω)} :
    Held jobId (trace ++ releases t p) ↔
      Held jobId trace ∧ ∀ r, t.find? jobId = some r → p r = false := by
  unfold Held
  rw [open_append (releases_not_acquires jobId t p)]
  refine and_congr_right fun _ => ?_
  have h := not_congr (releases_releases_iff (ω := ω) jobId t p)
  simpa using h

theorem singleHolder_append_releases {jobId : ℤ} {t : Jobs} {p : Job → Bool}
    {trace : List (Event ω)} :
    SingleHolder jobId (trace ++ releases t p) ↔ SingleHolder jobId trace :=
  separated_append (releases_not_acquires jobId t p)

/-- The holder in the trace is a lock in the table, and a client that is about
to claim a locked row has been overtaken by that holder. -/
structure HolderInv (jobId : ℤ) (s : Machine ω) : Prop where
  held_locked : Held jobId s.trace → ∃ r, s.jobs.find? jobId = some r ∧ r.Locked
  claiming_row : ∀ client lockOwner now, s.pending client = .claiming jobId lockOwner now →
    ∃ r, s.jobs.find? jobId = some r ∧ (r.Locked → Held jobId s.trace)

theorem holderInv_idle (jobId : ℤ) (jobs : Jobs) : HolderInv jobId (idle jobs : Machine ω) where
  held_locked h := absurd h not_open_nil
  claiming_row client lockOwner now h := by simp [idle] at h

/-- A statement that unlocks the rows it matches and records their release. -/
theorem holderInv_unlock {jobId : ℤ} {s : Machine ω} (hs : HolderInv jobId s) {p : Job → Bool}
    {u : Update Job.id} (hu : ∀ r, ¬ (u.apply r).Locked) :
    HolderInv jobId (s.write (s.jobs.updateWhere p u) (releases s.jobs p)) where
  held_locked := by
    intro h
    obtain ⟨hheld, hmiss⟩ := held_append_releases.mp h
    obtain ⟨r, hfind, hlocked⟩ := hs.held_locked hheld
    refine ⟨r, ?_, hlocked⟩
    simp [Table.find?_updateWhere, hfind, hmiss r hfind]
  claiming_row := by
    intro client lockOwner now hpending
    obtain ⟨r, hfind, hr⟩ := hs.claiming_row client lockOwner now hpending
    by_cases hp : p r = true
    · exact ⟨u.apply r, by simp [Table.find?_updateWhere, hfind, hp], fun h => absurd h (hu r)⟩
    · refine ⟨r, by simp [Table.find?_updateWhere, hfind, hp], fun hlocked => ?_⟩
      refine held_append_releases.mpr ⟨hr hlocked, fun r' hfind' => ?_⟩
      obtain rfl : r' = r := Option.some.inj (hfind'.symm.trans hfind)
      simpa using hp

theorem holderInv_insert {jobId : ℤ} {s : Machine ω} (hs : HolderInv jobId s) (a : EnqueueArgs) :
    HolderInv jobId (s.write (insertJob s.jobs a) []) where
  held_locked := by
    intro h
    obtain ⟨r, hfind, hlocked⟩ := hs.held_locked (by simpa using h)
    exact ⟨r, find?_insertJob a hfind, hlocked⟩
  claiming_row := by
    intro client lockOwner now hpending
    obtain ⟨r, hfind, hr⟩ := hs.claiming_row client lockOwner now hpending
    exact ⟨r, find?_insertJob a hfind, by simpa using hr⟩

/-- The update of a claim, whose row is there because it was read. -/
theorem holderInv_acquire {jobId jobId' : ℤ} {s : Machine ω} (hs : HolderInv jobId s)
    {client : ω} {lockOwner : String} {now : Instant}
    (h : s.pending client = .claiming jobId' lockOwner now) :
    HolderInv jobId (s.write (claimUpdate s.jobs jobId' lockOwner now)
      [.acquired client jobId']) := by
  have hfind : ∀ r, s.jobs.find? jobId = some r →
      (claimUpdate s.jobs jobId' lockOwner now).find? jobId =
        some (if jobId = jobId' then claimRow lockOwner now r else r) := by
    intro r hr
    simp [claimUpdate, Table.find?_updateKey, hr]
  refine ⟨fun hheld => ?_, fun other lockOwner' now' hpending => ?_⟩
  · by_cases hj : jobId' = jobId
    · subst hj
      obtain ⟨r, hr, _⟩ := hs.claiming_row client lockOwner now h
      exact ⟨_, hfind r hr, by simpa using claimRow_locked lockOwner now r⟩
    · obtain ⟨r, hr, hlocked⟩ := hs.held_locked ((held_append_acquired.mp hheld).resolve_left hj)
      exact ⟨r, by simpa [Ne.symm hj] using hfind r hr, hlocked⟩
  · obtain ⟨r, hr, himp⟩ := hs.claiming_row other lockOwner' now' hpending
    refine ⟨_, hfind r hr, fun hlocked => held_append_acquired.mpr ?_⟩
    by_cases hj : jobId' = jobId
    · exact Or.inl hj
    · exact Or.inr (himp (by simpa [Ne.symm hj] using hlocked))

variable [DecidableEq ω]

/-- A client that is not left about to claim keeps the invariant. -/
theorem holderInv_wait {jobId : ℤ} {s : Machine ω} (hs : HolderInv jobId s) {client : ω}
    {p : Pending} (hp : ∀ lockOwner now, p = .claiming jobId lockOwner now →
      ∃ r, s.jobs.find? jobId = some r ∧ (r.Locked → Held jobId s.trace)) :
    HolderInv jobId (s.wait client p) := by
  refine ⟨hs.held_locked, fun other lockOwner now hpending => ?_⟩
  by_cases ho : other = client
  · subst ho
    rw [wait_pending_self] at hpending
    exact hp lockOwner now hpending
  · rw [wait_pending_of_ne ho] at hpending
    exact hs.claiming_row other lockOwner now hpending

theorem holderInv_step {jobId : ℤ} {s : Machine ω} (hs : HolderInv jobId s) (x : Input ω) :
    HolderInv jobId (s.step x) := by
  have hchange := change_step s x
  generalize s.step x = s' at hchange ⊢
  cases hchange with
  | read client p hx hclaim =>
    refine holderInv_wait hs fun lockOwner now hp => ?_
    obtain ⟨r, hfind, hfree, _⟩ := claimRead_eq_none (hclaim jobId lockOwner now hp)
    exact ⟨r, hfind, fun hlocked => absurd hlocked hfree⟩
  | stay hx => exact hs
  | insert client a h => exact holderInv_wait (holderInv_insert hs a) (by simp)
  | acquire client jobId' lockOwner now h =>
    exact holderInv_wait (holderInv_acquire hs h) (by simp)
  | fail client jobId' u h =>
    exact holderInv_wait (holderInv_unlock hs u.row_not_locked) (by simp)
  | finish client call status jobId' now h =>
    exact holderInv_unlock hs (finishRow_not_locked h now)
  | release client call staleBefore now => exact holderInv_unlock hs (releaseRow_not_locked now)

/-- The condition on one input: an update of a claim finds its job unlocked. -/
def ClaimsUnlocked (jobId : ℤ) (s : Machine ω) (x : Input ω) : Prop :=
  ∀ client lockOwner now, x = .resume client →
    s.pending client = .claiming jobId lockOwner now →
      ∀ r, s.jobs.find? jobId = some r → ¬ r.Locked

/-- Under the invariant the condition decides what one input does to the trace. -/
theorem singleHolder_step_iff {jobId : ℤ} {s : Machine ω} (hs : HolderInv jobId s) (x : Input ω) :
    SingleHolder jobId (s.step x).trace ↔
      SingleHolder jobId s.trace ∧ ClaimsUnlocked jobId s x := by
  have hno : (∀ client, x = .resume client → ∀ lockOwner now,
      s.pending client ≠ .claiming jobId lockOwner now) → ClaimsUnlocked jobId s x := by
    intro h client lockOwner now hx hpending
    exact absurd hpending (h client hx lockOwner now)
  have hchange := change_step s x
  generalize s.step x = s' at hchange ⊢
  cases hchange with
  | read client p hx hclaim =>
    have hc := hno fun other ho lockOwner now => by simp [hx other ho]
    simp [hc]
  | stay hx =>
    have hc := hno fun other ho lockOwner now => by simp [hx other ho]
    simp [hc]
  | insert client a h =>
    have hc := hno fun other ho lockOwner now => by cases ho; simp [h]
    simp [hc]
  | fail client jobId' u h =>
    have hc := hno fun other ho lockOwner now => by cases ho; simp [h]
    simp [hc, singleHolder_append_releases]
  | finish client call status jobId' now h =>
    have hc := hno fun other ho => by cases ho
    simp [hc, singleHolder_append_releases]
  | release client call staleBefore now =>
    have hc := hno fun other ho => by cases ho
    simp [hc, singleHolder_append_releases]
  | acquire client jobId' lockOwner now h =>
    have htrace : SingleHolder jobId (s.trace ++ [.acquired client jobId']) ↔
        SingleHolder jobId s.trace ∧ (jobId' = jobId → ¬ Held jobId s.trace) := by
      unfold SingleHolder
      rw [separated_append_singleton]
      refine and_congr_right fun _ => imp_congr ?_ Iff.rfl
      exact acquires_acquired
    refine htrace.trans (and_congr_right fun _ => ?_)
    constructor
    · intro hfree other lockOwner' now' ho hpending r hfind hlocked
      cases ho
      obtain ⟨rfl, _, _⟩ : jobId' = jobId ∧ lockOwner = lockOwner' ∧ now = now' := by
        simpa using h.symm.trans hpending
      obtain ⟨r', hfind', himp⟩ := hs.claiming_row client lockOwner now h
      obtain rfl : r' = r := Option.some.inj (hfind'.symm.trans hfind)
      exact hfree rfl (himp hlocked)
    · intro hc hj hheld
      subst hj
      obtain ⟨r, hfind, hlocked⟩ := hs.held_locked hheld
      exact hc client lockOwner now rfl h r hfind hlocked

/-- In a run of interleaved calls over any table, claims of a job exclude each
other exactly when no update of a claim finds the job locked. -/
theorem singleHolder_iff_claimsUnlocked (jobs : Jobs) (jobId : ℤ) (xs : List (Input ω)) :
    SingleHolder jobId (run step (idle jobs) xs).trace ↔
      Along step (ClaimsUnlocked jobId) (idle jobs) xs := by
  have h : SingleHolder jobId (run step (idle jobs) xs).trace ↔
      SingleHolder jobId (idle jobs : Machine ω).trace ∧
        Along step (ClaimsUnlocked jobId) (idle jobs) xs :=
    run_iff_along (P := fun s : Machine ω => SingleHolder jobId s.trace)
      (fun s x hs => holderInv_step hs x) (fun s x hs => singleHolder_step_iff hs x)
      (holderInv_idle jobId jobs)
  rw [h]
  exact and_iff_right separated_nil

/-- Two workers read the due job, and both of them update it. -/
def doubleClaim : List (Input ℕ) :=
  [.begin 0 (.claim 1 "A" 0), .begin 1 (.claim 1 "B" 0), .resume 0, .resume 1]

/-- One due job. -/
def oneDueJob : Jobs :=
  insertJob Table.empty
    { jobName := "window", jobKind := .memoryWindowClose, utcNow := 0, insertedAt := "" }

theorem doubleClaim_not_singleHolder :
    ¬ SingleHolder 1 (run step (idle oneDueJob) doubleClaim).trace := by
  intro h
  have htrace : (run step (idle oneDueJob) doubleClaim).trace =
      [.acquired 0 1, .acquired 1 1] := by decide
  obtain ⟨x, hx, _⟩ := h [] (.acquired 0 1) [] (.acquired 1 1) [] htrace ⟨0, rfl⟩ ⟨1, rfl⟩
  simp at hx

end PrinterV1.Scheduler.Machine
