import PrinterV1.Scheduler.Interleaving

/-!
# Active jobs of one purpose

No two active rows should have one name, kind and target. The duplicate check
of `enqueue_job` is a read of its own, and the updates of `claim_due_job` and
`fail_job` make a row active without any check. The three writes keep the rows
apart exactly when none of them makes a row active in a slot that is taken.
-/

namespace PrinterV1.Scheduler

open Python Runs

def Job.Active (r : Job) : Prop := r.status.Active

instance (r : Job) : Decidable r.Active := inferInstanceAs (Decidable r.status.Active)

/-- No two active jobs have one name, kind and target. -/
def NoActiveDuplicates (t : Jobs) : Prop := t.Exclusive Job.Active Job.slot

/-- An active row other than `id` has the slot. -/
def SlotTaken (t : Jobs) (slot : String × JobKind × Option String × Option ℤ) (id : ℤ) : Prop :=
  ∃ b ∈ t.rows, b.id ≠ id ∧ b.Active ∧ b.slot = slot

theorem insertJob_noActiveDuplicates_iff {t : Jobs} (ht : NoActiveDuplicates t) (a : EnqueueArgs) :
    NoActiveDuplicates (insertJob t a) ↔ ¬ SlotTaken t a.slot (nextJobId t) := by
  refine (Table.exclusive_insert_iff ht).trans ?_
  have hpending : JobStatus.pending.Active := by decide
  have hactive : (a.job (nextJobId t)).Active := hpending
  constructor
  · intro h htaken
    obtain ⟨b, hb, _, hlive, hslot⟩ := htaken
    exact h hactive b hb hlive hslot
  · intro h _ b hb hlive hslot
    exact h ⟨b, hb, nextJobId_fresh t a b hb, hlive, hslot⟩

/-- An update of one row that leaves its slot alone. -/
theorem updateKey_noActiveDuplicates_iff {t : Jobs} (ht : NoActiveDuplicates t) {jobId : ℤ}
    {u : Update Job.id} (hu : ∀ r, (u.apply r).slot = r.slot) :
    NoActiveDuplicates (t.updateKey jobId u) ↔
      ∀ r, t.find? jobId = some r → (u.apply r).Active → ¬ SlotTaken t r.slot jobId := by
  refine (Table.exclusive_updateKey_iff ht).trans ?_
  constructor
  · intro h r hfind hlive htaken
    obtain ⟨hr, hid⟩ := Table.find?_eq_some_iff.mp hfind
    obtain ⟨b, hb, hne, hb', hslot⟩ := htaken
    exact h r hr hid hlive b hb hne hb' (by rw [hu, hslot])
  · intro h r hr hid hlive b hb hne hb' hslot
    rw [hu] at hslot
    exact h r (Table.find?_eq_some_iff.mpr ⟨hr, hid⟩) hlive ⟨b, hb, hne, hb', hslot⟩

theorem claimUpdate_noActiveDuplicates_iff {t : Jobs} (ht : NoActiveDuplicates t) (jobId : ℤ)
    (lockOwner : String) (now : Instant) :
    NoActiveDuplicates (claimUpdate t jobId lockOwner now) ↔
      ∀ r, t.find? jobId = some r → ¬ SlotTaken t r.slot jobId := by
  refine (updateKey_noActiveDuplicates_iff ht fun _ => rfl).trans ?_
  have hrunning : JobStatus.running.Active := by decide
  have hactive : ∀ r, (claimRow lockOwner now r).Active := fun _ => hrunning
  simp only [hactive, true_implies]

theorem failUpdate_noActiveDuplicates_iff {t : Jobs} (ht : NoActiveDuplicates t) (jobId : ℤ)
    (u : FailUpdate) :
    NoActiveDuplicates (failUpdate t jobId u) ↔
      ∀ r, t.find? jobId = some r → u.status = .cooldown → ¬ SlotTaken t r.slot jobId := by
  refine (updateKey_noActiveDuplicates_iff ht fun _ => rfl).trans ?_
  have hactive : ∀ r, (u.row r).Active ↔ u.status = .cooldown := by
    intro r
    rcases u.ends with h | h <;> simp [FailUpdate.row, Job.Active, JobStatus.Active,
      activeJobStatuses, h]
  simp only [hactive]

/-- A row that ends is not active. -/
theorem finishUpdate_noActiveDuplicates {t : Jobs} (ht : NoActiveDuplicates t)
    {status : JobStatus} (h : status.Terminal) (jobId : ℤ) (now : Instant) :
    NoActiveDuplicates (finishUpdate status t jobId now) := by
  apply Table.Exclusive.updateWhere ht
  intro r _ _ hlive
  exact absurd hlive h.not_active

/-- A released row was active as a running one. -/
theorem releaseUpdate_noActiveDuplicates {t : Jobs} (ht : NoActiveDuplicates t)
    (staleBefore now : Instant) : NoActiveDuplicates (releaseUpdate t staleBefore now) := by
  apply Table.Exclusive.updateWhere ht
  intro r _ hstale _
  have hrunning : r.status = .running := by
    simp only [staleLock, Bool.and_eq_true, decide_eq_true_eq] at hstale
    exact hstale.1
  refine ⟨?_, rfl⟩
  unfold Job.Active
  rw [hrunning]
  decide

namespace Machine

variable {ω : Type*} [DecidableEq ω]

/-- The condition on one input: the insertion of a job, the update of a claim and
the update of a failure that cools down find no other active job in the slot of
the row they make active. -/
def ActivatesFreeSlot (s : Machine ω) (x : Input ω) : Prop :=
  ∀ client, x = .resume client →
    match s.pending client with
    | .enqueuing a => ¬ SlotTaken s.jobs a.slot (nextJobId s.jobs)
    | .claiming jobId _ _ => ∀ r, s.jobs.find? jobId = some r → ¬ SlotTaken s.jobs r.slot jobId
    | .failing jobId u => ∀ r, s.jobs.find? jobId = some r → u.status = .cooldown →
        ¬ SlotTaken s.jobs r.slot jobId
    | .idle => True

theorem noActiveDuplicates_step_iff {s : Machine ω} (hs : NoActiveDuplicates s.jobs)
    (x : Input ω) : NoActiveDuplicates (s.step x).jobs ↔ s.ActivatesFreeSlot x := by
  have hidle : (∀ other, x = .resume other → s.pending other = .idle) → s.ActivatesFreeSlot x := by
    intro h client hx
    rw [h client hx]
    trivial
  have hchange := change_step s x
  generalize s.step x = s' at hchange ⊢
  cases hchange with
  | read client p hx hclaim => exact iff_of_true hs (hidle hx)
  | stay hx => exact iff_of_true hs (hidle hx)
  | insert client a h =>
    simp [ActivatesFreeSlot, h, insertJob_noActiveDuplicates_iff hs]
  | acquire client jobId lockOwner now h =>
    simp [ActivatesFreeSlot, h, claimUpdate_noActiveDuplicates_iff hs]
  | fail client jobId u h =>
    simp [ActivatesFreeSlot, h, failUpdate_noActiveDuplicates_iff hs]
  | finish client call status jobId now h =>
    exact iff_of_true (finishUpdate_noActiveDuplicates hs h jobId now) (by simp [ActivatesFreeSlot])
  | release client call staleBefore now =>
    exact iff_of_true (releaseUpdate_noActiveDuplicates hs staleBefore now)
      (by simp [ActivatesFreeSlot])

/-- Every state of a run of interleaved calls from the empty table is without
active duplicates exactly when each write makes a row active in a free slot. -/
theorem noActiveDuplicates_throughout_iff (xs : List (Input ω)) :
    Throughout step (fun s : Machine ω => NoActiveDuplicates s.jobs) (idle Table.empty) xs ↔
      Along step ActivatesFreeSlot (idle Table.empty) xs :=
  throughout_iff_along (fun _ x hs => noActiveDuplicates_step_iff hs x) Table.exclusive_empty

/-- A job of one purpose, as two clients enqueue it. -/
def windowJob : EnqueueArgs :=
  { jobName := "window", jobKind := .memoryWindowClose, utcNow := 0, insertedAt := "" }

/-- Both clients look for a duplicate before either inserts its job. -/
def doubleEnqueue : List (Input ℕ) :=
  [.begin 0 (.enqueue windowJob), .begin 1 (.enqueue windowJob), .resume 0, .resume 1]

theorem doubleEnqueue_activeDuplicates :
    ¬ Throughout step (fun s : Machine ℕ => NoActiveDuplicates s.jobs) (idle Table.empty)
      doubleEnqueue := by
  intro h
  have hend := h doubleEnqueue (List.prefix_refl _)
  have hrows : (run step (idle Table.empty) doubleEnqueue).jobs.rows =
      [windowJob.job 1, windowJob.job 2] := by decide
  have hsame := hend (windowJob.job 1) (by simp [hrows]) (windowJob.job 2) (by simp [hrows])
    (by decide) (by decide) rfl
  exact absurd hsame (by decide)

end Machine
end PrinterV1.Scheduler
