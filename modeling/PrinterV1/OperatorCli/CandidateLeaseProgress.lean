import PrinterV1.OperatorCli.CandidateLeaseRuns

/-!
# When the transactions of a run get through

A run whose row is entered takes the lease exactly if its own lease was never
entered and no other is in force by its clock. It settles exactly if nobody took
the lease from it, and then it ends.
-/

namespace PrinterV1.OperatorCli.CandidateLease

open Python Faults

section Statements

variable {db : Db}

theorem write_of_constraints {integrations : Integrations} {leases : Leases}
    (h : Constraints integrations leases) : ∃ db, Db.write integrations leases = .ok db :=
  ⟨_, dif_pos h⟩

theorem updateIntegrations_isOk {p : Integration → Bool} {u : Update Integration.integrationId}
    (hu : ∀ r, (u.apply r).executionId = r.executionId)
    (hopen : ∀ r ∈ db.integrations.rows, p r = true → r.ending = none)
    (hchecked : ∀ r ∈ db.integrations.rows, p r = true → r.checked = true →
      (u.apply r).checked = true) : ∃ db', db.updateIntegrations p u = .ok db' := by
  unfold Db.updateIntegrations
  rw [if_neg (not_any_ended_iff.mpr hopen)]
  refine write_of_constraints ⟨?_, db.constraints.leasedIntegrations,
    db.constraints.leasedExecutions, db.constraints.oneLive, ?_, ?_, db.constraints.leaseChecks⟩
  · exact db.constraints.executions.updateWhere fun r _ _ _ => ⟨trivial, hu r⟩
  · intro l hl
    obtain ⟨i, hi, hid⟩ := db.constraints.references l hl
    exact ⟨updated p u i, Table.mem_updateWhere.mpr ⟨i, hi, rfl⟩,
      (updated_column u.key_apply p i).trans hid⟩
  · intro i hi
    obtain ⟨old, hold, rfl⟩ := mem_updated hi
    by_cases hp : p old = true
    · rw [updated_of hp]
      exact hchecked old hold hp (db.constraints.integrationChecks old hold)
    · rw [updated_of_not (by simpa using hp)]
      exact db.constraints.integrationChecks old hold

theorem endLease_isOk {p : Lease → Bool} {ending : Ending}
    (hlive : ∀ r ∈ db.leases.rows, p r = true → r.Live) :
    ∃ db', db.updateLeases p (endLease ending) = .ok db' := by
  unfold Db.updateLeases
  rw [if_neg (not_any_ended_iff.mpr hlive)]
  refine write_of_constraints ⟨db.constraints.executions, ?_, ?_, ?_, ?_,
    db.constraints.integrationChecks, ?_⟩
  · exact db.constraints.leasedIntegrations.updateWhere fun _ _ _ _ => ⟨trivial, rfl⟩
  · exact db.constraints.leasedExecutions.updateWhere fun _ _ _ _ => ⟨trivial, rfl⟩
  · exact db.constraints.oneLive.updateWhere fun _ _ _ h => nomatch h
  · intro l hl
    obtain ⟨old, hold, rfl⟩ := mem_updated hl
    obtain ⟨i, hi, hid⟩ := db.constraints.references old hold
    have hkept := @updated_column _ _ _ _ Lease.integrationId (endLease ending)
      (fun _ => rfl) p old
    exact ⟨i, hi, hid.trans hkept.symm⟩
  · intro l hl
    obtain ⟨old, hold, rfl⟩ := mem_updated hl
    rw [@updated_column _ _ _ _ Lease.checked _ (fun _ => rfl) p old]
    exact db.constraints.leaseChecks old hold

theorem insertLease_isOk {row : Lease} (hfresh : ∀ old ∈ db.leases.rows, old.leaseId ≠ row.leaseId)
    (hids : ∀ old ∈ db.leases.rows, old.integrationId ≠ row.integrationId ∧
      old.executionId ≠ row.executionId ∧ ¬old.Live)
    (hreference : ∃ i ∈ db.integrations.rows, i.integrationId = row.integrationId)
    (hchecked : row.checked = true) : ∃ db', db.insertLease row = .ok db' := by
  unfold Db.insertLease
  rw [dif_pos hfresh]
  refine write_of_constraints ⟨db.constraints.executions, ?_, ?_, ?_, ?_,
    db.constraints.integrationChecks, Table.forall_insert db.constraints.leaseChecks hchecked⟩
  · exact (Table.exclusive_insert_iff db.constraints.leasedIntegrations).mpr
      fun _ old hold _ => (hids old hold).1
  · exact (Table.exclusive_insert_iff db.constraints.leasedExecutions).mpr
      fun _ old hold _ => (hids old hold).2.1
  · exact (Table.exclusive_insert_iff db.constraints.oneLive).mpr
      fun _ old hold hlive => absurd hlive (hids old hold).2.2
  · exact Table.forall_insert db.constraints.references hreference

/-- An integration that goes on passes its checks with its owner. -/
theorem checked_of_open {i i' : Integration} (h : i.checked = true)
    (howner : i'.ownerId = i.ownerId) (hopen : i'.ending = none) : i'.checked = true := by
  simp only [Integration.checked, Bool.and_eq_true] at h ⊢
  rw [howner, hopen]
  exact ⟨h.1, rfl⟩

theorem checked_endIntegration {i : Integration} {ending : Ending} (h : i.checked = true)
    (hcause : Sqlite.filled ending.firstTerminalCause = true) :
    ((endIntegration ending).apply i).checked = true := by
  have howner : ((endIntegration ending).apply i).ownerId = i.ownerId := rfl
  have hending : ((endIntegration ending).apply i).ending = some ending := rfl
  simp only [Integration.checked, Bool.and_eq_true] at h ⊢
  rw [howner, hending, Option.all_some]
  exact ⟨h.1, hcause⟩

end Statements

section Calls

variable {db : Db} {a : RunArgs}

theorem terminalizeUnleased_isOk {ending : Ending}
    (hcause : Sqlite.filled ending.firstTerminalCause = true) :
    ∃ db', terminalizeUnleased db a ending = .ok db' := by
  refine updateIntegrations_isOk (fun _ => rfl) (fun r _ hp => ?_)
    fun r _ _ h => checked_endIntegration h hcause
  exact Option.isNone_iff_eq_none.mp (Bool.and_eq_true_iff.mp hp).2

theorem recover_isOk {l : Lease} (hl : l ∈ db.leases.rows) (hlive : l.Live) (now : String) :
    ∃ db', recover db l now = .ok db' := by
  obtain ⟨mid, hmid⟩ : ∃ mid, db.updateLeases (fun r => r.leaseId = l.leaseId)
      (endLease ⟨.blocked, leaseExpiredRecovered, now⟩) = .ok mid := by
    refine endLease_isOk fun r hr hp => ?_
    rw [db.leases.eq_of_key hr hl (of_decide_eq_true hp)]
    exact hlive
  have hcause : Sqlite.filled leaseExpiredRecovered = true := by decide
  obtain ⟨db', hdb'⟩ : ∃ db', terminalizeUnleased mid
      ⟨l.leaseId, l.integrationId, l.executionId, l.ownerId, l.mode⟩
      ⟨.blocked, leaseExpiredRecovered, now⟩ = .ok db' := terminalizeUnleased_isOk hcause
  refine ⟨db', ?_⟩
  simp only [recover, hmid, ok_bind]
  exact hdb'

theorem releaseLease_isOk {ending : Ending}
    (hleased : ∃ l ∈ db.leases.rows, l.leaseId = a.leaseId)
    (hcause : Sqlite.filled ending.firstTerminalCause = true) :
    ∃ db' es, releaseLease db a ending = .ok (db', es) := by
  obtain ⟨l, hl, hkey⟩ := hleased
  unfold releaseLease
  rw [Table.find?_eq_some_iff.mpr ⟨hl, hkey⟩]
  by_cases hlive : l.Live
  · obtain ⟨released, hreleased⟩ : ∃ released, db.updateLeases (fun r => r.leaseId = a.leaseId)
        (endLease ending) = .ok released := by
      refine endLease_isOk fun r hr hp => ?_
      rw [db.leases.eq_of_key hr hl ((of_decide_eq_true hp).trans hkey.symm)]
      exact hlive
    obtain ⟨ended, hended⟩ : ∃ ended, terminalizeUnleased released a ending = .ok ended :=
      terminalizeUnleased_isOk hcause
    refine ⟨ended, [.released a.leaseId], ?_⟩
    simp only [if_pos hlive, hreleased, ok_bind, hended]
    rfl
  · obtain ⟨ended, hended⟩ : ∃ ended, terminalizeUnleased db a ending = .ok ended :=
      terminalizeUnleased_isOk hcause
    refine ⟨ended, [], ?_⟩
    simp only [if_neg hlive, hended, ok_bind]
    rfl

theorem expiryAfter_isOk_iff {now : String} {leaseSeconds : ℤ} :
    (∃ expiry, expiryAfter now leaseSeconds = .ok expiry) ↔
      ∃ instant, parse now = .ok instant ∧ InRange (instant + seconds leaseSeconds) := by
  constructor
  · rintro ⟨expiry, h⟩
    obtain ⟨instant, hinstant, h⟩ := bind_ok h
    split_ifs at h with hrange
    exact ⟨instant, hinstant, hrange⟩
  · rintro ⟨instant, hinstant, hrange⟩
    refine ⟨instant + seconds leaseSeconds, ?_⟩
    unfold expiryAfter
    rw [hinstant, ok_bind, if_pos hrange]
    rfl

/-- Clearing gets through where the live lease, if there is one, has expired; no lease is lost,
and none is new. -/
theorem clearExpired_isOk_iff {now : String} :
    (∃ cleared, clearExpired db now = .ok cleared) ↔ ∀ l ∈ db.leases.rows, l.Live →
      ∃ expiry instant, parse l.leaseExpiresAt = .ok expiry ∧ parse now = .ok instant ∧
        expiry ≤ instant := by
  constructor
  · rintro ⟨cleared, h⟩ l hl hlive
    rcases clearExpired_cases h with ⟨hfree, -, -⟩ |
      ⟨m, hm, hmlive, expiry, instant, hexpiry, hinstant, hpassed, -, -⟩
    · exact absurd hlive (hfree l hl)
    · obtain rfl := db.leases.eq_of_key hl hm (db.constraints.oneLive l hl m hm hlive hmlive rfl)
      exact ⟨expiry, instant, hexpiry, hinstant, hpassed⟩
  · intro h
    unfold clearExpired
    cases hfind : db.leases.rows.find? fun r => r.Live with
    | none => exact ⟨_, rfl⟩
    | some l =>
      have hl : l ∈ db.leases.rows := List.mem_of_find?_eq_some hfind
      have hlive : l.Live := by simpa using List.find?_some hfind
      obtain ⟨expiry, instant, hexpiry, hinstant, hpassed⟩ := h l hl hlive
      obtain ⟨db', hdb'⟩ := recover_isOk hl hlive now
      refine ⟨(db', [.recovered l.leaseId instant]), ?_⟩
      simp only [hexpiry, hinstant, ok_bind, if_neg (not_lt.mpr hpassed), hdb']
      rfl

theorem leaseIds_clearExpired {db' : Db} {es : List Event} {now : String}
    (h : clearExpired db now = .ok (db', es)) {k : String}
    (hfresh : ∀ l ∈ db.leases.rows, l.leaseId ≠ k) : ∀ l ∈ db'.leases.rows, l.leaseId ≠ k := by
  rcases clearExpired_cases h with ⟨-, rfl, -⟩ | ⟨m, -, -, -, -, -, -, -, hrecover, -⟩
  · exact hfresh
  · obtain ⟨mid, hmid, hended⟩ := bind_ok hrecover
    intro l hl
    rw [(updateIntegrations_ok hended).2.2, (updateLeases_ok hmid).2.2] at hl
    obtain ⟨old, hold, rfl⟩ := mem_updated hl
    rw [updated_column (endLease _).key_apply]
    exact hfresh old hold

end Calls

variable {ι κ : Type*} {calls : ι → RunArgs} {s : System ι κ} {run : ι}

/-- A run that waits takes the lease exactly if it was never entered before and the one in force
has expired by the clock of the run. -/
theorem Inv.acquire_isOk_iff (h : Inv calls s) (hpc : s.pc run = .authorized) (now : String)
    (leaseSeconds : ℤ) :
    (∃ db' es, acquireLease s.db (calls run) now leaseSeconds = .ok (db', es)) ↔
      (∀ l ∈ s.db.leases.rows, l.leaseId ≠ (calls run).leaseId) ∧
        ∃ instant, parse now = .ok instant ∧ InRange (instant + seconds leaseSeconds) ∧
          ∀ l ∈ s.db.leases.rows, l.Live →
            ∃ expiry ≤ instant, parse l.leaseExpiresAt = .ok expiry := by
  have hplace : Place s.db (calls run) .authorized := hpc ▸ h.place run
  obtain ⟨hsound, hfree⟩ := @sound_clearExpired (fun _ => False) _ h.coupled now
  constructor
  · rintro ⟨db', es, hok⟩
    have hexpiry : ∃ expiry, expiryAfter now leaseSeconds = .ok expiry := by
      obtain ⟨cleared, -, hrest⟩ := bind_ok hok
      obtain ⟨expiry, hexpiry, -⟩ := bind_ok hrest
      exact ⟨expiry, hexpiry⟩
    obtain ⟨instant, hinstant, hrange⟩ := expiryAfter_isOk_iff.mp hexpiry
    obtain ⟨cleared, expiry, leased, hcleared, -, hleased, -, -⟩ := acquireLease_cases hok
    refine ⟨fun l hl heq => ?_, instant, hinstant, hrange, fun l hl hlive => ?_⟩
    · obtain ⟨l', hl', hid, -⟩ := (hsound.frame _ _ hcleared).leases l hl
      exact (insertLease_ok hleased).choose l' hl' (hid.trans heq)
    · obtain ⟨expiry', instant', hparse, hinstant', hpassed⟩ :=
        clearExpired_isOk_iff.mp ⟨cleared, hcleared⟩ l hl hlive
      obtain rfl := Except.ok.inj (hinstant.symm.trans hinstant')
      exact ⟨expiry', hpassed, hparse⟩
  · rintro ⟨hfresh, instant, hinstant, hrange, hpassed⟩
    obtain ⟨cleared, hcleared⟩ : ∃ cleared, clearExpired s.db now = .ok cleared := by
      refine clearExpired_isOk_iff.mpr fun l hl hlive => ?_
      obtain ⟨expiry, hle, hparse⟩ := hpassed l hl hlive
      exact ⟨expiry, instant, hparse, hinstant, hle⟩
    obtain ⟨expiry, hexpiry⟩ := expiryAfter_isOk_iff.mpr ⟨instant, hinstant, hrange⟩
    have hframe := hsound.frame _ _ hcleared
    have hcleared' : Place cleared.1 (calls run) .authorized := hplace.frame hframe fun _ => id
    obtain ⟨own, hown, hownid, hownexec⟩ := hcleared'.entered trivial
    obtain ⟨leased, hleased⟩ :
        ∃ leased, cleared.1.insertLease ((calls run).lease now expiry) = .ok leased := by
      refine insertLease_isOk (leaseIds_clearExpired hcleared hfresh) (fun l hl => ?_)
        ⟨own, hown, hownid⟩ rfl
      refine ⟨hcleared'.unleased trivial l hl, fun hexec => ?_, hfree _ _ hcleared l hl⟩
      obtain ⟨i, hi, hid⟩ := cleared.1.constraints.references l hl
      have hsame : i.executionId = own.executionId :=
        ((hsound.coupled _ _ hcleared l hl i hi hid).1.trans hexec).trans hownexec.symm
      have hkey := cleared.1.constraints.executions i hi own hown trivial trivial hsame
      exact hcleared'.unleased trivial l hl (hid.symm.trans (hkey.trans hownid))
    obtain ⟨-, hints, -⟩ := insertLease_ok hleased
    obtain ⟨running, hrunning⟩ : ∃ running, leased.updateIntegrations
        (fun r => r.integrationId = (calls run).integrationId)
        (setIntegrationState .running now) = .ok running := by
      refine updateIntegrations_isOk (fun _ => rfl) (fun r hr hp => ?_)
        fun r _ _ hchecked => checked_of_open hchecked rfl rfl
      obtain ⟨i, hi, hid, hopen⟩ := hcleared'.waiting trivial
      rw [cleared.1.integrations.eq_of_key (hints ▸ hr) hi ((of_decide_eq_true hp).trans hid.symm)]
      exact hopen
    refine ⟨running, cleared.2 ++ [.acquired (calls run).leaseId expiry], ?_⟩
    simp only [acquireLease, hcleared, hexpiry, hleased, hrunning, ok_bind]
    rfl

/-- The counters of a run are written exactly if nobody has ended its lease. -/
theorem Inv.settle_isOk_iff (h : Inv calls s) (hpc : s.pc run = .holding ∨ s.pc run = .refused)
    (now : String) :
    (∃ db', CandidateLease.settle s.db (calls run) now = .ok db') ↔
      ∀ l ∈ s.db.leases.rows, l.integrationId = (calls run).integrationId → l.Live := by
  have hplace := h.place run
  have hentered : (s.pc run).Entered := by
    rcases hpc with hpc | hpc <;> rw [hpc] <;> trivial
  obtain ⟨own, hown, hownid, -⟩ := hplace.entered hentered
  constructor
  · rintro ⟨db', hok⟩ l hl hid
    have hopen := (updateIntegrations_ok hok).1 own hown (decide_eq_true hownid)
    exact (h.coupled l hl own hown (hownid.trans hid.symm)).2.symm.trans hopen
  · intro hlive
    have hopen : own.ending = none := by
      rcases hpc with hpc | hpc
      · obtain ⟨l, hl, -, hid⟩ := (hpc ▸ hplace : Place _ _ Pc.holding).leased trivial
        exact (h.coupled l hl own hown (hownid.trans hid.symm)).2.trans (hlive l hl hid)
      · obtain ⟨i, hi, hid, hopen⟩ := (hpc ▸ hplace : Place _ _ Pc.refused).waiting trivial
        rw [s.db.integrations.eq_of_key hown hi (hownid.trans hid.symm)]
        exact hopen
    have hsel : ∀ r ∈ s.db.integrations.rows,
        decide (r.integrationId = (calls run).integrationId) = true → r.ending = none := by
      intro r hr hp
      rw [s.db.integrations.eq_of_key hr hown ((of_decide_eq_true hp).trans hownid.symm)]
      exact hopen
    exact updateIntegrations_isOk (fun _ => rfl) hsel
      fun r hr hp hchecked => checked_of_open hchecked rfl (show r.ending = none from hsel r hr hp)

variable [DecidableEq ι]

/-- Where a transaction leaves its run. -/
theorem pc_perform (P : Pc → Prop) {result : Except Fault (Db × List Event)} {onOk onError : Pc}
    (hok : P onOk) (herror : ¬P onError) :
    P ((s.perform run result onOk onError).pc run) ↔ ∃ db' es, result = .ok (db', es) := by
  cases result with
  | error e => simpa [System.perform, Except.toOption] using herror
  | ok p =>
    obtain ⟨db', es⟩ := p
    simpa [System.perform, Except.toOption] using hok

theorem quiet_isOk_iff {result : Except Fault Db} :
    (∃ db' es, System.quiet result = .ok (db', es)) ↔ ∃ db', result = .ok db' := by
  cases result <;> simp [System.quiet, Except.map]

variable [DecidableEq κ]

/-- The counters of the run are written. -/
def Pc.Settled : Pc → Prop
  | .settledHolding | .settledRefused => True
  | _ => False

theorem Inv.settled_iff (h : Inv calls s) (hpc : s.pc run = .holding ∨ s.pc run = .refused)
    (now : String) :
    ((s.step calls (.settle run now)).pc run).Settled ↔
      ∀ l ∈ s.db.leases.rows, l.integrationId = (calls run).integrationId → l.Live := by
  rw [← h.settle_isOk_iff hpc now, ← quiet_isOk_iff]
  rcases hpc with hpc | hpc
  · have hstep : s.step calls (.settle run now) = s.perform run
        (System.quiet (CandidateLease.settle s.db (calls run) now)) .settledHolding .raised :=
      if_pos hpc
    rw [hstep]
    exact pc_perform Pc.Settled trivial id
  · have hstep : s.step calls (.settle run now) = s.perform run
        (System.quiet (CandidateLease.settle s.db (calls run) now)) .settledRefused .raised := by
      simp [System.step, hpc]
    rw [hstep]
    exact pc_perform Pc.Settled trivial id

/-- A run that has settled and names a cause ends. -/
theorem Inv.done_of_settled (h : Inv calls s) (hpc : (s.pc run).Settled) {ending : Ending}
    (hcause : Sqlite.filled ending.firstTerminalCause = true) :
    (s.step calls (.finish run ending)).pc run = .done := by
  have hplace := h.place run
  cases hcase : s.pc run with
  | settledHolding =>
    rw [hcase] at hplace
    obtain ⟨l, hl, hkey, -⟩ := hplace.leased trivial
    have hstep : s.step calls (.finish run ending) =
        s.perform run (releaseLease s.db (calls run) ending) .done .raised := if_pos hcase
    rw [hstep]
    exact (pc_perform (fun pc => pc = .done) rfl (by decide)).mpr
      (releaseLease_isOk ⟨l, hl, hkey⟩ hcause)
  | settledRefused =>
    have hstep : s.step calls (.finish run ending) = s.perform run
        (System.quiet (terminalizeUnleased s.db (calls run) ending)) .done .raised := by
      simp [System.step, hcase]
    rw [hstep]
    exact (pc_perform (fun pc => pc = .done) rfl (by decide)).mpr
      (quiet_isOk_iff.mpr (terminalizeUnleased_isOk hcause))
  | start | rejected | authorized | holding | refused | raised | done =>
    rw [hcase] at hpc
    exact False.elim hpc

/-- Whatever came before, a run that waits takes the lease exactly if it was never entered before
and the one in force has expired by the clock of the run. -/
theorem takes_lease_iff (calls : ι → RunArgs) (xs : List (Input ι κ)) (run : ι) (now : String)
    (leaseSeconds : ℤ)
    (hpc : (Runs.run (System.step calls) System.begin xs).pc run = .authorized) :
    let s := Runs.run (System.step calls) System.begin xs
    (s.step calls (.acquire run now leaseSeconds)).pc run = .holding ↔
      (∀ l ∈ s.db.leases.rows, l.leaseId ≠ (calls run).leaseId) ∧
        ∃ instant, parse now = .ok instant ∧ InRange (instant + seconds leaseSeconds) ∧
          ∀ l ∈ s.db.leases.rows, l.Live →
            ∃ expiry ≤ instant, parse l.leaseExpiresAt = .ok expiry := by
  intro s
  have hstep : s.step calls (.acquire run now leaseSeconds) =
      s.perform run (acquireLease s.db (calls run) now leaseSeconds) .holding .refused := if_pos hpc
  rw [hstep, ← (inv_run xs).acquire_isOk_iff hpc now leaseSeconds]
  exact pc_perform (fun pc => pc = .holding) rfl (by decide)

def twoRuns : Bool → RunArgs
  | false => ⟨"l1", "i1", "e1", "o1", .acquisitionOnlyN2⟩
  | true => ⟨"l2", "i2", "e2", "o2", .acquisitionOnlyN2⟩

/-- The second run comes when the lease of the first has just expired. -/
theorem second_takes_lease :
    ((Runs.run (System.step twoRuns) System.begin
      [.authorize false "t", .acquire false "2026-01-01T00:00:00+00:00" 60, .authorize true "t"] :
        System Bool Unit).step twoRuns
      (.acquire true "2026-01-01T00:01:00+00:00" 60)).pc true = .holding := by
  refine (takes_lease_iff twoRuns _ true _ 60 (by decide +kernel)).mpr
    ⟨by decide +kernel, ymdToDays 2026 1 1 * microsPerDay + seconds 60, by decide +kernel,
      by decide +kernel, fun l hl _ => ?_⟩
  have hrows : (Runs.run (System.step twoRuns) System.begin
      [.authorize false "t", .acquire false "2026-01-01T00:00:00+00:00" 60, .authorize true "t"] :
        System Bool Unit).db.leases.rows =
      [(twoRuns false).lease "2026-01-01T00:00:00+00:00"
        (ymdToDays 2026 1 1 * microsPerDay + seconds 60)] := by decide +kernel
  obtain rfl := List.mem_singleton.mp (hrows ▸ hl)
  exact ⟨_, le_rfl, by decide +kernel⟩

/-- The lease of a run at its work was ended by nobody but an acquisition that found it expired. -/
theorem live_iff_not_recovered (calls : ι → RunArgs) (xs : List (Input ι κ)) (run : ι)
    (hpc : (Runs.run (System.step calls) System.begin xs).pc run = .holding ∨
      (Runs.run (System.step calls) System.begin xs).pc run = .refused) {l : Lease}
    (hl : l ∈ (Runs.run (System.step calls) System.begin xs).db.leases.rows)
    (hid : l.integrationId = (calls run).integrationId) :
    l.Live ↔
      ∀ time, .recovered l.leaseId time ∉
        (Runs.run (System.step calls) System.begin xs).trace := by
  have hinv : Inv calls (Runs.run (System.step calls) System.begin xs) := inv_run xs
  obtain ⟨r, haccepts, hr⟩ := hinv.register
  constructor
  · intro hlive time hmem
    have hended := Leases.ended_of_mem_ends hmem trivial Leases.fresh_start haccepts
    obtain ⟨l', hl', hkey, hdead⟩ := (hr.ended _).mp hended
    rw [Table.eq_of_key _ hl' hl hkey] at hdead
    exact hdead hlive
  · intro hnot
    by_contra hdead
    obtain ⟨e, he, hlease, hends⟩ :=
      Leases.exists_ends haccepts ((hr.ended l.leaseId).mpr ⟨l, hl, rfl, hdead⟩)
    cases e with
    | released leaseId =>
      obtain ⟨run', hdone, l', hl', hkey, hid'⟩ := released_run xs he
      have hsame : l' = l := Table.eq_of_key _ hl' hl (hkey.trans hlease)
      have hentered : ((Runs.run (System.step calls) System.begin xs).pc run).Entered := by
        rcases hpc with hpc | hpc <;> rw [hpc] <;> trivial
      obtain rfl := hinv.distinct run' run (by rw [hdone]; trivial) hentered
        (hid'.symm.trans ((congrArg Lease.integrationId hsame).trans hid))
      rcases hpc with hpc | hpc <;> rw [hdone] at hpc <;> cases hpc
    | recovered leaseId time => exact hnot time (hlease ▸ he)
    | acquired _ _ | renewed _ _ | stopped _ => exact hends

/-- Whatever came before, a run at the end of its work settles exactly if its lease, if it has one,
is in force, which is if no acquisition has recovered it. -/
theorem settles_iff (calls : ι → RunArgs) (xs : List (Input ι κ)) (run : ι) (now : String)
    (hpc : (Runs.run (System.step calls) System.begin xs).pc run = .holding ∨
      (Runs.run (System.step calls) System.begin xs).pc run = .refused) :
    (((Runs.run (System.step calls) System.begin (xs ++ [.settle run now])).pc run).Settled ↔
      ∀ l ∈ (Runs.run (System.step calls) System.begin xs).db.leases.rows,
        l.integrationId = (calls run).integrationId → l.Live) ∧
      ∀ l ∈ (Runs.run (System.step calls) System.begin xs).db.leases.rows,
        l.integrationId = (calls run).integrationId →
          (l.Live ↔ ∀ time, .recovered l.leaseId time ∉
            (Runs.run (System.step calls) System.begin xs).trace) := by
  refine ⟨?_, fun l hl hid => live_iff_not_recovered calls xs run hpc hl hid⟩
  rw [Runs.run_append]
  exact (inv_run xs).settled_iff hpc now

/-- A run that holds the lease, which another was refused. -/
def overlapping : List (Input Bool Unit) :=
  [.authorize false "t", .acquire false "2026-01-01T00:00:00+00:00" 60, .authorize true "t",
    .acquire true "2026-01-01T00:00:30+00:00" 60]

theorem holding_settles :
    ((Runs.run (System.step twoRuns) System.begin (overlapping ++ [.settle false "t"])).pc
      false).Settled :=
  (settles_iff twoRuns overlapping false "t" (Or.inl (by decide +kernel))).1.mpr
    (by decide +kernel)

/-- A run that has settled ends when it names a cause, whatever came between, and leaves nothing
live behind. -/
theorem ends_of_settled (calls : ι → RunArgs) (xs : List (Input ι κ)) (run : ι) (ending : Ending)
    (hcause : Sqlite.filled ending.firstTerminalCause = true)
    (hpc : ((Runs.run (System.step calls) System.begin xs).pc run).Settled) :
    let s := Runs.run (System.step calls) System.begin (xs ++ [.finish run ending])
    s.pc run = .done ∧
      (∃ i ∈ s.db.integrations.rows, i.integrationId = (calls run).integrationId ∧
        i.ending ≠ none) ∧
      ∀ l ∈ s.db.leases.rows, l.integrationId = (calls run).integrationId → ¬l.Live := by
  intro s
  have hinv : Inv calls s := inv_run _
  have hdone : s.pc run = .done := by
    change (Runs.run (System.step calls) System.begin (xs ++ [.finish run ending])).pc run = .done
    rw [Runs.run_append]
    exact (inv_run xs).done_of_settled hpc hcause
  obtain ⟨i, hi, hid, hended⟩ := (hinv.place run).finished hdone
  refine ⟨hdone, ⟨i, hi, hid, hended⟩, fun l hl hl' hlive => hended ?_⟩
  exact (hinv.coupled l hl i hi (hid.trans hl'.symm)).2.trans hlive

/-- The run that holds the lease settles, another is refused, and the first gives it back. -/
theorem holding_ends :
    (Runs.run (System.step twoRuns) System.begin
      ((overlapping ++ [.settle false "t", .fail true]) ++ [.finish false ⟨.completed, "c", "t"⟩])).pc
        false = .done := by
  have hpc : (Runs.run (System.step twoRuns) System.begin
      (overlapping ++ [.settle false "t", .fail true])).pc false = .settledHolding := by
    decide +kernel
  exact (ends_of_settled twoRuns (overlapping ++ [.settle false "t", .fail true]) false
      ⟨.completed, "c", "t"⟩ (by decide) (by rw [hpc]; trivial)).1

end PrinterV1.OperatorCli.CandidateLease
