import PrinterV1.OperatorCli.LeaseRenewal

/-!
# Lease renewal is monotone and fails safe

Over every sequence of renewals the times of the row never decrease and the first
recorded failure stays as it is. A renewal that is not confirmed leaves the row
and the lock file alone, and the call returns, unless a step fails once the lock
file has been replaced or neither store takes the failure.
-/

namespace PrinterV1.OperatorCli

open Python Runs

/-! ## What is kept -/

def TimesKept (a b : Supervision) : Prop :=
  b.heartbeatAt = a.heartbeatAt ∧ b.leaseExpiresAt = a.leaseExpiresAt

/-- Both times of the row were read, and both are later now. -/
def Advanced (a b : Supervision) : Prop :=
  ∃ heartbeat expiry heartbeat' expiry' : Instant,
    parse a.heartbeatAt = .ok heartbeat ∧ parse a.leaseExpiresAt = .ok expiry ∧
    parse b.heartbeatAt = .ok heartbeat' ∧ parse b.leaseExpiresAt = .ok expiry' ∧
    heartbeat < heartbeat' ∧ expiry < expiry'

def NotDecreased (a b : Supervision) : Prop := TimesKept a b ∨ Advanced a b

/-- An entry of the lock. -/
def LockFile.entry (file : LockFile) (key : String) : Value :=
  match file with
  | .payload entries => entries.get key
  | _ => .none

/-- The failure rows of both stores, where there are any, stay. -/
def FirstFailureKept (s s' : LeaseState) : Prop :=
  (∀ failure, s.heartbeatFailure = some failure → s'.heartbeatFailure = some failure) ∧
    (s.lock.entry leaseFailureFileKey ≠ .none →
      s'.lock.entry leaseFailureFileKey = s.lock.entry leaseFailureFileKey)

/-- The times and the state of the row and the times in the lock are the same. -/
structure Undisturbed (s s' : LeaseState) : Prop where
  times : TimesKept s.row s'.row
  state : s'.row.supervisionState = s.row.supervisionState
  heartbeat : s'.lock.entry "heartbeat_at" = s.lock.entry "heartbeat_at"
  expiry : s'.lock.entry "lease_expires_at" = s.lock.entry "lease_expires_at"

theorem notDecreased_refl (a : Supervision) : NotDecreased a a := Or.inl ⟨rfl, rfl⟩

theorem NotDecreased.trans {a b c : Supervision} (hab : NotDecreased a b)
    (hbc : NotDecreased b c) : NotDecreased a c := by
  rcases hab with ⟨hh, he⟩ | ⟨h₀, e₀, h₁, e₁, hah, hae, hbh, hbe, hh, he⟩
  · rcases hbc with ⟨hh', he'⟩ | ⟨h₀, e₀, h₁, e₁, hbh, hbe, hrest⟩
    · exact Or.inl ⟨hh'.trans hh, he'.trans he⟩
    · rw [hh] at hbh
      rw [he] at hbe
      exact Or.inr ⟨h₀, e₀, h₁, e₁, hbh, hbe, hrest⟩
  · rcases hbc with ⟨hh', he'⟩ | ⟨h₁', e₁', h₂, e₂, hbh', hbe', hch, hce, hh', he'⟩
    · rw [← hh'] at hbh
      rw [← he'] at hbe
      exact Or.inr ⟨h₀, e₀, h₁, e₁, hah, hae, hbh, hbe, hh, he⟩
    · obtain rfl : h₁ = h₁' := Except.ok.inj (hbh.symm.trans hbh')
      obtain rfl : e₁ = e₁' := Except.ok.inj (hbe.symm.trans hbe')
      exact Or.inr ⟨h₀, e₀, h₂, e₂, hah, hae, hch, hce, hh.trans hh', he.trans he'⟩

theorem firstFailureKept_refl (s : LeaseState) : FirstFailureKept s s :=
  ⟨fun _ h => h, fun _ => rfl⟩

theorem FirstFailureKept.trans {a b c : LeaseState} (hab : FirstFailureKept a b)
    (hbc : FirstFailureKept b c) : FirstFailureKept a c := by
  refine ⟨fun failure h => hbc.1 failure (hab.1 failure h), fun h => ?_⟩
  have hb := hab.2 h
  rw [hbc.2 (by rwa [hb]), hb]

/-! ## The steps of a renewal -/

theorem lockPayload_ok {f : ReadFaults} {file : LockFile} {payload : Dict}
    (h : lockPayload f file = .ok payload) : f = .quiet ∧ file = .payload payload := by
  obtain ⟨isFile, readText⟩ := f
  cases isFile <;> cases file <;> cases readText <;> simp_all [lockPayload, ReadFaults.quiet]

theorem exactLock_ok {payload : Dict} {ids : SupervisionIds} (h : exactLock payload ids = .ok ()) :
    exact payload ids = true := by
  by_contra hexact
  rw [exactLock, if_neg hexact] at h
  cases h

theorem readExact_ok {f : ReadFaults} {file : LockFile} {ids : SupervisionIds} {payload : Dict}
    (h : readExact f file ids = .ok payload) :
    f = .quiet ∧ file = .payload payload ∧ exact payload ids = true := by
  obtain ⟨read, hread, h⟩ := Faults.bind_ok h
  obtain ⟨_, hexact, h⟩ := Faults.bind_ok h
  obtain rfl := Except.ok.inj h
  obtain ⟨hf, hfile⟩ := lockPayload_ok hread
  exact ⟨hf, hfile, exactLock_ok hexact⟩

theorem readExact_payload {payload : Dict} {ids : SupervisionIds}
    (h : exact payload ids = true) : readExact .quiet (.payload payload) ids = .ok payload := by
  simp [readExact, lockPayload, ReadFaults.quiet, exactLock, h, bind, Except.bind, pure,
    Except.pure]

/-- A replacement leaves the file, or the new text in its place. -/
theorem replaceAttempts_file {f : ReplaceFaults} {payload : Dict} {ids : SupervisionIds}
    {file : LockFile} (left : ℕ) : ∀ attempt,
    (replaceAttempts f payload ids file attempt left).2 = file ∨
      (replaceAttempts f payload ids file attempt left).2 = .payload payload := by
  induction left with
  | zero => intro attempt; exact Or.inl rfl
  | succ left ih =>
    intro attempt
    rw [replaceAttempts]
    cases readExact (f.attempts attempt).lock file ids with
    | error e => exact Or.inl rfl
    | ok _ =>
      cases (f.attempts attempt).outcome with
      | replaced => exact Or.inr rfl
      | refused => exact Or.inl rfl
      | transient =>
        by_cases hlast : leaseReplaceMaxAttempts ≤ attempt
        · simp [hlast]
        · simpa [hlast] using ih (attempt + 1)

theorem replaceLock_file (f : ReplaceFaults) (payload : Dict) (ids : SupervisionIds)
    (file : LockFile) :
    (replaceLock f payload ids file).2 = file ∨
      (replaceLock f payload ids file).2 = .payload payload := by
  have hattempts : (replaceAttempts f payload ids file 1 leaseReplaceMaxAttempts).2 = file ∨
      (replaceAttempts f payload ids file 1 leaseReplaceMaxAttempts).2 = .payload payload :=
    replaceAttempts_file leaseReplaceMaxAttempts 1
  unfold replaceLock
  cases f.write <;> cases f.unlink <;> simp [hattempts]

theorem entries_entry (r : Renewal) :
    (LockFile.payload r.entries).entry "heartbeat_at" = .str (isoformat r.instant) ∧
      (LockFile.payload r.entries).entry "lease_expires_at" = .str (isoformat r.nextExpiry) := by
  simp [LockFile.entry, Renewal.entries]

theorem entries_get_of_ne {r : Renewal} {key : String} (h : key ≠ "heartbeat_at")
    (h' : key ≠ "lease_expires_at") (h'' : key ≠ "updated_at") :
    r.entries.get key = r.payload.get key := by
  simp [Renewal.entries, h, h', h'']

/-- What a prepared renewal has established. -/
structure Prepared (s : LeaseState) (c : RenewCall) (r : Renewal) : Prop where
  aware : c.now.utcoffset = some (c.now.wall - r.instant)
  heartbeat : parse s.row.heartbeatAt = .ok r.previousHeartbeat
  expiry : parse s.row.leaseExpiresAt = .ok r.previousExpiry
  unexpired : r.instant < r.previousExpiry
  later : r.previousHeartbeat < r.instant
  longer : r.previousExpiry < r.nextExpiry
  next : r.nextExpiry = r.instant + seconds c.leaseSeconds
  inRange : InRange r.nextExpiry
  reading : c.faults.lock = .quiet
  lock : s.lock = .payload r.payload
  exact : exact r.payload s.row.toSupervisionIds = true

theorem preparation_ok {s : LeaseState} {c : RenewCall} {r : Renewal}
    (h : preparation s c = .ok r) : Prepared s c r := by
  obtain ⟨previousHeartbeat, hheartbeat, h⟩ := Faults.bind_ok h
  obtain ⟨previousExpiry, hexpiry, h⟩ := Faults.bind_ok h
  cases hoffset : c.now.utcoffset with
  | none =>
    rw [hoffset] at h
    cases h
  | some offset =>
    rw [hoffset] at h
    obtain ⟨hunexpired, h⟩ := Faults.check_ok h
    obtain ⟨_, h⟩ := Faults.check_ok h
    obtain ⟨hmonotone, h⟩ := Faults.check_ok h
    obtain ⟨payload, hread, h⟩ := Faults.bind_ok h
    obtain ⟨hrange, h⟩ := Faults.check_ok h
    obtain rfl := Except.ok.inj h
    obtain ⟨hreading, hlock, hexact⟩ := readExact_ok hread
    rw [not_or, not_le, not_le] at hmonotone
    exact ⟨by rw [hoffset]; simp, hheartbeat, hexpiry, not_le.mp hunexpired, hmonotone.1,
      hmonotone.2, rfl, not_not.mp hrange, hreading, hlock, hexact⟩

theorem closing_ok {α : Type} {rollback close : Option DbFault} {body : Except Exn α} {a : α}
    (h : closing rollback close body = .ok a) : body = .ok a ∧ close = none := by
  cases close with
  | some f => cases h
  | none =>
    cases body with
    | ok b => exact ⟨h, rfl⟩
    | error e => cases rollback <;> cases h

theorem writeLedger_row {row : Supervision} {r : Renewal} {f : LedgerFaults} :
    (writeLedger row r f).2 = row ∨ (writeLedger row r f).2 = r.apply row := by
  unfold writeLedger
  cases dbStep f.connect with
  | error e => exact Or.inl rfl
  | ok _ => cases hbody : ledgerBody row r f <;> simp

theorem writeLedger_ok {row : Supervision} {r : Renewal} {f : LedgerFaults}
    (h : (writeLedger row r f).1 = .ok ()) : (writeLedger row r f).2 = r.apply row := by
  unfold writeLedger at h ⊢
  cases hconnect : dbStep f.connect with
  | error e => simp [hconnect] at h
  | ok _ =>
    simp only [hconnect] at h ⊢
    rw [(closing_ok h).1]

/-- What the `try` block may have changed when it ends, however it ends. -/
theorem attemptRenewal_frame (s : LeaseState) (c : RenewCall) :
    (attemptRenewal s c).2.heartbeatFailure = s.heartbeatFailure ∧
    ((attemptRenewal s c).2 = s ∨ ∃ r, preparation s c = .ok r ∧
      ((attemptRenewal s c).2.row = s.row ∨ (attemptRenewal s c).2.row = r.apply s.row) ∧
      ((attemptRenewal s c).2.lock = s.lock ∨
        (attemptRenewal s c).2.lock = .payload r.entries)) := by
  unfold attemptRenewal
  cases hprep : preparation s c with
  | error e => exact ⟨rfl, Or.inl rfl⟩
  | ok r =>
    have hfile := replaceLock_file c.faults.replace r.entries s.row.toSupervisionIds s.lock
    simp only
    generalize replaceLock c.faults.replace r.entries s.row.toSupervisionIds s.lock = replaced
      at hfile
    obtain ⟨outcome, lock⟩ := replaced
    cases outcome with
    | error e => exact ⟨rfl, Or.inr ⟨r, rfl, Or.inl rfl, hfile⟩⟩
    | ok n => exact ⟨rfl, Or.inr ⟨r, rfl, writeLedger_row, hfile⟩⟩

/-- A `try` block that ends well has written the row. -/
theorem attemptRenewal_ok {s : LeaseState} {c : RenewCall} {result : RenewResult}
    (h : (attemptRenewal s c).1 = .ok result) :
    ∃ r n, preparation s c = .ok r ∧
      result = .confirmed (isoformat r.instant) (isoformat r.nextExpiry) n ∧
      (attemptRenewal s c).2.row = r.apply s.row := by
  unfold attemptRenewal at h ⊢
  cases hprep : preparation s c with
  | error e => simp [hprep] at h
  | ok r =>
    simp only [hprep] at h ⊢
    generalize replaceLock c.faults.replace r.entries s.row.toSupervisionIds s.lock = replaced
      at h ⊢
    obtain ⟨outcome, lock⟩ := replaced
    cases outcome with
    | error e => cases h
    | ok n =>
      cases hledger : (writeLedger s.row r c.faults.ledger).1 with
      | error e => simp [hledger, Except.map] at h
      | ok _ =>
        simp only [hledger, Except.map, Except.ok.injEq] at h
        exact ⟨r, n, rfl, h.symm, writeLedger_ok hledger⟩

theorem admission_ok {s : LeaseState} {c : RenewCall} {attemptAt : String}
    (h : admission s c = .ok attemptAt) :
    InRange (c.now.wall - c.now.utcoffset.getD c.localOffset) ∧
      s.row.supervisionState = .active ∧ s.row.toSupervisionIds = c.ids := by
  obtain ⟨_, h⟩ := Faults.check_ok h
  obtain ⟨text, hiso, h⟩ := Faults.bind_ok h
  obtain ⟨_, _, h⟩ := Faults.bind_ok h
  obtain ⟨_, hload, h⟩ := Faults.bind_ok h
  obtain ⟨hactive, _⟩ := Faults.check_ok h
  refine ⟨?_, not_not.mp hactive, ?_⟩
  · by_contra hrange
    simp [iso, hrange] at hiso
  · by_contra hids
    simp [loadExact, hids] at hload

/-- A prepared renewal of an admitted call puts the row's times ahead. -/
theorem Prepared.advanced {s : LeaseState} {c : RenewCall} {r : Renewal} {attemptAt : String}
    (h : Prepared s c r) (hadmitted : admission s c = .ok attemptAt) :
    Advanced s.row (r.apply s.row) := by
  have hrange := (admission_ok hadmitted).1
  rw [h.aware, Option.getD_some, sub_sub_cancel] at hrange
  exact ⟨_, _, r.instant, r.nextExpiry, h.heartbeat, h.expiry, parse_isoformat hrange,
    parse_isoformat h.inRange, h.later, h.longer⟩

/-! ## The recording of a failure -/

/-- The recording writes one failure, and only where there is none. -/
structure FailureRecorded (s s' : LeaseState) : Prop where
  row : s'.row = s.row
  entries : ∀ key, key ≠ leaseFailureFileKey → s'.lock.entry key = s.lock.entry key
  kept : FirstFailureKept s s'

theorem FailureRecorded.refl (s : LeaseState) : FailureRecorded s s :=
  ⟨rfl, fun _ _ => rfl, firstFailureKept_refl s⟩

theorem FailureRecorded.trans {a b c : LeaseState} (hab : FailureRecorded a b)
    (hbc : FailureRecorded b c) :
    FailureRecorded a c :=
  ⟨hbc.row.trans hab.row, fun key h => (hbc.entries key h).trans (hab.entries key h),
    hab.kept.trans hbc.kept⟩

theorem storedFailure_ok {s : LeaseState} {ids : SupervisionIds} {evidence : RenewalFailure}
    {f : PersistFaults} {failure : HeartbeatFailure}
    (h : storedFailure s ids evidence f = .ok failure) :
    ∀ existing, s.heartbeatFailure = some existing → failure = existing := by
  intro existing hexisting
  obtain ⟨_, _, h⟩ := Faults.bind_ok h
  obtain ⟨_, _, h⟩ := Faults.bind_ok h
  obtain ⟨_, _, h⟩ := Faults.bind_ok h
  rw [hexisting] at h
  obtain ⟨_, h⟩ := Faults.check_ok h
  obtain ⟨_, _, h⟩ := Faults.bind_ok h
  exact (Except.ok.inj h).symm

theorem persistCampaignHeartbeatFailure_recorded (s : LeaseState) (ids : SupervisionIds)
    (evidence : RenewalFailure) (f : PersistFaults) :
    FailureRecorded s (persistCampaignHeartbeatFailure s ids evidence f).2 ∧
      (persistCampaignHeartbeatFailure s ids evidence f).2.lock = s.lock := by
  unfold persistCampaignHeartbeatFailure
  cases dbStep f.connect with
  | error e => exact ⟨FailureRecorded.refl s, rfl⟩
  | ok _ =>
    cases hstored : storedFailure s ids evidence f with
    | error e => exact ⟨FailureRecorded.refl s, rfl⟩
    | ok failure =>
      refine ⟨⟨rfl, fun _ _ => rfl, fun existing hexisting => ?_, fun _ => rfl⟩, rfl⟩
      rw [storedFailure_ok hstored existing hexisting]

theorem persistFailureToLeaseFile_recorded (s : LeaseState) (evidence : RenewalFailure)
    (f : ReadFaults) (g : ReplaceFaults) :
    FailureRecorded s (persistFailureToLeaseFile s evidence f g).2 := by
  unfold persistFailureToLeaseFile
  cases hread : readExact f s.lock s.row.toSupervisionIds with
  | error e => exact FailureRecorded.refl s
  | ok payload =>
    obtain ⟨_, hlock, _⟩ := readExact_ok hread
    by_cases hnone : payload.get leaseFailureFileKey = .none
    · simp only [hnone, if_true]
      have hentries : ∀ key, key ≠ leaseFailureFileKey →
          (LockFile.payload (payload.set leaseFailureFileKey (.dict evidence.toDict))).entry key =
            s.lock.entry key := by
        intro key hkey
        simp [LockFile.entry, hlock, hkey]
      rcases replaceLock_file g (payload.set leaseFailureFileKey (.dict evidence.toDict))
        s.row.toSupervisionIds s.lock with hfile | hfile
      · rw [hfile]
        exact FailureRecorded.refl s
      · rw [hfile]
        refine ⟨rfl, hentries, fun _ h => h, fun h => absurd ?_ h⟩
        rw [hlock]
        exact hnone
    · simp only [hnone, if_false]
      exact FailureRecorded.refl s

theorem recordFailure_recorded (s : LeaseState) (c : RenewCall) (evidence : RenewalFailure) :
    FailureRecorded s (recordFailure s c evidence).2 := by
  have hpersist := (persistCampaignHeartbeatFailure_recorded s c.ids evidence c.faults.persist).1
  unfold recordFailure
  generalize persistCampaignHeartbeatFailure s c.ids evidence c.faults.persist = persisted
    at hpersist ⊢
  obtain ⟨outcome, s'⟩ := persisted
  cases outcome with
  | ok _ => exact hpersist
  | error e =>
    by_cases hhandled : e.handled = true
    · simp only [hhandled, if_true]
      exact hpersist.trans (persistFailureToLeaseFile_recorded s' evidence _ _)
    · simp only [if_neg hhandled]
      exact hpersist

/-! ## Every call -/

/-- The states between which a call may lead: through a prepared renewal of the row
and of the lock, and through a recording. -/
theorem renewStep_cases (s : LeaseState) (c : RenewCall) :
    renewStep s c = s ∨
      ((∃ attemptAt, admission s c = .ok attemptAt) ∧
        FailureRecorded (attemptRenewal s c).2 (renewStep s c)) := by
  unfold renewStep renewCampaignLease
  cases hadmission : admission s c with
  | error e => exact Or.inl rfl
  | ok attemptAt =>
    cases hcloses : c.faults.closeReader with
    | some f => exact Or.inl rfl
    | none =>
      simp only
      refine Or.inr ⟨⟨attemptAt, rfl⟩, ?_⟩
      generalize attemptRenewal s c = attempted
      obtain ⟨outcome, s'⟩ := attempted
      cases outcome with
      | ok result => exact FailureRecorded.refl s'
      | error e =>
        by_cases hhandled : e.handled = true
        · simp only [hhandled, if_true]
          exact recordFailure_recorded s' c _
        · simp only [if_neg hhandled]
          exact FailureRecorded.refl s'

theorem attemptRenewal_notDecreased {s : LeaseState} {c : RenewCall} {attemptAt : String}
    (h : admission s c = .ok attemptAt) : NotDecreased s.row (attemptRenewal s c).2.row := by
  rcases (attemptRenewal_frame s c).2 with hs | ⟨r, hprep, hrow, _⟩
  · rw [hs]
    exact notDecreased_refl s.row
  · rcases hrow with hrow | hrow
    · rw [hrow]
      exact notDecreased_refl s.row
    · rw [hrow]
      exact Or.inr ((preparation_ok hprep).advanced h)

theorem attemptRenewal_firstFailureKept (s : LeaseState) (c : RenewCall) :
    FirstFailureKept s (attemptRenewal s c).2 := by
  obtain ⟨hfailure, hs | ⟨r, hprep, _, hlock⟩⟩ := attemptRenewal_frame s c
  · rw [hs]
    exact firstFailureKept_refl s
  · refine ⟨fun failure h => hfailure.trans h, fun _ => ?_⟩
    rcases hlock with hlock | hlock
    · rw [hlock]
    · have hget : r.entries.get leaseFailureFileKey = r.payload.get leaseFailureFileKey :=
        entries_get_of_ne (by decide) (by decide) (by decide)
      rw [hlock, (preparation_ok hprep).lock]
      exact hget

theorem renewStep_notDecreased (s : LeaseState) (c : RenewCall) :
    NotDecreased s.row (renewStep s c).row := by
  rcases renewStep_cases s c with hs | ⟨⟨attemptAt, hadmission⟩, hrecorded⟩
  · rw [hs]
    exact notDecreased_refl s.row
  · rw [hrecorded.row]
    exact attemptRenewal_notDecreased hadmission

theorem renewStep_firstFailureKept (s : LeaseState) (c : RenewCall) :
    FirstFailureKept s (renewStep s c) := by
  rcases renewStep_cases s c with hs | ⟨_, hrecorded⟩
  · rw [hs]
    exact firstFailureKept_refl s
  · exact (attemptRenewal_firstFailureKept s c).trans hrecorded.kept

/-- A result that confirms the renewal comes from a `try` block that ended well. -/
theorem renewCampaignLease_ok {s : LeaseState} {c : RenewCall} {result : RenewResult}
    (h : (renewCampaignLease s c).1 = .ok result) :
    (∃ attemptAt, admission s c = .ok attemptAt) ∧
      ((attemptRenewal s c).1 = .ok result ∧ renewStep s c = (attemptRenewal s c).2 ∨
        (∃ evidence location, result = .unconfirmed evidence location) ∧
          ∃ e, (attemptRenewal s c).1 = .error e) := by
  unfold renewStep
  unfold renewCampaignLease at h ⊢
  cases hadmission : admission s c with
  | error e => simp [hadmission] at h
  | ok attemptAt =>
    refine ⟨⟨attemptAt, rfl⟩, ?_⟩
    cases hcloses : c.faults.closeReader with
    | some f => simp [hadmission, hcloses] at h
    | none =>
      simp only [hadmission, hcloses] at h ⊢
      generalize attemptRenewal s c = attempted at h ⊢
      obtain ⟨outcome, s'⟩ := attempted
      cases outcome with
      | ok result' => exact Or.inl ⟨h, rfl⟩
      | error e =>
        refine Or.inr ⟨?_, e, rfl⟩
        by_cases hhandled : e.handled = true
        · simp only [hhandled, if_true] at h
          cases hrecord : (recordFailure s' c (safeRenewalFailure e attemptAt
              (some s.row.heartbeatAt) (some s.row.leaseExpiresAt))).1 with
          | error e' => simp [hrecord, Except.map] at h
          | ok location =>
            simp only [hrecord, Except.map, Except.ok.injEq] at h
            exact ⟨_, location, h.symm⟩
        · simp [if_neg hhandled] at h

/-- A confirmed renewal puts both times ahead. -/
theorem renewCampaignLease_confirmed {s : LeaseState} {c : RenewCall} {heartbeat expiry : String}
    {n : ℕ} (h : (renewCampaignLease s c).1 = .ok (.confirmed heartbeat expiry n)) :
    Advanced s.row (renewStep s c).row := by
  obtain ⟨⟨attemptAt, hadmission⟩, ⟨hattempt, hstep⟩ | ⟨⟨_, _, habsurd⟩, _⟩⟩ :=
    renewCampaignLease_ok h
  · obtain ⟨r, _, hprep, _, hrow⟩ := attemptRenewal_ok hattempt
    rw [hstep, hrow]
    exact (preparation_ok hprep).advanced hadmission
  · cases habsurd

/-! ## When a call fails safe -/

/-- The stored times call for the renewal and let it advance both. -/
def Due (row : Supervision) (c : RenewCall) : Prop :=
  match parse row.heartbeatAt, parse row.leaseExpiresAt with
  | .ok heartbeat, .ok expiry =>
    let instant := c.now.wall - c.now.utcoffset.getD 0
    instant < expiry ∧ heartbeat < instant ∧ expiry < instant + seconds c.leaseSeconds
  | _, _ => False

instance (row : Supervision) (c : RenewCall) : Decidable (Due row c) := by
  unfold Due
  split <;> infer_instance

/-- The lock is read, and it is the owner's. -/
def Held (f : ReadFaults) (file : LockFile) (ids : SupervisionIds) : Prop :=
  f = .quiet ∧ ∃ payload, file = .payload payload ∧ exact payload ids = true

/-- From the given attempt on, one replaces the file before one is refused. -/
def ReplacesFrom (f : ReplaceFaults) (attempt : ℕ) : ℕ → Prop
  | 0 => False
  | left + 1 =>
    (f.attempts attempt).lock = .quiet ∧
      ((f.attempts attempt).outcome = .replaced ∨
        (f.attempts attempt).outcome = .transient ∧ attempt < leaseReplaceMaxAttempts ∧
          ReplacesFrom f (attempt + 1) left)

def Replaces (f : ReplaceFaults) : Prop :=
  f.write = none ∧ ReplacesFrom f 1 leaseReplaceMaxAttempts

/-- The stored text is the one the module writes for the instant. -/
def Canonical (text : String) : Prop :=
  match parse text with
  | .ok i => isoformat i = text
  | .error _ => True

instance (text : String) : Decidable (Canonical text) := by
  unfold Canonical
  split <;> infer_instance

structure LedgerWrites (row : Supervision) (f : LedgerFaults) : Prop where
  connect : f.connect = none
  start : beginImmediate f.start = .ok ()
  update : f.update = none
  commit : f.commit = none
  close : f.close = none
  heartbeat : Canonical row.heartbeatAt
  expiry : Canonical row.leaseExpiresAt

/-- The renewal gets as far as to replace the lock file. -/
structure ReachesFile (s : LeaseState) (c : RenewCall) : Prop where
  due : Due s.row c
  held : Held c.faults.lock s.lock s.row.toSupervisionIds
  replaces : Replaces c.faults.replace

structure Completes (s : LeaseState) (c : RenewCall) : Prop extends ReachesFile s c where
  unlink : c.faults.replace.unlink = none
  ledger : LedgerWrites s.row c.faults.ledger

/-- The lock shows the times of this renewal, from an earlier one that failed. -/
structure AlreadyShown (s : LeaseState) (c : RenewCall) : Prop where
  heartbeat : s.lock.entry "heartbeat_at" =
    .str (isoformat (c.now.wall - c.now.utcoffset.getD 0))
  expiry : s.lock.entry "lease_expires_at" =
    .str (isoformat (c.now.wall - c.now.utcoffset.getD 0 + seconds c.leaseSeconds))

/-- The first failure goes to the database. -/
structure SqliteRecords (s : LeaseState) (f : PersistFaults) : Prop where
  connect : f.connect = none
  start : beginImmediate f.start = .ok ()
  read : f.read = none
  first : s.heartbeatFailure = none
  insert : f.insert = none
  commit : f.commit = none
  lock : f.lock.isFile = none
  close : f.close = none

/-- The failure goes to the lock file, or one stands there. -/
structure FileRecords (file : LockFile) (ids : SupervisionIds) (f : ReadFaults)
    (g : ReplaceFaults) : Prop where
  held : Held f file ids
  written : file.entry leaseFailureFileKey ≠ .none ∨ Replaces g ∧ g.unlink = none

/-- The clock is aware and far from the last year, the stored times can be read in UTC and
the lock is text; and the renewal is completed, or it does not get as far as the file and
its failure can be recorded. -/
structure Orderly (s : LeaseState) (c : RenewCall) : Prop where
  reader : c.faults.closeReader = none
  aware : c.now.utcoffset ≠ none
  horizon : InRange (c.now.wall + seconds c.leaseSeconds)
  horizonUtc : InRange (c.now.wall - c.now.utcoffset.getD 0 + seconds c.leaseSeconds)
  heartbeatUtc : parse s.row.heartbeatAt ≠ .error overflowError
  expiryUtc : parse s.row.leaseExpiresAt ≠ .error overflowError
  decodable : s.lock ≠ .undecodable
  settled : Completes s c ∨
    (¬ReachesFile s c ∨ AlreadyShown s c ∧ c.faults.ledger.close = none) ∧
      (SqliteRecords s c.faults.persist ∨
        FileRecords s.lock s.row.toSupervisionIds c.faults.fileLock c.faults.fileReplace)

/-- A confirmed renewal puts both times ahead. -/
def Advances (s : LeaseState) (c : RenewCall) : Prop :=
  ∀ heartbeat expiry attempts,
    (renewCampaignLease s c).1 = .ok (.confirmed heartbeat expiry attempts) →
      Advanced s.row (renewStep s c).row

/-- What a call owes where it does not confirm the renewal: once the ACTIVE check has
passed it returns, and it disturbs nothing. -/
structure FailsSafe (s : LeaseState) (c : RenewCall) : Prop where
  returns : ∀ attemptAt, admission s c = .ok attemptAt →
    ∃ result, (renewCampaignLease s c).1 = .ok result
  undisturbed : ∀ evidence location,
    (renewCampaignLease s c).1 = .ok (.unconfirmed evidence location) →
      Undisturbed s (renewStep s c)

/-! ## Errors that the handlers name -/

/-- If the computation raises, it is a handled error. -/
def RaisesHandled {α : Type} (x : Except Exn α) : Prop := ∀ e, x = .error e → e.handled = true

theorem raisesHandled_ok {α : Type} (a : α) : RaisesHandled (.ok a : Except Exn α) := by
  intro e h
  cases h

theorem raisesHandled_error {α : Type} {e : Exn} (h : e.handled = true) :
    RaisesHandled (.error e : Except Exn α) := by
  intro e' h'
  obtain rfl := Except.error.inj h'
  exact h

theorem RaisesHandled.bind {α β : Type} {x : Except Exn α} {f : α → Except Exn β}
    (hx : RaisesHandled x) (hf : ∀ a, x = .ok a → RaisesHandled (f a)) :
    RaisesHandled (x >>= f) := by
  cases x with
  | error e =>
    intro e' h
    obtain rfl := Except.error.inj h
    exact hx e rfl
  | ok a => exact hf a rfl

theorem RaisesHandled.check {α β : Type} {c : Prop} [Decidable c] {e : Exn}
    {f : β → Except Exn α} {rest : Except Exn α} (he : c → e.handled = true)
    (hrest : ¬c → RaisesHandled rest) : RaisesHandled (if c then throw e >>= f else rest) := by
  by_cases hc : c
  · rw [if_pos hc]
    exact raisesHandled_error (he hc)
  · rw [if_neg hc]
    exact hrest hc

theorem raisesHandled_dbStep (f : Option DbFault) : RaisesHandled (dbStep f) := by
  cases f with
  | none => exact raisesHandled_ok ()
  | some f => exact raisesHandled_error f.handled_exn

theorem raisesHandled_beginAttempts {f : ℕ → Option DbFault} (left : ℕ) : ∀ attempt,
    RaisesHandled (beginAttempts f attempt left) := by
  induction left with
  | zero => intro attempt; exact raisesHandled_ok ()
  | succ left ih =>
    intro attempt
    rw [beginAttempts]
    cases f attempt with
    | none => exact raisesHandled_ok ()
    | some fault =>
      by_cases hlast : (!isSqliteLocked fault.exn) = true ∨ sqliteBusyMaxAttempts ≤ attempt
      · simp only [hlast, if_true]
        exact raisesHandled_error fault.handled_exn
      · simp only [hlast, if_false]
        exact ih (attempt + 1)

theorem RaisesHandled.closing {α : Type} {rollback close : Option DbFault} {body : Except Exn α}
    (h : RaisesHandled body) : RaisesHandled (closing rollback close body) := by
  cases close with
  | some f => exact raisesHandled_error f.handled_exn
  | none =>
    cases body with
    | ok a => exact raisesHandled_ok a
    | error e =>
      cases rollback with
      | none => exact h
      | some f => exact raisesHandled_error f.handled_exn

theorem raisesHandled_ledgerBody (row : Supervision) (r : Renewal) (f : LedgerFaults) :
    RaisesHandled (ledgerBody row r f) := by
  refine (raisesHandled_beginAttempts _ _).bind fun _ _ => ?_
  refine (raisesHandled_dbStep _).bind fun _ _ => ?_
  split_ifs
  · exact raisesHandled_error rfl
  · exact raisesHandled_dbStep _

theorem raisesHandled_writeLedger (row : Supervision) (r : Renewal) (f : LedgerFaults) :
    RaisesHandled (writeLedger row r f).1 := by
  unfold writeLedger
  cases hconnect : dbStep f.connect with
  | error e => exact raisesHandled_error (raisesHandled_dbStep _ e hconnect)
  | ok _ => exact (raisesHandled_ledgerBody row r f).closing

theorem raisesHandled_readExact {file : LockFile} (h : file ≠ .undecodable) (f : ReadFaults)
    (ids : SupervisionIds) : RaisesHandled (readExact f file ids) := by
  have hread : RaisesHandled (lockPayload f file) := by
    obtain ⟨isFile, readText⟩ := f
    intro e he
    cases isFile <;> cases file <;> cases readText <;> simp_all [lockPayload] <;> subst he <;> rfl
  refine hread.bind fun payload _ => ?_
  refine RaisesHandled.bind ?_ fun _ _ => raisesHandled_ok payload
  unfold exactLock
  split_ifs
  · exact raisesHandled_ok ()
  · exact raisesHandled_error rfl

theorem raisesHandled_replaceAttempts {f : ReplaceFaults} {payload : Dict} {ids : SupervisionIds}
    {file : LockFile} (h : file ≠ .undecodable) (left : ℕ) : ∀ attempt,
    RaisesHandled (replaceAttempts f payload ids file attempt left).1 := by
  induction left with
  | zero => intro attempt; exact raisesHandled_error rfl
  | succ left ih =>
    intro attempt
    rw [replaceAttempts]
    cases hread : readExact (f.attempts attempt).lock file ids with
    | error e => exact raisesHandled_error (raisesHandled_readExact h _ _ e hread)
    | ok _ =>
      cases (f.attempts attempt).outcome with
      | replaced => exact raisesHandled_ok _
      | refused => exact raisesHandled_error rfl
      | transient =>
        by_cases hlast : leaseReplaceMaxAttempts ≤ attempt
        · simp only [hlast, if_true]
          exact raisesHandled_error rfl
        · simp only [hlast, if_false]
          exact ih (attempt + 1)

theorem raisesHandled_replaceLock {file : LockFile} (h : file ≠ .undecodable) (f : ReplaceFaults)
    (payload : Dict) (ids : SupervisionIds) : RaisesHandled (replaceLock f payload ids file).1 := by
  unfold replaceLock
  cases f.unlink with
  | some message => exact raisesHandled_error rfl
  | none =>
    cases f.write with
    | some message => exact raisesHandled_error rfl
    | none => exact raisesHandled_replaceAttempts h _ _

theorem parse_error {text : String} {e : Exn} (h : parse text = .error e)
    (hrange : parse text ≠ .error overflowError) : e.handled = true := by
  unfold parse at h hrange
  cases hread : fromisoformat text with
  | none =>
    simp only [hread, Except.error.injEq] at h
    rw [← h]
    rfl
  | some d =>
    by_cases hd : InRange d.instantUtc
    · simp [hread, hd] at h
    · simp [hread, hd] at hrange

/-- The checks of an orderly call raise handled errors only. -/
theorem raisesHandled_preparation {s : LeaseState} {c : RenewCall} (h : Orderly s c) :
    RaisesHandled (preparation s c) := by
  unfold preparation
  refine RaisesHandled.bind (fun e he => parse_error he h.heartbeatUtc) fun _ _ => ?_
  refine RaisesHandled.bind (fun e he => parse_error he h.expiryUtc) fun _ _ => ?_
  have hutc := h.horizonUtc
  cases hoffset : c.now.utcoffset with
  | none => exact absurd hoffset h.aware
  | some offset =>
    rw [hoffset, Option.getD_some] at hutc
    refine RaisesHandled.check (fun _ => rfl) fun _ => ?_
    refine RaisesHandled.check (fun hrange => absurd h.horizon hrange) fun _ => ?_
    refine RaisesHandled.check (fun _ => rfl) fun _ => ?_
    refine (raisesHandled_readExact h.decodable _ _).bind fun payload _ => ?_
    refine RaisesHandled.check (fun hrange => absurd hutc hrange) fun _ => ?_
    exact raisesHandled_ok _

/-- The times that a prepared renewal writes. -/
theorem Prepared.instant {s : LeaseState} {c : RenewCall} {r : Renewal} (h : Prepared s c r) :
    r.instant = c.now.wall - c.now.utcoffset.getD 0 := by
  rw [h.aware]
  simp

/-- An orderly call is prepared exactly when its renewal is due and the lock is held. -/
theorem preparation_iff {s : LeaseState} {c : RenewCall} (h : Orderly s c) :
    (∃ r, preparation s c = .ok r) ↔
      Due s.row c ∧ Held c.faults.lock s.lock s.row.toSupervisionIds := by
  constructor
  · rintro ⟨r, hprep⟩
    have hr := preparation_ok hprep
    refine ⟨?_, hr.reading, r.payload, hr.lock, hr.exact⟩
    simp only [Due, hr.heartbeat, hr.expiry, ← hr.instant, ← hr.next]
    exact ⟨hr.unexpired, hr.later, hr.longer⟩
  · rintro ⟨hdue, hreading, payload, hlock, hexact⟩
    unfold Due at hdue
    cases hheartbeat : parse s.row.heartbeatAt with
    | error e => simp [hheartbeat] at hdue
    | ok heartbeat =>
      cases hexpiry : parse s.row.leaseExpiresAt with
      | error e => simp [hheartbeat, hexpiry] at hdue
      | ok expiry =>
        cases hoffset : c.now.utcoffset with
        | none => exact absurd hoffset h.aware
        | some offset =>
          have hutc := h.horizonUtc
          simp only [hheartbeat, hexpiry, hoffset, Option.getD_some] at hdue hutc
          obtain ⟨hunexpired, hlater, hlonger⟩ := hdue
          have hread : readExact c.faults.lock s.lock s.row.toSupervisionIds = .ok payload := by
            rw [hreading, hlock]
            exact readExact_payload hexact
          refine ⟨⟨c.now.wall - offset, c.now.wall - offset + seconds c.leaseSeconds, heartbeat,
            expiry, payload⟩, ?_⟩
          simp [preparation, hheartbeat, hexpiry, hoffset, not_le.mpr hunexpired, h.horizon,
            not_le.mpr hlater, not_le.mpr hlonger, hread, hutc, bind, Except.bind, pure,
            Except.pure]

/-! ## The file and the ledger -/

/-- What attempts at the file of the owner come to, decided by what they raise. -/
theorem replaceAttempts_held (f : ReplaceFaults) (payload : Dict) {old : Dict}
    {ids : SupervisionIds} (hexact : exact old ids = true) (left : ℕ) : ∀ attempt,
    (ReplacesFrom f attempt left ∧
        ∃ n, replaceAttempts f payload ids (.payload old) attempt left =
          (.ok n, .payload payload)) ∨
      (¬ReplacesFrom f attempt left ∧
        ∃ e, replaceAttempts f payload ids (.payload old) attempt left =
          (.error e, .payload old)) := by
  induction left with
  | zero => intro attempt; exact Or.inr ⟨id, _, rfl⟩
  | succ left ih =>
    intro attempt
    rw [replaceAttempts, ReplacesFrom]
    cases hread : readExact (f.attempts attempt).lock (.payload old) ids with
    | error e =>
      refine Or.inr ⟨fun h => ?_, e, rfl⟩
      rw [h.1, readExact_payload hexact] at hread
      cases hread
    | ok _ =>
      have hquiet := (readExact_ok hread).1
      cases houtcome : (f.attempts attempt).outcome with
      | replaced => exact Or.inl ⟨⟨hquiet, Or.inl rfl⟩, attempt, rfl⟩
      | refused => exact Or.inr ⟨by simp, _, rfl⟩
      | transient =>
        by_cases hlast : leaseReplaceMaxAttempts ≤ attempt
        · refine Or.inr ⟨?_, unconfirmedReplacement attempt, by simp only [hlast, if_true]⟩
          simp [not_lt.mpr hlast]
        · simp only [hlast, if_false]
          rcases ih (attempt + 1) with ⟨hfrom, hok⟩ | ⟨hfrom, herror⟩
          · exact Or.inl ⟨⟨hquiet, Or.inr ⟨trivial, not_le.mp hlast, hfrom⟩⟩, hok⟩
          · refine Or.inr ⟨?_, herror⟩
            simp [hfrom]

theorem replaceLock_replaces {f : ReplaceFaults} (payload : Dict) {old : Dict}
    {ids : SupervisionIds} (hexact : exact old ids = true) (h : Replaces f)
    (hunlink : f.unlink = none) :
    ∃ n, replaceLock f payload ids (.payload old) = (.ok n, .payload payload) := by
  rcases replaceAttempts_held f payload hexact leaseReplaceMaxAttempts 1 with
    ⟨_, hok⟩ | ⟨hnot, _⟩
  · simpa [replaceLock, h.1, hunlink] using hok
  · exact absurd h.2 hnot

theorem replaceLock_keeps {f : ReplaceFaults} (payload : Dict) {old : Dict}
    {ids : SupervisionIds} (hexact : exact old ids = true) (h : ¬Replaces f) :
    ∃ e, replaceLock f payload ids (.payload old) = (.error e, .payload old) := by
  unfold replaceLock
  cases hwrite : f.write with
  | some message => cases f.unlink <;> exact ⟨_, rfl⟩
  | none =>
    rcases replaceAttempts_held f payload hexact leaseReplaceMaxAttempts 1 with
      ⟨hfrom, _⟩ | ⟨_, e, herror⟩
    · exact absurd ⟨hwrite, hfrom⟩ h
    · simp only [herror]
      cases f.unlink <;> exact ⟨_, rfl⟩

theorem canonical_parse {text : String} {i : Instant} (hcanonical : Canonical text)
    (h : parse text = .ok i) : text = isoformat i := by
  simp only [Canonical, h] at hcanonical
  exact hcanonical.symm

theorem writeLedger_writes {s : LeaseState} {c : RenewCall} {r : Renewal} {f : LedgerFaults}
    (hr : Prepared s c r) (h : LedgerWrites s.row f) : (writeLedger s.row r f).1 = .ok () := by
  have hheartbeat := canonical_parse h.heartbeat hr.heartbeat
  have hexpiry := canonical_parse h.expiry hr.expiry
  simp [writeLedger, ledgerBody, closing, dbStep, h.connect, h.start, h.update, h.commit, h.close,
    ← hheartbeat, ← hexpiry, bind, Except.bind]

/-- A ledger whose connection closes well raises only where nothing was written. -/
theorem writeLedger_error {row : Supervision} {r : Renewal} {f : LedgerFaults} {e : Exn}
    (hclose : f.close = none) (h : (writeLedger row r f).1 = .error e) :
    (writeLedger row r f).2 = row := by
  unfold writeLedger at h ⊢
  cases hconnect : dbStep f.connect with
  | error e => rfl
  | ok _ =>
    cases hbody : ledgerBody row r f with
    | error e => simp
    | ok _ => simp [hconnect, hbody, closing, hclose] at h

/-- A completed renewal ends the `try` block well. -/
theorem Completes.attemptRenewal {s : LeaseState} {c : RenewCall} (h : Orderly s c)
    (hc : Completes s c) : ∃ result, (attemptRenewal s c).1 = .ok result := by
  obtain ⟨r, hprep⟩ := (preparation_iff h).mpr ⟨hc.due, hc.held⟩
  have hr := preparation_ok hprep
  obtain ⟨n, hreplace⟩ := replaceLock_replaces r.entries hr.exact hc.replaces hc.unlink
  refine ⟨.confirmed (isoformat r.instant) (isoformat r.nextExpiry) n, ?_⟩
  unfold OperatorCli.attemptRenewal
  rw [hprep]
  simp only [hr.lock, hreplace, writeLedger_writes hr hc.ledger]
  rfl

/-- A lock that differs from another in none of the entries that matter. -/
structure Alike (ids : SupervisionIds) (file file' : LockFile) : Prop where
  heartbeat : file'.entry "heartbeat_at" = file.entry "heartbeat_at"
  expiry : file'.entry "lease_expires_at" = file.entry "lease_expires_at"
  failure : file'.entry leaseFailureFileKey = file.entry leaseFailureFileKey
  held : ∀ f, Held f file ids → Held f file' ids
  decodable : file ≠ .undecodable → file' ≠ .undecodable

theorem Alike.refl (ids : SupervisionIds) (file : LockFile) : Alike ids file file :=
  ⟨rfl, rfl, rfl, fun _ h => h, fun h => h⟩

/-- The renewed lock is the owner's too. -/
theorem exact_entries {r : Renewal} {ids : SupervisionIds} (h : exact r.payload ids = true) :
    exact r.entries ids = true := by
  rw [exact, List.all_eq_true] at h ⊢
  intro e he
  have hother : ∀ key ∈ (lockIdentity ids).map Prod.fst,
      key ≠ "heartbeat_at" ∧ key ≠ "lease_expires_at" ∧ key ≠ "updated_at" := by
    simp only [lockIdentity, List.map_cons, List.map_nil]
    decide
  obtain ⟨hheartbeat, hexpiry, hupdated⟩ := hother e.1 (List.mem_map_of_mem he)
  rw [entries_get_of_ne hheartbeat hexpiry hupdated]
  exact h e he

theorem Prepared.alike {s : LeaseState} {c : RenewCall} {r : Renewal} (hr : Prepared s c r)
    (h : AlreadyShown s c) : Alike s.row.toSupervisionIds s.lock (.payload r.entries) := by
  obtain ⟨hheartbeat, hexpiry⟩ := entries_entry r
  refine ⟨?_, ?_, ?_, ?_, fun _ hfile => by cases hfile⟩
  · rw [hheartbeat, h.heartbeat, hr.instant]
  · rw [hexpiry, h.expiry, hr.next, hr.instant]
  · rw [hr.lock]
    exact entries_get_of_ne (by decide) (by decide) (by decide)
  · rintro f ⟨hf, _⟩
    exact ⟨hf, r.entries, rfl, exact_entries hr.exact⟩

/-- A `try` block that fails short of the file, or where the lock shows its times
already, has changed nothing that matters. -/
theorem attemptRenewal_harmless {s : LeaseState} {c : RenewCall} {e : Exn} (h : Orderly s c)
    (hharmless : ¬ReachesFile s c ∨ AlreadyShown s c ∧ c.faults.ledger.close = none)
    (he : (attemptRenewal s c).1 = .error e) :
    (attemptRenewal s c).2.row = s.row ∧
      Alike s.row.toSupervisionIds s.lock (attemptRenewal s c).2.lock := by
  unfold attemptRenewal at he ⊢
  cases hprep : preparation s c with
  | error e => exact ⟨rfl, Alike.refl _ _⟩
  | ok r =>
    have hr := preparation_ok hprep
    simp only [hprep] at he ⊢
    rcases hharmless with hnot | ⟨hshown, hclose⟩
    · have hreplaces : ¬Replaces c.faults.replace := by
        intro hreplaces
        obtain ⟨hdue, hheld⟩ := (preparation_iff h).mp ⟨r, hprep⟩
        exact hnot ⟨hdue, hheld, hreplaces⟩
      obtain ⟨e', hreplace⟩ := replaceLock_keeps r.entries hr.exact hreplaces
      rw [hr.lock, hreplace]
      exact ⟨rfl, Alike.refl _ _⟩
    · have hfile := replaceLock_file c.faults.replace r.entries s.row.toSupervisionIds s.lock
      generalize replaceLock c.faults.replace r.entries s.row.toSupervisionIds s.lock = replaced
        at hfile he ⊢
      obtain ⟨outcome, lock⟩ := replaced
      have halike : Alike s.row.toSupervisionIds s.lock lock := by
        rcases hfile with hfile | hfile <;> dsimp only at hfile <;> rw [hfile]
        · exact Alike.refl _ _
        · exact hr.alike hshown
      cases outcome with
      | error e => exact ⟨rfl, halike⟩
      | ok n =>
        cases hledger : (writeLedger s.row r c.faults.ledger).1 with
        | error e => exact ⟨writeLedger_error hclose hledger, halike⟩
        | ok _ => simp [hledger, Except.map] at he

/-! ## The two stores of a failure -/

theorem raisesHandled_loadExact (row : Supervision) (ids : SupervisionIds) :
    RaisesHandled (loadExact row ids) := by
  unfold loadExact
  split_ifs
  · exact raisesHandled_ok ()
  · exact raisesHandled_error rfl

theorem raisesHandled_storedFailure (s : LeaseState) (ids : SupervisionIds)
    (evidence : RenewalFailure) (f : PersistFaults) :
    RaisesHandled (storedFailure s ids evidence f) := by
  refine (raisesHandled_beginAttempts _ _).bind fun _ _ => ?_
  refine (raisesHandled_dbStep _).bind fun _ _ => ?_
  refine (raisesHandled_loadExact _ _).bind fun _ _ => ?_
  cases s.heartbeatFailure with
  | none =>
    refine (raisesHandled_dbStep _).bind fun _ _ => ?_
    exact (raisesHandled_dbStep _).bind fun _ _ => raisesHandled_ok _
  | some existing =>
    refine RaisesHandled.check (fun _ => rfl) fun _ => ?_
    exact (raisesHandled_dbStep _).bind fun _ _ => raisesHandled_ok _

theorem raisesHandled_lockEvidence {s : LeaseState} (h : s.lock ≠ .undecodable) (f : ReadFaults) :
    RaisesHandled (lockEvidence s f) := by
  unfold lockEvidence
  cases hread : readExact f s.lock s.row.toSupervisionIds with
  | ok payload => exact raisesHandled_ok ()
  | error e =>
    have he := raisesHandled_readExact h f s.row.toSupervisionIds e hread
    cases e with
    | supervision message => exact raisesHandled_ok ()
    | os message => exact raisesHandled_error he
    | sqlite operational message => exact raisesHandled_error he
    | unhandled className => exact raisesHandled_error he

theorem raisesHandled_persist {s : LeaseState} (h : s.lock ≠ .undecodable) (ids : SupervisionIds)
    (evidence : RenewalFailure) (f : PersistFaults) :
    RaisesHandled (persistCampaignHeartbeatFailure s ids evidence f).1 := by
  unfold persistCampaignHeartbeatFailure
  cases hconnect : dbStep f.connect with
  | error e => exact raisesHandled_error (raisesHandled_dbStep _ e hconnect)
  | ok _ =>
    refine RaisesHandled.closing ?_
    exact (raisesHandled_storedFailure s ids evidence f).bind fun _ _ =>
      raisesHandled_lockEvidence h f.lock

/-- Reading the lock after the commit raises where its path cannot be looked up. -/
theorem lockEvidence_ok {s : LeaseState} (h : s.lock ≠ .undecodable) {f : ReadFaults}
    (hfile : f.isFile = none) : lockEvidence s f = .ok () := by
  obtain ⟨isFile, readText⟩ := f
  obtain rfl : isFile = none := hfile
  unfold lockEvidence readExact exactLock
  cases hlock : s.lock with
  | undecodable => exact absurd hlock h
  | missing => rfl
  | ambiguous => cases readText <;> rfl
  | payload entries =>
    cases readText with
    | some message => rfl
    | none =>
      by_cases hexact : exact entries s.row.toSupervisionIds = true <;>
        simp [lockPayload, hexact, bind, Except.bind, pure, Except.pure]

theorem SqliteRecords.persist {s : LeaseState} {f : PersistFaults} (h : SqliteRecords s f)
    (hlock : s.lock ≠ .undecodable) (evidence : RenewalFailure) :
    (persistCampaignHeartbeatFailure s s.row.toSupervisionIds evidence f).1 = .ok () := by
  have hevidence := lockEvidence_ok hlock h.lock
  simp [persistCampaignHeartbeatFailure, storedFailure, closing, dbStep, loadExact, h.connect,
    h.start, h.read, h.first, h.insert, h.commit, h.close, hevidence, bind, Except.bind, pure,
    Except.pure]

theorem FileRecords.persist {s : LeaseState} {f : ReadFaults} {g : ReplaceFaults}
    (h : FileRecords s.lock s.row.toSupervisionIds f g) (evidence : RenewalFailure) :
    ∃ written, (persistFailureToLeaseFile s evidence f g).1 = .ok written := by
  obtain ⟨hf, payload, hlock, hexact⟩ := h.held
  unfold persistFailureToLeaseFile
  rw [hf, hlock, readExact_payload hexact]
  by_cases hnone : payload.get leaseFailureFileKey = .none
  · simp only [hnone, if_true]
    rcases h.written with hwritten | ⟨hreplaces, hunlink⟩
    · rw [hlock] at hwritten
      exact absurd hnone hwritten
    · obtain ⟨n, hreplace⟩ := replaceLock_replaces
        (payload.set leaseFailureFileKey (.dict evidence.toDict)) hexact hreplaces hunlink
      exact ⟨true, by rw [hreplace]; rfl⟩
  · simp only [hnone, if_false]
    exact ⟨_, rfl⟩

/-- A failure that one of the stores can take is recorded. -/
theorem recordFailure_ok {s : LeaseState} {c : RenewCall} (hids : s.row.toSupervisionIds = c.ids)
    (hlock : s.lock ≠ .undecodable)
    (h : SqliteRecords s c.faults.persist ∨
      FileRecords s.lock s.row.toSupervisionIds c.faults.fileLock c.faults.fileReplace)
    (evidence : RenewalFailure) : ∃ location, (recordFailure s c evidence).1 = .ok location := by
  have hpersist := raisesHandled_persist hlock c.ids evidence c.faults.persist
  obtain ⟨hrecorded, hsame⟩ := persistCampaignHeartbeatFailure_recorded s c.ids evidence
    c.faults.persist
  have hsqlite : SqliteRecords s c.faults.persist →
      (persistCampaignHeartbeatFailure s c.ids evidence c.faults.persist).1 = .ok () := by
    intro hsqlite
    rw [← hids]
    exact hsqlite.persist hlock evidence
  unfold recordFailure
  generalize persistCampaignHeartbeatFailure s c.ids evidence c.faults.persist = persisted
    at hpersist hrecorded hsame hsqlite
  obtain ⟨outcome, s'⟩ := persisted
  cases outcome with
  | ok _ => exact ⟨_, rfl⟩
  | error e =>
    rcases h with h | h
    · cases hsqlite h
    · dsimp only at hsame hrecorded
      rw [← hsame, ← hrecorded.row] at h
      obtain ⟨written, hwritten⟩ := h.persist evidence
      simp only [hpersist e rfl, if_true, hwritten]
      exact ⟨_, rfl⟩

theorem FileRecords.alike {ids : SupervisionIds} {file file' : LockFile} {f : ReadFaults}
    {g : ReplaceFaults} (h : FileRecords file ids f g) (halike : Alike ids file file') :
    FileRecords file' ids f g := by
  refine ⟨halike.held f h.held, ?_⟩
  rw [halike.failure]
  exact h.written

theorem SqliteRecords.of_failure {s s' : LeaseState} {f : PersistFaults} (h : SqliteRecords s f)
    (hs : s'.heartbeatFailure = s.heartbeatFailure) : SqliteRecords s' f :=
  ⟨h.connect, h.start, h.read, hs.trans h.first, h.insert, h.commit, h.lock, h.close⟩

theorem raisesHandled_attemptRenewal {s : LeaseState} {c : RenewCall} (h : Orderly s c) :
    RaisesHandled (attemptRenewal s c).1 := by
  have hprep := raisesHandled_preparation h
  unfold attemptRenewal
  cases hprepared : preparation s c with
  | error e => exact raisesHandled_error (hprep e hprepared)
  | ok r =>
    have hreplace := raisesHandled_replaceLock h.decodable c.faults.replace r.entries
      s.row.toSupervisionIds
    simp only
    generalize replaceLock c.faults.replace r.entries s.row.toSupervisionIds s.lock = replaced
      at hreplace
    obtain ⟨outcome, lock⟩ := replaced
    cases outcome with
    | error e => exact raisesHandled_error (hreplace e rfl)
    | ok n =>
      have hledger := raisesHandled_writeLedger s.row r c.faults.ledger
      cases hwritten : (writeLedger s.row r c.faults.ledger).1 with
      | error e => exact raisesHandled_error (hledger e hwritten)
      | ok _ => exact raisesHandled_ok _

/-- An orderly call whose `try` block fails reports it and leaves the times alone. -/
theorem Orderly.reports {s : LeaseState} {c : RenewCall} {attemptAt : String} {e : Exn}
    (h : Orderly s c) (hadmission : admission s c = .ok attemptAt)
    (he : (OperatorCli.attemptRenewal s c).1 = .error e) :
    (∃ evidence location, (renewCampaignLease s c).1 = .ok (.unconfirmed evidence location)) ∧
      Undisturbed s (renewStep s c) := by
  rcases h.settled with hcompletes | ⟨hharmless, hrecords⟩
  · obtain ⟨result, hok⟩ := hcompletes.attemptRenewal h
    rw [hok] at he
    cases he
  have hhandled := raisesHandled_attemptRenewal h e he
  obtain ⟨hrow, halike⟩ := attemptRenewal_harmless h hharmless he
  have hfailure := (attemptRenewal_frame s c).1
  unfold renewStep renewCampaignLease
  rw [hadmission]
  simp only [h.reader]
  generalize OperatorCli.attemptRenewal s c = attempted at he hrow halike hfailure
  obtain ⟨outcome, s'⟩ := attempted
  dsimp only at he hrow halike hfailure
  subst he
  simp only [hhandled, if_true]
  set evidence := safeRenewalFailure e attemptAt (some s.row.heartbeatAt)
    (some s.row.leaseExpiresAt)
  have hrecorded := recordFailure_recorded s' c evidence
  have hids : s'.row.toSupervisionIds = c.ids := by
    rw [hrow]
    exact (admission_ok hadmission).2.2
  obtain ⟨location, hlocation⟩ := recordFailure_ok hids (halike.decodable h.decodable)
    (hrecords.imp (fun hsqlite => hsqlite.of_failure hfailure) fun hfile => by
      rw [hrow]
      exact hfile.alike halike) evidence
  refine ⟨⟨evidence, location, by rw [hlocation]; rfl⟩, ?_, ?_, ?_, ?_⟩
  · rw [hrecorded.row, hrow]
    exact ⟨rfl, rfl⟩
  · rw [hrecorded.row, hrow]
  · rw [hrecorded.entries _ (by decide), halike.heartbeat]
  · rw [hrecorded.entries _ (by decide), halike.expiry]

theorem Orderly.failsSafe {s : LeaseState} {c : RenewCall} (h : Orderly s c) : FailsSafe s c := by
  refine ⟨fun attemptAt hadmission => ?_, fun evidence location hresult => ?_⟩
  · cases hattempt : (OperatorCli.attemptRenewal s c).1 with
    | error e =>
      obtain ⟨⟨evidence, location, hresult⟩, _⟩ := h.reports hadmission hattempt
      exact ⟨_, hresult⟩
    | ok result =>
      refine ⟨result, ?_⟩
      unfold renewCampaignLease
      rw [hadmission]
      simp only [h.reader]
      generalize OperatorCli.attemptRenewal s c = attempted at hattempt
      obtain ⟨outcome, s'⟩ := attempted
      dsimp only at hattempt
      rw [hattempt]
  · obtain ⟨⟨attemptAt, hadmission⟩, ⟨hattempt, _⟩ | ⟨_, e, hattempt⟩⟩ :=
      renewCampaignLease_ok hresult
    · obtain ⟨_, _, _, hconfirmed, _⟩ := attemptRenewal_ok hattempt
      cases hconfirmed
    · exact (h.reports hadmission hattempt).2

/-! ## Every sequence of calls -/

/-- Over every sequence of renewals a confirmed one puts the times of the row ahead, these
never decrease, and the first failure of each store stays; and where every call is orderly,
every call fails safe. -/
theorem renewals_failSafe (s : LeaseState) (calls : List RenewCall) :
    Along renewStep Advances s calls ∧
      Kept renewStep (fun a b => NotDecreased a.row b.row) s calls ∧
      Kept renewStep FirstFailureKept s calls ∧
      (Along renewStep Orderly s calls → Along renewStep FailsSafe s calls) := by
  have hadvances : ∀ s c, Advances s c := fun _ _ _ _ _ => renewCampaignLease_confirmed
  have hrefl : ∀ s : LeaseState, NotDecreased s.row s.row := fun s => notDecreased_refl s.row
  have htrans : ∀ a b c : LeaseState, NotDecreased a.row b.row → NotDecreased b.row c.row →
      NotDecreased a.row c.row := fun _ _ _ => NotDecreased.trans
  refine ⟨along_trivial renewStep hadvances s calls, ?_, ?_, fun h => ?_⟩
  · exact (kept_iff_along hrefl htrans).mpr (along_trivial renewStep renewStep_notDecreased s calls)
  · exact (kept_iff_along firstFailureKept_refl fun _ _ _ => FirstFailureKept.trans).mpr
      (along_trivial renewStep renewStep_firstFailureKept s calls)
  · exact along_of_invariant (I := fun _ => True) (fun _ _ _ _ => trivial)
      (fun _ _ _ hc => hc.failsSafe) trivial h

/-! ## A ledger that stays locked -/

def renewedIds : SupervisionIds := ⟨"supervision", "campaign", "configuration", "run", "owner"⟩

/-- What `acquire_campaign_supervision` leaves at 20:00:00 for 30 seconds. -/
def acquired : LeaseState where
  row :=
    { toSupervisionIds := renewedIds
      supervisionState := .active
      terminalStatus := none
      firstTerminalCause := none
      heartbeatAt := "2026-07-27T20:00:00+00:00"
      leaseExpiresAt := "2026-07-27T20:00:30+00:00"
      leaseLockPath := "/var/campaign.lock"
      cancellationRequestedAt := none
      cleanupCompletedAt := none
      leaseReleasedAt := none
      updatedAt := "2026-07-27T20:00:00+00:00" }
  heartbeatFailure := none
  lock := .payload [("campaign_id", .str "campaign"), ("configuration_id", .str "configuration"),
    ("created_at", .str "2026-07-27T20:00:00+00:00"),
    ("heartbeat_at", .str "2026-07-27T20:00:00+00:00"),
    ("lease_expires_at", .str "2026-07-27T20:00:30+00:00"), ("owner_id", .str "owner"),
    ("run_id", .str "run"), ("scope", .str "OPERATIONAL_CAMPAIGN"),
    ("supervision_id", .str "supervision"), ("updated_at", .str "2026-07-27T20:00:00+00:00")]

/-- 2026-07-27T20:00:10 in UTC, as the callers pass it. -/
def tenSecondsLater : Datetime := ⟨63920779210000000, some 0⟩

def renewalOf (faults : RenewFaults) : RenewCall := ⟨renewedIds, 30, tenSecondsLater, 0, faults⟩

def locked : DbFault := .sqlite true "database is locked"

/-- The ledger stays locked once the lock file has been replaced. -/
def lockedLedger : RenewCall :=
  renewalOf { RenewFaults.quiet with
    ledger := { LedgerFaults.quiet with start := fun _ => some locked } }

/-- The lock file cannot be replaced, and the database cannot take the failure. -/
def lockedStores : RenewCall :=
  let busy : ReplaceFaults := ⟨none, fun _ => ⟨.quiet, .transient⟩, none⟩
  renewalOf { RenewFaults.quiet with
    replace := busy
    persist := { PersistFaults.quiet with start := fun _ => some locked }
    fileReplace := busy }

/-- A renewal that is not confirmed has moved the times of the lock, and a failure that
neither store takes is raised. -/
theorem not_failsSafe_locked :
    ¬FailsSafe acquired lockedLedger ∧ ¬FailsSafe acquired lockedStores := by
  constructor
  · intro h
    have hreported : (renewCampaignLease acquired lockedLedger).1 = .ok (.unconfirmed
        (safeRenewalFailure locked.exn "2026-07-27T20:00:10+00:00"
          (some "2026-07-27T20:00:00+00:00") (some "2026-07-27T20:00:30+00:00"))
        (some .sqlite)) := by decide +kernel
    have hmoved : (renewStep acquired lockedLedger).lock.entry "heartbeat_at" ≠
      acquired.lock.entry "heartbeat_at" := by decide +kernel
    exact hmoved (h.undisturbed _ _ hreported).heartbeat
  · intro h
    obtain ⟨result, hresult⟩ := h.returns "2026-07-27T20:00:10+00:00" (by decide)
    have herror : (renewCampaignLease acquired lockedStores).1 =
      .error (unconfirmedReplacement 3) := by decide +kernel
    rw [herror] at hresult
    cases hresult

theorem orderly_acquired : Orderly acquired (renewalOf .quiet) where
  reader := rfl
  aware := by decide
  horizon := by decide
  horizonUtc := by decide
  heartbeatUtc := by decide
  expiryUtc := by decide
  decodable := by decide
  settled := Or.inl
    { due := by decide
      held := ⟨rfl, _, rfl, by decide⟩
      replaces := ⟨rfl, rfl, Or.inl rfl⟩
      unlink := rfl
      ledger := ⟨rfl, rfl, rfl, rfl, rfl, by decide, by decide⟩ }

/-- What the renewal leaves. -/
def renewed : LeaseState where
  row :=
    { acquired.row with
      heartbeatAt := "2026-07-27T20:00:10+00:00"
      leaseExpiresAt := "2026-07-27T20:00:40+00:00"
      updatedAt := "2026-07-27T20:00:10+00:00" }
  heartbeatFailure := none
  lock := .payload [("campaign_id", .str "campaign"), ("configuration_id", .str "configuration"),
    ("created_at", .str "2026-07-27T20:00:00+00:00"),
    ("heartbeat_at", .str "2026-07-27T20:00:10+00:00"),
    ("lease_expires_at", .str "2026-07-27T20:00:40+00:00"), ("owner_id", .str "owner"),
    ("run_id", .str "run"), ("scope", .str "OPERATIONAL_CAMPAIGN"),
    ("supervision_id", .str "supervision"), ("updated_at", .str "2026-07-27T20:00:10+00:00")]

theorem renewStep_acquired : renewStep acquired (renewalOf .quiet) = renewed := by decide +kernel

theorem not_reachesFile_renewed : ¬ReachesFile renewed (renewalOf .quiet) := by
  have hnot : ¬Due renewed.row (renewalOf .quiet) := by decide
  intro ⟨hdue, _, _⟩
  exact hnot hdue

theorem sqliteRecords_renewed : SqliteRecords renewed PersistFaults.quiet :=
  ⟨rfl, rfl, rfl, rfl, rfl, rfl, rfl, rfl⟩

/-- The same renewal again: its heartbeat would not advance, and the database takes that. -/
theorem orderly_renewed : Orderly renewed (renewalOf .quiet) where
  reader := rfl
  aware := by decide
  horizon := by decide
  horizonUtc := by decide
  heartbeatUtc := by decide
  expiryUtc := by decide
  decodable := by decide
  settled := Or.inr ⟨Or.inl not_reachesFile_renewed, Or.inl sqliteRecords_renewed⟩

theorem renewals_failSafe_acquired :
    Along renewStep FailsSafe acquired [renewalOf .quiet, renewalOf .quiet] :=
  (renewals_failSafe acquired [renewalOf .quiet, renewalOf .quiet]).2.2.2
    ⟨orderly_acquired, by rw [renewStep_acquired]; exact ⟨orderly_renewed, trivial⟩⟩

end PrinterV1.OperatorCli
