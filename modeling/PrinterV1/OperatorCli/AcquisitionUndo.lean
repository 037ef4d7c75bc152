import PrinterV1.OperatorCli.AcquisitionExclusion

/-!
# One owner, or nothing

A call that raises has undone what it wrote, but for two places: the database is
opened after the lock file was created and before the handler, and the reading
behind the commit can raise, also for a path that is another one in a URI.
-/

namespace PrinterV1.OperatorCli.Acquisition

open Python

/-- One new active row for the run, and a lock file with its identities. -/
structure Acquired (w w' : World) (c : AcquireCall) : Prop where
  row : ∃ ledger ledger' row payload, w.ledgers c.dbPath = some ledger ∧
    w'.ledgers = Function.update w.ledgers c.dbPath (some ledger') ∧
      ledger'.supervisions.rows = ledger.supervisions.rows ++ [row] ∧
        row.supervisionState = .active ∧ row.campaignId = c.ids.campaignId ∧
          row.runId = c.ids.runId ∧
            w'.locks = Function.update w.locks c.lockPath (.payload payload) ∧
              exact payload row.toSupervisionIds = true

/-- The call returns with its row and its lock file, or it raises and nothing has changed. -/
def AllOrNothing (uri : SqliteUri.Host) (c : AcquireCall) (busy : Bool) (w : World) : Prop :=
  match acquireCampaignSupervision uri c busy w with
  | (w', .returned _) => Acquired w w' c
  | (w', .raised _) => w' = w
  | _ => False

/-- Another database has a row of the call's identities, and the lock file of that row names it. -/
def Mirrors (w : World) (c : AcquireCall) (other : Ledger) : Prop :=
  ∃ row, (other.supervisions.rows.find? fun r => r.toSupervisionIds = c.ids) = some row ∧
    (row.supervisionState ≠ .terminal → row.leaseLockPath = c.lockPath ∨
      ∃ payload, w.locks row.leaseLockPath = .payload payload ∧ exact payload c.ids = true) ∧
    ∃ expires, parse row.leaseExpiresAt = .ok expires

/-- The URI of the database's path names the database, or another one that mirrors its row. -/
def ReadsBack (uri : SqliteUri.Host) (w : World) (c : AcquireCall) : Prop :=
  ∃ opened, uri.opens c.dbPath = some opened ∧
    (opened.name = c.dbPath ∨ ∃ other, w.ledgers opened.name = some other ∧ Mirrors w c other)

/-- A call that gets its lock file finds the database, and one that is let in has texts without
blanks around them and an aware time, and reads its database back. -/
def Sound (uri : SqliteUri.Host) (c : AcquireCall) (busy : Bool) (w : World) : Prop :=
  ∀ lease, prepare c = .ok lease → w.locks c.lockPath = .missing →
    ∃ ledger, w.ledgers c.dbPath = some ledger ∧
      (busy = false → Admits ledger c →
        stripped c.ids = c.ids ∧ c.now.utcoffset ≠ none ∧ ReadsBack uri w c)

variable {uri : SqliteUri.Host}

/-- A path without the special characters of a URI is read back. -/
theorem readsBack_plain {w : World} {c : AcquireCall}
    (hplain : ∀ ch ∈ c.dbPath.toList, ch ≠ '#' ∧ ch ≠ '?' ∧ ch ≠ '%')
    (hauthority : ¬['/', '/'] <+: c.dbPath.toList) (hresolved : uri.follow c.dbPath = c.dbPath) :
    ReadsBack uri w c :=
  ⟨_, SqliteUri.opens_plain uri hplain hauthority, .inl hresolved⟩

theorem bind_eq_ok {ε α β : Type} {x : Except ε α} {f : α → Except ε β} {b : β} :
    (x >>= f) = .ok b ↔ ∃ a, x = .ok a ∧ f a = .ok b := by
  cases x <;> simp [bind, Except.bind]

theorem iso_ok {value : Datetime} {localOffset : ℤ} {text : String}
    (h : iso value localOffset = .ok text) : ∃ i, InRange i ∧ text = isoformat i := by
  unfold iso at h
  dsimp only at h
  split_ifs at h with hrange
  exact ⟨value.wall - value.utcoffset.getD localOffset, hrange, (Except.ok.inj h).symm⟩

theorem prepare_ok {c : AcquireCall} {lease : Lease} (h : prepare c = .ok lease) :
    lease.identities = stripped c.ids ∧ ∃ i, InRange i ∧ lease.leaseExpiresAt = isoformat i := by
  unfold prepare at h
  extract_lets rest at h
  split_ifs at h
  · cases h
  · obtain ⟨_, _, h⟩ := bind_eq_ok.mp h
    obtain ⟨_, _, h⟩ := bind_eq_ok.mp h
    obtain ⟨_, _, h⟩ := bind_eq_ok.mp h
    obtain ⟨_, _, h⟩ := bind_eq_ok.mp h
    obtain ⟨_, _, h⟩ := bind_eq_ok.mp h
    obtain ⟨heartbeat, _, h⟩ := bind_eq_ok.mp h
    extract_lets at h
    split_ifs at h
    · obtain ⟨expiry, hexpiry, h⟩ := bind_eq_ok.mp h
      cases Except.ok.inj h
      exact ⟨rfl, iso_ok hexpiry⟩
    · cases h

theorem exact_payload_iff {lease : Lease} {ids : SupervisionIds} :
    exact lease.payload ids = true ↔ lease.identities = ids := by
  obtain ⟨⟨_, _, _, _, _⟩, _, _⟩ := lease
  obtain ⟨_, _, _, _, _⟩ := ids
  simp [exact, lockIdentity, Lease.payload]

/-- A row that is found is read with its lock file, its expiry and an aware time. -/
theorem inspectLedger_ok_iff {w : World} {ledger : Ledger} {ids : SupervisionIds} {now : Datetime} :
    (∃ inspection, inspectLedger w ledger ids now = .ok inspection) ↔
      now.utcoffset ≠ none ∧
        ∃ row, (ledger.supervisions.rows.find? fun r => r.toSupervisionIds = ids) = some row ∧
          (∃ payload, readLock w row = .ok payload) ∧
          ∃ expires, parse row.leaseExpiresAt = .ok expires := by
  unfold inspectLedger
  cases hrow : ledger.supervisions.rows.find? fun r => r.toSupervisionIds = ids with
  | none =>
    refine iff_of_false ?_ (by simp)
    rintro ⟨inspection, h⟩
    cases h
  | some row =>
    simp only [Option.some.injEq, exists_eq_left']
    constructor
    · rintro ⟨inspection, h⟩
      obtain ⟨payload, hpayload, h⟩ := bind_eq_ok.mp h
      obtain ⟨expires, hexpires, h⟩ := bind_eq_ok.mp h
      refine ⟨?_, ⟨payload, hpayload⟩, expires, hexpires⟩
      intro hnaive
      rw [hnaive] at h
      cases h
    · rintro ⟨haware, ⟨payload, hpayload⟩, expires, hexpires⟩
      obtain ⟨offset, haware⟩ := Option.ne_none_iff_exists'.mp haware
      rw [hpayload, hexpires, haware]
      exact ⟨_, rfl⟩

theorem readLock_ok_iff {w : World} {row : Supervision} :
    (∃ payload, readLock w row = .ok payload) ↔ (row.supervisionState ≠ .terminal →
      ∃ payload, w.locks row.leaseLockPath = .payload payload ∧
        exact payload row.toSupervisionIds = true) := by
  have hread : (∃ payload, readExact .quiet (w.locks row.leaseLockPath) row.toSupervisionIds =
      .ok payload) ↔ ∃ payload, w.locks row.leaseLockPath = .payload payload ∧
        exact payload row.toSupervisionIds = true := by
    constructor
    · rintro ⟨payload, h⟩
      obtain ⟨found, hfound, h⟩ := bind_eq_ok.mp h
      obtain ⟨_, hexact, _⟩ := bind_eq_ok.mp h
      refine ⟨found, ?_, ?_⟩
      · revert hfound
        cases w.locks row.leaseLockPath <;> simp [lockPayload, ReadFaults.quiet]
      · by_contra hno
        rw [exactLock, if_neg hno] at hexact
        cases hexact
    · rintro ⟨payload, hlock, hexact⟩
      have hpassed : exactLock payload row.toSupervisionIds = .ok () := if_pos hexact
      rw [hlock, readExact]
      exact ⟨payload, bind_eq_ok.mpr ⟨payload, rfl, bind_eq_ok.mpr ⟨(), hpassed, rfl⟩⟩⟩
  unfold readLock
  by_cases hstate : row.supervisionState ≠ .terminal
  · rw [if_pos hstate, ← hread]
    simp only [hstate, ne_eq, not_false_eq_true, true_implies]
    constructor
    · rintro ⟨payload, h⟩
      cases hexact : readExact .quiet (w.locks row.leaseLockPath) row.toSupervisionIds with
      | ok found => exact ⟨found, rfl⟩
      | error e =>
        rw [hexact] at h
        cases h
    · rintro ⟨payload, h⟩
      rw [h]
      exact ⟨some payload, rfl⟩
  · rw [if_neg hstate]
    exact iff_of_true ⟨none, rfl⟩ fun h => absurd h hstate

/-- The state behind the commit of a call. -/
def committedWorld (w : World) (c : AcquireCall) (lease : Lease) (ledger : Ledger) : World where
  locks := Function.update w.locks c.lockPath (.payload lease.payload)
  ledgers := Function.update w.ledgers c.dbPath (some ledger)

/-- The call's own row is read where it was entered. -/
theorem own_row {w : World} {c : AcquireCall} {lease : Lease} {ledger ledger' : Ledger}
    (hprepare : prepare c = .ok lease) (henter : enter ledger c lease = .ok ledger')
    (hids : stripped c.ids = c.ids) :
    ∃ row, (ledger'.supervisions.rows.find? fun r => r.toSupervisionIds = c.ids) = some row ∧
      (∃ payload, readLock (committedWorld w c lease ledger') row = .ok payload) ∧
      ∃ expires, parse row.leaseExpiresAt = .ok expires := by
  obtain ⟨hidentities, i, hrange, hexpires⟩ := prepare_ok hprepare
  obtain ⟨hadmits, hfresh, rfl⟩ := enter_ok_iff.mp henter
  have hown : lease.identities = c.ids := hidentities.trans hids
  have hnone : (ledger.supervisions.rows.find? fun r => r.toSupervisionIds = c.ids) = none := by
    rw [List.find?_eq_none]
    intro r hr hsame
    have hsame : r.toSupervisionIds = c.ids := by simpa using hsame
    exact hadmits.unused r hr (by rw [hsame])
  refine ⟨newRow c lease, ?_, ?_, i, ?_⟩
  · simp [Table.insert, List.find?_append, hnone, newRow]
  · rw [readLock_ok_iff]
    intro _
    exact ⟨lease.payload, by simp [newRow, committedWorld], exact_payload_iff.mpr hown⟩
  · simp only [newRow, hexpires]
    exact parse_isoformat hrange

/-- With the call's lock file in place, another database is read where it mirrors the row. -/
theorem other_row {w : World} {c : AcquireCall} {lease : Lease} {ledger' other : Ledger}
    (hown : lease.identities = c.ids) :
    (∃ row, (other.supervisions.rows.find? fun r => r.toSupervisionIds = c.ids) = some row ∧
      (∃ payload, readLock (committedWorld w c lease ledger') row = .ok payload) ∧
      ∃ expires, parse row.leaseExpiresAt = .ok expires) ↔ Mirrors w c other := by
  unfold Mirrors
  apply exists_congr
  intro row
  apply and_congr_right
  intro hfind
  have hids : row.toSupervisionIds = c.ids := by simpa using List.find?_some hfind
  rw [readLock_ok_iff, hids]
  apply and_congr_left
  intro _
  apply imp_congr_right
  intro _
  by_cases hpath : row.leaseLockPath = c.lockPath
  · refine iff_of_true ⟨lease.payload, ?_, exact_payload_iff.mpr hown⟩ (.inl hpath)
    simp [committedWorld, hpath]
  · simp [committedWorld, hpath]

/-- Behind the commit of a call with its texts as they are, the reading returns exactly where the
time is aware and the database is read back. -/
theorem inspect_ok_iff {w : World} {c : AcquireCall} {lease : Lease} {ledger ledger' : Ledger}
    (hprepare : prepare c = .ok lease) (henter : enter ledger c lease = .ok ledger')
    (hids : stripped c.ids = c.ids) :
    (∃ inspection, inspectCampaignSupervision uri (committedWorld w c lease ledger') c.dbPath
      lease.identities c.now = .ok inspection) ↔
        c.now.utcoffset ≠ none ∧ ReadsBack uri w c := by
  have hown : lease.identities = c.ids := (prepare_ok hprepare).1.trans hids
  have hstored : (committedWorld w c lease ledger').ledgers c.dbPath = some ledger' := by
    simp [committedWorld]
  unfold inspectCampaignSupervision ReadsBack
  rw [hstored, hown]
  cases hopens : uri.opens c.dbPath with
  | none => simp
  | some opened =>
    simp only [Option.some.injEq, exists_eq_left']
    by_cases hname : opened.name = c.dbPath
    · rw [hname, hstored]
      simp only [inspectLedger_ok_iff, own_row hprepare henter hids, true_or, and_true]
    · have hother : (committedWorld w c lease ledger').ledgers opened.name =
          w.ledgers opened.name := by
        simp [committedWorld, Function.update_of_ne hname]
      rw [hother]
      simp only [hname, false_or]
      cases hledger : w.ledgers opened.name with
      | none => simp
      | some other =>
        simp only [inspectLedger_ok_iff, Option.some.injEq, exists_eq_left', other_row hown]

/-- A reading that returns has created no file. -/
theorem leftBehind_of_ok {w : World} {dbPath : String} {ids : SupervisionIds} {now : Datetime}
    {inspection : Inspection}
    (h : inspectCampaignSupervision uri w dbPath ids now = .ok inspection) :
    leftBehind uri w dbPath = w := by
  unfold inspectCampaignSupervision at h
  unfold leftBehind
  cases hledger : w.ledgers dbPath with
  | none => rfl
  | some ledger =>
    cases hopens : uri.opens dbPath with
    | none => rfl
    | some opened =>
      obtain ⟨name, creates⟩ := opened
      rw [hledger, hopens] at h
      dsimp only at h
      cases creates with
      | false => rfl
      | true =>
        dsimp only
        cases hname : w.ledgers name with
        | none =>
          rw [hname] at h
          cases h
        | some other => rfl

section Alone

variable {c : AcquireCall} {busy : Bool} {w : World} {lease : Lease} {ledger ledger' : Ledger}

theorem acquire_refused
    (h : ∀ lease, prepare c = .ok lease → w.locks c.lockPath ≠ .missing) :
    ∃ e, acquireCampaignSupervision uri c busy w = (w, .raised e) := by
  cases hprepare : prepare c with
  | error e => exact ⟨e, by simp [acquireCampaignSupervision, step, hprepare]⟩
  | ok lease =>
    exact ⟨.supervision "operational campaign lease already exists", by
      simp [acquireCampaignSupervision, step, hprepare, h lease hprepare]⟩

theorem acquire_without_database (hprepare : prepare c = .ok lease)
    (hlock : w.locks c.lockPath = .missing) (hledger : w.ledgers c.dbPath = none) :
    ∃ e, acquireCampaignSupervision uri c busy w =
      ({ w with locks := Function.update w.locks c.lockPath (.payload lease.payload) },
        .raised e) :=
  ⟨databaseMissing c.dbPath, by
    simp [acquireCampaignSupervision, step, hprepare, hlock, hledger]⟩

/-- Without its lock file the state is the one before. -/
theorem unlinked (hlock : w.locks c.lockPath = .missing) :
    { w with locks := Function.update w.locks c.lockPath .missing } = w := by
  rw [← hlock, Function.update_eq_self]

theorem acquire_rolled_back (hprepare : prepare c = .ok lease)
    (hlock : w.locks c.lockPath = .missing) (hledger : w.ledgers c.dbPath = some ledger)
    (h : busy = true ∨ ¬Admits ledger c) :
    ∃ e, acquireCampaignSupervision uri c busy w = (w, .raised e) := by
  cases busy with
  | true =>
    exact ⟨.supervision "database is locked", by
      simp [acquireCampaignSupervision, step, hprepare, hlock, hledger, unlinked hlock]⟩
  | false =>
    have hnot : ¬Admits ledger c := by simpa using h
    cases henter : enter ledger c lease with
    | error e =>
      exact ⟨e, by
        simp [acquireCampaignSupervision, step, hprepare, hlock, hledger, henter, unlinked hlock]⟩
    | ok ledger' => exact absurd (enter_ok_iff.mp henter).1 hnot

theorem acquire_committed (hprepare : prepare c = .ok lease)
    (hlock : w.locks c.lockPath = .missing) (hledger : w.ledgers c.dbPath = some ledger)
    (henter : enter ledger c lease = .ok ledger') :
    acquireCampaignSupervision uri c false w =
      step uri c false (committedWorld w c lease ledger') (.committed lease) := by
  simp [acquireCampaignSupervision, step, hprepare, hlock, hledger, henter, committedWorld]

/-- A row is there that was not. -/
theorem leftBehind_ne (hledger : w.ledgers c.dbPath = some ledger)
    (henter : enter ledger c lease = .ok ledger') :
    leftBehind uri (committedWorld w c lease ledger') c.dbPath ≠ w := by
  intro hsame
  have hcommitted : (committedWorld w c lease ledger').ledgers c.dbPath = some ledger' := by
    simp [committedWorld]
  have hkept : (leftBehind uri (committedWorld w c lease ledger') c.dbPath).ledgers c.dbPath =
      some ledger' := by
    rcases leftBehind_ledgers uri (committedWorld w c lease ledger') c.dbPath with
      hleft | ⟨name, hnone, hleft⟩
    · rw [hleft, hcommitted]
    · have hne : c.dbPath ≠ name := by
        rintro rfl
        rw [hcommitted] at hnone
        cases hnone
      rw [hleft, Function.update_of_ne hne, hcommitted]
  rw [hsame, hledger] at hkept
  have hrows := (enter_rows henter).1
  rw [Option.some.inj hkept] at hrows
  simp at hrows

/-- The row that was entered has the identities of the lock file exactly when the texts had no
blanks around them. -/
theorem acquired_iff (hprepare : prepare c = .ok lease)
    (hledger : w.ledgers c.dbPath = some ledger) (henter : enter ledger c lease = .ok ledger') :
    Acquired w (committedWorld w c lease ledger') c ↔ stripped c.ids = c.ids := by
  obtain ⟨hidentities, _⟩ := prepare_ok hprepare
  obtain ⟨hrows, _⟩ := enter_rows henter
  constructor
  · rintro ⟨stored, stored', row, payload, hstored, hledgers, hrows', _, _, _, hlocks, hexact⟩
    cases hledger.symm.trans hstored
    have hsame : some ledger' = some stored' := by
      have hat := congrFun hledgers c.dbPath
      simpa [committedWorld] using hat
    cases hsame
    have hrow : newRow c lease = row := by
      rw [hrows] at hrows'
      simpa using hrows'
    have hpayload : lease.payload = payload := by
      have hat := congrFun hlocks c.lockPath
      simpa [committedWorld] using hat
    rw [← hrow, ← hpayload, exact_payload_iff, hidentities] at hexact
    exact hexact
  · intro hids
    refine ⟨ledger, ledger', newRow c lease, lease.payload, hledger, rfl, hrows, rfl, rfl, rfl, rfl,
      ?_⟩
    exact exact_payload_iff.mpr (hidentities.trans hids)

theorem allOrNothing_iff (c : AcquireCall) (busy : Bool) (w : World) :
    AllOrNothing uri c busy w ↔ Sound uri c busy w := by
  unfold AllOrNothing Sound
  by_cases hrefused : ∀ lease, prepare c = .ok lease → w.locks c.lockPath ≠ .missing
  · have hraised : ∃ e, acquireCampaignSupervision uri c busy w = (w, .raised e) :=
      acquire_refused hrefused
    obtain ⟨e, hacquire⟩ := hraised
    rw [hacquire]
    simp only [true_iff]
    intro lease hprepare hlock
    exact absurd hlock (hrefused lease hprepare)
  · push Not at hrefused
    obtain ⟨lease, hprepare, hlock⟩ := hrefused
    have honly : ∀ {P : Prop}, (∀ lease', prepare c = .ok lease' →
        w.locks c.lockPath = .missing → P) ↔ P :=
      ⟨fun h => h lease hprepare hlock, fun h _ _ _ => h⟩
    rw [honly]
    cases hledger : w.ledgers c.dbPath with
    | none =>
      have hraised : ∃ e, acquireCampaignSupervision uri c busy w =
          ({ w with locks := Function.update w.locks c.lockPath (.payload lease.payload) },
            .raised e) := acquire_without_database hprepare hlock hledger
      obtain ⟨e, hacquire⟩ := hraised
      rw [hacquire]
      simp only [reduceCtorEq, false_and, exists_false, iff_false]
      intro hsame
      have hat := congrFun (congrArg World.locks hsame) c.lockPath
      simp [hlock] at hat
    | some ledger =>
      simp only [Option.some_inj, exists_eq_left']
      by_cases hadmits : busy = false ∧ Admits ledger c
      · obtain ⟨rfl, hadmits⟩ := hadmits
        obtain ⟨ledger', henter⟩ : ∃ ledger', enter ledger c lease = .ok ledger' :=
          ⟨_, enter_ok_iff.mpr ⟨hadmits, hadmits.unused, rfl⟩⟩
        rw [acquire_committed hprepare hlock hledger henter]
        have hacquired := acquired_iff hprepare hledger henter
        simp only [step, hadmits, true_implies]
        cases hinspect : inspectCampaignSupervision uri (committedWorld w c lease ledger') c.dbPath
            lease.identities c.now with
        | error e =>
          refine iff_of_false (leftBehind_ne hledger henter) ?_
          rintro ⟨hids, hread⟩
          obtain ⟨inspection, hok⟩ := (inspect_ok_iff hprepare henter hids).mpr hread
          cases hinspect.symm.trans hok
        | ok inspection =>
          dsimp only
          rw [leftBehind_of_ok hinspect, hacquired]
          constructor
          · intro hids
            exact ⟨hids, (inspect_ok_iff hprepare henter hids).mp ⟨inspection, hinspect⟩⟩
          · intro h
            exact h.1
      · have hnot : busy = true ∨ ¬Admits ledger c := by
          rcases not_and_or.mp hadmits with hbusy | hnot
          · exact Or.inl (by simpa using hbusy)
          · exact Or.inr hnot
        obtain ⟨e, hacquire⟩ := acquire_rolled_back hprepare hlock hledger hnot
        rw [hacquire]
        simp only [true_iff]
        intro hfree hadmits'
        exact absurd ⟨hfree, hadmits'⟩ hadmits

end Alone

/-- A call alone has its row and its lock file or has changed nothing exactly when it is sound,
and of calls beside each other at most one returns for a lock path and for a run. -/
theorem supervisionAcquisition {ι : Type*} [DecidableEq ι] (uri : SqliteUri.Host)
    (c : AcquireCall) (busy : Bool) (w : World) (calls : ι → AcquireCall)
    (schedule : List (ι × Bool)) :
    (AllOrNothing uri c busy w ↔ Sound uri c busy w) ∧
      OneOwner calls (Runs.run (System.step uri calls) (System.begin w) schedule) :=
  ⟨allOrNothing_iff c busy w, oneOwner_run uri calls w schedule⟩

def missingDatabaseCall : AcquireCall where
  dbPath := "/srv/campaign.sqlite"
  lockPath := "/srv/campaign.lock"
  ids := ⟨"supervision", "campaign", "configuration", "run", "owner"⟩
  leaseSeconds := 90
  now := ⟨seconds 1000, some 0⟩
  localOffset := fun _ => 0

/-- A host that knows the two options of a file, and has no links. -/
def plainHost : SqliteUri.Host where
  access options := if options = "mode=ro" ∨ options = "mode=rw" then .existing else .creating
  readOnly := by decide
  follow := id

/-- Without a database the call raises, and its lock file stays. -/
theorem not_allOrNothing_missingDatabase :
    ¬AllOrNothing plainHost missingDatabaseCall false ⟨fun _ => .missing, fun _ => none⟩ := by
  rw [allOrNothing_iff]
  intro hsound
  obtain ⟨lease, hprepare⟩ : ∃ lease, prepare missingDatabaseCall = .ok lease := ⟨_, rfl⟩
  obtain ⟨ledger, hledger, _⟩ := hsound lease hprepare rfl
  cases hledger

end PrinterV1.OperatorCli.Acquisition
