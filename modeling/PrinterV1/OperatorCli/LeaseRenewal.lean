import PrinterV1.Foundation.Faults
import PrinterV1.Foundation.Runs
import PrinterV1.OperatorCli.CampaignSupervision

/-!
# Renewal of a campaign lease

`renew_campaign_lease` on the supervision row, the first recorded failure and the
lock file, with every step of the file system and of the database free to fail.
The lock file is replaced before the ledger is written, and a failure goes to the
database or, failing that, to the lock file.
-/

namespace PrinterV1.OperatorCli

open Python Runs

structure LeaseState where
  row : Supervision
  heartbeatFailure : Option HeartbeatFailure
  lock : LockFile
  deriving DecidableEq

structure LedgerFaults where
  connect : Option DbFault
  start : ℕ → Option DbFault
  update : Option DbFault
  commit : Option DbFault
  rollback : Option DbFault
  close : Option DbFault

def LedgerFaults.quiet : LedgerFaults := ⟨none, fun _ => none, none, none, none, none⟩

structure PersistFaults where
  connect : Option DbFault
  start : ℕ → Option DbFault
  read : Option DbFault
  insert : Option DbFault
  commit : Option DbFault
  lock : ReadFaults
  rollback : Option DbFault
  close : Option DbFault

def PersistFaults.quiet : PersistFaults :=
  ⟨none, fun _ => none, none, none, none, .quiet, none, none⟩

/-- What the steps of one call raise. -/
structure RenewFaults where
  readLedger : Option DbFault
  closeReader : Option DbFault
  lock : ReadFaults
  replace : ReplaceFaults
  ledger : LedgerFaults
  persist : PersistFaults
  fileLock : ReadFaults
  fileReplace : ReplaceFaults

def RenewFaults.quiet : RenewFaults :=
  ⟨none, none, .quiet, .quiet, .quiet, .quiet, .quiet, .quiet⟩

/-- One call, with the offset of the local clock at its `now`. -/
structure RenewCall where
  ids : SupervisionIds
  leaseSeconds : ℤ
  now : Datetime
  localOffset : ℤ
  faults : RenewFaults

inductive EvidenceLocation
  | sqlite | leaseFile
  deriving DecidableEq, Repr

inductive RenewResult
  | confirmed (heartbeatAt leaseExpiresAt : String) (leaseReplaceAttempts : ℕ)
  | unconfirmed (failureEvidence : RenewalFailure) (durableLocation : Option EvidenceLocation)
  deriving DecidableEq, Repr

/-- The checks up to the state of the supervision; they yield `attempt_at`. -/
def admission (s : LeaseState) (c : RenewCall) : Except Exn String := do
  if c.leaseSeconds < 15 then throw (.supervision "lease must be at least 15 seconds")
  let attemptAt ← iso c.now c.localOffset
  dbStep c.faults.readLedger
  loadExact s.row c.ids
  if s.row.supervisionState ≠ .active then
    throw (.supervision "campaign supervision is not renewable")
  return attemptAt

/-- A renewal that may go on to the lock file. -/
structure Renewal where
  instant : Instant
  nextExpiry : Instant
  previousHeartbeat : Instant
  previousExpiry : Instant
  payload : Dict

/-- The entries that `payload.update` leaves. -/
def Renewal.entries (r : Renewal) : Dict :=
  ((r.payload.set "heartbeat_at" (.str (isoformat r.instant))).set "lease_expires_at"
    (.str (isoformat r.nextExpiry))).set "updated_at" (.str (isoformat r.instant))

/-- The steps of the `try` block that change nothing. -/
def preparation (s : LeaseState) (c : RenewCall) : Except Exn Renewal := do
  let previousHeartbeat ← parse s.row.heartbeatAt
  let previousExpiry ← parse s.row.leaseExpiresAt
  match c.now.utcoffset with
  | none => throw typeError
  | some offset =>
    let instant := c.now.wall - offset
    if previousExpiry ≤ instant then
      throw (.supervision "operational campaign lease is expired")
    if ¬InRange (c.now.wall + seconds c.leaseSeconds) then throw overflowError
    let nextExpiry := instant + seconds c.leaseSeconds
    if instant ≤ previousHeartbeat ∨ nextExpiry ≤ previousExpiry then
      throw (.supervision "lease renewal must advance monotonically")
    let payload ← readExact c.faults.lock s.lock s.row.toSupervisionIds
    if ¬InRange nextExpiry then throw overflowError
    return ⟨instant, nextExpiry, previousHeartbeat, previousExpiry, payload⟩

/-- The row that the `UPDATE` of a renewal leaves. -/
def Renewal.apply (r : Renewal) (row : Supervision) : Supervision :=
  { row with
    heartbeatAt := isoformat r.instant
    leaseExpiresAt := isoformat r.nextExpiry
    updatedAt := isoformat r.instant }

/-- The transaction on the ledger, up to its commit. -/
def ledgerBody (row : Supervision) (r : Renewal) (f : LedgerFaults) : Except Exn Unit := do
  beginImmediate f.start
  dbStep f.update
  if row.heartbeatAt ≠ isoformat r.previousHeartbeat ∨
      row.leaseExpiresAt ≠ isoformat r.previousExpiry then
    throw (.supervision "lease ledger renewal was unconfirmed")
  dbStep f.commit

def writeLedger (row : Supervision) (r : Renewal) (f : LedgerFaults) :
    Except Exn Unit × Supervision :=
  match dbStep f.connect with
  | .error e => (.error e, row)
  | .ok _ =>
    let body := ledgerBody row r f
    (closing f.rollback f.close body,
      match body with
      | .ok _ => r.apply row
      | .error _ => row)

/-- The `try` block of the renewal. -/
def attemptRenewal (s : LeaseState) (c : RenewCall) : Except Exn RenewResult × LeaseState :=
  match preparation s c with
  | .error e => (.error e, s)
  | .ok r =>
    match replaceLock c.faults.replace r.entries s.row.toSupervisionIds s.lock with
    | (.error e, lock) => (.error e, { s with lock := lock })
    | (.ok attempts, lock) =>
      let written := writeLedger s.row r c.faults.ledger
      (written.1.map fun _ =>
          .confirmed (isoformat r.instant) (isoformat r.nextExpiry) attempts,
        { s with lock := lock, row := written.2 })

/-- The failure row that `persist_campaign_heartbeat_failure` leaves committed. -/
def storedFailure (s : LeaseState) (ids : SupervisionIds) (evidence : RenewalFailure)
    (f : PersistFaults) : Except Exn HeartbeatFailure := do
  beginImmediate f.start
  dbStep f.read
  loadExact s.row ids
  match s.heartbeatFailure with
  | none =>
    dbStep f.insert
    dbStep f.commit
    return ⟨ids, evidence⟩
  | some existing =>
    if existing ≠ ⟨ids, evidence⟩ then
      throw (.supervision "first heartbeat-renewal failure is immutable")
    dbStep f.commit
    return existing

/-- Whether the lock file holds the evidence too; only one class of errors is caught. -/
def lockEvidence (s : LeaseState) (f : ReadFaults) : Except Exn Unit :=
  match readExact f s.lock s.row.toSupervisionIds with
  | .error (.supervision _) => .ok ()
  | .error e => .error e
  | .ok _ => .ok ()

/-- `persist_campaign_heartbeat_failure` -/
def persistCampaignHeartbeatFailure (s : LeaseState) (ids : SupervisionIds)
    (evidence : RenewalFailure) (f : PersistFaults) : Except Exn Unit × LeaseState :=
  match dbStep f.connect with
  | .error e => (.error e, s)
  | .ok _ =>
    let stored := storedFailure s ids evidence f
    (closing f.rollback f.close (stored >>= fun _ => lockEvidence s f.lock),
      match stored with
      | .ok failure => { s with heartbeatFailure := some failure }
      | .error _ => s)

/-- `_LEASE_FAILURE_FILE_KEY` -/
def leaseFailureFileKey : String := "first_heartbeat_renewal_failure"

/-- `_persist_failure_to_lease_file` -/
def persistFailureToLeaseFile (s : LeaseState) (evidence : RenewalFailure) (f : ReadFaults)
    (g : ReplaceFaults) : Except Exn Bool × LeaseState :=
  match readExact f s.lock s.row.toSupervisionIds with
  | .error e => (.error e, s)
  | .ok payload =>
    if payload.get leaseFailureFileKey = .none then
      let replaced := replaceLock g (payload.set leaseFailureFileKey (.dict evidence.toDict))
        s.row.toSupervisionIds s.lock
      (replaced.1.map fun _ => true, { s with lock := replaced.2 })
    else (.ok ((payload.get leaseFailureFileKey).pyEq (.dict evidence.toDict)), s)

/-- The primary store of a failure, and the fallback. -/
def recordFailure (s : LeaseState) (c : RenewCall) (evidence : RenewalFailure) :
    Except Exn (Option EvidenceLocation) × LeaseState :=
  match persistCampaignHeartbeatFailure s c.ids evidence c.faults.persist with
  | (.ok _, s') => (.ok (some .sqlite), s')
  | (.error e, s') =>
    if e.handled then
      let filed := persistFailureToLeaseFile s' evidence c.faults.fileLock c.faults.fileReplace
      (filed.1.map fun written => if written then some .leaseFile else none, filed.2)
    else (.error e, s')

/-- `renew_campaign_lease` -/
def renewCampaignLease (s : LeaseState) (c : RenewCall) : Except Exn RenewResult × LeaseState :=
  match admission s c with
  | .error e => (.error e, s)
  | .ok attemptAt =>
    match c.faults.closeReader with
    | some f => (.error f.exn, s)
    | none =>
      match attemptRenewal s c with
      | (.ok result, s') => (.ok result, s')
      | (.error e, s') =>
        if e.handled then
          let evidence := safeRenewalFailure e attemptAt (some s.row.heartbeatAt)
            (some s.row.leaseExpiresAt)
          let recorded := recordFailure s' c evidence
          (recorded.1.map fun location => .unconfirmed evidence location, recorded.2)
        else (.error e, s')

def renewStep (s : LeaseState) (c : RenewCall) : LeaseState := (renewCampaignLease s c).2

end PrinterV1.OperatorCli
