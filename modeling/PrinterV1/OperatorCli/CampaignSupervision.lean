import PrinterV1.Python.Datetime
import PrinterV1.Python.IsoRoundTrip
import PrinterV1.Python.Value

/-!
# Supervision of a campaign run

The ledger row of an operational campaign owner, the lock file of its lease,
and the failure of a renewal as both stores record it.
-/

namespace PrinterV1.OperatorCli

open Python

/-- What a step of this module raises. The handlers name the first three classes. -/
inductive Exn
  | supervision (message : String)
  | os (message : String)
  | sqlite (operational : Bool) (message : String)
  | unhandled (className : String)
  deriving DecidableEq, Repr

/-- `except (CampaignSupervisionError, OSError, sqlite3.Error)` -/
def Exn.handled : Exn → Bool
  | .unhandled _ => false
  | _ => true

/-- `str(exc)` -/
def Exn.text : Exn → String
  | .supervision message => message
  | .os message => message
  | .sqlite _ message => message
  | .unhandled className => className

def overflowError : Exn := .unhandled "OverflowError"
def typeError : Exn := .unhandled "TypeError"
def unicodeDecodeError : Exn := .unhandled "UnicodeDecodeError"

/-- `_iso`; a naive value is read on the local clock. -/
def iso (value : Datetime) (localOffset : ℤ) : Except Exn String :=
  let i := value.wall - value.utcoffset.getD localOffset
  if InRange i then .ok (isoformat i) else .error overflowError

/-- `_parse` -/
def parse (value : String) : Except Exn Instant :=
  match fromisoformat value with
  | none => .error (.supervision "lease timestamp is malformed")
  | some d => if InRange d.instantUtc then .ok d.instantUtc else .error overflowError

theorem parse_isoformat {i : Instant} (h : InRange i) : parse (isoformat i) = .ok i := by
  have hutc : Datetime.instantUtc ⟨i, some 0⟩ = i := by simp [Datetime.instantUtc]
  simp [parse, fromisoformat_isoformat h, hutc, h]

inductive SupervisionState
  | active | stopping | terminal
  deriving DecidableEq, Repr

inductive TerminalStatus
  | completed | failed | cancelled | leaseRenewalUnconfirmed
  deriving DecidableEq, Repr

structure SupervisionIds where
  supervisionId : String
  campaignId : String
  configurationId : String
  runId : String
  ownerId : String
  deriving DecidableEq, Repr

/-- A row of `printer_memory_factory_campaign_supervision`. -/
structure Supervision extends SupervisionIds where
  supervisionState : SupervisionState
  terminalStatus : Option TerminalStatus
  firstTerminalCause : Option String
  heartbeatAt : String
  leaseExpiresAt : String
  leaseLockPath : String
  cancellationRequestedAt : Option String
  cleanupCompletedAt : Option String
  leaseReleasedAt : Option String
  updatedAt : String
  deriving DecidableEq, Repr

/-- `_load_exact`, on the row of the supervision id. -/
def loadExact (row : Supervision) (ids : SupervisionIds) : Except Exn Unit :=
  if row.toSupervisionIds = ids then .ok ()
  else .error (.supervision "campaign supervision ownership mismatch")

/-- What stands at the path of a lock: no file, what cannot be decoded (bytes that are not text,
and every text on which `json.loads` raises something else than `JSONDecodeError`: an integer of
too many digits, a nesting too deep), text that is no JSON object, or a JSON object. -/
inductive LockFile
  | missing
  | undecodable
  | ambiguous
  | payload (entries : Dict)
  deriving DecidableEq

/-- The messages of the errors that the two file operations of a reading raise. -/
structure ReadFaults where
  isFile : Option String
  readText : Option String
  deriving DecidableEq, Repr

def ReadFaults.quiet : ReadFaults := ⟨none, none⟩

/-- `_lock_payload` -/
def lockPayload (f : ReadFaults) (file : LockFile) : Except Exn Dict :=
  match f.isFile, file, f.readText with
  | some message, _, _ => .error (.os message)
  | none, .missing, _ => .error (.supervision "operational campaign lease is missing")
  | none, _, some _ => .error (.supervision "operational campaign lease is ambiguous")
  | none, .undecodable, none => .error unicodeDecodeError
  | none, .ambiguous, none => .error (.supervision "operational campaign lease is ambiguous")
  | none, .payload entries, none => .ok entries

/-- The entries of `_exact_lock` -/
def lockIdentity (ids : SupervisionIds) : List (String × String) :=
  [("scope", "OPERATIONAL_CAMPAIGN"), ("supervision_id", ids.supervisionId),
    ("campaign_id", ids.campaignId), ("configuration_id", ids.configurationId),
    ("run_id", ids.runId), ("owner_id", ids.ownerId)]

/-- The lock names the owner of the row. -/
def exact (payload : Dict) (ids : SupervisionIds) : Bool :=
  (lockIdentity ids).all fun e => payload.get e.1 = .str e.2

/-- `_exact_lock` -/
def exactLock (payload : Dict) (ids : SupervisionIds) : Except Exn Unit :=
  if exact payload ids then .ok ()
  else .error (.supervision "operational campaign lease ownership mismatch")

/-- A reading that finds the lock of the owner, `_exact_lock(_lock_payload(path), row)`. -/
def readExact (f : ReadFaults) (file : LockFile) (ids : SupervisionIds) : Except Exn Dict := do
  let payload ← lockPayload f file
  exactLock payload ids
  return payload

/-- What `os.replace` does: it raises one of the retried Windows errors, another
error, or none. -/
inductive ReplaceOutcome
  | replaced
  | transient
  | refused
  deriving DecidableEq, Repr

structure ReplaceAttempt where
  lock : ReadFaults
  outcome : ReplaceOutcome
  deriving DecidableEq, Repr

/-- What the steps of `_replace_lock` raise. -/
structure ReplaceFaults where
  write : Option String
  attempts : ℕ → ReplaceAttempt
  unlink : Option String

def ReplaceFaults.quiet : ReplaceFaults := ⟨none, fun _ => ⟨.quiet, .replaced⟩, none⟩

def unconfirmedReplacement (attempt : ℕ) : Exn :=
  .supervision ("operational lease replacement unconfirmed after " ++ toString attempt ++
    " attempt(s)")

/-- `LEASE_REPLACE_MAX_ATTEMPTS` -/
def leaseReplaceMaxAttempts : ℕ := 3

/-- The attempts from the given one on. -/
def replaceAttempts (f : ReplaceFaults) (payload : Dict) (ids : SupervisionIds)
    (file : LockFile) (attempt : ℕ) : ℕ → Except Exn ℕ × LockFile
  | 0 => (.error (.supervision "operational lease replacement unconfirmed"), file)
  | left + 1 =>
    match readExact (f.attempts attempt).lock file ids with
    | .error e => (.error e, file)
    | .ok _ =>
      match (f.attempts attempt).outcome with
      | .replaced => (.ok attempt, .payload payload)
      | .refused => (.error (unconfirmedReplacement attempt), file)
      | .transient =>
        if leaseReplaceMaxAttempts ≤ attempt then (.error (unconfirmedReplacement attempt), file)
        else replaceAttempts f payload ids file (attempt + 1) left

/-- `_replace_lock`; the temporary file is unlinked whatever happened. -/
def replaceLock (f : ReplaceFaults) (payload : Dict) (ids : SupervisionIds) (file : LockFile) :
    Except Exn ℕ × LockFile :=
  let replaced :=
    match f.write with
    | some message => (.error (.os message), file)
    | none => replaceAttempts f payload ids file 1 leaseReplaceMaxAttempts
  match f.unlink with
  | some message => (.error (.os message), replaced.2)
  | none => replaced

/-- What a step of the database raises. -/
inductive DbFault
  | missing (path : String)
  | os (message : String)
  | sqlite (operational : Bool) (message : String)
  deriving DecidableEq, Repr

def DbFault.exn : DbFault → Exn
  | .missing path => .supervision ("database missing: " ++ path)
  | .os message => .os message
  | .sqlite operational message => .sqlite operational message

theorem DbFault.handled_exn (f : DbFault) : f.exn.handled = true := by cases f <;> rfl

/-- `_is_sqlite_locked` -/
def isSqliteLocked : Exn → Bool
  | .sqlite true message => contains (lower message) "locked" || contains (lower message) "busy"
  | _ => false

def dbStep : Option DbFault → Except Exn Unit
  | none => .ok ()
  | some f => .error f.exn

/-- `SQLITE_BUSY_MAX_ATTEMPTS` -/
def sqliteBusyMaxAttempts : ℕ := 5

/-- `_begin_immediate`, from the given attempt on. -/
def beginAttempts (f : ℕ → Option DbFault) (attempt : ℕ) : ℕ → Except Exn Unit
  | 0 => .ok ()
  | left + 1 =>
    match f attempt with
    | none => .ok ()
    | some fault =>
      if !isSqliteLocked fault.exn ∨ sqliteBusyMaxAttempts ≤ attempt then .error fault.exn
      else beginAttempts f (attempt + 1) left

def beginImmediate (f : ℕ → Option DbFault) : Except Exn Unit :=
  beginAttempts f 1 sqliteBusyMaxAttempts

/-- The end of a connection: the transaction was rolled back if its body raised,
and the connection is closed. -/
def closing {α : Type} (rollback close : Option DbFault) (body : Except Exn α) : Except Exn α :=
  let settled :=
    match body with
    | .ok a => .ok a
    | .error e =>
      match rollback with
      | none => .error e
      | some f => .error f.exn
  match close with
  | none => settled
  | some f => .error f.exn

inductive FailureCategory
  | sqliteLockContention | leaseExpired | ownershipMismatch | leaseRenewalError
  deriving DecidableEq, Repr

def FailureCategory.value : FailureCategory → String
  | .sqliteLockContention => "SQLITE_LOCK_CONTENTION"
  | .leaseExpired => "LEASE_EXPIRED"
  | .ownershipMismatch => "OWNERSHIP_MISMATCH"
  | .leaseRenewalError => "LEASE_RENEWAL_ERROR"

/-- `_SAFE_FAILURES` -/
def FailureCategory.safe : FailureCategory → String × String × String
  | .sqliteLockContention =>
    ("SQLiteOperationalError",
      "SQLite lease renewal was not confirmed because the database was busy or locked.",
      "LEASE_RENEWAL_SQLITE_LOCKED")
  | .leaseExpired =>
    ("CampaignSupervisionError",
      "The operational campaign lease had expired before renewal could be confirmed.",
      "LEASE_RENEWAL_LEASE_EXPIRED")
  | .ownershipMismatch =>
    ("CampaignSupervisionError",
      "Operational campaign lease ownership could not be confirmed.",
      "LEASE_RENEWAL_OWNERSHIP_MISMATCH")
  | .leaseRenewalError =>
    ("LeaseRenewalError", "Operational campaign lease renewal was not confirmed.",
      "LEASE_RENEWAL_UNCONFIRMED")

def failureCategory (e : Exn) : FailureCategory :=
  let raw := lower e.text
  if isSqliteLocked e then .sqliteLockContention
  else if contains raw "expired" then .leaseExpired
  else if contains raw "ownership mismatch" then .ownershipMismatch
  else .leaseRenewalError

structure RenewalFailure where
  safeErrorType : String
  safeErrorCategory : String
  safeMessage : String
  sqliteLocked : Bool
  attemptedAt : String
  priorHeartbeatAt : Option String
  priorLeaseExpiresAt : Option String
  renewalConfirmed : Bool
  terminalCause : String
  deriving DecidableEq, Repr

/-- `_safe_renewal_failure` -/
def safeRenewalFailure (e : Exn) (attemptedAt : String) (priorHeartbeatAt : Option String)
    (priorLeaseExpiresAt : Option String) : RenewalFailure :=
  let category := failureCategory e
  { safeErrorType := category.safe.1
    safeErrorCategory := category.value
    safeMessage := category.safe.2.1
    sqliteLocked := category = .sqliteLockContention
    attemptedAt := attemptedAt
    priorHeartbeatAt := priorHeartbeatAt
    priorLeaseExpiresAt := priorLeaseExpiresAt
    renewalConfirmed := false
    terminalCause := category.safe.2.2 }

def textOrNull : Option String → Value
  | none => .none
  | some text => .str text

/-- The failure as the lock file records it. -/
def RenewalFailure.toDict (e : RenewalFailure) : Dict :=
  [("attempted_at", .str e.attemptedAt), ("prior_heartbeat_at", textOrNull e.priorHeartbeatAt),
    ("prior_lease_expires_at", textOrNull e.priorLeaseExpiresAt),
    ("renewal_confirmed", .bool e.renewalConfirmed),
    ("safe_error_category", .str e.safeErrorCategory), ("safe_error_type", .str e.safeErrorType),
    ("safe_message", .str e.safeMessage), ("sqlite_locked", .bool e.sqliteLocked),
    ("terminal_cause", .str e.terminalCause)]

/-- A row of `printer_memory_factory_campaign_heartbeat_failures`. -/
structure HeartbeatFailure extends SupervisionIds, RenewalFailure
  deriving DecidableEq, Repr

end PrinterV1.OperatorCli
