import Mathlib.Logic.Function.Basic
import PrinterV1.OperatorCli.CampaignOwnership
import PrinterV1.OperatorCli.CampaignSupervision
import PrinterV1.Python.SqliteUri

/-!
# Acquisition of a campaign supervision

`acquire_campaign_supervision` creates the lock file, opens the database, enters
one row in an immediate transaction and reads both back. Its steps are those
that other acquisitions can come between; a transaction is one of them. The
texts are stripped for the lock file and for the reading, not for the row; and the
reading opens the database by a URI that its path was put in as it is.
-/

namespace PrinterV1.OperatorCli.Acquisition

open Python

structure CampaignRow where
  campaignId : String
  campaignState : RunState
  deriving DecidableEq, Repr

structure ConfigurationRow where
  configurationId : String
  campaignId : String
  deriving DecidableEq, Repr

structure RunRow where
  runId : String
  campaignId : String
  runState : RunState
  deriving DecidableEq, Repr

def supervisionKey (r : Supervision) : String := r.supervisionId

structure Ledger where
  campaigns : Table CampaignRow.campaignId
  configurations : Table ConfigurationRow.configurationId
  runs : Table RunRow.runId
  supervisions : Table supervisionKey

def Ledger.empty : Ledger := ⟨Table.empty, Table.empty, Table.empty, Table.empty⟩

/-- The lock files and the databases, by their resolved paths. -/
structure World where
  locks : String → LockFile
  ledgers : String → Option Ledger

/-- One call. `localOffset` is the offset of the local clock at a time it shows. -/
structure AcquireCall where
  dbPath : String
  lockPath : String
  ids : SupervisionIds
  leaseSeconds : ℤ
  now : Datetime
  localOffset : ℤ → ℤ

/-- `identities`: the stripped arguments. -/
def stripped (ids : SupervisionIds) : SupervisionIds where
  supervisionId := strip ids.supervisionId
  campaignId := strip ids.campaignId
  configurationId := strip ids.configurationId
  runId := strip ids.runId
  ownerId := strip ids.ownerId

/-- `_required` -/
def required (value label : String) : Except Exn Unit :=
  if strip value = "" then .error (.supervision (label ++ " is required")) else .ok ()

/-- What a call writes. -/
structure Lease where
  identities : SupervisionIds
  heartbeatAt : String
  leaseExpiresAt : String
  deriving DecidableEq, Repr

/-- The checks and the times, before anything is written. -/
def prepare (c : AcquireCall) : Except Exn Lease := do
  if c.leaseSeconds < 15 then throw (.supervision "lease must be at least 15 seconds")
  required c.ids.supervisionId "supervision_id"
  required c.ids.campaignId "campaign_id"
  required c.ids.configurationId "configuration_id"
  required c.ids.runId "run_id"
  required c.ids.ownerId "owner_id"
  let heartbeat ← iso c.now (c.localOffset c.now.wall)
  let expires : Datetime := { c.now with wall := c.now.wall + seconds c.leaseSeconds }
  if ¬InRange expires.wall then throw overflowError
  let expiry ← iso expires (c.localOffset expires.wall)
  return ⟨stripped c.ids, heartbeat, expiry⟩

/-- `payload` -/
def Lease.payload (lease : Lease) : Dict :=
  [("scope", .str "OPERATIONAL_CAMPAIGN"), ("supervision_id", .str lease.identities.supervisionId),
    ("campaign_id", .str lease.identities.campaignId),
    ("configuration_id", .str lease.identities.configurationId),
    ("run_id", .str lease.identities.runId), ("owner_id", .str lease.identities.ownerId),
    ("heartbeat_at", .str lease.heartbeatAt), ("lease_expires_at", .str lease.leaseExpiresAt),
    ("created_at", .str lease.heartbeatAt), ("updated_at", .str lease.heartbeatAt)]

/-- The row of the `INSERT`. -/
def newRow (c : AcquireCall) (lease : Lease) : Supervision where
  toSupervisionIds := c.ids
  supervisionState := .active
  terminalStatus := none
  firstTerminalCause := none
  heartbeatAt := lease.heartbeatAt
  leaseExpiresAt := lease.leaseExpiresAt
  leaseLockPath := c.lockPath
  cancellationRequestedAt := none
  cleanupCompletedAt := none
  leaseReleasedAt := none
  updatedAt := lease.heartbeatAt

/-- The join of a campaign with its configuration and its run: their states. -/
def graph (ledger : Ledger) (ids : SupervisionIds) : Option (RunState × RunState) := do
  let campaign ← ledger.campaigns.find? ids.campaignId
  let configuration ← ledger.configurations.find? ids.configurationId
  let run ← ledger.runs.find? ids.runId
  if configuration.campaignId = ids.campaignId ∧ run.campaignId = ids.campaignId then
    return (campaign.campaignState, run.runState)
  else none

/-- The body of the transaction, up to its commit. -/
def enter (ledger : Ledger) (c : AcquireCall) (lease : Lease) : Except Exn Ledger :=
  match graph ledger c.ids with
  | none => .error (.supervision "campaign/configuration/run ownership mismatch")
  | some (campaignState, runState) =>
    if ledger.supervisions.rows.any fun r =>
        r.campaignId = c.ids.campaignId ∧ r.runId = c.ids.runId then
      .error (.supervision "campaign run supervision already exists; resume is forbidden")
    else if campaignState ≠ .running ∨ runState ≠ .running then
      .error (.supervision "campaign and run must both be RUNNING")
    else if h : ∀ old ∈ ledger.supervisions.rows,
        supervisionKey old ≠ supervisionKey (newRow c lease) then
      .ok { ledger with supervisions := ledger.supervisions.insert (newRow c lease) h }
    else .error (.supervision ("UNIQUE constraint failed: " ++
      "printer_memory_factory_campaign_supervision.supervision_id"))

structure Inspection where
  row : Supervision
  lockHeartbeatAt : Option Value
  lockLeaseExpiresAt : Option Value
  leaseExpired : Bool
  newChildWorkAllowed : Bool
  deriving DecidableEq

def databaseMissing (path : String) : Exn := .supervision ("database missing: " ++ path)

/-- The lock file of a row that has not ended. -/
def readLock (w : World) (row : Supervision) : Except Exn (Option Dict) :=
  if row.supervisionState ≠ .terminal then
    some <$> readExact .quiet (w.locks row.leaseLockPath) row.toSupervisionIds
  else .ok none

/-- The reading of the database that was opened. -/
def inspectLedger (w : World) (ledger : Ledger) (ids : SupervisionIds) (now : Datetime) :
    Except Exn Inspection := do
  match ledger.supervisions.rows.find? fun r => r.toSupervisionIds = ids with
  | none => throw (.supervision "campaign supervision ownership mismatch")
  | some row =>
    let payload ← readLock w row
    let expires ← parse row.leaseExpiresAt
    match now.utcoffset with
    | none => throw typeError
    | some offset =>
      let expired : Bool := expires ≤ now.wall - offset
      return {
        row := row
        lockHeartbeatAt := payload.map fun p => p.get "heartbeat_at"
        lockLeaseExpiresAt := payload.map fun p => p.get "lease_expires_at"
        leaseExpired := expired
        newChildWorkAllowed := row.supervisionState = .active ∧ ¬expired ∧
          row.cancellationRequestedAt = none }

/-- `inspect_campaign_supervision`: the file is looked for at its path, and opened by its URI. -/
def inspectCampaignSupervision (uri : SqliteUri.Host) (w : World) (dbPath : String)
    (ids : SupervisionIds) (now : Datetime) : Except Exn Inspection :=
  match w.ledgers dbPath, uri.opens dbPath with
  | none, _ => .error (databaseMissing dbPath)
  | some _, none => .error (.sqlite true "unable to open database file")
  | some _, some opened =>
    match w.ledgers opened.name with
    | none =>
      .error (.sqlite true (if opened.creates then
        "no such table: printer_memory_factory_campaign_supervision"
      else "unable to open database file"))
    | some ledger => inspectLedger w ledger ids now

/-- What a reading leaves: a URI without `mode=ro` creates its file, where none is. The file has
no tables; here they are there and empty, which lets no call in either. -/
def leftBehind (uri : SqliteUri.Host) (w : World) (dbPath : String) : World :=
  match w.ledgers dbPath, uri.opens dbPath with
  | some _, some ⟨name, true⟩ =>
    match w.ledgers name with
    | none => { w with ledgers := Function.update w.ledgers name (some Ledger.empty) }
    | some _ => w
  | _, _ => w

/-- Where a call is. -/
inductive Pc
  | start
  | locked (lease : Lease)
  | connected (lease : Lease)
  | failed (e : Exn)
  | committed (lease : Lease)
  | raised (e : Exn)
  | returned (inspection : Inspection)
  deriving DecidableEq

/-- One step of a call; `busy` says that its transaction is refused for another writer. -/
def step (uri : SqliteUri.Host) (c : AcquireCall) (busy : Bool) (w : World) : Pc → World × Pc
  | .start =>
    match prepare c with
    | .error e => (w, .raised e)
    | .ok lease =>
      -- the lock file is created exclusively
      if w.locks c.lockPath = .missing then
        ({ w with locks := Function.update w.locks c.lockPath (.payload lease.payload) },
          .locked lease)
      else (w, .raised (.supervision "operational campaign lease already exists"))
  | .locked lease =>
    -- the connection is opened outside of the handler
    match w.ledgers c.dbPath with
    | none => (w, .raised (databaseMissing c.dbPath))
    | some _ => (w, .connected lease)
  | .connected lease =>
    match w.ledgers c.dbPath with
    | none => (w, .failed (.supervision "unable to open database file"))
    | some ledger =>
      if busy then (w, .failed (.supervision "database is locked"))
      else
        match enter ledger c lease with
        | .error e => (w, .failed e)
        | .ok ledger' =>
          ({ w with ledgers := Function.update w.ledgers c.dbPath (some ledger') },
            .committed lease)
  | .failed e =>
    ({ w with locks := Function.update w.locks c.lockPath .missing }, .raised e)
  | .committed lease =>
    -- the reading is behind the handler
    match inspectCampaignSupervision uri w c.dbPath lease.identities c.now with
    | .error e => (leftBehind uri w c.dbPath, .raised e)
    | .ok inspection => (leftBehind uri w c.dbPath, .returned inspection)
  | .raised e => (w, .raised e)
  | .returned inspection => (w, .returned inspection)

/-- `acquire_campaign_supervision`, alone. -/
def acquireCampaignSupervision (uri : SqliteUri.Host) (c : AcquireCall) (busy : Bool) (w : World) :
    World × Pc :=
  let next := fun s : World × Pc => step uri c busy s.1 s.2
  next (next (next (next (w, .start))))

/-- Calls that run beside each other. -/
structure System (ι : Type*) where
  world : World
  pc : ι → Pc

def System.begin {ι : Type*} (w : World) : System ι := ⟨w, fun _ => .start⟩

/-- The next step of one of the calls. -/
def System.step {ι : Type*} [DecidableEq ι] (uri : SqliteUri.Host) (calls : ι → AcquireCall)
    (s : System ι) (turn : ι × Bool) : System ι :=
  let after := Acquisition.step uri (calls turn.1) turn.2 s.world (s.pc turn.1)
  ⟨after.1, Function.update s.pc turn.1 after.2⟩

end PrinterV1.OperatorCli.Acquisition
