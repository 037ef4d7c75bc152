import Mathlib.Logic.Function.Basic
import PrinterV1.Foundation.Leases
import PrinterV1.Foundation.Runs
import PrinterV1.Foundation.Sqlite
import PrinterV1.Foundation.Tables
import PrinterV1.Python.IsoZulu
import PrinterV1.Python.Value

/-!
# The lease of a candidate acquisition

A run enters its row, takes the one lease, renews it around every source
operation, settles its row and gives the lease back. Each of these is one
transaction. A cancellation reads before its transaction begins, so any other
client can come between. Migration 049 is a field of the database: a statement
raises where it breaks a constraint or updates a row that is terminal.
-/

namespace PrinterV1.OperatorCli.CandidateLease

open Python

inductive AcquisitionMode
  | acquisitionOnlyN2 | acquisitionOnlyN7
  deriving DecidableEq, Repr

inductive TerminalStatus
  | completed | blocked | failed | cancelled
  deriving DecidableEq, Repr

/-- `terminal_status`, `first_terminal_cause` and when they were written; a row has all of them
or none. -/
structure Ending where
  terminalStatus : TerminalStatus
  firstTerminalCause : String
  endedAt : String
  deriving DecidableEq, Repr

inductive IntegrationState
  | authorized | running | stopping
  | terminal (ending : Ending)
  deriving DecidableEq, Repr

inductive LeaseState
  | active | stopping
  | terminal (ending : Ending)
  deriving DecidableEq, Repr

/-- A row of `printer_candidate_acquisition_integrations`. -/
structure Integration where
  integrationId : String
  executionId : String
  mode : AcquisitionMode
  ownerId : String
  integrationState : IntegrationState
  startedAt : String
  createdAt : String
  updatedAt : String
  deriving DecidableEq, Repr

structure Cancellation where
  requestedAt : String
  reason : String
  deriving DecidableEq, Repr

/-- A row of `printer_candidate_acquisition_leases`. -/
structure Lease where
  leaseId : String
  integrationId : String
  executionId : String
  ownerId : String
  mode : AcquisitionMode
  leaseState : LeaseState
  heartbeatAt : String
  leaseExpiresAt : String
  cancellation : Option Cancellation
  createdAt : String
  updatedAt : String
  deriving DecidableEq, Repr

def Integration.ending (r : Integration) : Option Ending :=
  match r.integrationState with
  | .terminal ending => some ending
  | _ => none

def Lease.ending (r : Lease) : Option Ending :=
  match r.leaseState with
  | .terminal ending => some ending
  | _ => none

/-- The lease is `ACTIVE` or `STOPPING`. -/
def Lease.Live (r : Lease) : Prop := r.ending = none

instance (r : Lease) : Decidable r.Live := inferInstanceAs (Decidable (r.ending = none))

/-- The `CHECK` constraints of an integration that its type does not say. -/
def Integration.checked (r : Integration) : Bool :=
  Sqlite.filled r.ownerId && r.ending.all fun ending => Sqlite.filled ending.firstTerminalCause

def Lease.checked (r : Lease) : Bool := r.cancellation.all fun c => Sqlite.filled c.reason

abbrev Integrations := Table Integration.integrationId
abbrev Leases := Table Lease.leaseId

/-- The constraints of migration 049 besides the primary keys. -/
structure Constraints (integrations : Integrations) (leases : Leases) : Prop where
  executions : integrations.Exclusive (fun _ => True) Integration.executionId
  leasedIntegrations : leases.Exclusive (fun _ => True) Lease.integrationId
  leasedExecutions : leases.Exclusive (fun _ => True) Lease.executionId
  oneLive : leases.Exclusive Lease.Live fun _ => ()
  references : ∀ l ∈ leases.rows, ∃ i ∈ integrations.rows, i.integrationId = l.integrationId
  integrationChecks : ∀ i ∈ integrations.rows, i.checked = true
  leaseChecks : ∀ l ∈ leases.rows, l.checked = true

instance (integrations : Integrations) (leases : Leases) :
    Decidable (Constraints integrations leases) :=
  decidable_of_iff
    ((∀ a ∈ integrations.rows, ∀ b ∈ integrations.rows, True → True →
        a.executionId = b.executionId → a.integrationId = b.integrationId) ∧
      (∀ a ∈ leases.rows, ∀ b ∈ leases.rows, True → True →
        a.integrationId = b.integrationId → a.leaseId = b.leaseId) ∧
      (∀ a ∈ leases.rows, ∀ b ∈ leases.rows, True → True →
        a.executionId = b.executionId → a.leaseId = b.leaseId) ∧
      (∀ a ∈ leases.rows, ∀ b ∈ leases.rows, a.Live → b.Live → () = () → a.leaseId = b.leaseId) ∧
      (∀ l ∈ leases.rows, ∃ i ∈ integrations.rows, i.integrationId = l.integrationId) ∧
      (∀ i ∈ integrations.rows, i.checked = true) ∧ ∀ l ∈ leases.rows, l.checked = true)
    ⟨fun ⟨h₁, h₂, h₃, h₄, h₅, h₆, h₇⟩ => ⟨h₁, h₂, h₃, h₄, h₅, h₆, h₇⟩,
      fun h => ⟨h.1, h.2, h.3, h.4, h.5, h.6, h.7⟩⟩

structure Db where
  integrations : Integrations
  leases : Leases
  constraints : Constraints integrations leases

def Db.empty : Db := ⟨Table.empty, Table.empty, by decide⟩

inductive Fault
  /-- `CandidateAcquisitionIntegrationError` -/
  | acquisition (code detail : String)
  /-- `sqlite3.IntegrityError` -/
  | integrity
  | python (error : PyError)
  deriving DecidableEq, Repr

namespace Db

/-- A statement has been performed if no constraint stands against what it made. -/
def write (integrations : Integrations) (leases : Leases) : Except Fault Db :=
  if h : Constraints integrations leases then .ok ⟨integrations, leases, h⟩ else .error .integrity

def insertIntegration (db : Db) (row : Integration) : Except Fault Db :=
  if h : ∀ old ∈ db.integrations.rows, old.integrationId ≠ row.integrationId then
    write (db.integrations.insert row h) db.leases
  else .error .integrity

def insertLease (db : Db) (row : Lease) : Except Fault Db :=
  if h : ∀ old ∈ db.leases.rows, old.leaseId ≠ row.leaseId then
    write db.integrations (db.leases.insert row h)
  else .error .integrity

/-- An update of integrations, with the trigger that keeps terminal rows. -/
def updateIntegrations (db : Db) (p : Integration → Bool) (u : Update Integration.integrationId) :
    Except Fault Db :=
  if db.integrations.rows.any fun r => p r && r.ending.isSome then .error .integrity
  else write (db.integrations.updateWhere p u) db.leases

/-- An update of leases, with the trigger that keeps terminal rows. -/
def updateLeases (db : Db) (p : Lease → Bool) (u : Update Lease.leaseId) : Except Fault Db :=
  if db.leases.rows.any fun r => p r && r.ending.isSome then .error .integrity
  else write db.integrations (db.leases.updateWhere p u)

end Db

def endIntegration (ending : Ending) : Update Integration.integrationId :=
  ⟨fun r => { r with integrationState := .terminal ending, updatedAt := ending.endedAt },
    fun _ => rfl⟩

def setIntegrationState (state : IntegrationState) (now : String) :
    Update Integration.integrationId :=
  ⟨fun r => { r with integrationState := state, updatedAt := now }, fun _ => rfl⟩

def touchIntegration (now : String) : Update Integration.integrationId :=
  ⟨fun r => { r with updatedAt := now }, fun _ => rfl⟩

def endLease (ending : Ending) : Update Lease.leaseId :=
  ⟨fun r => { r with leaseState := .terminal ending, updatedAt := ending.endedAt }, fun _ => rfl⟩

def extendLease (now expiresAt : String) : Update Lease.leaseId :=
  ⟨fun r => { r with heartbeatAt := now, leaseExpiresAt := expiresAt, updatedAt := now },
    fun _ => rfl⟩

def stopLease (c : Cancellation) : Update Lease.leaseId :=
  ⟨fun r => { r with leaseState := .stopping, cancellation := some c, updatedAt := c.requestedAt },
    fun _ => rfl⟩

/-- `_parse` -/
def parse (value : String) : Except Fault Instant :=
  match fromisoformat (replaceZulu value) with
  | none => .error (.python (.valueError "Invalid isoformat string"))
  | some d =>
    if InRange d.instantUtc then .ok d.instantUtc
    else .error (.python (.overflowError "date value out of range"))

/-- `_parse(now) + timedelta(seconds=lease_seconds)` -/
def expiryAfter (now : String) (leaseSeconds : ℤ) : Except Fault Instant := do
  let instant ← parse now
  if InRange (instant + seconds leaseSeconds) then return instant + seconds leaseSeconds
  else throw (.python (.overflowError "date value out of range"))

/-- What a run passes to the functions of the lease. -/
structure RunArgs where
  leaseId : String
  integrationId : String
  executionId : String
  ownerId : String
  mode : AcquisitionMode
  deriving DecidableEq, Repr

abbrev Event := Leases.Event String Instant

/-- The row that `run_candidate_acquisition_integration` enters. -/
def authorize (db : Db) (a : RunArgs) (now : String) : Except Fault Db :=
  db.insertIntegration
    { integrationId := a.integrationId, executionId := a.executionId, mode := a.mode
      ownerId := a.ownerId, integrationState := .authorized
      startedAt := now, createdAt := now, updatedAt := now }

def leaseExpiredRecovered : String := "LEASE_EXPIRED_RECOVERED"

/-- The updates of `_acquire_lease` on a lease that has expired. -/
def recover (db : Db) (active : Lease) (now : String) : Except Fault Db := do
  let ending : Ending := ⟨.blocked, leaseExpiredRecovered, now⟩
  let db ← db.updateLeases (fun r => r.leaseId = active.leaseId) (endLease ending)
  db.updateIntegrations (fun r => r.integrationId = active.integrationId && r.ending.isNone)
    (endIntegration ending)

/-- The live lease, if there is one, has expired and is ended. -/
def clearExpired (db : Db) (now : String) : Except Fault (Db × List Event) :=
  match db.leases.rows.find? fun r => r.Live with
  | none => .ok (db, [])
  | some active => do
    let expiry ← parse active.leaseExpiresAt
    let instant ← parse now
    if expiry > instant then
      throw (.acquisition "ACQUISITION_LEASE_ALREADY_HELD" active.executionId)
    let db ← recover db active now
    return (db, [.recovered active.leaseId instant])

def RunArgs.lease (a : RunArgs) (now : String) (expiry : Instant) : Lease where
  leaseId := a.leaseId
  integrationId := a.integrationId
  executionId := a.executionId
  ownerId := a.ownerId
  mode := a.mode
  leaseState := .active
  heartbeatAt := now
  leaseExpiresAt := isoformat expiry
  cancellation := none
  createdAt := now
  updatedAt := now

/-- `_acquire_lease` -/
def acquireLease (db : Db) (a : RunArgs) (now : String) (leaseSeconds : ℤ) :
    Except Fault (Db × List Event) := do
  let cleared ← clearExpired db now
  let expiry ← expiryAfter now leaseSeconds
  let leased ← cleared.1.insertLease (a.lease now expiry)
  let running ← leased.updateIntegrations (fun r => r.integrationId = a.integrationId)
    (setIntegrationState .running now)
  return (running, cleared.2 ++ [.acquired a.leaseId expiry])

/-- The `WHERE` clause of a renewal. -/
def RunArgs.owns (a : RunArgs) (r : Lease) : Bool :=
  r.leaseId = a.leaseId && r.integrationId = a.integrationId && r.executionId = a.executionId &&
    r.ownerId = a.ownerId

/-- `renew_candidate_acquisition_lease` -/
def renewLease (db : Db) (a : RunArgs) (now : String) (leaseSeconds : ℤ) :
    Except Fault (Db × List Event) :=
  match db.leases.rows.find? a.owns with
  | none => .error (.acquisition "LEASE_OWNERSHIP_MISMATCH" "")
  | some row =>
    match row.leaseState with
    | .stopping =>
      .error (.acquisition "ACQUISITION_CANCELLED"
        ((row.cancellation.map Cancellation.reason).getD "CANCELLED"))
    | .terminal _ => .error (.acquisition "LEASE_NOT_ACTIVE" "")
    | .active => do
      let expiry ← parse row.leaseExpiresAt
      let instant ← parse now
      if expiry ≤ instant then throw (.acquisition "LEASE_RENEWAL_EXPIRED" "")
      let next ← expiryAfter now leaseSeconds
      let db ← db.updateLeases (fun r => r.leaseId = a.leaseId) (extendLease now (isoformat next))
      return (db, [.renewed a.leaseId next])

structure CancelCall where
  executionId : String
  reason : String
  instant : String
  deriving DecidableEq, Repr

/-- The reading of `request_candidate_acquisition_cancellation`: whether it goes on to write. -/
def readCancellation (db : Db) (c : CancelCall) : Except Fault Bool :=
  match db.leases.rows.find? fun r => r.executionId = c.executionId with
  | none => .error (.acquisition "LEASE_NOT_FOUND" "")
  | some row => .ok (decide row.Live)

/-- The transaction of `request_candidate_acquisition_cancellation`. -/
def writeCancellation (db : Db) (c : CancelCall) : Except Fault (Db × List Event) := do
  let stopped ← db.updateLeases (fun r => r.executionId = c.executionId)
    (stopLease ⟨c.instant, c.reason⟩)
  let stopping ← stopped.updateIntegrations (fun r => r.executionId = c.executionId)
    (setIntegrationState .stopping c.instant)
  return (stopping,
    (db.leases.rows.filter fun r => r.executionId = c.executionId).map fun r => .stopped r.leaseId)

/-- The update of the counters, which reaches a row of any state. -/
def settle (db : Db) (a : RunArgs) (now : String) : Except Fault Db :=
  db.updateIntegrations (fun r => r.integrationId = a.integrationId) (touchIntegration now)

/-- `_terminalize_unleased_integration` -/
def terminalizeUnleased (db : Db) (a : RunArgs) (ending : Ending) : Except Fault Db :=
  db.updateIntegrations (fun r => r.integrationId = a.integrationId && r.ending.isNone)
    (endIntegration ending)

/-- `_release_lease` -/
def releaseLease (db : Db) (a : RunArgs) (ending : Ending) : Except Fault (Db × List Event) :=
  match db.leases.find? a.leaseId with
  | none => .error (.acquisition "LEASE_NOT_FOUND" "")
  | some row => do
    if row.Live then
      let released ← db.updateLeases (fun r => r.leaseId = a.leaseId) (endLease ending)
      let ended ← terminalizeUnleased released a ending
      return (ended, [.released a.leaseId])
    else
      let ended ← terminalizeUnleased db a ending
      return (ended, [])

/-- Where a run is. -/
inductive Pc
  | start
  | rejected
  | authorized
  | holding
  | refused
  | settledHolding
  | settledRefused
  | raised
  | done
  deriving DecidableEq, Repr

/-- Runs and cancellations that share the database; a cancellation that has read waits with its
call. -/
structure System (ι κ : Type*) where
  db : Db
  pc : ι → Pc
  pending : κ → Option CancelCall
  trace : List Event

inductive Input (ι κ : Type*)
  | authorize (run : ι) (now : String)
  | acquire (run : ι) (now : String) (leaseSeconds : ℤ)
  | renew (run : ι) (now : String) (leaseSeconds : ℤ)
  | settle (run : ι) (now : String)
  | finish (run : ι) (ending : Ending)
  /-- The run's next transaction raises for a reason that is not in the tables. -/
  | fail (run : ι)
  | readCancellation (client : κ) (call : CancelCall)
  | writeCancellation (client : κ)

namespace System

variable {ι κ : Type*}

def begin : System ι κ := ⟨Db.empty, fun _ => .start, fun _ => none, []⟩

/-- The transaction is committed, or nothing of it is stored. -/
def commit (s : System ι κ) (result : Except Fault (Db × List Event)) : System ι κ :=
  match result with
  | .ok (db, events) => { s with db := db, trace := s.trace ++ events }
  | .error _ => s

variable [DecidableEq ι] [DecidableEq κ]

/-- A transaction of a run, and where the run is behind it. -/
def perform (s : System ι κ) (run : ι) (result : Except Fault (Db × List Event))
    (onOk onError : Pc) : System ι κ :=
  { s.commit result with
    pc := Function.update s.pc run (if result.toOption.isSome then onOk else onError) }

/-- Nothing happened but the insertion or the update. -/
def quiet (result : Except Fault Db) : Except Fault (Db × List Event) :=
  result.map fun db => (db, [])

/-- Where an error leaves a run. -/
def afterError : Pc → Pc
  | .start => .rejected
  | .authorized => .refused
  | .holding => .holding
  | .rejected => .rejected
  | .done => .done
  | _ => .raised

/-- A run takes only the step it is at; any number of renewals while it holds the lease. -/
def step (calls : ι → RunArgs) (s : System ι κ) : Input ι κ → System ι κ
  | .authorize run now =>
    if s.pc run = .start then
      s.perform run (quiet (CandidateLease.authorize s.db (calls run) now)) .authorized .rejected
    else s
  | .acquire run now leaseSeconds =>
    if s.pc run = .authorized then
      s.perform run (acquireLease s.db (calls run) now leaseSeconds) .holding .refused
    else s
  | .renew run now leaseSeconds =>
    if s.pc run = .holding then
      s.perform run (renewLease s.db (calls run) now leaseSeconds) .holding .holding
    else s
  | .settle run now =>
    if s.pc run = .holding then
      s.perform run (quiet (CandidateLease.settle s.db (calls run) now)) .settledHolding .raised
    else if s.pc run = .refused then
      s.perform run (quiet (CandidateLease.settle s.db (calls run) now)) .settledRefused .raised
    else s
  | .finish run ending =>
    if s.pc run = .settledHolding then
      s.perform run (releaseLease s.db (calls run) ending) .done .raised
    else if s.pc run = .settledRefused then
      s.perform run (quiet (terminalizeUnleased s.db (calls run) ending)) .done .raised
    else s
  | .fail run => { s with pc := Function.update s.pc run (afterError (s.pc run)) }
  | .readCancellation client call =>
    { s with
      pending := Function.update s.pending client
        (if CandidateLease.readCancellation s.db call = .ok true then some call else none) }
  | .writeCancellation client =>
    match s.pending client with
    | none => s
    | some call =>
      { s.commit (CandidateLease.writeCancellation s.db call) with
        pending := Function.update s.pending client none }

end System
end PrinterV1.OperatorCli.CandidateLease
