import PrinterV1.Discovery.MigrationIntake
import PrinterV1.Foundation.Faults
import PrinterV1.Foundation.Sessions
import PrinterV1.Sources.Governor
import PrinterV1.Sources.GraduatedRegistry
import PrinterV1.Sources.SixUnitAccounting

/-!
# Direct migration discovery

One run over the pairs of an intake: each pair is verified, its payload measured
on the ledger and read for a graduation, and only where the ledger and the totals
reconcile are the graduations recorded, in one transaction. The graduation is
read from the token of the payload, and where the token does not hold it from the
resolution and the proof beside it.
-/

namespace PrinterV1.Discovery.DirectMigration

open Python Sources Graduated

def migrationProvenance : String := "DIRECT_PUMP_FINALIZED_LIVE_TAIL"
def persistedGraduatedChannel : String := "PERSISTED_GRADUATED"
def exactVerificationStage : String := "PUMPSWAP_EXACT_VERIFICATION"

/-- What a run can raise. -/
inductive RunFault
  | python (e : PyError)
  | attribute (text : String)
  | key (text : String)
  | measured (e : MeasuredTransportError)
  | registry (e : Graduated.RegistryFault)
  deriving DecidableEq, Repr

/-- What the governed verification of a pair returns. -/
structure Verification where
  sourceStatus : SourceStatus
  failureType : Option String
  normalizedPayload : Value
  deriving DecidableEq, Repr

namespace Verification

def verified (v : Verification) : Bool :=
  (v.sourceStatus = .complete || v.sourceStatus = .partialStatus) && v.failureType.all (· = "")

/-- The payload; one that is no mapping counts as empty. -/
def payload (v : Verification) : Dict :=
  match v.normalizedPayload with
  | .dict entries => entries
  | _ => []

end Verification

variable (R : Value.Rendering)

structure TransportMetadata where
  transportOperationsUsed : ℤ
  responseBytes : ℤ
  normalizedRows : ℤ
  transportOperationIdentities : List Value
  deriving DecidableEq, Repr

/-- The identities of a payload; what is no sequence counts as none. -/
def declaredIdentities (payload : Dict) : List Value :=
  match payload.get "transport_operation_identities" with
  | .list identities => identities
  | _ => []

/-- `int(value)` and its like, inside a run. -/
def raised {α : Type} (x : Except PyError α) : Except RunFault α := x.mapError .python

def mergeTransportPayloadMetadata (payload : Dict) : Except RunFault TransportMetadata := do
  let identities := declaredIdentities payload
  let used := payload.get "transport_operations_used"
  let used ← (if used = .none then .ok (identities.length : ℤ) else raised (used.toIntOrZero R))
  let responseBytes ← raised ((payload.get "response_bytes").toIntOrZero R)
  let normalizedRows ← raised ((payload.get "normalized_rows").toIntOrZero R)
  return {
    transportOperationsUsed := used
    responseBytes
    normalizedRows
    transportOperationIdentities := identities }

/-- One declared identity, with the types of the ledger. -/
def rehydrate : Value → Except RunFault TransportOperationIdentity
  | .dict entries => raised (readIdentity R entries)
  | _ => .error (.measured ⟨"MALFORMED_TRANSPORT_IDENTITY"⟩)

def identitiesFromPayload (payload : Dict) : Except RunFault (List TransportOperationIdentity) := do
  let metadata ← mergeTransportPayloadMetadata R payload
  let out ← metadata.transportOperationIdentities.mapM (rehydrate R)
  if metadata.transportOperationsUsed ≠ 0 ∧ out = [] then
    .error (.measured ⟨"TRANSPORT_IDENTITIES_MISSING"⟩)
  else if out ≠ [] ∧ metadata.transportOperationsUsed ≠ out.length then
    .error (.measured ⟨"TRANSPORT_IDENTITY_COUNT_MISMATCH"⟩)
  else .ok out

/-- The operations on the ledger, one after another; the ones before a refused one stay. -/
def recordEach (ledger : MeasuredTransportLedger) :
    List TransportOperationIdentity → Option MeasuredTransportError × MeasuredTransportLedger
  | [] => (none, ledger)
  | identity :: rest =>
    match ledger.recordTransport identity with
    | .error e => (some e, ledger)
    | .ok ledger => recordEach ledger rest

/-- An identity that names no stage is given the default one. -/
def withStage (defaultStage : String) (identity : TransportOperationIdentity) :
    TransportOperationIdentity :=
  if identity.stage = "" then { identity with stage := defaultStage } else identity

def recordPayloadTransports (ledger : MeasuredTransportLedger) (payload : Dict)
    (defaultStage : String) : Except RunFault ℕ × MeasuredTransportLedger :=
  match identitiesFromPayload R payload with
  | .error e => (.error e, ledger)
  | .ok identities =>
    match recordEach ledger (identities.map (withStage defaultStage)) with
    | (some e, ledger) => (.error (.measured e), ledger)
    | (none, ledger) => (.ok identities.length, ledger)

/-- The `AttributeError` of reading a key from what is no mapping. -/
def attributeFault (v : Value) : RunFault :=
  .attribute ("'" ++ v.typeName ++ "' object has no attribute 'get'")

/-- `payload.get(key) or {}`, where a key is then read from it. -/
def block (payload : Dict) (key : String) : Except RunFault Dict :=
  match payload.get key with
  | .dict entries => .ok entries
  | v => if v.truthy then .error (attributeFault v) else .ok []

/-- `token_entries[0] if token_entries else {}`, where a key is then read from it. -/
def tokenEntry (payload : Dict) : Except RunFault Dict :=
  match payload.get "tokens" with
  | .list (.dict token :: _) => .ok token
  | .list (v :: _) => .error (attributeFault v)
  | .str s => if s = "" then .ok [] else .error (attributeFault (.str s))
  | .dict entries => if entries = [] then .ok [] else .error (.key "0")
  | v =>
    if v.truthy then
      .error (.python (.typeError ("'" ++ v.typeName ++ "' object is not subscriptable")))
    else .ok []

/-- `value or first.get(key) or second.get(key)`, with `second` read only where `first` is empty. -/
def orBlocks (value : Value) (first second : Except RunFault Dict) (key : String) :
    Except RunFault Value :=
  if value.truthy then .ok value
  else do
    let found := (← first).get key
    if found.truthy then return found
    return (← second).get key

/-- `value if value is not None else rest` -/
def ifNone (value : Value) (rest : Except RunFault Value) : Except RunFault Value :=
  if value = .none then rest else .ok value

/-- What a payload says of the graduation. -/
structure Evidence where
  pool : Value
  blockTime : Value
  slot : Value
  deriving DecidableEq, Repr

def tokenEvidence (token : Dict) : Evidence where
  pool := token.get "pairAddress"
  blockTime := token.get "pumpswap_migration_block_time"
  slot := token.get "pumpswap_migration_slot"

/-- The token holds the graduation and the confirmation is given. -/
def tokenSuffices (payload token : Dict) (mint : String) : Except RunFault Bool :=
  let e := tokenEvidence token
  if !e.pool.truthy || e.blockTime = .none || token.get "mint" ≠ .str mint then .ok false
  else do return ((← block payload "pumpswap_confirmation").get "confirmed").truthy

/-- Fall back to resolution/proof fields. -/
def fallBack (payload : Dict) (e : Evidence) : Except RunFault Evidence := do
  let resolution := block payload "pumpswap_resolution"
  let proof := block payload "pump_migration_proof"
  let pool ← orBlocks e.pool resolution proof "pool_address"
  let blockTime ← ifNone e.blockTime (orBlocks .none proof resolution "migration_block_time")
  let slot ← ifNone e.slot (orBlocks .none proof resolution "migration_slot")
  return { pool, blockTime, slot }

/-- The confirmation is given, or the proof verified. -/
def isConfirmed (payload : Dict) : Except RunFault Bool := do
  if ((← block payload "pumpswap_confirmation").get "confirmed").truthy then return true
  return ((← block payload "pump_migration_proof").get "verified").truthy

/-- The graduation of a record, with the types of the registry. -/
structure ReadGraduation where
  pool : String
  graduationBlockTime : ℤ
  graduationSlot : Option ℤ
  deriving DecidableEq, Repr

def typedGraduation (e : Evidence) : Except RunFault ReadGraduation := do
  let graduationBlockTime ← raised (e.blockTime.toInt R)
  let graduationSlot ← (if e.slot = .none then .ok none else raised (some <$> e.slot.toInt R))
  return { pool := e.pool.text R, graduationBlockTime, graduationSlot }

/-- The graduation that a verified payload shows; `none` where it is incomplete. -/
def readGraduation (payload : Dict) (mint : String) : Except RunFault (Option ReadGraduation) := do
  let token ← tokenEntry payload
  let enough ← tokenSuffices payload token mint
  let e ← (if enough then .ok (tokenEvidence token) else fallBack payload (tokenEvidence token))
  if !e.pool.truthy || e.blockTime = .none then return none
  let confirmed ← isConfirmed payload
  if !confirmed then return none
  if token.get "mint" ≠ .none ∧ token.get "mint" ≠ .str mint then return none
  return some (← typedGraduation R e)

/-- The record of one verification. -/
structure VerificationRecord where
  pair : MigrationPair
  verified : Bool
  transportOperationsUsed : ℤ
  responseBytes : Option ℤ := none
  normalizedRows : Option ℤ := none
  failureType : Option String := none
  graduation : Option ReadGraduation := none
  deriving DecidableEq, Repr

/-- What the loop over the pairs carries. -/
structure Stage where
  measuredLedger : MeasuredTransportLedger
  verifications : List VerificationRecord
  accountingBlockReason : Option String

/-- `measured_ops`: the operations the payload claims. -/
def claimedOperations (payload : Dict) (metadata : TransportMetadata) : Except RunFault ℤ :=
  if metadata.transportOperationsUsed ≠ 0 then .ok metadata.transportOperationsUsed
  else do
    let used ← orBlocks .none (block payload "pumpswap_resolution")
      (block payload "pump_migration_proof") "transport_operations_used"
    raised (used.toIntOrZero R)

/-- The operations of a payload, onto the ledger. Claimed transports without identities fail
closed. -/
def measurePayload (ledger : MeasuredTransportLedger) (payload : Dict)
    (metadata : TransportMetadata) (claimed : ℤ) : Except RunFault Unit × MeasuredTransportLedger :=
  if metadata.transportOperationIdentities ≠ [] then
    let r := recordPayloadTransports R ledger payload exactVerificationStage
    (r.1.map fun _ => (), r.2)
  else if claimed ≠ 0 then (.error (.measured ⟨"TRANSPORT_IDENTITIES_MISSING"⟩), ledger)
  else (.ok (), ledger)

/-- The record of a pair whose payload was measured. -/
def readRecord (pair : MigrationPair) (v : Verification) (metadata : TransportMetadata)
    (claimed : ℤ) : Except RunFault VerificationRecord := do
  let record : VerificationRecord :=
    { pair
      verified := v.verified
      transportOperationsUsed := claimed
      responseBytes := some metadata.responseBytes
      normalizedRows := some metadata.normalizedRows }
  if !v.verified then return { record with failureType := v.failureType }
  match ← readGraduation R v.payload pair.mint with
  | none =>
    return { record with verified := false, failureType := some "verification_payload_incomplete" }
  | some graduation => return { record with graduation := some graduation }

/-- One pass of the loop over the pairs. -/
def verifyPair (verify : MigrationPair → Verification) (stage : Stage) (pair : MigrationPair) :
    Except RunFault Stage := do
  let v := verify pair
  let metadata ← mergeTransportPayloadMetadata R v.payload
  let claimed ← claimedOperations R v.payload metadata
  match measurePayload R stage.measuredLedger v.payload metadata claimed with
  | (.error (.measured e), ledger) =>
    let reason := "measured_transport:" ++ e.text
    let record : VerificationRecord :=
      { pair, verified := false, transportOperationsUsed := 0, failureType := some reason }
    return {
      measuredLedger := ledger
      verifications := stage.verifications ++ [record]
      accountingBlockReason := some reason }
  | (.error e, _) => .error e
  | (.ok (), ledger) =>
    let record ← readRecord R pair v metadata claimed
    return { stage with measuredLedger := ledger, verifications := stage.verifications ++ [record] }

/-- What a run is given: the intake, whose every governed request declared one operation at most
and counts as one, and what the verification of each pair will return. -/
structure DiscoveryRun where
  declared : List (Option TransportOperationIdentity)
  intake : MergedIntake
  counted : intake.transportOperationCount = declared.length
  maxCandidates : ℤ
  verify : MigrationPair → Verification
  now : String

namespace DiscoveryRun

def migrationRequestCount (d : DiscoveryRun) : ℕ := d.declared.length

/-- `intake["valid_pairs"][:max_candidates]` -/
def pairs (d : DiscoveryRun) : List MigrationPair :=
  if 0 ≤ d.maxCandidates then d.intake.validPairs.take d.maxCandidates.toNat
  else d.intake.validPairs.take (d.intake.validPairs.length - d.maxCandidates.natAbs)

end DiscoveryRun

/-- The operation of a request of the intake. A refused one is noted there and goes no further. -/
def recordDeclared (ledger : MeasuredTransportLedger) :
    Option TransportOperationIdentity → MeasuredTransportLedger
  | none => ledger
  | some identity =>
    match ledger.recordTransport identity with
    | .ok ledger => ledger
    | .error _ => ledger

/-- The ledger behind requests of the intake. -/
def intakeLedger (declared : List (Option TransportOperationIdentity)) : MeasuredTransportLedger :=
  declared.foldl recordDeclared .empty

/-- The stage behind the verification of pairs. -/
def verifyPairs (d : DiscoveryRun) (pairs : List MigrationPair) : Except RunFault Stage :=
  pairs.foldlM (verifyPair R d.verify) ⟨intakeLedger d.declared, [], none⟩

def pumpswapTransportOperations (stage : Stage) : ℤ :=
  (stage.verifications.map fun r => r.transportOperationsUsed).sum

/-- `pre_persist_reconciled` -/
def reconciled (d : DiscoveryRun) (stage : Stage) : Bool :=
  stage.measuredLedger.transports.length =
      (d.intake.transportOperationCount : ℤ) + pumpswapTransportOperations stage &&
    d.intake.transportOperationCount = d.migrationRequestCount &&
    stage.accountingBlockReason = none

/-- A record of `pending_persist`. -/
structure PendingRecord where
  pair : MigrationPair
  graduation : ReadGraduation
  deriving DecidableEq, Repr

def VerificationRecord.pending (r : VerificationRecord) : Option PendingRecord :=
  r.graduation.map fun graduation => ⟨r.pair, graduation⟩

def pendingPersist (stage : Stage) : List PendingRecord :=
  stage.verifications.filterMap VerificationRecord.pending

/-- The arguments a pending record is recorded with. -/
def PendingRecord.candidate (now : String) (r : PendingRecord) : Graduated.Candidate where
  mint := r.pair.mint
  migrationSignature := r.pair.signature
  pumpswapPool := r.graduation.pool
  graduationBlockTime := r.graduation.graduationBlockTime
  graduationSlot := r.graduation.graduationSlot
  now
  migrationProvenance

variable (digest : Value → Digest)

/-- One pass of the loop over the pending records, with what `newly` was for the ones before. -/
def persistRecord (now : String) (s : Graduated.Registry × List Bool) (r : PendingRecord) :
    Except RunFault (Graduated.Registry × List Bool) :=
  match recordGraduatedCandidate digest s.1 (r.candidate now) with
  | (.error e, _) => .error (.registry e)
  | (.ok newly, registry) => .ok (registry, s.2 ++ [newly])

def persist (now : String) (registry : Graduated.Registry) (pending : List PendingRecord) :
    Except RunFault (Graduated.Registry × List Bool) :=
  pending.foldlM (persistRecord digest now) (registry, [])

structure MixEntry where
  mint : String
  marketIdentity : String
  pool : String
  category : String
  lifecycleState : String
  graduationBlockTime : ℤ
  deriving DecidableEq, Repr

/-- A row of the registry in the mix, `fresh` where its mint was confirmed in this run. -/
def mixEntry (fresh : List String) (row : Row) : MixEntry where
  mint := row.mintIdentity
  marketIdentity := row.marketIdentity
  pool := row.pumpswapPool
  category :=
    if row.mintIdentity ∈ fresh then latestGraduatedChannel else persistedGraduatedChannel
  lifecycleState := row.lifecycleState
  graduationBlockTime := row.graduationBlockTime

/-- What a run reports of its verifications, its records and its mix. -/
structure Report where
  verifications : List VerificationRecord
  pending : List PendingRecord := []
  newlyPersisted : List Bool := []
  confirmedThisCycle : List String := []
  candidateMix : List MixEntry := []
  registryCandidatesWithheld : ℕ := 0
  accountingBlockReason : Option String := none

namespace Report

end Report

/-- The report of a run that is blocked: the whole mix is withheld. -/
def blockedReport (stage : Stage) (registry : Graduated.Registry) : Report where
  verifications := stage.verifications
  registryCandidatesWithheld := (exportGraduatedCandidates registry []).length
  accountingBlockReason :=
    some (stage.accountingBlockReason.getD "TRANSPORT_IDENTITY_TOTALS_MISMATCH_BEFORE_PERSISTENCE")

/-- The report of a run that recorded its pending records. -/
def settledReport (stage : Stage) (registry : Graduated.Registry) (newlyPersisted : List Bool) :
    Report :=
  let confirmed := (pendingPersist stage).map fun r => r.pair.mint
  { verifications := stage.verifications
    pending := pendingPersist stage
    newlyPersisted
    confirmedThisCycle := confirmed
    candidateMix := (exportGraduatedCandidates registry []).map (mixEntry confirmed) }

/-- A run, up to its commit. -/
def discover (d : DiscoveryRun) (registry : Graduated.Registry) :
    Except RunFault (Report × Graduated.Registry) := do
  let stage ← verifyPairs R d d.pairs
  let measuredLedger ←
    (stage.measuredLedger.recordLocalValidation stage.verifications.length).mapError .measured
  let stage := { stage with measuredLedger }
  if reconciled d stage then
    let (registry, newly) ← persist digest d.now registry (pendingPersist stage)
    return (settledReport stage registry newly, registry)
  else return (blockedReport stage registry, registry)

/-- `run_direct_migration_discovery`, to its report or its exception; the connection is closed
without a commit where it raises. -/
def runDirectMigrationDiscovery (d : DiscoveryRun) (session : Session Graduated.Registry) :
    Except RunFault Report × Session Graduated.Registry :=
  session.block (discover R digest d)

end PrinterV1.Discovery.DirectMigration
