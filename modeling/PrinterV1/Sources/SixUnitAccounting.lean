import PrinterV1.Python.Floats
import PrinterV1.Sources.MeasuredTransport

/-!
# Six-unit accounting

The reconstruction of totals from durable evidence, and the owner that ingests
the evidence of one stage after another. A fault of the accounting blocks the
owner; an exception of the language passes through the wrapper as it is.
-/

namespace PrinterV1.Sources

open Python

/-- `CampaignSixUnitError`: its text is `SIX_UNIT_` and the detail. -/
structure CampaignSixUnitError where
  detail : String
  deriving DecidableEq, Repr

def CampaignSixUnitError.text (e : CampaignSixUnitError) : String := "SIX_UNIT_" ++ e.detail

/-- What a call can raise. -/
inductive Fault
  | sixUnit (e : CampaignSixUnitError)
  | measured (e : MeasuredTransportError)
  | python (e : PyError)
  deriving DecidableEq, Repr

def malformed (detail : String) : CampaignSixUnitError := ⟨"STAGE_EVIDENCE_MALFORMED:" ++ detail⟩

/-- `_integer`: a value that is no number is a fault of the accounting. -/
def integer (R : Value.Rendering) (v : Value) : Except Fault ℤ :=
  match v.toIntOrZero R with
  | .ok n => .ok n
  | .error (.overflowError text) => .error (.python (.overflowError text))
  | .error _ => .error (.sixUnit ⟨"EVIDENCE_MALFORMED_COUNTER"⟩)

/-- The values that identify a raw operation. -/
def rawKey (raw : Dict) : List Value :=
  [raw.get "stage", raw.get "source_name", raw.get "governed_request_kind",
    raw.get "method_or_endpoint", raw.get "within_request_ordinal", raw.get "target_category",
    raw.get "target_identity"]

/-- The `TypeError` of hashing a list or a mapping. -/
def hashFault (key : List Value) : Option PyError :=
  (key.find? fun v => !v.hashable).map fun v => .typeError ("unhashable type: '" ++ v.typeName ++ "'")

/-- One raw operation: its key and its two measures. -/
def readEntries (R : Value.Rendering) (seen : List (List Value)) (entries : Dict) :
    Except Fault (List Value × ℤ × ℤ) :=
  let key := rawKey entries
  match hashFault key with
  | some e => .error (.python e)
  | none =>
    if seen.any fun k => Value.pyEqList key k then
      .error (.sixUnit ⟨"EVIDENCE_DUPLICATE_IDENTITY"⟩)
    else do
      let bytes ← integer R (entries.get "response_bytes")
      let rows ← integer R (entries.get "normalized_rows")
      if bytes < 0 ∨ rows < 0 then .error (.sixUnit ⟨"EVIDENCE_NEGATIVE_MEASURE"⟩)
      else .ok (key, bytes, rows)

def readOperation (R : Value.Rendering) (seen : List (List Value)) (raw : Value) :
    Except Fault (List Value × ℤ × ℤ) :=
  match raw with
  | .dict entries => readEntries R seen entries
  | _ => .error (.sixUnit ⟨"EVIDENCE_IDENTITY_MALFORMED"⟩)

/-- The loop over the operations: the sums of their measures. -/
def readOperations (R : Value.Rendering) : List (List Value) → List Value → Except Fault (ℤ × ℤ)
  | _, [] => .ok (0, 0)
  | seen, raw :: rest => do
    let (key, bytes, rows) ← readOperation R seen raw
    let (moreBytes, moreRows) ← readOperations R (key :: seen) rest
    return (bytes + moreBytes, rows + moreRows)

/-- `evidence.get("transport_operations") or ()`, where it is a sequence. -/
def operationsOf (entries : Dict) : Option (List Value) :=
  let transports := entries.get "transport_operations"
  if transports.truthy then
    match transports with
    | .list xs => some xs
    | _ => none
  else some []

def evidenceKind : String := "CAMPAIGN_SIX_UNIT_EVIDENCE_V1"

/-- The three counters of the evidence. -/
def readCounters (R : Value.Rendering) (entries : Dict) : Except Fault (ℤ × ℤ × ℤ) := do
  let validations ← integer R (entries.get "local_validations")
  let work ← integer R (entries.get "scheduler_work_items")
  let reservations ← integer R (entries.get "lifecycle_reservations")
  if validations < 0 ∨ work < 0 ∨ reservations < 0 then
    .error (.sixUnit ⟨"EVIDENCE_NEGATIVE_MEASURE"⟩)
  else .ok (validations, work, reservations)

/-- The evidence is a mapping, and its kind no integer that is too long for a text. -/
def reconstructEntries (R : Value.Rendering) (entries : Dict) : Except Fault SixUnitTotals :=
  let kind := (entries.get "evidence_kind").textOrEmpty R
  if kind ≠ evidenceKind ∧ kind ≠ "" ∧ entries.has "transport_operations" = false then
    .error (.sixUnit ⟨"EVIDENCE_KIND_UNSUPPORTED"⟩)
  else
    match operationsOf entries with
    | none => .error (.sixUnit ⟨"EVIDENCE_TRANSPORTS_MALFORMED"⟩)
    | some transports => do
      let (bytes, rows) ← readOperations R [] transports
      let (validations, work, reservations) ← readCounters R entries
      return {
        sourceTransportOperation := transports.length
        localValidationStep := validations
        schedulerWorkItem := work
        sourceResponseBytes := bytes
        normalizedSourceRows := rows
        lifecycleReservedTransportOperation := reservations }

def reconstructSixUnitTotalsFromEvidence (R : Value.Rendering) (evidence : Value) :
    Except Fault SixUnitTotals :=
  match evidence with
  | .dict entries => reconstructEntries R entries
  | _ => .error (.sixUnit ⟨"EVIDENCE_MISSING"⟩)

structure SealedStageDiagnostic where
  stageId : String
  stageKind : String
  stageSequence : ℤ
  stageTerminalStatus : String
  stageFirstTerminalCause : Value
  sealedAt : String
  transportOperations : ℤ
  deriving DecidableEq, Repr

structure CampaignSixUnitOwner where
  campaignId : Option String
  runId : Option String
  cycleId : Option String
  startedAt : String
  endedAt : Option String := none
  ledger : MeasuredTransportLedger := MeasuredTransportLedger.empty
  stageEvidenceCount : ℕ := 0
  preOperationNoWork : Bool := false
  preOperationNoWorkReason : Option String := none
  accountingBlockReason : Option String := none
  ingestedStageIds : List String := []
  sealedStageDiagnostics : List SealedStageDiagnostic := []

def stageTerminalStatuses : List String := ["COMPLETED", "BLOCKED", "FAILED"]

/-- The fields whose presence makes evidence a sealed stage's. -/
def sealedStageFields : List String :=
  ["stage_id", "stage_kind", "stage_sequence", "stage_terminal_status",
    "stage_first_terminal_cause", "sealed_at"]

def requiredFields : List String :=
  ["evidence_kind", "transport_operations", "local_validations", "scheduler_work_items",
    "lifecycle_reservations"]

/-- `_require_nonempty_text` on a field of the evidence, given its name in capitals. -/
def requireNonemptyText (R : Value.Rendering) (entries : Dict) (field capitals : String) :
    Except Fault String := do
  let text ← ((entries.get field).toTextOrEmpty R).mapError .python
  if strip text = "" then .error (.sixUnit (malformed ("MISSING_" ++ capitals)))
  else .ok (strip text)

/-- The stage's sequence number. -/
def readSequence (R : Value.Rendering) (entries : Dict) : Except Fault ℤ :=
  match (entries.get "stage_sequence").toInt R with
  | .ok n => if n < 1 then .error (.sixUnit (malformed "INVALID_STAGE_SEQUENCE")) else .ok n
  | .error (.overflowError text) => .error (.python (.overflowError text))
  | .error _ => .error (.sixUnit (malformed "INVALID_STAGE_SEQUENCE"))

/-- Evidence of the accounting's kind, with every required field. -/
def checkHeader (entries : Dict) : Except Fault Dict :=
  if entries = [] then .error (.sixUnit ⟨"STAGE_EVIDENCE_EMPTY"⟩)
  else if entries.get "evidence_kind" ≠ .str evidenceKind ∨
      (requiredFields.all fun field => entries.has field) = false then
    .error (.sixUnit ⟨"STAGE_EVIDENCE_MALFORMED"⟩)
  else .ok entries

def readHeader (evidence : Value) : Except Fault Dict :=
  match evidence with
  | .dict entries => checkHeader entries
  | _ => .error (.sixUnit ⟨"STAGE_EVIDENCE_MISSING"⟩)

def isSealed (entries : Dict) : Bool :=
  (sealedStageFields.any fun field => entries.has field) || entries.get "stage_id" != .none

/-- The checks of the sealed metadata behind the sequence number. -/
def checkSealedTail (R : Value.Rendering) (entries : Dict) : Except Fault Unit := do
  let status ← requireNonemptyText R entries "stage_terminal_status" "STAGE_TERMINAL_STATUS"
  if upper status ∉ stageTerminalStatuses then
    throw (.sixUnit (malformed "INVALID_STAGE_TERMINAL_STATUS"))
  let _ ← requireNonemptyText R entries "sealed_at" "SEALED_AT"
  let _ ← requireNonemptyText R entries "campaign_id" "CAMPAIGN_ID"
  let _ ← requireNonemptyText R entries "run_id" "RUN_ID"
  let _ ← requireNonemptyText R entries "cycle_id" "CYCLE_ID"
  return ()

/-- The stage id of sealed evidence, with its sequence number; `none` for legacy
evidence. -/
def readStage (R : Value.Rendering) (owner : CampaignSixUnitOwner) (entries : Dict) :
    Except Fault (Option (String × ℤ)) :=
  if isSealed entries then do
    let stageId ← requireNonemptyText R entries "stage_id" "STAGE_ID"
    let _ ← requireNonemptyText R entries "stage_kind" "STAGE_KIND"
    let sequence ← readSequence R entries
    checkSealedTail R entries
    if stageId ∈ owner.ingestedStageIds then
      throw (.sixUnit ⟨"STAGE_EVIDENCE_DUPLICATE_STAGE_ID:" ++ stageId⟩)
    return some (stageId, sequence)
  else .ok none

/-- The evidence names no other campaign, run or cycle than the owner's. -/
def checkIdentity (R : Value.Rendering) (entries : Dict) (field : String)
    (ownerValue : Option String) : Except Fault Unit :=
  let evidenceValue := entries.get field
  match ownerValue with
  | none => .ok ()
  | some value =>
    if evidenceValue = .none then .ok ()
    else do
      let text ← (evidenceValue.toText R).mapError .python
      if text ≠ value then
        .error (.sixUnit ⟨"STAGE_EVIDENCE_IDENTITY_MISMATCH:" ++ field ++ ":" ++
          R.repr evidenceValue ++ "!=" ++ R.repr (.str value)⟩)
      else .ok ()

/-- The fields the owner is identified by, with their values. -/
def CampaignSixUnitOwner.identities (owner : CampaignSixUnitOwner) :
    List (String × Option String) :=
  [("campaign_id", owner.campaignId), ("run_id", owner.runId), ("cycle_id", owner.cycleId)]

def checkIdentities (R : Value.Rendering) (owner : CampaignSixUnitOwner) (entries : Dict) :
    Except Fault Unit :=
  owner.identities.forM fun identity => checkIdentity R entries identity.1 identity.2

/-- The reconstruction, its faults named as those of a stage. -/
def stageTotals (R : Value.Rendering) (entries : Dict) : Except Fault SixUnitTotals :=
  match reconstructSixUnitTotalsFromEvidence R (.dict entries) with
  | .error (.sixUnit e) => .error (.sixUnit (malformed e.text))
  | result => result

def isPreOperation (entries : Dict) : Bool := entries.get "phase" = .str "PRE_OPERATION_NO_WORK"

/-- The contract of evidence that no work was done, and of any other evidence. -/
def checkPhase (R : Value.Rendering) (owner : CampaignSixUnitOwner) (entries : Dict)
    (totals : SixUnitTotals) : Except Fault Unit :=
  let refused := Fault.sixUnit (malformed "PRE_OPERATION_NO_WORK_CONTRACT")
  if isPreOperation entries then
    if owner.stageEvidenceCount ≠ 0 ∨ owner.preOperationNoWork = true ∨
        entries.get "source_transport_attempted" ≠ .bool false then .error refused
    else
      match (entries.get "source_governor_requests").toIntOrZero R with
      | .error e => .error (.python e)
      | .ok requests =>
        if requests ≠ 0 ∨ entries.get "scheduler_work_exists" ≠ .bool false ∨
            entries.get "lifecycle_began" ≠ .bool false then .error refused
        else
          match (entries.get "no_work_reason").toTextOrEmpty R with
          | .error e => .error (.python e)
          | .ok reason =>
            if strip reason = "" ∨ totals.values.any fun value => value ≠ 0 then .error refused
            else .ok ()
  else if owner.preOperationNoWork then
    .error (.sixUnit (malformed "PRE_OPERATION_NO_WORK_MIXED_WITH_OPERATION"))
  else .ok ()

def optionalText (R : Value.Rendering) (v : Value) : Except PyError (Option String) :=
  if v = .none then .ok none else some <$> v.toText R

/-- `str(value or "ATTEMPTED")` -/
def resultText (R : Value.Rendering) (v : Value) : Except PyError String :=
  if v.truthy then v.toText R else .ok "ATTEMPTED"

/-- The operation of the evidence, written with the types of the ledger. -/
def readIdentity (R : Value.Rendering) (entries : Dict) :
    Except PyError TransportOperationIdentity := do
  let stage ← (entries.get "stage").toTextOrEmpty R
  let sourceName ← (entries.get "source_name").toTextOrEmpty R
  let endpointOwner ← (entries.get "endpoint_owner").toTextOrEmpty R
  let governedRequestKind ← (entries.get "governed_request_kind").toTextOrEmpty R
  let methodOrEndpoint ← (entries.get "method_or_endpoint").toTextOrEmpty R
  let withinRequestOrdinal ← (entries.get "within_request_ordinal").toIntOrZero R
  let targetCategory ← (entries.get "target_category").toTextOrEmpty R
  let targetIdentity ← optionalText R (entries.get "target_identity")
  let responseBytes ← (entries.get "response_bytes").toIntOrZero R
  let normalizedRows ← (entries.get "normalized_rows").toIntOrZero R
  let result ← resultText R (entries.get "result")
  let reservedFrom ← optionalText R (entries.get "reserved_from")
  return { stage, sourceName, endpointOwner, governedRequestKind, methodOrEndpoint,
           withinRequestOrdinal, targetCategory, targetIdentity, responseBytes, normalizedRows,
           result, reservedFrom }

/-- One operation on the ledger of the stage. -/
def recordRaw (R : Value.Rendering) (ledger : MeasuredTransportLedger) (raw : Value) :
    Except Fault MeasuredTransportLedger :=
  match raw with
  | .dict entries =>
    match readIdentity R entries with
    | .error (.overflowError text) => .error (.python (.overflowError text))
    | .error e => .error (.sixUnit (malformed e.text))
    | .ok identity =>
      match ledger.recordTransport identity with
      | .error e => .error (.sixUnit (malformed e.text))
      | .ok ledger => .ok ledger
  | _ => .error (.sixUnit ⟨"STAGE_IDENTITY_MALFORMED"⟩)

/-- A counter of the evidence, on the ledger of the stage. -/
def recordCounter (R : Value.Rendering) (entries : Dict) (field : String)
    (record : ℤ → Except MeasuredTransportError MeasuredTransportLedger) :
    Except Fault MeasuredTransportLedger :=
  match (entries.get field).toIntOrZero R with
  | .error e => .error (.python e)
  | .ok count =>
    match record count with
    | .error e => .error (.measured e)
    | .ok ledger => .ok ledger

def stageLedger (R : Value.Rendering) (entries : Dict) (transports : List Value) :
    Except Fault MeasuredTransportLedger := do
  let ledger ← transports.foldlM (recordRaw R) MeasuredTransportLedger.empty
  let ledger ← recordCounter R entries "local_validations" ledger.recordLocalValidation
  let ledger ← recordCounter R entries "scheduler_work_items" ledger.recordSchedulerWorkItem
  recordCounter R entries "lifecycle_reservations" ledger.reserveLifecycleTransports

/-- The owner's ledger with the stage's, or the fault of combining them. -/
def combine (ledger stage : MeasuredTransportLedger) : Except Fault MeasuredTransportLedger :=
  match ledger.extend stage with
  | .ok combined => .ok combined
  | .error e =>
    if e.text = "DUPLICATE_TRANSPORT_IDENTITY" then
      .error (.sixUnit ⟨"STAGE_EVIDENCE_DUPLICATE_TRANSPORT:" ++ e.text⟩)
    else .error (.sixUnit (malformed e.text))

/-- The assignments after every check has passed. -/
def commitStage (R : Value.Rendering) (owner : CampaignSixUnitOwner) (entries : Dict)
    (stage : Option (String × ℤ)) (totals : SixUnitTotals) (ledger : MeasuredTransportLedger) :
    CampaignSixUnitOwner :=
  { owner with
    ledger := ledger
    stageEvidenceCount := owner.stageEvidenceCount + 1
    preOperationNoWork := isPreOperation entries
    preOperationNoWorkReason :=
      if isPreOperation entries then some ((entries.get "no_work_reason").text R) else none
    ingestedStageIds := owner.ingestedStageIds ++ (stage.map Prod.fst).toList
    sealedStageDiagnostics := owner.sealedStageDiagnostics ++
      (stage.map fun (stageId, sequence) =>
        { stageId
          stageKind := (entries.get "stage_kind").textOrEmpty R
          stageSequence := sequence
          stageTerminalStatus := (entries.get "stage_terminal_status").textOrEmpty R
          stageFirstTerminalCause := entries.get "stage_first_terminal_cause"
          sealedAt := (entries.get "sealed_at").textOrEmpty R
          transportOperations := totals.sourceTransportOperation }).toList }

/-- `_ingest_stage_evidence_impl` -/
def ingestStageEvidenceImpl (R : Value.Rendering) (owner : CampaignSixUnitOwner)
    (evidence : Value) : Except Fault CampaignSixUnitOwner := do
  let entries ← readHeader evidence
  let stage ← readStage R owner entries
  checkIdentities R owner entries
  let totals ← stageTotals R entries
  checkPhase R owner entries totals
  let stageLedger ← stageLedger R entries ((operationsOf entries).getD [])
  let ledger ← combine owner.ledger stageLedger
  return commitStage R owner entries stage totals ledger

/-- `block`: only the first reason is kept. -/
def CampaignSixUnitOwner.block (owner : CampaignSixUnitOwner) (reason : String) :
    Except CampaignSixUnitError CampaignSixUnitOwner :=
  let candidate := strip reason
  if candidate = "" then .error ⟨"ACCOUNTING_BLOCKED"⟩
  else
    .ok
      { owner with
        accountingBlockReason := some (owner.accountingBlockReason.getD candidate) }

/-- `ingest_stage_evidence`: what it raises, if anything, and the owner after it. -/
def ingestStageEvidence (R : Value.Rendering) (owner : CampaignSixUnitOwner) (evidence : Value) :
    Option Fault × CampaignSixUnitOwner :=
  match ingestStageEvidenceImpl R owner evidence with
  | .ok owner' => (none, owner')
  | .error (.sixUnit e) =>
    match owner.block e.text with
    | .ok owner' => (some (.sixUnit e), owner')
    | .error e' => (some (.sixUnit e'), owner)
  | .error fault => (some fault, owner)

def optionalStr (s : Option String) : Value :=
  match s with
  | none => .none
  | some s => .str s

/-- `as_dict` of an operation. -/
def TransportOperationIdentity.asDict (i : TransportOperationIdentity) : Dict :=
  [("endpoint_owner", .str i.endpointOwner), ("governed_request_kind", .str i.governedRequestKind),
    ("method_or_endpoint", .str i.methodOrEndpoint), ("normalized_rows", .int i.normalizedRows),
    ("reserved_from", optionalStr i.reservedFrom), ("response_bytes", .int i.responseBytes),
    ("result", .str i.result), ("source_name", .str i.sourceName), ("stage", .str i.stage),
    ("target_category", .str i.targetCategory), ("target_identity", optionalStr i.targetIdentity),
    ("unit", .str "SOURCE_TRANSPORT_OPERATION"),
    ("within_request_ordinal", .int i.withinRequestOrdinal)]

/-- `_parse_iso` -/
def parseIso (value : String) : Except PyError Datetime :=
  match fromisoformat (replaceZulu value) with
  | some d => .ok d
  | none => .error (.valueError "Invalid isoformat string")

/-- `self.ended_at or _utc_now_iso()` -/
def CampaignSixUnitOwner.endOr (owner : CampaignSixUnitOwner) (utcNow : String) : String :=
  if owner.endedAt.getD "" = "" then utcNow else owner.endedAt.getD ""

/-- `elapsed_seconds` -/
def CampaignSixUnitOwner.elapsedSeconds (owner : CampaignSixUnitOwner) (utcNow : String) :
    Except PyError ℚ := do
  let ended ← parseIso (owner.endOr utcNow)
  let started ← parseIso owner.startedAt
  if ended.utcoffset.isSome = started.utcoffset.isSome then
    return max 0 (totalSeconds (ended.instantUtc - started.instantUtc))
  else throw (.typeError "can't subtract offset-naive and offset-aware datetimes")

/-- The evidence of an owner that is closed, given its elapsed seconds. -/
def CampaignSixUnitOwner.durableEntries (owner : CampaignSixUnitOwner) (elapsed : ℚ) : Dict :=
  [("accounting_block_reason", optionalStr owner.accountingBlockReason),
    ("campaign_id", optionalStr owner.campaignId), ("cycle_id", optionalStr owner.cycleId),
    ("elapsed_seconds", .float (float64 (roundHalfEven (elapsed * 10 ^ 6) / 10 ^ 6))),
    ("ended_at", optionalStr owner.endedAt), ("evidence_kind", .str evidenceKind),
    ("ingested_stage_ids", .list (owner.ingestedStageIds.map .str)),
    ("lifecycle_reservations", .int owner.ledger.lifecycleReservations),
    ("local_validations", .int owner.ledger.localValidations),
    ("pre_operation_no_work", .bool owner.preOperationNoWork),
    ("pre_operation_no_work_reason", optionalStr owner.preOperationNoWorkReason),
    ("run_id", optionalStr owner.runId),
    ("scheduler_work_items", .int owner.ledger.schedulerWorkItems),
    ("sealed_stage_count", .int owner.sealedStageDiagnostics.length),
    ("stage_evidence_count", .int owner.stageEvidenceCount), ("started_at", .str owner.startedAt),
    ("transport_operations", .list (owner.ledger.transports.map fun i => .dict i.asDict))]

/-- `close`, with no end given. -/
def CampaignSixUnitOwner.close (owner : CampaignSixUnitOwner) (utcNow : String) :
    CampaignSixUnitOwner := { owner with endedAt := some utcNow }

/-- `durable_evidence`: it closes the owner first, where that is open, by the clock. -/
def CampaignSixUnitOwner.durableEvidence (owner : CampaignSixUnitOwner) (utcNow : String) :
    Except PyError Value := do
  let closed := if owner.endedAt = none then owner.close utcNow else owner
  let elapsed ← closed.elapsedSeconds utcNow
  return .dict (closed.durableEntries elapsed)

def CampaignSixUnitOwner.sixUnitTotals (owner : CampaignSixUnitOwner) : SixUnitTotals :=
  owner.ledger.sixUnitTotals

end PrinterV1.Sources
