import PrinterV1.Sources.Governor
import PrinterV1.Sources.OriginRegistry

/-!
# Signature-anchored origin acquisition

One cycle of `run_acquisition_from_source`: signature pages are read until the
stored boundary is met, the finalized rows are admitted and ordered, the rows
above the boundary are decoded one at a time, and the cursor moves to the newest
admitted row. The decoder is a parameter, and a source is whatever answers for
pages and transactions; `fixtureSource` is the one of `run_acquisition_cycle`.
-/

namespace PrinterV1.Sources

open Python Discovery

def acquisitionSourceName : String := "solana_rpc"
def acquisitionJobKind : String := "DISCOVERY_REFRESH"
def acquisitionWorkType : String := "DISCOVERY_PUMPFUN_LATEST"
def signaturePageRequest : String := "pumpfun_create_index_signature_page"
def transactionRequest : String := "pumpfun_create_index_transaction"
def getSignaturesForAddress : String := "getSignaturesForAddress"
def getTransaction : String := "getTransaction"
def createIndexPageCeiling : ℕ := 3
def createIndexPageSize : ℕ := 16
def createIndexDecodeCeiling : ℕ := 10
def earlyCreateStop : ℕ := 8
def underlyingOperationCeiling : ℤ := 45

/-- `REQUEST_CEILINGS` -/
def requestCeilings : List (String × ℕ) :=
  [(signaturePageRequest, createIndexPageCeiling), (transactionRequest, createIndexDecodeCeiling)]

/-- `_OPERATION_CEILINGS` -/
def operationCeilings : List (String × ℕ) :=
  [(getSignaturesForAddress, createIndexPageCeiling), (getTransaction, createIndexDecodeCeiling)]

/-- `_NON_FAULT_CLASSIFICATIONS` -/
def nonFaultClassifications : List String :=
  ["FAILED_TRANSACTION", "NOT_SUPPORTED_CREATE", "UNSUPPORTED_TRANSACTION_VERSION",
    "UNSUPPORTED_PUMP_CREATE_V2", "UNSUPPORTED_PUMP_CREATE_LAYOUT", "EARLY_CREATE_STOP",
    "DECODE_CEILING"]

/-- `PumpContractError`, or any other exception a source or the decoder raises. -/
inductive PumpFault
  | contract (code : String) (detail : String)
  | other (text : String)
  deriving DecidableEq, Repr

inductive ContinuityState
  | contiguous | gapped | unknown | unavailable
  deriving DecidableEq, Repr

structure CursorBoundary where
  slot : ℤ
  signature : String
  deriving DecidableEq, Repr

/-- Boundaries and rows are ordered by `(slot, signature)`. -/
abbrev Position := ℤ ×ₗ String

def CursorBoundary.position (b : CursorBoundary) : Position := toLex (b.slot, b.signature)

structure FinalizedOriginCursor where
  boundary : Option CursorBoundary
  continuity : ContinuityState := .unknown
  indexAddress : String := pumpCreateIndexAddress
  deriving DecidableEq, Repr

structure SignatureReference where
  signature : String
  slot : ℤ
  confirmationStatus : String
  err : Value := .none
  deriving DecidableEq

def SignatureReference.position (r : SignatureReference) : Position :=
  toLex (r.slot, r.signature)

structure Rejection where
  code : String
  signature : String
  slot : ℤ
  deriving DecidableEq, Repr

structure AccountingSnapshot where
  governedRequests : List (String × ℕ)
  underlyingRpcOperations : ℤ
  deriving DecidableEq, Repr

/-- `AcquisitionSource`, over its own state: a page is `None` when there are no
more, and a transaction is `NO_MORE_TRANSACTIONS` when there is none planned. -/
structure AcquisitionSource (σ τ : Type) where
  nextSignaturePage : σ → Except PumpFault (Value × σ)
  nextTransaction : σ → SignatureReference → Except PumpFault (Option τ × σ)
  finalize : σ → Except PumpFault Unit
  accounting : σ → AccountingSnapshot

structure AcquisitionCycleResult where
  indexAddress : String
  anchor : Option CursorBoundary
  observations : List PumpCreateObservation
  rejections : List Rejection
  cursor : FinalizedOriginCursor
  accounting : AccountingSnapshot
  pagesUsed : ℕ
  signatureRows : ℕ
  admittedRows : ℕ
  duplicateSignatures : ℕ
  failedSignatureCount : ℕ
  nonCreateCount : ℕ
  createV2Count : ℕ
  unsupportedTransactionVersionCount : ℕ
  unsupportedCreateLayoutCount : ℕ
  decodeAttempts : ℕ
  stalePage : Bool
  deriving DecidableEq, Repr

def signatureReference (row : Value) : Except PumpFault SignatureReference :=
  match row with
  | .dict entries =>
    match Dict.get entries "signature", Dict.get entries "slot",
        Dict.get entries "confirmationStatus" with
    | .str signature, .int slot, .str status =>
      if signature = "" ∨ slot < 0 then
        .error (.contract "MALFORMED_TRANSACTION" "bad signature row")
      else .ok ⟨signature, slot, status, Dict.get entries "err"⟩
    | _, _, _ => .error (.contract "MALFORMED_TRANSACTION" "bad signature row")
  | _ => .error (.contract "MALFORMED_TRANSACTION" "bad signature row")

section Planning

/-- The loop of `plan_finalized_decode_queue` over the rows of the pages. -/
structure Admission where
  references : List SignatureReference := []
  conflicting : List String := []
  duplicates : ℕ := 0
  failedSignatureCount : ℕ := 0
  rejections : List Rejection := []
  continuityFault : Bool := false

def Admission.consider (a : Admission) (reference : SignatureReference) : Admission :=
  if a.conflicting.contains reference.signature then { a with duplicates := a.duplicates + 1 }
  else
    match a.references.find? fun r => r.signature = reference.signature with
    | some previous =>
      if previous ≠ reference then
        -- one signature in two slots: a fork, or backends that disagree
        { a with
          duplicates := a.duplicates + 1
          references := a.references.filter fun r => r.signature ≠ reference.signature
          conflicting := a.conflicting ++ [reference.signature]
          rejections := a.rejections ++
            [⟨"CONFLICTING_DUPLICATE", reference.signature, reference.slot⟩]
          continuityFault := true }
      else { a with duplicates := a.duplicates + 1 }
    | none =>
      if reference.confirmationStatus ≠ "finalized" then
        { a with
          rejections := a.rejections ++ [⟨"MISSING_FINALITY", reference.signature, reference.slot⟩] }
      else if reference.err ≠ .none then
        { a with
          rejections := a.rejections ++
            [⟨"FAILED_TRANSACTION", reference.signature, reference.slot⟩]
          failedSignatureCount := a.failedSignatureCount + 1 }
      else { a with references := a.references ++ [reference] }

def admission (pageRows : List SignatureReference) : Admission := pageRows.foldl Admission.consider {}

structure AdmissionPlan where
  decodeQueue : List SignatureReference
  anchor : Option CursorBoundary
  stalePage : Bool
  admittedCount : ℕ
  duplicateSignatures : ℕ
  failedSignatureCount : ℕ
  rejections : List Rejection
  continuityFault : Bool

/-- `admitted_ordered` -/
def admittedOrdered (pageRows : List SignatureReference) : List SignatureReference :=
  sortBy SignatureReference.position (admission pageRows).references

/-- The admitted rows above the stored boundary, before the decode ceiling. -/
def aboveFloor (pageRows : List SignatureReference) (prior : FinalizedOriginCursor) :
    List SignatureReference :=
  match prior.boundary with
  | none => admittedOrdered pageRows
  | some floor => (admittedOrdered pageRows).filter fun r => floor.position < r.position

def planFinalizedDecodeQueue (pageRows : List SignatureReference) (prior : FinalizedOriginCursor) :
    AdmissionPlan :=
  let admitted := admission pageRows
  let anchor := (admittedOrdered pageRows).getLast?.map fun r => ⟨r.slot, r.signature⟩
  let queue := aboveFloor pageRows prior
  { decodeQueue := queue.take createIndexDecodeCeiling
    anchor
    stalePage :=
      match prior.boundary, anchor with
      | some boundary, some newest => decide (newest.position ≤ boundary.position)
      | _, _ => false
    admittedCount := (admittedOrdered pageRows).length
    duplicateSignatures := admitted.duplicates
    failedSignatureCount := admitted.failedSignatureCount
    rejections := admitted.rejections ++
      (queue.drop createIndexDecodeCeiling).map fun r => ⟨"DECODE_CEILING", r.signature, r.slot⟩
    continuityFault := admitted.continuityFault }

end Planning

section Cycle

variable {σ τ : Type} (source : AcquisitionSource σ τ)
  (decodeFinalizedCreate :
    τ → SignatureReference → ℤ → Except PumpFault PumpCreateObservation)

/-- What the page loop has read. -/
structure Pages (σ : Type) where
  state : σ
  pagesUsed : ℕ := 0
  pageRows : List SignatureReference := []
  boundaryReached : Bool
  historyUnavailable : Bool := false
  sawShortPage : Bool := false

/-- The page loop, with the pages it may still ask for. -/
def readPages (prior : FinalizedOriginCursor) : ℕ → Pages σ → Except PumpFault (Pages σ)
  | 0, pages => .ok pages
  | left + 1, pages => do
    let (page, state) ← source.nextSignaturePage pages.state
    let pages := { pages with state }
    match page with
    | .none => return pages
    | .dict entries =>
      match Dict.get entries "rows" with
      | .list rows =>
        let pages := { pages with pagesUsed := pages.pagesUsed + 1 }
        if createIndexPageSize < rows.length then
          throw (.contract "SIGNATURE_PAGE_SIZE_CEILING" "")
        if rows = [] then return { pages with historyUnavailable := true }
        let references ← rows.mapM signatureReference
        let pages := { pages with pageRows := pages.pageRows ++ references }
        if prior.boundary.any fun b => references.any fun r => r.signature = b.signature then
          return { pages with boundaryReached := true }
        if rows.length < createIndexPageSize then return { pages with sawShortPage := true }
        readPages prior left pages
      | _ => throw (.contract "MALFORMED_TRANSACTION" "bad signature page")
    | _ => throw (.contract "MALFORMED_TRANSACTION" "bad signature page")

/-- What the decode loop has done; `handed` are the rows `decode_finalized_create`
was called with. -/
structure Decoding (σ : Type) where
  state : σ
  handed : List SignatureReference := []
  observations : List PumpCreateObservation := []
  rejections : List Rejection
  nonCreateCount : ℕ := 0
  createV2Count : ℕ := 0
  unsupportedTransactionVersionCount : ℕ := 0
  unsupportedCreateLayoutCount : ℕ := 0
  continuityFault : Bool

/-- The `except PumpContractError` branch. -/
def Decoding.reject (d : Decoding σ) (code : String) (reference : SignatureReference) :
    Decoding σ :=
  let d :=
    { d with rejections := d.rejections ++ [⟨code, reference.signature, reference.slot⟩] }
  if code = "NOT_SUPPORTED_CREATE" then { d with nonCreateCount := d.nonCreateCount + 1 }
  else if code = "UNSUPPORTED_PUMP_CREATE_V2" then { d with createV2Count := d.createV2Count + 1 }
  else if code = "UNSUPPORTED_TRANSACTION_VERSION" then
    { d with unsupportedTransactionVersionCount := d.unsupportedTransactionVersionCount + 1 }
  else if code = "UNSUPPORTED_PUMP_CREATE_LAYOUT" then
    { d with unsupportedCreateLayoutCount := d.unsupportedCreateLayoutCount + 1 }
  else if ¬nonFaultClassifications.contains code then { d with continuityFault := true }
  else d

/-- One transaction decoded; `cutoff_slot` is the slot of the row itself. -/
def Decoding.decode (d : Decoding σ) (reference : SignatureReference) (transaction : τ) :
    Except PumpFault (Decoding σ) :=
  let d := { d with handed := d.handed ++ [reference] }
  match decodeFinalizedCreate transaction reference reference.slot with
  | .ok observation => .ok { d with observations := d.observations ++ [observation] }
  | .error (.contract code _) => .ok (d.reject code reference)
  | .error e => .error e

/-- The decode loop over the planned queue. -/
def decodeQueue : List SignatureReference → Decoding σ → Except PumpFault (Decoding σ)
  | [], d => .ok d
  | reference :: rest, d =>
    if earlyCreateStop ≤ d.observations.length then
      decodeQueue rest
        { d with
          rejections := d.rejections ++
            [⟨"EARLY_CREATE_STOP", reference.signature, reference.slot⟩] }
    else do
      let (transaction?, state) ← source.nextTransaction d.state reference
      let d := { d with state }
      match transaction? with
      | none => return d
      | some transaction =>
        let d ← d.decode decodeFinalizedCreate reference transaction
        decodeQueue rest d

/-- The continuity of the cycle. -/
def continuityOf (prior : FinalizedOriginCursor) (pages : Pages σ) (continuityFault : Bool) :
    ContinuityState :=
  if pages.historyUnavailable && pages.pageRows.isEmpty then .unavailable
  else if prior.boundary.isNone then .unknown
  else if continuityFault || pages.sawShortPage || pages.historyUnavailable ||
      !pages.boundaryReached then .gapped
  else .contiguous

def nextBoundary (prior : FinalizedOriginCursor) (plan : AdmissionPlan) : Option CursorBoundary :=
  if plan.anchor.isSome && !plan.stalePage then plan.anchor else prior.boundary

/-- A finished cycle: its result, with the rows of its pages and the rows it
handed to the decoder. -/
structure Cycle where
  result : AcquisitionCycleResult
  seen : List SignatureReference
  handed : List SignatureReference

/-- The pages of a cycle. -/
def intake (start : σ) (prior : FinalizedOriginCursor) : Except PumpFault (Pages σ) :=
  readPages source prior createIndexPageCeiling
    { state := start, boundaryReached := prior.boundary.isNone }

def runAcquisitionFromSource (start : σ) (prior : FinalizedOriginCursor)
    (indexAddress : String := pumpCreateIndexAddress) : Except PumpFault Cycle := do
  let pages ← intake source start prior
  let plan := planFinalizedDecodeQueue pages.pageRows prior
  let decoded ← decodeQueue source decodeFinalizedCreate plan.decodeQueue
    { state := pages.state, rejections := plan.rejections, continuityFault := plan.continuityFault }
  source.finalize decoded.state
  return {
    result := {
      indexAddress
      anchor := plan.anchor
      observations := decoded.observations
      rejections := decoded.rejections
      cursor := {
        boundary := nextBoundary prior plan
        continuity := continuityOf prior pages decoded.continuityFault
        indexAddress }
      accounting := source.accounting decoded.state
      pagesUsed := pages.pagesUsed
      signatureRows := pages.pageRows.length
      admittedRows := plan.admittedCount
      duplicateSignatures := plan.duplicateSignatures
      failedSignatureCount := plan.failedSignatureCount
      nonCreateCount := decoded.nonCreateCount
      createV2Count := decoded.createV2Count
      unsupportedTransactionVersionCount := decoded.unsupportedTransactionVersionCount
      unsupportedCreateLayoutCount := decoded.unsupportedCreateLayoutCount
      decodeAttempts := decoded.handed.length
      stalePage := plan.stalePage }
    seen := pages.pageRows
    handed := decoded.handed }

end Cycle

section Fixture

structure FixtureOperation where
  requestId : String
  requestKind : String
  rpcOperation : String
  response : Value
  sourceName : String := acquisitionSourceName
  schedulerJobKind : String := acquisitionJobKind
  schedulerWorkType : String := acquisitionWorkType

/-- `_Accounting` -/
structure Accounting where
  requestIds : String → List String := fun _ => []
  operationCounts : String → ℕ := fun _ => 0
  underlying : ℤ := 0

def enforceUnderlyingOperationCeiling (used added : ℤ) : Except PumpFault ℤ :=
  if used < 0 ∨ added < 0 ∨ underlyingOperationCeiling < used + added then
    .error (.contract "UNDERLYING_OPERATION_CEILING" "")
  else .ok (used + added)

def Accounting.consume (a : Accounting) (operation : FixtureOperation) :
    Except PumpFault Accounting := do
  let some ceiling := requestCeilings.lookup operation.requestKind
    | throw (.contract "SOURCE_GOVERNOR_BYPASS" "unadopted request kind")
  let requestIds := a.requestIds operation.requestKind
  let decision := canRequestSource operation.sourceName operation.requestKind requestIds.length
  if !decision.allowed then throw (.contract "SOURCE_GOVERNOR_BYPASS" decision.reason)
  let seen := requestIds.contains operation.requestId
  if !seen && ceiling ≤ requestIds.length then throw (.contract "GOVERNED_REQUEST_CEILING" "")
  let ids := if seen then requestIds else operation.requestId :: requestIds
  let some operationCeiling := operationCeilings.lookup operation.rpcOperation
    | throw (.contract "UNADOPTED_RPC_OPERATION" "")
  if operationCeiling ≤ a.operationCounts operation.rpcOperation then
    throw (.contract "RPC_OPERATION_CEILING" "")
  let underlying ← enforceUnderlyingOperationCeiling a.underlying 1
  return {
    requestIds := Function.update a.requestIds operation.requestKind ids
    operationCounts := Function.update a.operationCounts operation.rpcOperation
      (a.operationCounts operation.rpcOperation + 1)
    underlying }

def Accounting.snapshot (a : Accounting) : AccountingSnapshot where
  governedRequests := requestCeilings.map fun kind => (kind.1, (a.requestIds kind.1).length)
  underlyingRpcOperations := a.underlying

/-- `FixtureOperationPort`: the operations left, and the account of those taken. -/
structure Port where
  operations : List FixtureOperation
  accounting : Accounting := {}

def Port.take (port : Port) (rpcOperation requestKind : String) :
    Except PumpFault (Value × Port) := do
  match port.operations with
  | [] => throw (.contract "UNAVAILABLE_HISTORY" ("missing " ++ rpcOperation))
  | operation :: rest =>
    if operation.sourceName ≠ acquisitionSourceName ∨ operation.requestKind ≠ requestKind then
      throw (.contract "SOURCE_GOVERNOR_BYPASS" "")
    if operation.schedulerJobKind ≠ acquisitionJobKind ∨
        operation.schedulerWorkType ≠ acquisitionWorkType then
      throw (.contract "CENTRAL_SCHEDULER_BYPASS" "")
    if operation.rpcOperation ≠ rpcOperation then
      throw (.contract "MALFORMED_FIXTURE_OPERATION"
        ("expected " ++ rpcOperation ++ ", got " ++ operation.rpcOperation))
    let accounting ← port.accounting.consume operation
    return (operation.response, { operations := rest, accounting })

/-- `_FixtureAcquisitionSource` -/
def fixtureSource : AcquisitionSource Port Value where
  nextSignaturePage port :=
    if port.operations.head?.any fun o => o.rpcOperation = getSignaturesForAddress then
      port.take getSignaturesForAddress signaturePageRequest
    else .ok (.none, port)
  nextTransaction port _ :=
    if port.operations.head?.any fun o => o.rpcOperation = getTransaction then do
      let (transaction, port) ← port.take getTransaction transactionRequest
      return (some transaction, port)
    else .ok (none, port)
  finalize port :=
    match port.operations with
    | [] => .ok ()
    | remaining :: _ => .error (.contract "UNPLANNED_OPERATION" remaining.rpcOperation)
  accounting port := port.accounting.snapshot

/-- `run_acquisition_cycle` -/
def runAcquisitionCycle
    (decodeFinalizedCreate :
      Value → SignatureReference → ℤ → Except PumpFault PumpCreateObservation)
    (operations : List FixtureOperation) (prior : FinalizedOriginCursor)
    (indexAddress : String := pumpCreateIndexAddress) : Except PumpFault Cycle :=
  runAcquisitionFromSource fixtureSource decodeFinalizedCreate { operations } prior indexAddress

end Fixture

end PrinterV1.Sources
