import Mathlib.Algebra.Ring.Int.Defs
import PrinterV1.Foundation.Sqlite
import PrinterV1.Foundation.Tables
import PrinterV1.Python.Value

/-!
# Accounting of one governed operation

`_measure_operation_accounting` compares what a provider reports about its
transport operations with the declared plan, and `_persist_work` stores one work
row and one row for each operation. Both read the same payload, each with its own
conversions. An identifier is the pair that the code makes a digest of.
-/

namespace PrinterV1.OperatorCli.OperationAccounting

open Python

/-- The characters `str.isdigit` accepts besides the decimal digits, as ranges. -/
def digitRanges : List (ℕ × ℕ) :=
  [(0xB2, 0xB3), (0xB9, 0xB9), (0x1369, 0x1371), (0x19DA, 0x19DA), (0x2070, 0x2070),
    (0x2074, 0x2079), (0x2080, 0x2089), (0x2460, 0x2468), (0x2474, 0x247C), (0x2488, 0x2490),
    (0x24EA, 0x24EA), (0x24F5, 0x24FD), (0x24FF, 0x24FF), (0x2776, 0x277E), (0x2780, 0x2788),
    (0x278A, 0x2792), (0x10A40, 0x10A43), (0x10E60, 0x10E68), (0x11052, 0x1105A),
    (0x1F100, 0x1F10A)]

/-- `text.isdigit()` -/
def isDigit (cs : List Char) : Bool :=
  cs ≠ [] && cs.all fun c =>
    (decimal? c).isSome || digitRanges.any fun r => r.1 ≤ c.toNat && c.toNat ≤ r.2

/-- `try: … except (TypeError, ValueError): …`; no other exception is caught. -/
def caught {α : Type} : Except PyError α → Except PyError (Option α)
  | .ok a => .ok (some a)
  | .error (.overflowError text) => .error (.overflowError text)
  | .error _ => .ok none

/-- The part with the ordinal, of a total that is divided evenly; the last part has the rest. -/
def share (total : ℤ) (n ordinal : ℕ) : ℤ :=
  total / (max n 1 : ℕ) + if ordinal = n then total % (max n 1 : ℕ) else 0

/-- What the plan says of one request; `__post_init__` refuses any other plan. -/
structure AcquisitionSourceOperation where
  sourceName : String
  requestKind : String
  required : Bool
  roundMode : String
  expectedTransportOperations : ℕ
  expectedOperationKinds : List String
  cursorRange : Option Dict
  plan_length : expectedOperationKinds.length = expectedTransportOperations
  plan_named : ∀ kind ∈ expectedOperationKinds, kind ≠ ""

def accountingMismatch : String := "OPERATION_ACCOUNTING_MISMATCH"
def byteAccountingMismatch : String := "OPERATION_BYTE_ACCOUNTING_MISMATCH"

/-- The result of `_measure_operation_accounting`. -/
structure Accounting where
  reportedCount : ℤ
  actualCount : ℕ
  encodedSize : ℤ
  details : List Dict
  detailsSynthesized : Bool
  declaredCeiling : Bool
  expectedKinds : List String
  actualKinds : List String
  failure : Option String

section Measure

variable (R : Value.Rendering) (operation : AcquisitionSourceOperation) (payload : Dict)

/-- The value `reported_count` is read from. -/
def countValue : Value :=
  if payload.has "underlying_operation_count" then payload.get "underlying_operation_count"
  else .int operation.expectedTransportOperations

/-- A detail made up where the provider gives none. -/
def synthesizedDetail (plan : List String) (sourceComplete : Bool) (ordinal : ℕ) : Dict :=
  [("bytes_used", .int 0),
    ("operation_kind",
      .str (plan[ordinal]?.getD ("UNDECLARED_OPERATION_" ++ toString (ordinal + 1)))),
    ("operation_state", .str (if sourceComplete then "COMPLETE" else "FAILED")),
    ("redacted_endpoint_role", .str "FROZEN_PREDECLARED_PLAN")]

/-- `dict(item)` for each item, where every item is a mapping. -/
def mappings : List Value → Option (List Dict)
  | [] => some []
  | .dict entries :: xs => (mappings xs).map (entries :: ·)
  | _ :: _ => none

/-- The details before their bytes are shared out; `none` where they are malformed. -/
def rawDetails (plan : List String) (sourceComplete : Bool) (reported : ℤ) :
    Value → Option (List Dict)
  | .none => some ((List.range reported.toNat).map (synthesizedDetail plan sourceComplete))
  | .list xs => mappings xs
  | _ => none

/-- A detail without a kind, a known state or a role. -/
def undescribed (detail : Dict) : Bool :=
  (detail.get "operation_kind").textOrEmpty R = "" ||
    (detail.get "operation_state").textOrEmpty R ∉ ["COMPLETE", "FAILED"] ||
    (detail.get "redacted_endpoint_role").textOrEmpty R = ""

/-- `int(item.get("bytes_used") or 0)` -/
def bytesOrZero (detail : Dict) : Except PyError ℤ := (detail.get "bytes_used").toIntOrZero R

/-- The argument of `encoded_size`. -/
def payloadSize (details : List Dict) : Except PyError ℤ :=
  if payload.has "response_bytes" then (payload.get "response_bytes").toInt R
  else do
    let counts ← details.mapM (bytesOrZero R)
    return counts.sum

/-- The test of the repair: a number or a text that is written with digits. -/
def digitLike (detail : Dict) : Bool :=
  let v := detail.get "bytes_used"
  let v := if v.truthy then v else .int 0
  match v with
  | .none | .list _ | .dict _ => false
  | v => isDigit ((v.text R).toList.dropWhile (· = '-'))

/-- `encoded_size` where its argument has no reading. -/
def repairedSize (details : List Dict) : Except PyError ℤ := do
  let counts ← (details.filter (digitLike R)).mapM (bytesOrZero R)
  return (counts.map (max 0)).sum

/-- `encoded_size`, from what its argument was read as. -/
def encodedSize (details : List Dict) : Option ℤ → Except PyError ℤ
  | some size => .ok size
  | none => repairedSize R details

/-- The bytes of synthesized details are shares of the whole. -/
def shareBytes (encoded : ℤ) (details : List Dict) : List Dict :=
  details.mapIdx fun i detail =>
    detail.set "bytes_used" (.int (share encoded details.length (i + 1)))

/-- The details that are returned. -/
def measuredDetails (encoded : ℤ) (details : List Dict) : List Dict :=
  if payload.get "underlying_operations" = .none ∧ details ≠ [] ∧ 0 ≤ encoded then
    shareBytes encoded details
  else details

/-- The count of one detail, `-1` where it has no reading. -/
def detailBytes (detail : Dict) : Except PyError ℤ := do
  let count ← caught (bytesOrZero R detail)
  return count.getD (-1)

def kindOf (detail : Dict) : String := (detail.get "operation_kind").textOrEmpty R

/-- The count, the details and the plan disagree. -/
def planMismatch (count : Option ℤ) (raw : Option (List Dict)) : Bool :=
  let reported := count.getD (-1)
  let expected := operation.expectedTransportOperations
  let details := raw.getD []
  let actual := details.length
  count.isNone || raw.isNone || reported < 0 || reported ≠ actual || expected < actual ||
    (!(payload.get "declared_operation_ceiling").truthy && actual ≠ expected) ||
    details.any (undescribed R) ||
    details.map (kindOf R) ≠ operation.expectedOperationKinds.take actual

/-- The bytes have no reading, are negative or do not add up. -/
def byteMismatch (size : Option ℤ) (encoded : ℤ) (counts : List ℤ) : Bool :=
  size.isNone || encoded < 0 || counts.any (· < 0) || counts.sum ≠ encoded

/-- What is returned, from what was read. -/
def report (count : Option ℤ) (raw : Option (List Dict)) (size : Option ℤ) (encoded : ℤ)
    (counts : List ℤ) : Accounting where
  reportedCount := count.getD (-1)
  actualCount := (raw.getD []).length
  encodedSize := max encoded 0
  details := measuredDetails payload encoded (raw.getD [])
  detailsSynthesized := payload.get "underlying_operations" = .none
  declaredCeiling := (payload.get "declared_operation_ceiling").truthy
  expectedKinds := operation.expectedOperationKinds
  actualKinds := (raw.getD []).map (kindOf R)
  failure :=
    if planMismatch R operation payload count raw then some accountingMismatch
    else if byteMismatch size encoded counts then some byteAccountingMismatch
    else none

/-- `_measure_operation_accounting` -/
def measureOperationAccounting (sourceComplete : Bool) : Except PyError Accounting := do
  let count ← caught ((countValue operation payload).toInt R)
  let raw := rawDetails operation.expectedOperationKinds sourceComplete (count.getD (-1))
    (payload.get "underlying_operations")
  let size ← caught (payloadSize R payload (raw.getD []))
  let encoded ← encodedSize R (raw.getD []) size
  let counts ← (measuredDetails payload encoded (raw.getD [])).mapM (detailBytes R)
  return report R operation payload count raw size encoded counts

end Measure

inductive WorkState
  | pending
  | running
  | succeeded
  | failed
  | cancelled
  deriving DecidableEq, Repr

structure WorkRow where
  integrationId : String
  executionId : String
  workOrdinal : ℕ
  sourceName : String
  requestKind : String
  requiredSource : Bool
  roundMode : String
  workState : WorkState
  schedulerJobId : ℕ
  sourceRequestId : ℕ
  sourceResponseId : Option ℕ
  sourceFailureId : Option ℕ
  governedRequestsUsed : ℤ
  transportOperationsUsed : ℤ
  bytesUsed : ℤ
  rowsUsed : ℤ
  durationMilliseconds : ℤ
  cursorRangeJson : Option String
  firstTerminalCause : Option String
  terminalAt : Option String
  createdAt : String
  updatedAt : String
  deriving DecidableEq, Repr

/-- `work_id` -/
def WorkRow.workId (row : WorkRow) : String × ℕ := (row.integrationId, row.workOrdinal)

structure TransportRow where
  workId : String × ℕ
  operationOrdinal : ℕ
  sourceName : String
  requestKind : String
  operationKind : String
  operationState : String
  redactedEndpointRole : String
  bytesUsed : ℤ
  createdAt : String
  deriving DecidableEq, Repr

/-- `operation_id` -/
def TransportRow.operationId (row : TransportRow) : (String × ℕ) × ℕ :=
  (row.workId, row.operationOrdinal)

/-- The two tables and the keys that their other foreign keys refer to. -/
structure Ledger where
  work : Table WorkRow.workId
  transport : Table TransportRow.operationId
  integrations : List String
  jobs : List ℕ
  requests : List ℕ
  responses : List ℕ
  failures : List ℕ
  owned : ∀ t ∈ transport.rows, ∃ w ∈ work.rows, w.workId = t.workId

inductive StoreError
  | python (e : PyError)
  | overflow
  | integrity
  | accountingMismatch
  deriving DecidableEq, Repr

/-- A count that its column takes. -/
def countable (n : ℤ) : Bool := 0 ≤ n && Sqlite.storable n

/-- The checks, unique columns and foreign keys of a work row, but those of its counts. -/
def WorkRow.wellFormed (row : WorkRow) (jsonValid : String → Bool) (L : Ledger) : Bool :=
  1 ≤ row.workOrdinal && row.roundMode ∈ ["FROZEN_OFFLINE", "LIVE_TAIL", "BACKFILL"] &&
    row.cursorRangeJson.all jsonValid &&
    (L.work.rows.all fun old => old.workId ≠ row.workId &&
      old.schedulerJobId ≠ row.schedulerJobId && old.sourceRequestId ≠ row.sourceRequestId) &&
    (row.sourceResponseId.isNone || row.sourceFailureId.isNone) &&
    (if row.workState ∈ [.pending, .running] then
      row.firstTerminalCause.isNone && row.terminalAt.isNone
    else row.firstTerminalCause.isSome && row.terminalAt.isSome) &&
    row.integrationId ∈ L.integrations && row.schedulerJobId ∈ L.jobs &&
    row.sourceRequestId ∈ L.requests && (row.sourceResponseId.all (· ∈ L.responses)) &&
    (row.sourceFailureId.all (· ∈ L.failures))

def WorkRow.counts (row : WorkRow) : List ℤ :=
  [row.governedRequestsUsed, row.transportOperationsUsed, row.bytesUsed, row.rowsUsed,
    row.durationMilliseconds]

theorem WorkRow.fresh_of_wellFormed {row : WorkRow} {jsonValid : String → Bool} {L : Ledger}
    (h : row.wellFormed jsonValid L = true) : ∀ old ∈ L.work.rows, old.workId ≠ row.workId := by
  intro old hold
  simp only [wellFormed, Bool.and_eq_true, List.all_eq_true, decide_eq_true_eq] at h
  exact (h.1.1.1.1.1.1.1.2 old hold).1.1

/-- The insertion of a work row. -/
def insertWork (jsonValid : String → Bool) (L : Ledger) (row : WorkRow) :
    Except StoreError Ledger :=
  if row.counts.any fun n => !Sqlite.storable n then .error .overflow
  else if row.counts.any (· < 0) then .error .integrity
  else if h : row.wellFormed jsonValid L = true then
    .ok { L with
      work := L.work.insert row (WorkRow.fresh_of_wellFormed h)
      owned := by
        intro t ht
        obtain ⟨w, hw, hid⟩ := L.owned t ht
        exact ⟨w, Table.mem_insert.mpr (.inl hw), hid⟩ }
  else .error .integrity

/-- The insertion of a transport operation. -/
def insertTransport (L : Ledger) (row : TransportRow) : Except StoreError Ledger :=
  if Sqlite.storable row.bytesUsed = false then .error .overflow
  else if row.bytesUsed < 0 ∨ row.operationOrdinal < 1 ∨
      row.operationState ∉ ["COMPLETE", "FAILED"] then .error .integrity
  else if h : (∀ old ∈ L.transport.rows, old.operationId ≠ row.operationId) ∧
      ∃ w ∈ L.work.rows, w.workId = row.workId then
    .ok { L with
      transport := L.transport.insert row h.1
      owned := by
        intro t ht
        rcases Table.mem_insert.mp ht with ht | rfl
        · exact L.owned t ht
        · exact h.2 }
  else .error .integrity

/-- The records that a governed execution leaves. -/
structure SourceExecution where
  requestId : ℕ
  responseId : Option ℕ
  failureId : Option ℕ

/-- The language and the storage engine, as far as they are not fixed here. -/
structure Engine where
  rendering : Value.Rendering
  canonical : Dict → String
  jsonValid : String → Bool

/-- The arguments of `_persist_work`. -/
structure PersistCall where
  integrationId : String
  executionId : String
  ordinal : ℕ
  operation : AcquisitionSourceOperation
  jobId : ℕ
  sourceExecution : SourceExecution
  state : WorkState
  transportOperations : ℕ
  bytesUsed : ℤ
  rowsUsed : ℤ
  durationMilliseconds : ℤ
  cause : String
  now : String
  underlyingOperations : List Dict

namespace PersistCall

variable (E : Engine) (c : PersistCall)

def workRow : WorkRow where
  integrationId := c.integrationId
  executionId := c.executionId
  workOrdinal := c.ordinal
  sourceName := c.operation.sourceName
  requestKind := c.operation.requestKind
  requiredSource := c.operation.required
  roundMode := c.operation.roundMode
  workState := c.state
  schedulerJobId := c.jobId
  sourceRequestId := c.sourceExecution.requestId
  sourceResponseId := c.sourceExecution.responseId
  sourceFailureId := c.sourceExecution.failureId
  governedRequestsUsed := 1
  transportOperationsUsed := c.transportOperations
  bytesUsed := c.bytesUsed
  rowsUsed := c.rowsUsed
  durationMilliseconds := c.durationMilliseconds
  cursorRangeJson := c.operation.cursorRange.map E.canonical
  firstTerminalCause := some c.cause
  terminalAt := some c.now
  createdAt := c.now
  updatedAt := c.now

/-- `detail.get(key) or default`, as a text. -/
def detailText (detail : Dict) (key default : String) : String :=
  if (detail.get key).truthy then (detail.get key).text E.rendering else default

def detailState (detail : Dict) : String :=
  detailText E detail "operation_state" (if c.state = .succeeded then "COMPLETE" else "FAILED")

/-- The bytes stored for a detail; here a key that is there is read without `or 0`. -/
def storedBytes (detail : Dict) (ordinal : ℕ) : Except PyError ℤ :=
  if detail.has "bytes_used" then (detail.get "bytes_used").toInt E.rendering
  else .ok (share c.bytesUsed c.transportOperations ordinal)

def transportRow (detail : Dict) (ordinal : ℕ) (bytes : ℤ) : TransportRow where
  workId := (c.integrationId, c.ordinal)
  operationOrdinal := ordinal
  sourceName := c.operation.sourceName
  requestKind := c.operation.requestKind
  operationKind :=
    detailText E detail "operation_kind" ("UNDERLYING_OPERATION_" ++ toString ordinal)
  operationState := detailState E c detail
  redactedEndpointRole := detailText E detail "redacted_endpoint_role" "APPROVED_PRIMARY"
  bytesUsed := bytes
  createdAt := c.now

/-- The detail of an ordinal, where there are details. -/
def detailAt (ordinal : ℕ) : Dict := (c.underlyingOperations[ordinal - 1]?).getD []

/-- One turn of the loop. -/
def persistOperation (L : Ledger) (ordinal : ℕ) : Except StoreError Ledger := do
  let bytes ← (storedBytes E c (c.detailAt ordinal) ordinal).mapError .python
  insertTransport L (transportRow E c (c.detailAt ordinal) ordinal bytes)

/-- `_persist_work`: one transaction, so an error leaves the ledger as it was. -/
def persistWork (L : Ledger) : Except StoreError Ledger := do
  let L ← insertWork E.jsonValid L (c.workRow E)
  if c.underlyingOperations ≠ [] ∧ c.underlyingOperations.length ≠ c.transportOperations then
    throw .accountingMismatch
  (List.range' 1 c.transportOperations).foldlM (persistOperation E c) L

end PersistCall
end PrinterV1.OperatorCli.OperationAccounting
