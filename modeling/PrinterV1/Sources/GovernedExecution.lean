import PrinterV1.Foundation.Tables
import PrinterV1.Python.IsoRoundTrip
import PrinterV1.Python.Value
import PrinterV1.Sources.Governor

/-!
# Governed source execution

`execute_source_request_with_governor` records a request, runs the adapter where
the governor allows it, and records what came of it. What was consumed is counted
afterwards, from the rows of responses and failures.
-/

namespace PrinterV1.Sources

open Python

structure SourceRequest where
  sourceName : String
  requestKind : String
  requestedAt : String
  requestKey : Option String
  trackingPriority : Option ℤ
  deriving DecidableEq, Repr

structure NormalizedSourceResult where
  sourceName : String
  requestKind : String
  sourceStatus : SourceStatus
  dataQualityLabel : DataQualityLabel
  normalizedPayload : Dict
  statusCode : Option ℤ
  failureType : Option String
  failureMessage : Option String
  retryAfterAt : Option String
  receivedAt : String
  deriving DecidableEq, Repr

structure SourceRequestRow extends SourceRequest where
  id : ℤ
  sourceStatus : SourceStatus
  dataQualityLabel : DataQualityLabel
  deriving DecidableEq, Repr

structure SourceResponseRow where
  sourceRequestId : ℤ
  sourceName : String
  receivedAt : String
  statusCode : Option ℤ
  sourceStatus : SourceStatus
  dataQualityLabel : DataQualityLabel
  normalizedPayload : Dict
  deriving DecidableEq, Repr

structure SourceFailureRow where
  sourceRequestId : Option ℤ
  sourceName : String
  requestKind : String
  failedAt : String
  failureType : String
  failureMessage : Option String
  sourceStatus : SourceStatus
  dataQualityLabel : DataQualityLabel
  retryAfterAt : Option String
  normalizedPayload : Option Dict
  deriving DecidableEq, Repr

/-- The three tables of the source ledger. -/
structure SourceDb where
  requests : Table SourceRequestRow.id
  responses : List SourceResponseRow
  failures : List SourceFailureRow

def SourceDb.empty : SourceDb := ⟨Table.empty, [], []⟩

def SourceDb.nextRequestId (db : SourceDb) : ℤ := nextRowid (db.requests.rows.map (·.id))

/-- `record_source_request` -/
def recordSourceRequest (db : SourceDb) (request : SourceRequest)
    (decision : SourceRequestDecision) : SourceDb :=
  { db with
    requests := db.requests.insert
      { request with
        id := db.nextRequestId
        sourceStatus := decision.sourceStatus
        dataQualityLabel := decision.dataQualityLabel }
      fun old hold => by
        have hlt : old.id < db.nextRequestId := lt_nextRowid (List.mem_map_of_mem hold)
        exact ne_of_lt hlt }

/-- `record_source_response` -/
def recordSourceResponse (db : SourceDb) (requestId : ℤ) (result : NormalizedSourceResult) :
    SourceDb :=
  { db with
    responses := db.responses ++ [{
      sourceRequestId := requestId
      sourceName := result.sourceName
      receivedAt := result.receivedAt
      statusCode := result.statusCode
      sourceStatus := result.sourceStatus
      dataQualityLabel := result.dataQualityLabel
      normalizedPayload := result.normalizedPayload }] }

/-- `record_source_failure` of a recorded request. -/
def recordSourceFailure (db : SourceDb) (row : SourceFailureRow) : SourceDb :=
  { db with failures := db.failures ++ [row] }

/-- What one call of the adapter comes to. A result may hold what JSON or the database
does not take, and then its record raises. -/
inductive AdapterOutcome
  | raises
  | returns (result : NormalizedSourceResult) (recordable : Bool)
  deriving DecidableEq, Repr

/-- The result is recorded as a response. -/
def NormalizedSourceResult.isResponse (result : NormalizedSourceResult) : Bool :=
  result.sourceStatus ∈ [.complete, .partialStatus, .stale] ∧ result.failureType.getD "" = ""

/-- `result.failure_type or "fixture_failure"` -/
def NormalizedSourceResult.failureKind (result : NormalizedSourceResult) : String :=
  if result.failureType.getD "" = "" then "fixture_failure" else result.failureType.getD ""

/-- The failure row of a request that the governor rejected. -/
def rejectionRow (request : SourceRequest) (requestId : ℤ) (decision : SourceRequestDecision)
    (utcNow : String) : SourceFailureRow where
  sourceRequestId := some requestId
  sourceName := request.sourceName
  requestKind := request.requestKind
  failedAt := utcNow
  failureType := decision.reason
  failureMessage := some "Source Governor rejected fixture execution"
  sourceStatus := decision.sourceStatus
  dataQualityLabel := decision.dataQualityLabel
  retryAfterAt := none
  normalizedPayload := none

/-- The failure row of a result that is no response. -/
def failureRow (request : SourceRequest) (requestId : ℤ) (result : NormalizedSourceResult)
    (utcNow : String) : SourceFailureRow where
  sourceRequestId := some requestId
  sourceName := request.sourceName
  requestKind := request.requestKind
  failedAt := if result.receivedAt = "" then utcNow else result.receivedAt
  failureType := result.failureKind
  failureMessage := result.failureMessage
  sourceStatus := result.sourceStatus
  dataQualityLabel := result.dataQualityLabel
  retryAfterAt := result.retryAfterAt
  normalizedPayload := if result.normalizedPayload = [] then none else some result.normalizedPayload

/-- `execute_source_request_with_governor`: the ledger it leaves, and whether the adapter
was executed. The request is committed before that. -/
def executeSourceRequestWithGovernor (db : SourceDb) (request : SourceRequest)
    (recentRequestCount : ℤ) (outcome : AdapterOutcome) (utcNow : String) : SourceDb × Bool :=
  let decision := canRequestSource request.sourceName request.requestKind recentRequestCount
  let requestId := db.nextRequestId
  let recorded := recordSourceRequest db request decision
  if !decision.allowed then
    (recordSourceFailure recorded (rejectionRow request requestId decision utcNow), false)
  else
    match outcome with
    | .raises => (recorded, true)
    | .returns result recordable =>
      if !recordable then (recorded, true)
      else if result.isResponse then (recordSourceResponse recorded requestId result, true)
      else (recordSourceFailure recorded (failureRow request requestId result utcNow), true)

/-- `DEFAULT_WINDOW_SECONDS` -/
def defaultWindowSeconds : ℤ := 60

/-- `_PRE_ADAPTER_FAILURE_TYPES` -/
def preAdapterFailureTypes : List String :=
  ["governor_rejection", "governor_rejected", "rate_limit_exceeded", "paid_dependency_rejected",
    "unknown_source", "request_kind_not_allowed", "not_solana_token_level_source",
    "jupiter_quote_paper_only", "test_fixture"]

/-- A failure that consumed an attempt. -/
def countsFailure (failureType : String) : Bool := failureType.toLower ∉ preAdapterFailureTypes

/-- `_count_response_attempts` -/
def countResponseAttempts (db : SourceDb) (sourceName cutoff : String) : ℕ :=
  db.requests.countWhere fun r => r.sourceName = sourceName ∧ cutoff ≤ r.requestedAt ∧
    ∃ resp ∈ db.responses, resp.sourceRequestId = r.id

/-- `_count_failure_attempts` -/
def countFailureAttempts (db : SourceDb) (sourceName cutoff : String) : ℕ :=
  db.requests.countWhere fun r => r.sourceName = sourceName ∧ cutoff ≤ r.requestedAt ∧
    ∃ f ∈ db.failures, f.sourceRequestId = some r.id ∧ countsFailure f.failureType

/-- `count_recent_source_requests`, for a cutoff that a datetime can hold. -/
def countRecentSourceRequests (db : SourceDb) (sourceName : String) (windowSeconds : ℤ)
    (now : Instant) : ℕ :=
  let cutoff := isoformat (now - seconds windowSeconds)
  countResponseAttempts db sourceName cutoff + countFailureAttempts db sourceName cutoff

end PrinterV1.Sources
