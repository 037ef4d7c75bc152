import Mathlib.Algebra.Ring.Int.Defs
import Mathlib.Data.Prod.Lex
import PrinterV1.Discovery.AcquisitionPlan
import PrinterV1.Sources.Governor

/-!
# Normalized observations

`_normalize_observations`: every raw observation is checked against the plan,
the source governor and the other observations of its round, its fields are
read, and the list is sorted. The rounds are then charged to the budgets of the
plan.
-/

namespace PrinterV1.Discovery

open Python Sources

/-- What an observation says of its round; the observations of one round must
agree on it. -/
structure RoundIdentity where
  ordinal : ℤ
  source : String
  requestKind : String
  roundMode : String
  sourceStatus : String
  failureReason : Value
  governedRequests : ℤ
  transportOperations : ℤ
  bytesUsed : ℤ
  rowsUsed : ℤ
  durationMilliseconds : ℤ
  deriving DecidableEq, Repr

/-- The tuples of the two rounds are equal. -/
def RoundIdentity.agrees (a b : RoundIdentity) : Bool :=
  a.source = b.source && a.requestKind = b.requestKind && a.roundMode = b.roundMode &&
    a.sourceStatus = b.sourceStatus && Value.pyEq a.failureReason b.failureReason &&
    a.governedRequests = b.governedRequests && a.transportOperations = b.transportOperations &&
    a.bytesUsed = b.bytesUsed && a.rowsUsed = b.rowsUsed &&
    a.durationMilliseconds = b.durationMilliseconds

/-- A normalized observation before it is hashed. The optional texts are never
empty. -/
structure Content where
  roundOrdinal : ℤ
  roundMode : String
  sourceName : String
  requestKind : String
  sourceStatus : String
  failureReason : Value
  observedAt : String
  expiresAt : String
  mint : Option String
  pool : Option String
  poolProgramId : Option String
  baseMint : Option String
  quoteMint : Option String
  tokenProgramId : Option String
  venueLabel : Option String
  lineageClaim : Option String
  facts : Dict
  governedRequestsUsed : ℤ
  transportOperationsUsed : ℤ
  bytesUsed : ℤ
  rowsUsed : ℤ
  durationMilliseconds : ℤ
  cursorRange : Option Dict
  deriving DecidableEq, Repr

def optionalText : Option String → Value
  | none => .none
  | some text => .str text

def optionalDict : Option Dict → Value
  | none => .none
  | some entries => .dict entries

theorem optionalText_inj {a b : Option String} : optionalText a = optionalText b ↔ a = b := by
  cases a <;> cases b <;> simp [optionalText]

theorem optionalDict_inj {a b : Option Dict} : optionalDict a = optionalDict b ↔ a = b := by
  cases a <;> cases b <;> simp [optionalDict]

/-- `content_payload` -/
def Content.payload (c : Content) : Value :=
  .dict
    [("base_mint", optionalText c.baseMint), ("bytes_used", .int c.bytesUsed),
      ("cursor_range", optionalDict c.cursorRange),
      ("duration_milliseconds", .int c.durationMilliseconds), ("expires_at", .str c.expiresAt),
      ("facts", .dict c.facts), ("failure_reason", c.failureReason),
      ("governed_requests_used", .int c.governedRequestsUsed),
      ("lineage_claim", optionalText c.lineageClaim), ("mint", optionalText c.mint),
      ("observed_at", .str c.observedAt), ("pool", optionalText c.pool),
      ("pool_program_id", optionalText c.poolProgramId), ("quote_mint", optionalText c.quoteMint),
      ("request_kind", .str c.requestKind), ("round_mode", .str c.roundMode),
      ("round_ordinal", .int c.roundOrdinal), ("rows_used", .int c.rowsUsed),
      ("scheduler_job_kind", .str schedulerJobKind), ("source_name", .str c.sourceName),
      ("source_status", .str c.sourceStatus), ("token_program_id", optionalText c.tokenProgramId),
      ("transport_operations_used", .int c.transportOperationsUsed),
      ("venue_label", optionalText c.venueLabel)]

/-- A normalized observation. -/
structure Item extends Content where
  contentHash : String
  observationId : String
  deriving DecidableEq, Repr

/-- The observation with its two hashes. -/
def Content.seal (L : Library) (executionId : String) (c : Content) : Item :=
  { c with
    contentHash := sha L c.payload
    observationId := identifier L "caobs" (.list [.str executionId, c.payload]) }

/-- The whole item, as it enters the hash of the input. -/
def Item.payload (i : Item) : Value :=
  match i.toContent.payload with
  | .dict entries =>
    .dict (((Dict.set entries "content_hash" (.str i.contentHash)).set "observation_id"
      (.str i.observationId)).set "source_governor_allowed" (.bool true))
  | v => v

/-- The order of `normalized.sort`. -/
def Item.sortKey (i : Item) : ℤ ×ₗ String ×ₗ String :=
  toLex (i.roundOrdinal, toLex (i.sourceName, i.contentHash))

def roundModes : List String := ["FROZEN_OFFLINE", "LIVE_TAIL", "BACKFILL"]

def sourceStatuses : List String :=
  ["COMPLETE", "STALE", "PROVIDER_FAILURE", "BUDGET_EXHAUSTED", "COVERAGE_INCOMPLETE",
    "UNSUPPORTED_CONTRACT", "MALFORMED"]

def continuityStates : List String := ["CONTIGUOUS", "GAPPED", "UNKNOWN", "BLOCKED_CONTRACT"]

def requiredCursor : List String :=
  ["indexed_address", "contract_pin", "decoder_version", "direction", "continuity_state",
    "cursor_advanced"]

variable (L : Library)

/-- `str(raw.get(key) or default)` -/
def textOr (raw : Dict) (key default : String) : String :=
  if (raw.get key).truthy then (raw.get key).text L.rendering else default

/-- `str(raw.get(key) or "").strip() or None` -/
def strippedText (raw : Dict) (key : String) : Option String :=
  let text := strip (textOr L raw key "")
  if text = "" then none else some text

/-- `int(raw.get(key) or default)` -/
def intOr (raw : Dict) (key : String) (default : ℤ) : Except Fault ℤ :=
  if (raw.get key).truthy then
    match (raw.get key).toInt L.rendering with
    | .ok n => .ok n
    | .error e => .error (.python e)
  else .ok default

/-- The checks of an observation up to its round. -/
def readRound (plan : Plan) (raw : Dict) : Except Fault RoundIdentity := do
  let source := textOr L raw "source_name" ""
  let requestKind := textOr L raw "request_kind" ""
  if source ∉ plan.allowedSources then throw (.acquisition "SOURCE_NOT_IN_FROZEN_PLAN" source)
  let decision := canRequestSource source requestKind 0
  if decision.allowed = false then
    throw (.acquisition "SOURCE_GOVERNOR_REJECTED"
      (source ++ ":" ++ requestKind ++ ":" ++ decision.reason))
  let ordinal ←
    match raw.get "round_ordinal" with
    | .int n => if 1 ≤ n then pure n else throw (.acquisition "INVALID_ROUND_ORDINAL" "")
    | _ => throw (.acquisition "INVALID_ROUND_ORDINAL" "")
  let roundMode := textOr L raw "round_mode" "FROZEN_OFFLINE"
  let sourceStatus := textOr L raw "source_status" "COMPLETE"
  if roundMode ∉ roundModes then throw (.acquisition "UNSUPPORTED_ROUND_MODE" roundMode)
  if sourceStatus ∉ sourceStatuses then
    throw (.acquisition "UNSUPPORTED_SOURCE_STATUS" sourceStatus)
  let governedRequests ← intOr L raw "governed_requests_used" 1
  let transportOperations ← intOr L raw "transport_operations_used" 1
  let bytesUsed ← intOr L raw "bytes_used" 0
  let rowsUsed ← intOr L raw "rows_used" 1
  let durationMilliseconds ← intOr L raw "duration_milliseconds" 0
  return {
    ordinal, source, requestKind, roundMode, sourceStatus
    failureReason := raw.get "failure_reason"
    governedRequests, transportOperations, bytesUsed, rowsUsed, durationMilliseconds }

/-- `raw.get("facts") or {}`, where it is a mapping. -/
def readFacts (raw : Dict) : Except Fault Dict :=
  if (raw.get "facts").truthy then
    match raw.get "facts" with
    | .dict facts => .ok facts
    | _ => .error (.acquisition "MALFORMED_OBSERVATION_FACTS" "")
  else .ok []

/-- The checks of a cursor range. -/
def checkCursorRange (cursor : Dict) : Except Fault Unit := do
  let continuity := (cursor.get "continuity_state").textOrEmpty L.rendering
  if continuity ∉ continuityStates then
    throw (.acquisition "UNSUPPORTED_CONTINUITY_STATE" continuity)
  if (cursor.get "cursor_advanced").truthy = true ∧ continuity ≠ "CONTIGUOUS" then
    throw (.acquisition "CURSOR_ADVANCED_PAST_UNRESOLVED_EVIDENCE" "")
  if (requiredCursor.all fun key => cursor.has key) = false then
    throw (.acquisition "INCOMPLETE_CURSOR_RANGE" "")
  if (cursor.get "direction").hashable = false then
    throw (.python (.typeError ("unhashable type: '" ++ (cursor.get "direction").typeName ++ "'")))
  if cursor.get "direction" ≠ .str "FORWARD" ∧ cursor.get "direction" ≠ .str "BACKWARD" then
    throw (.acquisition "UNSUPPORTED_CURSOR_DIRECTION" "")

def readCursorRange (raw : Dict) (round : RoundIdentity) : Except Fault (Option Dict) :=
  match raw.get "cursor_range" with
  | .dict cursor => do
    checkCursorRange L cursor
    return some cursor
  | v =>
    if round.roundMode = "LIVE_TAIL" ∨ round.roundMode = "BACKFILL" then
      .error (.acquisition "CURSOR_RANGE_REQUIRED" (toString round.ordinal))
    else if v = .none then .ok none
    else .error (.acquisition "MALFORMED_CURSOR_RANGE" "")

/-- The first operation count below zero. -/
def negativeAccounting (c : Content) : Option String :=
  ([("governed_requests_used", c.governedRequestsUsed),
    ("transport_operations_used", c.transportOperationsUsed), ("bytes_used", c.bytesUsed),
    ("rows_used", c.rowsUsed), ("duration_milliseconds", c.durationMilliseconds)].find?
      fun entry => entry.2 < 0).map Prod.fst

/-- The fields of an observation, once its round is read. -/
def readContent (raw : Dict) (round : RoundIdentity) : Except Fault Content := do
  let observedAt := textOr L raw "observed_at" ""
  let expiresAt := textOr L raw "expires_at" ""
  let observedTime ← iso observedAt
  let expiresTime ← iso expiresAt
  if expiresTime < observedTime then throw (.acquisition "EVIDENCE_EXPIRY_BEFORE_OBSERVATION" "")
  let facts ← readFacts raw
  let cursorRange ← readCursorRange L raw round
  let content : Content :=
    { roundOrdinal := round.ordinal, roundMode := round.roundMode, sourceName := round.source
      requestKind := round.requestKind, sourceStatus := round.sourceStatus
      failureReason := round.failureReason, observedAt, expiresAt
      mint := strippedText L raw "mint", pool := strippedText L raw "pool"
      poolProgramId := strippedText L raw "pool_program_id"
      baseMint := strippedText L raw "base_mint", quoteMint := strippedText L raw "quote_mint"
      tokenProgramId := strippedText L raw "token_program_id"
      venueLabel := strippedText L raw "venue_label"
      lineageClaim := strippedText L raw "lineage_claim", facts
      governedRequestsUsed := round.governedRequests
      transportOperationsUsed := round.transportOperations, bytesUsed := round.bytesUsed
      rowsUsed := round.rowsUsed, durationMilliseconds := round.durationMilliseconds, cursorRange }
  match negativeAccounting content with
  | some key => throw (.acquisition "NEGATIVE_OPERATION_ACCOUNTING" key)
  | none => return content

/-- `seen_rounds[ordinal]`: the last identity read for the round. -/
def lastSeen (seen : List RoundIdentity) (ordinal : ℤ) : Option RoundIdentity :=
  seen.find? fun round => round.ordinal = ordinal

/-- One turn of the loop over the observations; `seen` holds the identities read
before, the last one first. -/
def normalizeOne (plan : Plan) (raw : Dict) (seen : List RoundIdentity) :
    Except Fault (RoundIdentity × Item) := do
  let round ← readRound L plan raw
  if (lastSeen seen round.ordinal).any fun last => !last.agrees round then
    throw (.acquisition "ROUND_ORDINAL_CONFLICT" (toString round.ordinal))
  let content ← readContent L raw round
  return (round, content.seal L plan.executionId)

def normalizeAll (plan : Plan) : List RoundIdentity → List Dict → Except Fault (List Item)
  | _, [] => .ok []
  | seen, raw :: rest => do
    let (round, item) ← normalizeOne L plan raw seen
    let items ← normalizeAll plan (round :: seen) rest
    return item :: items

/-- The round, the source, the kind and the governed requests of the items, one
for each round: the first item's. -/
def roundUsage : List ℤ → List Item → List (String × String × ℤ)
  | _, [] => []
  | charged, item :: rest =>
    if item.roundOrdinal ∈ charged then roundUsage charged rest
    else (item.sourceName, item.requestKind, item.governedRequestsUsed) ::
      roundUsage (item.roundOrdinal :: charged) rest

/-- The governed requests charged to a source and a kind. -/
def usageOf (usage : List (String × String × ℤ)) (source requestKind : String) : ℤ :=
  ((usage.filter fun u => u.1 = source && u.2.1 = requestKind).map fun u => u.2.2).sum

/-- `budgets.get(source).get(request_kind)`, where both are there. -/
def budgetOf (budgets : Dict) (source requestKind : String) : Value :=
  match budgets.get source with
  | .dict sourceBudget => Dict.get sourceBudget requestKind
  | _ => .none

/-- Each source and kind of the usage stays within its budget. -/
def checkBudgets (plan : Plan) (usage : List (String × String × ℤ)) : Except Fault Unit :=
  match plan.sourceBudgets with
  | .dict budgets =>
    (usage.map fun u => (u.1, u.2.1)).forM fun key =>
      match budgetOf budgets key.1 key.2 with
      | .int limit =>
        if limit < 0 then
          throw (.acquisition "SOURCE_BUDGET_NOT_DEFINED" (key.1 ++ ":" ++ key.2))
        else if usageOf usage key.1 key.2 > limit then
          throw (.acquisition "SOURCE_BUDGET_EXHAUSTED" (key.1 ++ ":" ++ key.2 ++ ":" ++
            toString (usageOf usage key.1 key.2) ++ ">" ++ toString limit))
        else return ()
      | _ => throw (.acquisition "SOURCE_BUDGET_NOT_DEFINED" (key.1 ++ ":" ++ key.2))
  | _ => .error (.acquisition "MALFORMED_SOURCE_BUDGETS" "")

/-- `_normalize_observations` -/
def normalizeObservations (plan : Plan) (observations : List Dict) : Except Fault (List Item) := do
  let items ← normalizeAll L plan [] observations
  let normalized := sortBy Item.sortKey items
  checkBudgets plan (roundUsage [] normalized)
  return normalized

end PrinterV1.Discovery
