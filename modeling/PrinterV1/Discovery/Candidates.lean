import PrinterV1.Discovery.Lineage

/-!
# Candidates

`_build_candidates`: the normalized observations grouped by mint, the identity
merged from each group, its way through the eleven stages, and the certificate
of the result.
-/

namespace PrinterV1.Discovery

open Python

inductive StageName
  | chainMintValid | tokenProgramValid | identityAvailable | poolQuoteValid | marketFresh
  | ageValid | holderAcceptable | safetyAcceptable | liquidityTradeabilityValid
  | routeTradeabilityValid | lineageValid
  deriving DecidableEq, Repr

def StageName.value : StageName → String
  | .chainMintValid => "CHAIN_MINT_VALID"
  | .tokenProgramValid => "TOKEN_PROGRAM_VALID"
  | .identityAvailable => "IDENTITY_AVAILABLE"
  | .poolQuoteValid => "POOL_QUOTE_VALID"
  | .marketFresh => "MARKET_FRESH"
  | .ageValid => "AGE_VALID"
  | .holderAcceptable => "HOLDER_ACCEPTABLE"
  | .safetyAcceptable => "SAFETY_ACCEPTABLE"
  | .liquidityTradeabilityValid => "LIQUIDITY_TRADEABILITY_VALID"
  | .routeTradeabilityValid => "ROUTE_TRADEABILITY_VALID"
  | .lineageValid => "LINEAGE_VALID"

/-- The key a stage reads in the facts. -/
def StageName.factKey : StageName → String
  | .chainMintValid => "mint_status"
  | .tokenProgramValid => "token_program_status"
  | .identityAvailable => "tracking_status"
  | .poolQuoteValid => "pool_status"
  | .marketFresh => "market_status"
  | .ageValid => "age_status"
  | .holderAcceptable => "holder_status"
  | .safetyAcceptable => "safety_status"
  | .liquidityTradeabilityValid => "liquidity_status"
  | .routeTradeabilityValid => "tradeability_status"
  | .lineageValid => "lineage_status"

/-- `STAGES` -/
def stageNames : List StageName :=
  [.chainMintValid, .tokenProgramValid, .identityAvailable, .poolQuoteValid, .marketFresh,
    .ageValid, .holderAcceptable, .safetyAcceptable, .liquidityTradeabilityValid,
    .routeTradeabilityValid, .lineageValid]

def supportedTokenPrograms : List String :=
  ["TokenkegQfeZyiNwAJbNbGKPFXCWuBvf9Ss623VQ5DA", "TokenzQdBNbLqP5VEhdkAS6EPFLC1PHnBqCXEpPxuEb"]

def allowedQuoteMints : List String :=
  ["So11111111111111111111111111111111111111112", "EPjFWdd5AufqSSqeM2qN1xzybapC8G4wEGGkZwyTDt1v"]

inductive IdentityStatus
  | merged | incomplete | conflict
  deriving DecidableEq, Repr

def IdentityStatus.value : IdentityStatus → String
  | .merged => "IDENTITY_MERGED"
  | .incomplete => "IDENTITY_INCOMPLETE"
  | .conflict => "IDENTITY_CONFLICT"

/-- The observations that carry a mint. -/
def groupOf (items : List Item) (mint : String) : List Item :=
  items.filter fun item => item.mint = some mint

/-- The mints that claim a pool. -/
def poolMints (items : List Item) (pool : String) : List String :=
  (items.filterMap fun item => if item.pool = some pool then item.mint else none).dedup

/-- The pools of a group, and the identity fields of its observations with a
pool: the others cannot create or conflict a pool's role. -/
def pools (group : List Item) : List String := sortedSet (group.filterMap fun item => item.pool)

def poolIdentityObservations (group : List Item) : List Item :=
  group.filter fun item => item.pool.isSome

def programs (group : List Item) : List String :=
  sortedSet ((poolIdentityObservations group).filterMap fun item => item.poolProgramId)

def bases (group : List Item) : List String :=
  sortedSet ((poolIdentityObservations group).filterMap fun item => item.baseMint)

def quotes (group : List Item) : List String :=
  sortedSet ((poolIdentityObservations group).filterMap fun item => item.quoteMint)

def tokenPrograms (group : List Item) : List String :=
  sortedSet (group.filterMap fun item => item.tokenProgramId)

/-- The observations of the mint contradict each other, or another mint claims
one of its pools. -/
def identityConflict (items group : List Item) : Bool :=
  (pools group).length > 1 || (programs group).length > 1 || (bases group).length > 1 ||
    (quotes group).length > 1 || (tokenPrograms group).length > 1 ||
    (pools group).any fun pool => (poolMints items pool).length > 1

/-- The identity merged from the observations of a mint. -/
structure Identity where
  mint : String
  pool : Option String
  poolProgramId : Option String
  baseMint : Option String
  quoteMint : Option String
  tokenProgramId : Option String
  lineageState : LineageState
  identityStatus : IdentityStatus
  deriving DecidableEq, Repr

def Identity.tokenProgramSupported (i : Identity) : Bool :=
  i.tokenProgramId.any fun program => program ∈ supportedTokenPrograms

/-- The pool, the base mint and a supported token program are known. -/
def identityAvailable (pool baseMint tokenProgram : Option String) : Bool :=
  pool.isSome && baseMint.isSome && tokenProgram.any fun program => program ∈ supportedTokenPrograms

def Identity.poolQuoteComplete (i : Identity) : Bool :=
  identityAvailable i.pool i.baseMint i.tokenProgramId && i.poolProgramId.isSome &&
    i.baseMint = some i.mint && i.quoteMint.any fun quote => quote ∈ allowedQuoteMints

def mergeIdentity (L : Library) (items : List Item) (mint : String) : Identity :=
  let group := groupOf items mint
  let conflict := identityConflict items group
  let pool := if conflict then none else (pools group).head?
  let baseMint := (bases group).head?
  let tokenProgramId := (tokenPrograms group).head?
  { mint, pool, poolProgramId := (programs group).head?, baseMint
    quoteMint := (quotes group).head?, tokenProgramId, lineageState := lineageState L group
    identityStatus :=
      if conflict then .conflict
      else if identityAvailable pool baseMint tokenProgramId then .merged
      else .incomplete }

/-- `identity_payload` -/
def Identity.payload (plan : Plan) (i : Identity) : Value :=
  .dict
    [("base_mint", optionalText i.baseMint), ("execution_id", .str plan.executionId),
      ("identity_status", .str i.identityStatus.value),
      ("lineage_state", .str i.lineageState.value), ("mint", .str i.mint),
      ("pool", optionalText i.pool), ("pool_program_id", optionalText i.poolProgramId),
      ("quote_mint", optionalText i.quoteMint),
      ("token_program_id", optionalText i.tokenProgramId)]

structure Stage where
  stageOrdinal : ℕ
  stageName : StageName
  stageOutcome : StageOutcome
  reasonCode : String
  deriving DecidableEq, Repr

def Stage.payload (s : Stage) : Dict :=
  [("reason_code", .str s.reasonCode), ("stage_name", .str s.stageName.value),
    ("stage_ordinal", .int s.stageOrdinal), ("stage_outcome", .str s.stageOutcome.value)]

/-- The pool gate: its categorical status, then the exact pool and quote. -/
def poolQuoteVerdict (L : Library) (i : Identity) (facts : List Dict) : Verdict :=
  let verdict := poolCategoricalStatus L facts i.pool
  if verdict.1 = .pass ∧ i.baseMint ≠ some i.mint then (.fail, "BASE_QUOTE_ORIENTATION_MISMATCH")
  else if verdict.1 = .pass ∧ i.poolQuoteComplete = false then
    (.fail, "EXACT_POOL_QUOTE_IDENTITY_REQUIRED")
  else verdict

/-- What a stage answers when every stage before it has passed. -/
def stageVerdict (L : Library) (i : Identity) (facts : List Dict) (stale : Bool) :
    StageName → Verdict
  | .identityAvailable =>
    if i.identityStatus ≠ .merged then (.fail, i.identityStatus.value)
    else categoricalStatus L facts StageName.identityAvailable.factKey
  | .tokenProgramValid =>
    if i.tokenProgramSupported = false then (.fail, "UNSUPPORTED_TOKEN_PROGRAM")
    else categoricalStatus L facts StageName.tokenProgramValid.factKey
  | .poolQuoteValid => poolQuoteVerdict L i facts
  | .marketFresh =>
    if stale then (.fail, "STALE_OR_EXPIRED_EVIDENCE")
    else categoricalStatus L facts StageName.marketFresh.factKey
  | .lineageValid => lineageGate L i.lineageState facts
  | .chainMintValid => mintCategoricalStatus L facts i.mint
  | stage => categoricalStatus L facts stage.factKey

/-- The stages from one on; none is reached behind a failure. -/
def evaluateStages (verdict : StageName → Verdict) :
    ℕ → Option String → List StageName → List Stage
  | _, _, [] => []
  | ordinal, some reason, stage :: rest =>
    ⟨ordinal, stage, .notReached, "PRIOR_STAGE_FAILED"⟩ ::
      evaluateStages verdict (ordinal + 1) (some reason) rest
  | ordinal, none, stage :: rest =>
    ⟨ordinal, stage, (verdict stage).1, (verdict stage).2⟩ ::
      evaluateStages verdict (ordinal + 1)
        (if (verdict stage).1 = .fail then some (verdict stage).2 else none) rest

/-- The reason of the stage that failed. -/
def firstFailure (stages : List Stage) : Option String :=
  (stages.find? fun stage => stage.stageOutcome = .fail).map fun stage => stage.reasonCode

def forbiddenCertificateKeys : List String :=
  ["buy", "sell", "hold", "position", "trade_action", "paper_decision", "pnl", "profit", "score",
    "rank", "confidence", "weight", "expected_return"]

mutual
/-- `_assert_no_forbidden_fields`: the first forbidden key, in lower case. -/
def forbiddenField : Value → Option String
  | .dict entries => forbiddenEntries entries
  | .list xs => forbiddenItems xs
  | _ => none
  termination_by structural x => x

def forbiddenEntries : List (String × Value) → Option String
  | [] => none
  | (key, x) :: rest =>
    if lower key ∈ forbiddenCertificateKeys then some (lower key)
    else
      match forbiddenField x with
      | some key => some key
      | none => forbiddenEntries rest

def forbiddenItems : List Value → Option String
  | [] => none
  | x :: rest =>
    match forbiddenField x with
    | some key => some key
    | none => forbiddenItems rest
end

/-- A candidate with its observations, its stages and its certificate. -/
structure Candidate extends Identity where
  candidateId : String
  identityHash : String
  observations : List Item
  stages : List Stage
  admitted : Bool
  admissionReason : String
  issuedAt : String
  expiresAt : String
  certificateId : String
  certificateHash : String
  certificateJson : Value
  deriving DecidableEq, Repr

/-- The least of some texts. -/
def minText : List String → String
  | [] => ""
  | text :: rest => rest.foldl min text

/-- `source_provenance`: what the observations came from, sorted, each once. -/
def sourceProvenance (group : List Item) : List Value :=
  (sortBy (fun entry : String × String × String =>
      (toLex (entry.1, toLex (entry.2.1, entry.2.2)) : String ×ₗ String ×ₗ String))
    ((group.map fun item => (item.sourceName, item.requestKind, item.contentHash)).dedup)).map
      fun entry => .list [.str entry.1, .str entry.2.1, .str entry.2.2]

/-- `certificate_payload`, before its hash is added. -/
def certificatePayload (plan : Plan) (i : Identity) (group : List Item) (stages : List Stage)
    (admissionReason expiresAt : String) : Dict :=
  [("admission_outcome", .str (if firstFailure stages = none then "ADMITTED" else "REJECTED")),
    ("admission_reason", .str admissionReason), ("certificate_version", .str certificateVersion),
    ("execution_id", .str plan.executionId), ("expires_at", .str expiresAt),
    ("git_provenance", .str plan.gitProvenance), ("identity", i.payload plan),
    ("invalidation_categories", .list [.str "EVIDENCE_EXPIRED", .str "IDENTITY_CHANGED",
      .str "TRACKING_STATE_CHANGED", .str "CONTRACT_PIN_CHANGED"]),
    ("issued_at", .str plan.cutoffAt), ("lineage_state", .str i.lineageState.value),
    ("market_and_freshness_facts", .list (group.map fun item => .dict item.facts)),
    ("no_financial_or_action_fields", .bool true), ("policy_hash", .str plan.policyHash),
    ("schema_version", .str schemaVersion),
    ("source_observation_ids",
      .list ((sortBy id (group.map fun item => item.observationId)).map .str)),
    ("source_provenance", .list (sourceProvenance group)),
    ("stage_outcomes", .list (stages.map fun stage => .dict stage.payload)),
    ("window", .dict [("cutoff_at", .str plan.cutoffAt), ("end", .str plan.windowEnd),
      ("finalized_cutoff_slot", .int plan.finalizedCutoffSlot), ("start", .str plan.windowStart)])]

/-- The freshness of a group: its least expiry text is read, and no observation
is stale. -/
def isStale (group : List Item) (cutoff : Instant) : Except Fault Bool := do
  let expires ← iso (minText (group.map fun item => item.expiresAt))
  return expires ≤ cutoff || group.any fun item => item.sourceStatus = "STALE"

/-- The candidate of one mint. -/
def buildCandidate (L : Library) (plan : Plan) (items : List Item) (cutoff : Instant)
    (mint : String) : Except Fault Candidate := do
  let group := groupOf items mint
  let identity := mergeIdentity L items mint
  let facts := group.map fun item => item.facts
  let expiresAt := minText (group.map fun item => item.expiresAt)
  let stale ← isStale group cutoff
  let stages := evaluateStages (stageVerdict L identity facts stale) 1 none stageNames
  let admissionReason := (firstFailure stages).getD "ALL_CATEGORICAL_GATES_PASS"
  let payload := certificatePayload plan identity group stages admissionReason expiresAt
  match forbiddenField (.dict payload) with
  | some key => throw (.acquisition "FORBIDDEN_CERTIFICATE_FIELD" key)
  | none =>
    let certificateHash := sha L (.dict payload)
    return { identity with
      candidateId := identifier L "candid" (identity.payload plan)
      identityHash := sha L (identity.payload plan)
      observations := group
      stages := stages
      admitted := firstFailure stages = none
      admissionReason := admissionReason
      issuedAt := plan.cutoffAt
      expiresAt := expiresAt
      certificateId := identifier L "cacert" (.str certificateHash)
      certificateHash := certificateHash
      certificateJson := .dict (payload.set "certificate_hash" (.str certificateHash)) }

/-- The mints of a run, up to the capacity of the plan. -/
def candidateMints (plan : Plan) (items : List Item) : List String :=
  let mints := sortedSet (items.filterMap fun item => item.mint)
  if (mints.length : ℤ) > plan.candidateAcquisitionCapacity then
    mints.take plan.candidateAcquisitionCapacity.toNat
  else mints

def buildCandidates (L : Library) (plan : Plan) (items : List Item) :
    Except Fault (List Candidate) := do
  let cutoff ← iso plan.cutoffAt
  (candidateMints plan items).mapM (buildCandidate L plan items cutoff)

end PrinterV1.Discovery
