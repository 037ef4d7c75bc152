import PrinterV1.Python.Base64
import PrinterV1.Python.IsoZulu
import PrinterV1.Sources.MintInstructions
import PrinterV1.Sources.MintState

/-!
# The age of a token

`_fetch_token_age_data` reads the account of a mint, its signatures back to the
oldest, and the transactions of the oldest ones, for the instruction that
initialised the mint. The RPC server is a function of the calls made so far. A run
keeps, beside the payload it returns, the answers that the payload rests on.
-/

namespace PrinterV1.Sources.TokenAge

open Python Faults

structure RpcCall where
  method : String
  params : Value
  deriving DecidableEq, Repr

/-- A call and the response to it. -/
structure Exchange where
  call : RpcCall
  response : Dict
  deriving DecidableEq, Repr

/-- The counters of a run, with the calls that were answered. -/
structure Trace where
  exchanges : List Exchange := []
  pagesFetched : ℕ := 0
  txCalls : ℕ := 0
  blockTimeCalls : ℕ := 0
  deriving DecidableEq, Repr

/-- The server, and what else a run depends on. -/
structure TokenAgeHost where
  rpc : List RpcCall → Dict
  zone : ℤ → ℤ
  rendering : Value.Rendering
  hostRedacted : String

/-- A failure payload. -/
structure Failure where
  failureType : String
  failureMessage : String
  requestedMint : String
  hostRedacted : String
  trace : Trace
  failureStage : String
  deriving DecidableEq, Repr

/-- How a run ends without evidence. -/
inductive Stop
  | raised (e : Raised)
  | failed (f : Failure)
  deriving DecidableEq, Repr

def maxRequestsPerToken : ℕ := 8
def maxSignaturePages : ℕ := 3
def signaturesPerPage : ℕ := 20
def maxInitCandidates : ℕ := 3
def maxTransactionCalls : ℕ := 3
def maxBlockTimeCalls : ℕ := 1

def commitment : Value := .str "finalized"

/-- The answer to a call that the budget refuses. -/
def budgetExhausted (requestCount : ℕ) : Dict :=
  [("failure_message", .str ("T3 budget exhausted after " ++ toString requestCount ++ " calls")),
    ("failure_type", .str "solana_rpc_token_age_budget_exhausted"),
    ("fixture_status", .str "failure")]

/-- `_call` -/
def rpcCall (host : TokenAgeHost) (t : Trace) (method : String) (params : Value) :
    Exchange × Trace :=
  let call : RpcCall := ⟨method, params⟩
  if t.exchanges.length ≥ maxRequestsPerToken then
    (⟨call, budgetExhausted t.exchanges.length⟩, t)
  else
    let exchange : Exchange := ⟨call, host.rpc (t.exchanges.map Exchange.call ++ [call])⟩
    (exchange, { t with exchanges := t.exchanges ++ [exchange] })

section Run

variable (host : TokenAgeHost) (tokenMint : String)

/-- `_pfail` -/
def pfail (t : Trace) (failureType failureMessage stage : String) : Stop :=
  .failed ⟨failureType, failureMessage, tokenMint, host.hostRedacted, t, stage⟩

def lift {α : Type} (x : Except Raised α) : Except Stop α := x.mapError .raised

/-- `str(value or default)` -/
def textOr (v : Value) (default : String) : String :=
  if v.truthy then v.text host.rendering else default

/-- A response of the transport that reports its own failure ends the run. -/
def checkTransport (t : Trace) (response : Dict) (stage : String) : Except Stop Unit :=
  if response.get "fixture_status" = .str "failure" then
    .error (pfail host tokenMint t
      (textOr host (response.get "failure_type") "solana_rpc_token_age_transport_error")
      (textOr host (response.get "failure_message") "") stage)
  else .ok ()

/-- So does an error of the server, where it is looked at. -/
def checkError (t : Trace) (response : Dict) (stage : String) : Except Stop Unit :=
  if (response.get "error").truthy then
    .error (pfail host tokenMint t "solana_rpc_token_age_transport_error"
      ((response.get "error").text host.rendering) stage)
  else .ok ()

def accountParams : Value :=
  .list [.str tokenMint, .dict [("commitment", commitment), ("encoding", .str "base64")]]

/-- What is wrong with the data of the account, by its owner. -/
def mintStateError (owner : String) (raw : Bytes) : Except Raised (Option String) :=
  if owner = splTokenProgramId then
    if raw.length ≠ splTokenMintSize then
      .ok (some ("SPL Token Mint must be exactly " ++ toString splTokenMintSize ++ " bytes"))
    else
      match decodeSplTokenBaseMintState raw with
      | .error text => .error ⟨text⟩
      | .ok (true, _) => .ok none
      | .ok (false, err) =>
        .ok (some ("SPL Token mint-state decode failed: " ++ err.getD "None"))
  else
    match decodeToken2022MintState raw with
    | .error text => .error ⟨text⟩
    | .ok (true, _) => .ok none
    | .ok (false, err) => .ok (some ("Token-2022 mint-state decode failed: " ++ err.getD "None"))

/-- `base64.b64decode(data_field[0])` -/
def decodeDataField : Value → Except String Bytes
  | .str s => b64decodeLoose s
  | v => .error ("argument should be a bytes-like object or ASCII string, not '" ++ v.typeName ++
    "'")

def checkMintData (t : Trace) (owner : String) (data : Value) : Except Stop Unit :=
  let notAMint := fun message =>
    pfail host tokenMint t "solana_rpc_token_age_not_a_mint" message "account_validation"
  match data with
  | .list (field :: _) =>
    match decodeDataField field with
    | .error text => .error (notAMint ("Mint data base64 decode failed: " ++ text))
    | .ok raw => do
      match ← lift (mintStateError owner raw) with
      | some message => .error (notAMint message)
      | none => .ok ()
  | _ => .error (notAMint "Account data missing or not in expected base64 list format")

/-- The owner of the account, one of the token programs. -/
def checkOwner (t : Trace) (owner : Value) : Except Stop String := do
  let allowed ← lift (memTexts owner allowedTokenPrograms)
  match owner with
  | .str s =>
    if allowed then .ok s
    else .error (pfail host tokenMint t "solana_rpc_token_age_not_a_mint"
      ("Account owner " ++ host.rendering.repr owner ++ " is not SPL Token or Token-2022 program")
      "account_validation")
  | _ => .error (pfail host tokenMint t "solana_rpc_token_age_not_a_mint"
      ("Account owner " ++ host.rendering.repr owner ++ " is not SPL Token or Token-2022 program")
      "account_validation")

/-- Step 1: the owner of a mint account in a valid state. -/
def validateAccount : Except Stop (String × Trace) := do
  let (exchange, t) := rpcCall host {} "getAccountInfo" (accountParams tokenMint)
  checkTransport host tokenMint t exchange.response "account_validation"
  checkError host tokenMint t exchange.response "account_validation"
  let result ← lift (mappingOr (exchange.response.get "result"))
  if !(result.get "value").truthy then
    throw (pfail host tokenMint t "solana_rpc_token_age_account_not_found"
      ("Mint account not found on-chain: " ++ tokenMint) "account_validation")
  let account ← lift (mappingOr (result.get "value"))
  let owner ← checkOwner host tokenMint t (account.get "owner")
  checkMintData host tokenMint t owner (account.get "data")
  return (owner, t)

def signatureParams (cursor : Value) : Value :=
  let options : Dict := [("commitment", commitment), ("limit", .int signaturesPerPage)]
  .list [.str tokenMint,
    .dict (if cursor.truthy then options.set "before" cursor else options)]

/-- The pages read so far. -/
structure History where
  trace : Trace
  pages : List Exchange := []
  oldestPage : List Value := []
  reachedEnd : Bool := false

/-- `sig_list[-1]`, of a page with the rows. -/
def lastRow (sigList : Value) (rows : List Value) : Except Raised Value :=
  match sigList with
  | .dict _ => .error ⟨"-1"⟩
  | _ => .ok (rows.getLast?.getD .none)

/-- What a page says: the history goes on behind a cursor, or it is over. -/
def readPage (t : Trace) (response : Dict) (s : History) : Except Stop (History × Value) :=
  let sigList := response.get "result"
  if !sigList.truthy then
    if t.pagesFetched = 1 then
      .error (pfail host tokenMint t "solana_rpc_token_age_no_signatures"
        ("No signature history for mint: " ++ tokenMint) "signature_history")
    else .ok ({ s with reachedEnd := true }, .none)
  else do
    let rows ← lift (iterate sigList)
    if rows.length < signaturesPerPage then
      return ({ s with oldestPage := rows, reachedEnd := true }, .none)
    else do
      let last ← lift (lastRow sigList rows)
      let row ← lift (mappingOr last)
      return ({ s with oldestPage := rows }, orEmpty (row.get "signature"))

/-- Step 2: at most so many pages more, from the cursor on. -/
def walkSignatures : ℕ → Value → History → Except Stop History
  | 0, _, s => .ok s
  | n + 1, cursor, s => do
    let (exchange, t) :=
      rpcCall host s.trace "getSignaturesForAddress" (signatureParams tokenMint cursor)
    checkTransport host tokenMint t exchange.response "signature_history"
    checkError host tokenMint t exchange.response "signature_history"
    let t := { t with pagesFetched := t.pagesFetched + 1 }
    let (s, cursor) ← readPage host tokenMint t exchange.response
      { s with trace := t, pages := s.pages ++ [exchange] }
    if s.reachedEnd ∨ !cursor.truthy then return s else walkSignatures n cursor s

/-- A row of a finalized signature without an error. -/
def isCandidate (row : Value) : Except Raised Bool := do
  let entries ← mappingOr row
  return (entries.get "signature").truthy && !(entries.get "err").truthy &&
    entries.get "confirmationStatus" = commitment

def selectRows : List Value → Except Raised (List Value)
  | [] => .ok []
  | row :: rows => do
    let selected ← isCandidate row
    let rest ← selectRows rows
    return if selected then row :: rest else rest

/-- `raw_candidates` -/
def rawCandidates (oldestPage : List Value) : Except Raised (List Value) :=
  selectRows (oldestPage.reverse.take maxInitCandidates)

structure AcceptedMatch where
  signature : Value
  slot : Value
  blockTime : ℤ
  blockTimeSource : String
  instructionType : String
  programLabel : String
  deriving DecidableEq, Repr

/-- A candidate that was looked at: the answer of its transaction, that of the fallback where it was
asked, and the match that was accepted. -/
structure Inspected where
  row : Value
  transaction : Exchange
  fallback : Option Exchange := none
  accepted : Option AcceptedMatch := none
  deriving DecidableEq, Repr

def transactionParams (sig : Value) : Value :=
  .list [sig, .dict [("commitment", commitment), ("encoding", .str "jsonParsed"),
    ("maxSupportedTransactionVersion", .int 0)]]

/-- `int(value)` of a time that is there, where it is positive. -/
def positiveTime (v : Value) : Except Raised (Option ℤ) :=
  if v = .none then .ok none
  else
    match v.toInt host.rendering with
    | .error e => .error (.ofPy e)
    | .ok n => .ok (if 0 < n then some n else none)

/-- The mapping of a result that is there. -/
def asMapping : Value → Except Raised Dict
  | .dict entries => .ok entries
  | v => .error ⟨"'" ++ v.typeName ++ "' object has no attribute 'get'"⟩

/-- The time of a transaction with a match, from its own block time or from the fallback. -/
def resolveTime (t : Trace) (inspected : Inspected) (tx : Dict) (sig : Value)
    (found : String × String) : Except Stop (Inspected × Trace) := do
  let slot := tx.get "slot"
  match ← lift (positiveTime host (tx.get "blockTime")) with
  | some blockTime =>
    return ({ inspected with
      accepted := some ⟨sig, slot, blockTime, "getTransaction", found.1, found.2⟩ }, t)
  | none =>
    if slot ≠ .none ∧ t.blockTimeCalls < maxBlockTimeCalls then do
      let n ← lift ((slot.toInt host.rendering).mapError .ofPy)
      let (exchange, t) := rpcCall host t "getBlockTime" (.list [.int n])
      let t := { t with blockTimeCalls := t.blockTimeCalls + 1 }
      checkTransport host tokenMint t exchange.response "block_time_fallback"
      let blockTime ← lift (positiveTime host (exchange.response.get "result"))
      return ({ inspected with
        fallback := some exchange
        accepted := blockTime.map fun n => ⟨sig, slot, n, "getBlockTime", found.1, found.2⟩ }, t)
    else return (inspected, t)

/-- The matches of a transaction: none, one with its time, or a failure. -/
def inspectMatches (t : Trace) (inspected : Inspected) (tx : Dict) (sig : Value) :
    Except Stop (Inspected × Trace) := do
  match ← lift (transactionInitMatches host.rendering tx tokenMint) with
  | none => .error (pfail host tokenMint t "solana_rpc_token_age_malformed_transaction"
      "Transaction account keys or instructions could not be resolved safely"
      "transaction_inspection")
  | some [] => .ok (inspected, t)
  | some [found] => resolveTime host tokenMint t inspected tx sig found
  | some _ => .error (pfail host tokenMint t "solana_rpc_token_age_ambiguous_init_instruction"
      "Multiple matching mint-initialization instructions found in one transaction"
      "transaction_inspection")

/-- One candidate. A missing result and a transaction that failed are passed over. -/
def inspectCandidate (t : Trace) (row sig : Value) : Except Stop (Inspected × Trace) := do
  let (exchange, t) := rpcCall host t "getTransaction" (transactionParams sig)
  let t := { t with txCalls := t.txCalls + 1 }
  checkTransport host tokenMint t exchange.response "transaction_inspection"
  let inspected : Inspected := { row := row, transaction := exchange }
  if exchange.response.get "result" = .none then return (inspected, t)
  else do
    let tx ← lift (asMapping (exchange.response.get "result"))
    let metadata ← lift (metaOf tx)
    if metadata.get "err" ≠ .none then return (inspected, t)
    else inspectMatches host tokenMint t inspected tx sig

/-- Step 3: the loop over the candidates. -/
def inspectCandidates : Trace → List Value → Except Stop (List Inspected × Trace)
  | t, [] => .ok ([], t)
  | t, row :: rows =>
    if t.txCalls ≥ maxTransactionCalls then .ok ([], t)
    else do
      let entries ← lift (mappingOr row)
      let sig := orEmpty (entries.get "signature")
      if !sig.truthy then inspectCandidates t rows
      else do
        let (inspected, t) ← inspectCandidate host tokenMint t row sig
        let (rest, t) ← inspectCandidates t rows
        return (inspected :: rest, t)

/-- The payload of a success. -/
structure TokenAgeEvidence where
  tokenMint : String
  capturedAt : String
  tokenCreatedAt : String
  tokenAge : ℤ
  hostRedacted : String
  rpcMethodsAttempted : List String
  requestIds : List ℕ
  pagesFetched : ℕ
  signaturesInspected : ℕ
  acceptedSignature : String
  acceptedSlot : Value
  blockTimeRaw : ℤ
  blockTimeSource : String
  instructionType : String
  tokenProgram : String
  deriving DecidableEq, Repr

/-- Microseconds from `0001-01-01` to `1970-01-01`. -/
def unixEpoch : Instant := seconds 62135596800

/-- `datetime.fromtimestamp(t, tz=timezone.utc)` -/
def fromTimestamp (t : ℤ) : Instant := unixEpoch + seconds t

/-- The instants of the capture and of the creation, inside the calendar. -/
def deriveTimestamps (capturedAt : String) (blockTime : ℤ) : Option (Instant × Instant) := do
  let d ← fromisoformat (replaceZulu capturedAt)
  if 0 ≤ d.instantIn host.zone ∧ d.instantIn host.zone < instantEnd ∧
      0 ≤ fromTimestamp blockTime ∧ fromTimestamp blockTime < instantEnd then
    some (d.instantIn host.zone, fromTimestamp blockTime)
  else none

def evidenceOf (capturedAt : String) (t : Trace) (accepted : AcceptedMatch)
    (captured created : Instant) : TokenAgeEvidence where
  tokenMint := tokenMint
  capturedAt := capturedAt
  tokenCreatedAt := isoformat created
  tokenAge := captured - created
  hostRedacted := host.hostRedacted
  rpcMethodsAttempted := t.exchanges.map fun e => e.call.method
  requestIds := List.range' 1 t.exchanges.length
  pagesFetched := t.pagesFetched
  signaturesInspected := t.txCalls
  acceptedSignature := accepted.signature.text host.rendering
  acceptedSlot := accepted.slot
  blockTimeRaw := accepted.blockTime
  blockTimeSource := accepted.blockTimeSource
  instructionType := accepted.instructionType
  tokenProgram := accepted.programLabel

/-- Step 4: the one accepted match, not after the capture. -/
def deriveEvidence (capturedAt : String) (t : Trace) (matches' : List AcceptedMatch) :
    Except Stop TokenAgeEvidence :=
  match matches' with
  | [] => .error (pfail host tokenMint t "solana_rpc_token_age_no_init_instruction"
      "No successful initializeMint/initializeMint2 with valid block time found"
      "transaction_inspection")
  | [accepted] =>
    match deriveTimestamps host capturedAt accepted.blockTime with
    | none => .error (pfail host tokenMint t "solana_rpc_token_age_malformed_response"
        "Timestamp derivation failed" "timestamp_derivation")
    | some (captured, created) =>
      if created > captured then
        .error (pfail host tokenMint t "solana_rpc_token_age_future_block_time"
          ("Block time " ++ toString accepted.blockTime ++
            " is in the future relative to captured_at") "timestamp_derivation")
      else .ok (evidenceOf host tokenMint capturedAt t accepted captured created)
  | _ => .error (pfail host tokenMint t "solana_rpc_token_age_ambiguous_init_instruction"
      "Multiple finalized mint-initialization transactions matched the requested mint"
      "transaction_inspection")

/-- The local variables of a run that returns evidence. -/
structure TokenAgeRun where
  owner : String
  history : History
  candidates : List Value
  inspected : List Inspected
  trace : Trace
  evidence : TokenAgeEvidence

/-- `_fetch_token_age_data` -/
def fetchTokenAgeData (capturedAt : String) : Except Stop TokenAgeRun := do
  let (owner, t) ← validateAccount host tokenMint
  let history ← walkSignatures host tokenMint maxSignaturePages .none { trace := t }
  if !history.reachedEnd then
    throw (pfail host tokenMint history.trace "solana_rpc_token_age_page_cap_exhausted"
      ("Signature page cap (" ++ toString maxSignaturePages ++
        ") exhausted before reaching mint history start") "signature_history")
  let candidates ← lift (rawCandidates history.oldestPage)
  if candidates = [] then
    throw (pfail host tokenMint history.trace "solana_rpc_token_age_no_signatures"
      "No successful candidate signatures in oldest page" "signature_history")
  let (inspected, t) ← inspectCandidates host tokenMint history.trace candidates
  let evidence ← deriveEvidence host tokenMint capturedAt t (inspected.filterMap Inspected.accepted)
  return ⟨owner, history, candidates, inspected, t, evidence⟩

end Run

end PrinterV1.Sources.TokenAge
