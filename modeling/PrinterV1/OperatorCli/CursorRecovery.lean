import PrinterV1.Discovery.AcquisitionStore
import PrinterV1.Sources.OriginRegistry

/-!
# Recovery of a cursor over several executions

A recovery reads the signatures of an address from the newest back to the head
that is stored, in pages. Each page is written with a hash before the next is
asked for. An execution has a bounded number of operations and may end between
any two of them; the next one reads the pages that are there and goes on from
their state.
-/

namespace PrinterV1.OperatorCli.CursorRecovery

open Python Discovery

def recoveryPagesPerNamespace : ℕ := 4
def recoverySignaturesPerPage : ℕ := 250
def recoveryMaxExecutions : ℕ := 12

def recoveryIncomplete : String := "CURSOR_RECOVERY_INCOMPLETE_BOUNDED_BUDGET"
def recoveryComplete : String := "CURSOR_RECOVERY_EXACT_BOUNDARY_REACHED"
def recoveryNoNew : String := "CURSOR_RECOVERY_NO_NEW_SIGNATURES"
def recoveryPriorUnreachable : String := "CURSOR_PRIOR_BOUNDARY_UNREACHABLE"
def recoveryProviderUnavailable : String := "CURSOR_RECOVERY_PROVIDER_UNAVAILABLE"
def recoveryMalformed : String := "CURSOR_RECOVERY_MALFORMED_PAGE"
def recoveryDuplicate : String := "CURSOR_RECOVERY_DUPLICATE_PAGE"
def recoveryNamespaceMismatch : String := "CURSOR_RECOVERY_NAMESPACE_MISMATCH"
def recoverySkip : String := "CURSOR_RECOVERY_SKIP_ATTEMPT"
def recoveryRewind : String := "CURSOR_RECOVERY_REWIND_ATTEMPT"
def recoveryBoundExhausted : String := "CURSOR_RECOVERY_LANE_BOUND_EXHAUSTED"

/-- `cursor_namespaces` of the transport owner; a run accepts no others. -/
def cursorNamespaces : List Namespace :=
  [⟨solanaMainnet, Sources.pumpCreateIndexAddress, "9c82f61cb711b044a17f770ab8ce9f9bdf78f333",
      "canonical-live-acquisition-v1", "FORWARD"⟩,
    ⟨solanaMainnet, Sources.pumpProgramId, "9c82f61cb711b044a17f770ab8ce9f9bdf78f333",
      "canonical-live-acquisition-v1", "FORWARD"⟩]

/-- A cursor head, as `_load_exact_cursor_heads` lets it through. -/
structure Head where
  boundarySlot : ℤ
  boundarySignature : String
  cursorVersion : ℤ
  deriving DecidableEq, Repr

/-- A signature with its slot; where the source has a pair of columns that are set together. -/
structure Position where
  slot : ℤ
  signature : String
  deriving DecidableEq, Repr

/-- A row of a page. -/
structure SignatureRow where
  signature : String
  slot : ℤ
  err : Value
  confirmationStatus : Value
  deriving DecidableEq, Repr

def SignatureRow.position (r : SignatureRow) : Position := ⟨r.slot, r.signature⟩

structure State where
  namespaceKey : Namespace
  recoveryId : String
  authoritativeStart : Option Head
  recoveryTip : Option Position
  continuation : Option Position
  boundaryReached : Bool
  noNewSignatures : Bool
  recoveryPageOrdinal : ℕ
  seenSignatures : List String
  terminalCategory : String
  deriving DecidableEq, Repr

/-- What `_page_hash` hashes of a page; three columns that are the same in every page are left
out. -/
structure Page where
  namespaceKey : Namespace
  recoveryId : String
  authoritativeStart : Option Head
  recoveryTip : Option Position
  boundaryReached : Bool
  noNewSignatures : Bool
  terminalCategory : String
  recoveryPageOrdinal : ℕ
  inputContinuation : Option Position
  outputContinuation : Option Position
  pageRows : List SignatureRow
  deriving DecidableEq, Repr

/-- A page that is committed, with its hash. -/
structure Artifact where
  page : Page
  pageHash : String
  deriving DecidableEq, Repr

/-- The hashes of the recovery. -/
structure Hashes where
  page : Page → String
  heads : List (Namespace × Option Head) → String

/-- A `CandidateAcquisitionIntegrationError`. -/
structure Fault where
  code : String
  detail : String
  deriving DecidableEq, Repr

variable (H : Hashes)

/-- `_initial_state` -/
def initialState (ns : Namespace) (head : Option Head) (recoveryId : String) : State where
  namespaceKey := ns
  recoveryId := recoveryId
  authoritativeStart := head
  recoveryTip := none
  continuation := none
  boundaryReached := false
  noNewSignatures := false
  recoveryPageOrdinal := 0
  seenSignatures := []
  terminalCategory := recoveryIncomplete

/-- `sorted(known)` -/
def sortedSignatures (known : List String) : List String := known.mergeSort fun a b => a ≤ b

inductive Request
  | getTransaction (signature : String)
  | getSignaturesForAddress (address : String) (before : Option String) (limit : ℕ)
  deriving DecidableEq, Repr

/-- The transport during an operation: the payload of the response, or the code it fails with. -/
abbrev Rpc := Request → Except String Value

/-- `payload.get("signature")`, `payload.get("slot")` of a row, where they are an identity. -/
def identity? (raw : Dict) : Option Position :=
  match raw.get "signature", raw.get "slot" with
  | .str signature, .int slot => if signature ≠ "" ∧ 0 ≤ slot then some ⟨slot, signature⟩ else none
  | _, _ => none

/-- The items of a response that is a list of mappings. -/
def rawRows : List Value → Option (List Dict)
  | [] => some []
  | .dict raw :: rest => (rawRows rest).map (raw :: ·)
  | _ :: _ => none

/-- The loop over the rows of a response: the rows of the page, and whether the boundary is its
last one. -/
def scanRows (start : Option Head) : List String → Option ℤ → List Dict →
    Except String (List SignatureRow × Bool)
  | _, _, [] => .ok ([], false)
  | known, previous, raw :: rest =>
    match identity? raw with
    | none => .error recoveryMalformed
    | some p =>
      if p.signature ∈ known then .error recoveryDuplicate
      else if previous.any fun slot => slot < p.slot then .error recoveryRewind
      else if start.any fun head => p.slot < head.boundarySlot ∧
          p.signature ≠ head.boundarySignature then .error recoverySkip
      else
        let row : SignatureRow :=
          ⟨p.signature, p.slot, raw.get "err", raw.get "confirmationStatus"⟩
        if start.any fun head => p.signature = head.boundarySignature then .ok ([row], true)
        else do
          let (rows, found) ← scanRows start (p.signature :: known) (some p.slot) rest
          return (row :: rows, found)

/-- The state behind a page with rows. -/
def State.advance (s : State) (rows : List SignatureRow) (found : Bool) : State :=
  let noNew := rows.length = 1 ∧ rows.head?.map SignatureRow.signature =
    s.authoritativeStart.map Head.boundarySignature
  { s with
    recoveryTip := s.recoveryTip.orElse fun _ => rows.head?.map SignatureRow.position
    seenSignatures := sortedSignatures
      ((rows.map SignatureRow.signature).reverse ++ s.seenSignatures)
    continuation := rows.getLast?.map SignatureRow.position
    boundaryReached := found || s.authoritativeStart.isNone
    noNewSignatures := if s.authoritativeStart.isSome && found then decide noNew
      else s.noNewSignatures
    terminalCategory :=
      if s.authoritativeStart.isNone then recoveryComplete
      else if found then (if noNew then recoveryNoNew else recoveryComplete)
      else recoveryIncomplete }

/-- The verification of the prior boundary and the request for the page. -/
def fetchPage (s : State) (localPage : ℕ) (rpc : Rpc) : Except String (List Dict) := do
  match s.authoritativeStart with
  | some head =>
    if localPage = 1 ∧ head.boundarySignature ≠ "" then
      let verification ← rpc (.getTransaction head.boundarySignature)
      match verification with
      | .dict _ => pure ()
      | _ => throw recoveryPriorUnreachable
  | none => pure ()
  let before := (s.continuation.map Position.signature).filter fun signature => signature ≠ ""
  let payload ← rpc (.getSignaturesForAddress s.namespaceKey.indexedAddress before
    recoverySignaturesPerPage)
  match payload with
  | .list items =>
    match rawRows items with
    | some raw => return raw
    | none => throw recoveryMalformed
  | _ => throw recoveryMalformed

/-- The rows of the page, and the state behind them. -/
def readPage (s : State) (localPage : ℕ) (rpc : Rpc) :
    Except String (List SignatureRow × State) := do
  let raw ← fetchPage s localPage rpc
  if raw = [] then
    if s.authoritativeStart.isNone then
      return ([], { s with
        boundaryReached := true, noNewSignatures := true, terminalCategory := recoveryNoNew })
    else throw recoveryPriorUnreachable
  else
    let (rows, found) ← scanRows s.authoritativeStart s.seenSignatures
      (s.continuation.map Position.slot) raw
    return (rows, s.advance rows found)

/-- The page of a state that has just been advanced, on top of the state before. -/
def pageOf (before after : State) (rows : List SignatureRow) : Page where
  namespaceKey := after.namespaceKey
  recoveryId := after.recoveryId
  authoritativeStart := after.authoritativeStart
  recoveryTip := after.recoveryTip
  boundaryReached := after.boundaryReached
  noNewSignatures := after.noNewSignatures
  terminalCategory := after.terminalCategory
  recoveryPageOrdinal := after.recoveryPageOrdinal
  inputContinuation := before.continuation
  outputContinuation := after.continuation
  pageRows := rows

/-- The code a failed operation is given. -/
def failureCode (code : String) : String :=
  if code ∈ [recoveryPriorUnreachable, recoveryMalformed, recoveryDuplicate, recoverySkip,
    recoveryRewind] then code
  else recoveryProviderUnavailable

inductive Outcome
  /-- The boundary was reached before. -/
  | idle
  | committed (artifact : Artifact)
  | failed (code : String)
  deriving DecidableEq, Repr

/-- `execute_page` -/
def executePage (s : State) (localPage : ℕ) (rpc : Rpc) : State × Outcome :=
  if s.boundaryReached then (s, .idle)
  else
    match readPage s localPage rpc with
    | .error code => ({ s with terminalCategory := failureCode code }, .failed (failureCode code))
    | .ok (rows, advanced) =>
      let after := { advanced with recoveryPageOrdinal := s.recoveryPageOrdinal + 1 }
      let page := pageOf s after rows
      (after, .committed ⟨page, H.page page⟩)

/-- The loop over the rows of a stored page. -/
def checkRows : List String → Option ℤ → List SignatureRow → Except Fault Unit
  | _, _, [] => .ok ()
  | known, previous, row :: rest =>
    if row.signature = "" ∨ row.slot < 0 then .error ⟨recoveryMalformed, "identity"⟩
    else if row.signature ∈ known then .error ⟨recoveryDuplicate, row.signature⟩
    else if previous.any fun slot => slot < row.slot then .error ⟨recoveryRewind, row.signature⟩
    else checkRows (row.signature :: known) (some row.slot) rest

def namespaceFields : List (String × (Namespace → String)) :=
  [("network", Namespace.network), ("indexed_address", Namespace.indexedAddress),
    ("contract_pin", Namespace.contractPin), ("decoder_version", Namespace.decoderVersion),
    ("direction", Namespace.direction)]

/-- `_validate_page_artifact` -/
def validatePageArtifact (s : State) (a : Artifact) : Except Fault State := do
  let p := a.page
  if p.recoveryId ≠ s.recoveryId then throw ⟨recoveryNamespaceMismatch, ""⟩
  if let some field := namespaceFields.find? fun f =>
      f.2 p.namespaceKey ≠ f.2 s.namespaceKey then
    throw ⟨recoveryNamespaceMismatch, field.1⟩
  if p.namespaceKey.direction ≠ "FORWARD" then throw ⟨recoveryNamespaceMismatch, "direction"⟩
  if p.authoritativeStart ≠ s.authoritativeStart then throw ⟨recoveryNamespaceMismatch, "head"⟩
  if p.inputContinuation.map Position.signature ≠ s.continuation.map Position.signature then
    throw ⟨recoverySkip, "continuation_signature"⟩
  if p.inputContinuation.map Position.slot ≠ s.continuation.map Position.slot then
    throw ⟨recoverySkip, "continuation_slot"⟩
  if H.page p ≠ a.pageHash then throw ⟨recoveryMalformed, "page_hash"⟩
  checkRows s.seenSignatures (s.continuation.map Position.slot) p.pageRows
  if p.pageRows ≠ [] ∧ p.outputContinuation ≠ p.pageRows.getLast?.map SignatureRow.position then
    throw ⟨recoverySkip, "page_end"⟩
  return { s with
    seenSignatures := sortedSignatures
      ((p.pageRows.map SignatureRow.signature).reverse ++ s.seenSignatures)
    continuation := p.outputContinuation
    recoveryTip := p.recoveryTip
    recoveryPageOrdinal := p.recoveryPageOrdinal
    boundaryReached := p.boundaryReached
    noNewSignatures := p.noNewSignatures
    terminalCategory := if p.terminalCategory = "" then recoveryIncomplete else p.terminalCategory }

/-- A row of `printer_candidate_acquisition_integrations` that is a recovery, with the pages of its
work; an operation that committed no page has none. -/
structure Execution where
  startedAt : String
  integrationId : String
  recoveryId : String
  work : List (Option Artifact)
  deriving DecidableEq, Repr

/-- `ORDER BY started_at, integration_id` -/
def Execution.before (a b : Execution) : Bool :=
  a.startedAt < b.startedAt || (a.startedAt = b.startedAt && a.integrationId ≤ b.integrationId)

abbrev States := Namespace → State

/-- A stored page goes to the state of its namespace. -/
def loadPage (states : States) (a : Artifact) : Except Fault States :=
  if a.page.namespaceKey ∈ cursorNamespaces then do
    let state ← validatePageArtifact H (states a.page.namespaceKey) a
    return Function.update states a.page.namespaceKey state
  else .error ⟨recoveryNamespaceMismatch, ""⟩

def initialStates (heads : Namespace → Option Head) (recoveryId : String) : States :=
  fun ns => initialState ns (heads ns) recoveryId

/-- `_load_recovery_chain` -/
def loadRecoveryChain (executions : List Execution) (heads : Namespace → Option Head)
    (recoveryId : String) : Except Fault (States × ℕ) := do
  let own := executions.filter fun e => e.recoveryId = recoveryId
  let pages := (own.mergeSort Execution.before).flatMap fun e => e.work.filterMap id
  let states ← pages.foldlM (loadPage H) (initialStates heads recoveryId)
  return (states, own.length)

/-- `_recovery_identity` -/
def recoveryIdentity (heads : Namespace → Option Head) : String :=
  let sorted := cursorNamespaces.mergeSort fun a b =>
    namespaceFields.map (fun f => f.2 a) ≤ namespaceFields.map fun f => f.2 b
  "carec-" ++ String.ofList ((H.heads (sorted.map fun ns => (ns, heads ns))).toList.take 32)

/-- The operations of an execution: one page of each namespace, then the next. -/
def operations : List (ℕ × Namespace) :=
  (List.range recoveryPagesPerNamespace).flatMap fun i => cursorNamespaces.map fun ns => (i + 1, ns)

/-- The operations that were carried out to the row of their work, until one of them fails. -/
def performOperations (states : States) :
    List ((ℕ × Namespace) × Rpc) → States × List (Option Artifact) × Option String
  | [] => (states, [], none)
  | ((localPage, ns), rpc) :: rest =>
    match executePage H (states ns) localPage rpc with
    | (state, .failed code) => (Function.update states ns state, [none], some code)
    | (state, .idle) =>
      let (after, work, failure) := performOperations (Function.update states ns state) rest
      (after, none :: work, failure)
    | (state, .committed artifact) =>
      let (after, work, failure) := performOperations (Function.update states ns state) rest
      (after, some artifact :: work, failure)

/-- An execution of the recovery: when it starts, its integration, and the transport of every
operation whose work it comes to write before it ends. -/
structure Call where
  now : String
  integrationId : String
  transports : List Rpc

structure Db where
  heads : Namespace → Option Head
  executions : List Execution

def allReached (states : States) : Bool := cursorNamespaces.all fun ns => (states ns).boundaryReached

/-- The first terminal cause of an execution that is not cut short. -/
def terminalCause (states : States) (executionCount : ℕ) : String :=
  if allReached states then
    if cursorNamespaces.all fun ns => (states ns).noNewSignatures then recoveryNoNew
    else recoveryComplete
  else if recoveryMaxExecutions ≤ executionCount then recoveryBoundExhausted
  else recoveryIncomplete

/-- The operations that the states leave to do. -/
def openOperations (states : States) : List (ℕ × Namespace) :=
  if allReached states then [] else operations

/-- The work of an execution from the states it has loaded: the states behind it, the rows of its
work, and the code it failed with. -/
def performCall (states : States) (call : Call) :
    States × List (Option Artifact) × Option String :=
  performOperations H states ((openOperations states).zip call.transports)

/-- `run_cursor_continuity_recovery` up to the foundation: its row with the work of its operations,
and its first terminal cause, unless it ended before its last operation. -/
def runCursorContinuityRecovery (db : Db) (call : Call) : Db × Option String :=
  let recoveryId := recoveryIdentity H db.heads
  let row : Execution := ⟨call.now, call.integrationId, recoveryId, []⟩
  match loadRecoveryChain H (db.executions ++ [row]) db.heads recoveryId with
  | .error fault => ({ db with executions := db.executions ++ [row] }, some fault.code)
  | .ok (states, executionCount) =>
    if recoveryMaxExecutions < executionCount then
      ({ db with executions := db.executions ++ [row] }, some recoveryBoundExhausted)
    else
      let result := performCall H states call
      ({ db with executions := db.executions ++ [{ row with work := result.2.1 }] },
        match result.2.2 with
        | some code => some code
        | none =>
          if call.transports.length < (openOperations states).length then none
          else some (terminalCause result.1 executionCount))

end PrinterV1.OperatorCli.CursorRecovery
