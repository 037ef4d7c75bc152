import PrinterV1.Foundation.Tables
import PrinterV1.Python.Text

/-!
# Campaign ownership states

The state tables of the six record kinds of a campaign and `transition_state`,
which compares a stored row with the expected state and updates it. Reaching a
terminal state stores the stripped cause; asking again for the state a terminal
row has is answered without a change when the cause asked for is the stored one.
-/

namespace PrinterV1.OperatorCli

open Python

/-- The states of a campaign and of a run. -/
inductive RunState
  | draft | preflight | running | stopRequested | terminalCompleted | terminalStopped
  | terminalBlocked | terminalFailed
  deriving DecidableEq, Repr

inductive CycleState
  | planned | discovering | selecting | tracking | closing | auditing | rotating
  | terminalCompleted | terminalStopped | terminalBlocked | terminalFailed
  deriving DecidableEq, Repr

inductive TokenState
  | selected | window15mActive | window15mClosed | window1hContinuing | window1hClosed
  | window4hContinuing | window4hClosed | cooldown | archived | manualReview | failed
  deriving DecidableEq, Repr

inductive WindowState
  | planned | collecting | closePending | auditing | cleanPromoted | dirty | blocked
  | noPromotion | alreadyExistsIdempotent | cancelled
  deriving DecidableEq, Repr

inductive WorkState
  | pending | running | cooldown | succeeded | failed | skipped | cancelled
  deriving DecidableEq, Repr

/-- A kind's entry of `_STATE_TABLES`, with the state its rows start in. -/
structure StateTable (σ : Type) where
  /-- The text a state is stored as. -/
  value : σ → String
  initial : σ
  transitions : σ → List σ
  terminalStates : List σ
  /-- Every kind but a campaign and a run may end from any state. -/
  endsFromAnywhere : Bool
  initial_open : initial ∉ terminalStates

/-- The targets `transition_state` accepts from a state. -/
def StateTable.allowed {σ : Type} (table : StateTable σ) (current : σ) : List σ :=
  table.transitions current ++ if table.endsFromAnywhere then table.terminalStates else []

/-- `_RUN_TRANSITIONS`, under the name of the kind. -/
def runTable : StateTable RunState where
  value
    | .draft => "DRAFT"
    | .preflight => "PREFLIGHT"
    | .running => "RUNNING"
    | .stopRequested => "STOP_REQUESTED"
    | .terminalCompleted => "TERMINAL_COMPLETED"
    | .terminalStopped => "TERMINAL_STOPPED"
    | .terminalBlocked => "TERMINAL_BLOCKED"
    | .terminalFailed => "TERMINAL_FAILED"
  initial := .draft
  transitions
    | .draft => [.preflight, .terminalBlocked, .terminalFailed]
    | .preflight => [.running, .terminalStopped, .terminalBlocked, .terminalFailed]
    | .running =>
      [.stopRequested, .terminalCompleted, .terminalStopped, .terminalBlocked, .terminalFailed]
    | .stopRequested => [.terminalStopped, .terminalCompleted, .terminalBlocked, .terminalFailed]
    | _ => []
  terminalStates := [.terminalCompleted, .terminalStopped, .terminalBlocked, .terminalFailed]
  endsFromAnywhere := false
  initial_open := by decide

def cycleTable : StateTable CycleState where
  value
    | .planned => "PLANNED"
    | .discovering => "DISCOVERING"
    | .selecting => "SELECTING"
    | .tracking => "TRACKING"
    | .closing => "CLOSING"
    | .auditing => "AUDITING"
    | .rotating => "ROTATING"
    | .terminalCompleted => "TERMINAL_COMPLETED"
    | .terminalStopped => "TERMINAL_STOPPED"
    | .terminalBlocked => "TERMINAL_BLOCKED"
    | .terminalFailed => "TERMINAL_FAILED"
  initial := .planned
  transitions
    | .planned => [.discovering]
    | .discovering => [.selecting]
    | .selecting => [.tracking]
    | .tracking => [.closing]
    | .closing => [.auditing]
    | .auditing => [.rotating]
    | _ => []
  terminalStates := [.terminalCompleted, .terminalStopped, .terminalBlocked, .terminalFailed]
  endsFromAnywhere := true
  initial_open := by decide

def tokenTable : StateTable TokenState where
  value
    | .selected => "SELECTED"
    | .window15mActive => "WINDOW_15M_ACTIVE"
    | .window15mClosed => "WINDOW_15M_CLOSED"
    | .window1hContinuing => "WINDOW_1H_CONTINUING"
    | .window1hClosed => "WINDOW_1H_CLOSED"
    | .window4hContinuing => "WINDOW_4H_CONTINUING"
    | .window4hClosed => "WINDOW_4H_CLOSED"
    | .cooldown => "COOLDOWN"
    | .archived => "ARCHIVED"
    | .manualReview => "MANUAL_REVIEW"
    | .failed => "FAILED"
  initial := .selected
  transitions
    | .selected => [.window15mActive]
    | .window15mActive => [.window15mClosed]
    | .window15mClosed => [.window1hContinuing]
    | .window1hContinuing => [.window1hClosed]
    | .window1hClosed => [.window4hContinuing]
    | .window4hContinuing => [.window4hClosed]
    | _ => []
  terminalStates := [.cooldown, .archived, .manualReview, .failed]
  endsFromAnywhere := true
  initial_open := by decide

def windowTable : StateTable WindowState where
  value
    | .planned => "PLANNED"
    | .collecting => "COLLECTING"
    | .closePending => "CLOSE_PENDING"
    | .auditing => "AUDITING"
    | .cleanPromoted => "CLEAN_PROMOTED"
    | .dirty => "DIRTY"
    | .blocked => "BLOCKED"
    | .noPromotion => "NO_PROMOTION"
    | .alreadyExistsIdempotent => "ALREADY_EXISTS_IDEMPOTENT"
    | .cancelled => "CANCELLED"
  initial := .planned
  transitions
    | .planned => [.collecting]
    | .collecting => [.closePending]
    | .closePending => [.auditing]
    | _ => []
  terminalStates :=
    [.cleanPromoted, .dirty, .blocked, .noPromotion, .alreadyExistsIdempotent, .cancelled]
  endsFromAnywhere := true
  initial_open := by decide

def workTable : StateTable WorkState where
  value
    | .pending => "PENDING"
    | .running => "RUNNING"
    | .cooldown => "COOLDOWN"
    | .succeeded => "SUCCEEDED"
    | .failed => "FAILED"
    | .skipped => "SKIPPED"
    | .cancelled => "CANCELLED"
  initial := .pending
  transitions
    | .pending => [.running, .cooldown]
    | .running => [.cooldown]
    | .cooldown => [.pending, .running]
    | _ => []
  terminalStates := [.succeeded, .failed, .skipped, .cancelled]
  endsFromAnywhere := true
  initial_open := by decide

inductive RecordKind
  | campaign | run | cycle | tokenSlot | window | schedulerWork
  deriving DecidableEq, Repr

def RecordKind.value : RecordKind → String
  | .campaign => "campaign"
  | .run => "run"
  | .cycle => "cycle"
  | .tokenSlot => "token_slot"
  | .window => "window"
  | .schedulerWork => "scheduler_work"

abbrev RecordKind.State : RecordKind → Type
  | .campaign => RunState
  | .run => RunState
  | .cycle => CycleState
  | .tokenSlot => TokenState
  | .window => WindowState
  | .schedulerWork => WorkState

instance : (kind : RecordKind) → DecidableEq kind.State
  | .campaign => inferInstanceAs (DecidableEq RunState)
  | .run => inferInstanceAs (DecidableEq RunState)
  | .cycle => inferInstanceAs (DecidableEq CycleState)
  | .tokenSlot => inferInstanceAs (DecidableEq TokenState)
  | .window => inferInstanceAs (DecidableEq WindowState)
  | .schedulerWork => inferInstanceAs (DecidableEq WorkState)

/-- `_STATE_TABLES` -/
def RecordKind.table : (kind : RecordKind) → StateTable kind.State
  | .campaign => runTable
  | .run => runTable
  | .cycle => cycleTable
  | .tokenSlot => tokenTable
  | .window => windowTable
  | .schedulerWork => workTable

/-- The columns of a record that `transition_state` reads and writes. -/
structure StateRow (σ : Type) where
  identity : String
  state : σ
  firstTerminalCause : Option String
  terminalAt : Option String
  updatedAt : String
  deriving DecidableEq, Repr

abbrev StateRows (σ : Type) := Table (StateRow.identity (σ := σ))

structure StateTransitionResult (σ : Type) where
  identity : String
  previousState : σ
  currentState : σ
  firstTerminalCause : Option String
  terminalAt : Option String
  changed : Bool
  deriving DecidableEq, Repr

/-- The arguments of `transition_state` behind the record kind. -/
structure TransitionArgs where
  identity : String
  expectedState : String
  newState : String
  terminalCause : Option String := none
  now : Option String := none
  deriving DecidableEq, Repr

/-- A call: its arguments, the clock it may read, and whether the database takes
its update (its checks, its triggers and its write lock). -/
structure TransitionCall extends TransitionArgs where
  utcNow : String
  accepted : Bool
  deriving DecidableEq, Repr

/-- `now or _utc_now()` -/
def TransitionCall.timestamp (c : TransitionCall) : String :=
  if c.now.getD "" = "" then c.utcNow else c.now.getD ""

/-- `str(value).strip()` of the cause, as `_required` takes it: no cause at all
is the text `None`. -/
def TransitionArgs.strippedCause (a : TransitionArgs) : String := strip (a.terminalCause.getD "None")

/-- The values an update writes. -/
structure Move (σ : Type) where
  state : σ
  cause : Option String
  terminalAt : Option String
  deriving DecidableEq, Repr

variable {σ : Type} [DecidableEq σ]

/-- The values of an update to an allowed target. -/
def moveTo (table : StateTable σ) (target : σ) (c : TransitionCall) : Except String (Move σ) :=
  if target ∈ table.terminalStates then
    if c.strippedCause = "" then .error "terminal_cause is required"
    else .ok ⟨target, some c.strippedCause, some c.timestamp⟩
  else if c.terminalCause ≠ none then
    .error "non-terminal transition cannot set a terminal cause"
  else .ok ⟨target, none, none⟩

/-- What a call does with the row it read: the values it writes, nothing when
the row is already there, or the error it raises. -/
def plannedMove (kind : RecordKind) (table : StateTable σ) (row : StateRow σ) (c : TransitionCall) :
    Except String (Option (Move σ)) :=
  if row.state ∈ table.terminalStates then
    if table.value row.state = c.newState ∧ row.firstTerminalCause = c.terminalCause then .ok none
    else .error "terminal state and first cause are immutable"
  else if table.value row.state ≠ c.expectedState then
    .error ("compare-and-update mismatch: expected " ++ c.expectedState ++ ", found " ++
      table.value row.state)
  else
    match (table.allowed row.state).find? fun s => table.value s = c.newState with
    | none =>
      .error ("invalid " ++ kind.value ++ " transition: " ++ table.value row.state ++ " -> " ++
        c.newState)
    | some target => (moveTo table target c).map some

def moveRow (m : Move σ) (timestamp : String) (r : StateRow σ) : StateRow σ :=
  { r with
    state := m.state
    firstTerminalCause := m.cause
    terminalAt := m.terminalAt
    updatedAt := timestamp }

/-- The answer to a request for the state a terminal row has. -/
def unchangedResult (c : TransitionCall) (row : StateRow σ) : StateTransitionResult σ where
  identity := c.identity
  previousState := row.state
  currentState := row.state
  firstTerminalCause := row.firstTerminalCause
  terminalAt := row.terminalAt
  changed := false

def movedResult (c : TransitionCall) (row : StateRow σ) (m : Move σ) : StateTransitionResult σ where
  identity := c.identity
  previousState := row.state
  currentState := m.state
  firstTerminalCause := m.cause
  terminalAt := m.terminalAt
  changed := true

def moveUpdate (rows : StateRows σ) (c : TransitionCall) (m : Move σ) : StateRows σ :=
  rows.updateKey c.identity ⟨moveRow m c.timestamp, fun _ => rfl⟩

/-- `transition_state` on the table of a kind. The transaction of a call that
raises is rolled back. -/
def transitionState (kind : RecordKind) (table : StateTable σ) (rows : StateRows σ)
    (c : TransitionCall) : Except String (StateTransitionResult σ × StateRows σ) :=
  match rows.find? c.identity with
  | none => .error ("unknown " ++ kind.value ++ " identity: " ++ c.identity)
  | some row =>
    match plannedMove kind table row c with
    | .error message => .error message
    | .ok none => .ok (unchangedResult c row, rows)
    | .ok (some m) =>
      if c.accepted then .ok (movedResult c row m, moveUpdate rows c m)
      else .error "the database refused the update"

/-- The table after a call. -/
def afterTransition (kind : RecordKind) (table : StateTable σ) (rows : StateRows σ)
    (c : TransitionCall) : StateRows σ :=
  match transitionState kind table rows c with
  | .ok (_, rows') => rows'
  | .error _ => rows

end PrinterV1.OperatorCli
