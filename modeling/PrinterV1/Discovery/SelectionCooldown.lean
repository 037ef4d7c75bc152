import PrinterV1.Discovery.TrackingRecheck
import PrinterV1.Foundation.Tables

/-!
# Selection batches and their cooldown

`apply_selection_cooldown_gates` refuses the candidates whose mint or pair was
selected a few batches ago, `persist_selection_batch` stores a batch with its
items and records what it selected in the rotation state the gates read. The
sequence number of a batch is its row id.
-/

namespace PrinterV1.Discovery

open Python

def itemSelected : String := "SELECTED"
def itemRejected : String := "REJECTED"
def itemUnclassified : String := "UNCLASSIFIED"
def batchAssembled : String := "ASSEMBLED"
def batchRejected : String := "REJECTED"
def batchPendingProof : String := "PENDING_PROOF"
def watchOnly : String := "WATCH_ONLY"
def auditOnlyQuotaSupport : String := "AUDIT_ONLY_QUOTA_SUPPORT"

/-- A candidate, and the batch item made of it: what the gates and the rotation
state read, and the other keys. A key that is missing has its default here; a
`none` is the value `None`. -/
structure BatchItem where
  itemStatus : Option String := some itemUnclassified
  tokenMint : Option String := some ""
  pairAddress : Option String := some ""
  trackingLane : Option String := none
  selectionReason : Option String := none
  rejectionReason : Option String := none
  other : Dict := []
  deriving DecidableEq

structure BatchRow where
  id : ℤ
  batchId : String
  batchStatus : String
  deriving DecidableEq, Repr

structure BatchItemRow where
  batchId : String
  item : BatchItem
  deriving DecidableEq

structure SelectionStore where
  batches : List BatchRow := []
  items : List BatchItemRow := []
  rotation : List RotationRow := []
  deriving DecidableEq

/-- The row id the next batch is given. -/
def SelectionStore.nextSeq (store : SelectionStore) : ℤ := nextRowid (store.batches.map (·.id))

section Gates

variable (rotation : List RotationRow)

/-- Fewer batches than the window lie behind the last selection of the rows. -/
def selectedWithin (rows : List RotationRow) (currentBatchSeq window : ℤ) : Bool :=
  ((rows.filterMap fun row => row.lastSelectedBatchSeq).max?).any fun last =>
    currentBatchSeq - last < window

/-- `MAX(last_selected_batch_seq)` over the rows of the mint. -/
def checkTokenSelectionCooldown (tokenMint : String) (currentBatchSeq : ℤ)
    (window : ℤ := cooldownWindow) : Option String :=
  if selectedWithin (rotation.filter fun row => row.tokenMint = tokenMint) currentBatchSeq window
  then some "TOKEN_SELECTION_COOLDOWN" else none

/-- The row of the pair that comes first by `last_selected_batch_seq DESC`. -/
def checkPairSelectionCooldown (pairAddress : String) (currentBatchSeq : ℤ)
    (window : ℤ := cooldownWindow) : Option String :=
  if selectedWithin (rotation.filter fun row => row.pairAddress = pairAddress) currentBatchSeq window
  then some "PAIR_SELECTION_COOLDOWN" else none

/-- Why a candidate is refused: the token is checked first. -/
def gateReason (currentBatchSeq window : ℤ) (candidate : BatchItem) : Option String :=
  match checkTokenSelectionCooldown rotation (candidate.tokenMint.getD "") currentBatchSeq window with
  | some reason => some reason
  | none =>
    checkPairSelectionCooldown rotation (candidate.pairAddress.getD "") currentBatchSeq window

/-- The eligible candidates, unmodified, and the refused ones with their reason. -/
def applySelectionCooldownGates (candidates : List BatchItem) (currentBatchSeq : ℤ)
    (window : ℤ := cooldownWindow) : List BatchItem × List BatchItem :=
  (candidates.filter fun c => (gateReason rotation currentBatchSeq window c).isNone,
    candidates.filterMap fun c =>
      (gateReason rotation currentBatchSeq window c).map fun reason =>
        { c with itemStatus := some itemRejected, rejectionReason := some reason })

end Gates

section Persistence

/-- What storing an item rests on besides the keys above: the constraints of the
other columns, and the text of the evidence fingerprint. -/
structure ItemColumns where
  refuses : BatchItem → Option Fault
  fingerprint : BatchItem → Except Fault String

variable (columns : ItemColumns)

def insertBatchItem (batchId : String) (items : List BatchItemRow) (item : BatchItem) :
    Except Fault (List BatchItemRow) := do
  if item.itemStatus = none ∨ item.tokenMint = none ∨ item.pairAddress = none then
    throw (.database "NOT NULL constraint failed")
  if item.itemStatus.getD "" ∉ [itemSelected, itemRejected, itemUnclassified] then
    throw (.database "CHECK constraint failed")
  match columns.refuses item with
  | some e => throw e
  | none => return items ++ [⟨batchId, item⟩]

/-- The item is selected into a lane that is tracked. -/
def BatchItem.active (i : BatchItem) : Bool :=
  i.itemStatus = some itemSelected ∧ i.trackingLane ≠ some watchOnly

/-- The item leaves a row in the rotation state. -/
def BatchItem.recorded (i : BatchItem) : Bool :=
  i.active ∧ i.selectionReason ≠ some auditOnlyQuotaSupport ∧ i.tokenMint.getD "" ≠ "" ∧
    i.pairAddress.getD "" ≠ ""

/-- `INSERT ... ON CONFLICT(token_mint, pair_address) DO UPDATE` -/
def upsertRotation (rotation : List RotationRow) (new : RotationRow) : List RotationRow :=
  let same (row : RotationRow) : Bool :=
    row.tokenMint = new.tokenMint ∧ row.pairAddress = new.pairAddress
  if rotation.any same then rotation.map fun row => if same row then new else row
  else rotation ++ [new]

/-- The row an item is recorded as. -/
def BatchItem.rotationRow (i : BatchItem) (batchSeq : ℤ) : RotationRow :=
  ⟨i.tokenMint.getD "", i.pairAddress.getD "", some batchSeq⟩

def recordSelectionRotationState (rotation : List RotationRow) (items : List BatchItem)
    (batchSeq : ℤ) : Except Fault (List RotationRow) :=
  (items.filter BatchItem.recorded).foldlM (fun rotation item => do
    let _ ← columns.fingerprint item
    return upsertRotation rotation (item.rotationRow batchSeq)) rotation

/-- Only an assembled batch is recorded. -/
def rotationAfter (rotation : List RotationRow) (items : List BatchItem) (batchStatus : String)
    (batchSeq : ℤ) : Except Fault (List RotationRow) :=
  if batchStatus = batchAssembled then
    recordSelectionRotationState columns rotation items batchSeq
  else .ok rotation

structure BatchSummary where
  batchId : String
  batchStatus : String
  selectedCount : ℕ
  rejectedCount : ℕ
  unclassifiedCount : ℕ
  totalItems : ℕ
  rotationStateRecorded : Bool
  deriving DecidableEq, Repr

/-- The items of a status. -/
def countStatus (items : List BatchItem) (status : String) : ℕ :=
  (items.filter fun i => i.itemStatus = some status).length

/-- `batch_id or str(uuid.uuid4())` -/
def batchName (batchId : Option String) (uuid : String) : String :=
  if batchId.getD "" = "" then uuid else batchId.getD ""

/-- What a call commits and returns; a call that raises commits nothing. `uuid`
is the name a batch without one is given. -/
def persistSelectionBatch (store : SelectionStore) (batchId : Option String) (uuid : String)
    (items : List BatchItem) (batchStatus : String := batchAssembled) :
    Except Fault (BatchSummary × SelectionStore) := do
  if batchStatus ∉ [batchAssembled, batchRejected, batchPendingProof] then
    throw (.python (.valueError ("unsupported selection batch status: " ++ batchStatus)))
  let name := batchName batchId uuid
  let seq := store.nextSeq
  if store.batches.any fun b => b.batchId = name then
    throw (.database "UNIQUE constraint failed: printer_selection_batches.batch_id")
  let rows ← items.foldlM (insertBatchItem columns name) store.items
  let rotation ← rotationAfter columns store.rotation items batchStatus seq
  return (
    { batchId := name
      batchStatus
      selectedCount := countStatus items itemSelected
      rejectedCount := countStatus items itemRejected
      unclassifiedCount := countStatus items itemUnclassified
      totalItems := items.length
      rotationStateRecorded := batchStatus = batchAssembled },
    { batches := store.batches ++ [⟨seq, name, batchStatus⟩]
      items := rows
      rotation })

end Persistence

end PrinterV1.Discovery
