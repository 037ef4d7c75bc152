import Mathlib.Data.List.MinMax
import Mathlib.Data.Prod.Lex
import Mathlib.Data.String.Basic
import PrinterV1.Python.Datetime
import PrinterV1.Python.Value
import PrinterV1.Scheduler.Contracts

/-!
# Two-token scheduling

`select_two_token_scheduler_work` picks, for two slots, the work item with the
least selection key. A datetime is the instant it denotes, a naive one as UTC.
-/

namespace PrinterV1.Scheduler

open Python

def jobKindValues : List (String × JobKind) :=
  [("OPEN_PAPER_TRADE_MONITOR", .openPaperTradeMonitor),
    ("ACTIVE_EXIT_RISK_TOKEN", .activeExitRiskToken),
    ("TRACK_FAST_MICRO_EVENT", .trackFastMicroEvent),
    ("TRACK_FAST_FIRST_15M", .trackFastFirst15m), ("TRACK_FAST_1H", .trackFast1h),
    ("TRACK_FAST_4H", .trackFast4h), ("TRACK_NORMAL_FIRST_15M", .trackNormalFirst15m),
    ("TRACK_NORMAL_1H", .trackNormal1h), ("TRACK_NORMAL_4H", .trackNormal4h),
    ("MEMORY_WINDOW_CLOSE", .memoryWindowClose),
    ("TRACKED_TOKEN_SAFETY_LIQUIDITY_REFRESH", .trackedTokenSafetyLiquidityRefresh),
    ("DISCOVERY_REFRESH", .discoveryRefresh), ("MARKET_REGIME_CONTEXT", .marketRegimeContext),
    ("SOLANA_CHAIN_HEAT_CONTEXT", .solanaChainHeatContext),
    ("BACKUP_SOURCE_CHECK", .backupSourceCheck)]

def jobStatusValues : List (String × JobStatus) :=
  [("PENDING", .pending), ("RUNNING", .running), ("SUCCEEDED", .succeeded), ("FAILED", .failed),
    ("COOLDOWN", .cooldown), ("SKIPPED", .skipped), ("CANCELLED", .cancelled)]

inductive SchedulerWorkIntent
  | mainWindowClose | evidenceGap | safeStop | ordinary
  deriving DecidableEq, Repr

def schedulerWorkIntentValues : List (String × SchedulerWorkIntent) :=
  [("MAIN_WINDOW_CLOSE", .mainWindowClose), ("EVIDENCE_GAP", .evidenceGap),
    ("SAFE_STOP", .safeStop), ("ORDINARY", .ordinary)]

inductive SchedulerSelectionStatus
  | selected | blocked | noEligibleWork
  deriving DecidableEq, Repr

def tokenTerminalOrIneligibleStates : List String :=
  ["COOLDOWN", "ARCHIVED", "INSTANT_REJECT_MEMORY_ONLY", "CANCELLED", "FAILED", "BLOCKED",
    "MANUAL_REVIEW", "SKIPPED", "TERMINAL_COMPLETED", "TERMINAL_STOPPED", "TERMINAL_BLOCKED",
    "TERMINAL_FAILED"]

def selectableWorkStatuses : List String := ["PENDING", "COOLDOWN"]

def sharedStopReasons : List String :=
  ["SHARED_DB_FAILURE", "SHARED_LEASE_FAILURE", "SHARED_INTEGRITY_FAILURE",
    "CAMPAIGN_BUDGET_FAILURE"]

structure TwoTokenSlot where
  slotId : String
  tokenId : String
  mintId : String
  pairId : String
  lifecycleId : String
  tokenState : String
  ordinaryServiceCount : ℤ := 0
  eligible : Bool := true
  tokenLocalFailure : Bool := false
  deriving DecidableEq, Repr

structure SchedulerWorkItem where
  schedulerWorkId : String
  tokenSlotId : String
  tokenId : String
  jobKind : String
  workIntent : String
  status : String := "PENDING"
  scheduledFor : Option Datetime := none
  deadlineAt : Option Datetime := none
  createdAt : Option Datetime := none
  eligible : Bool := true
  deriving DecidableEq, Repr

structure CampaignSchedulerCeilings where
  schedulerWorkCeiling : Option ℤ := none
  schedulerWorkUsed : ℤ := 0
  sourceRequestCeiling : Option ℤ := none
  sourceRequestsUsed : ℤ := 0
  storageGrowthCeiling : Option ℤ := none
  storageGrowthUsed : ℤ := 0
  failureCeiling : Option ℤ := none
  failuresUsed : ℤ := 0
  deriving DecidableEq, Repr

structure TwoTokenSchedulerSelection where
  status : SchedulerSelectionStatus
  selectedWork : Option SchedulerWorkItem
  reason : String
  excludedWorkIds : List String := []
  deriving DecidableEq, Repr

def identityStart (c : Char) : Bool :=
  ('A' ≤ c ∧ c ≤ 'Z') ∨ ('a' ≤ c ∧ c ≤ 'z') ∨ ('0' ≤ c ∧ c ≤ '9')

/-- `_IDENTITY_PATTERN.fullmatch` -/
def identityShape : List Char → Bool
  | [] => false
  | c :: cs => identityStart c && cs.all fun d => identityStart d || d ∈ ['.', '_', ':', '-']

/-- `validate_identity`, for a kind that is known. -/
def validateIdentity (kind value : String) : Except String String :=
  if value = "" then .error (kind ++ " identity must be non-empty")
  else if value.length > 256 then .error (kind ++ " identity is too long")
  else if value ≠ strip value then .error (kind ++ " identity has surrounding whitespace")
  else if !identityShape value.toList then .error (kind ++ " identity has an unsupported shape")
  else .ok value

/-- A member of an enumeration by its value. -/
def enumMember {α : Type} (R : Value.Rendering) (name : String) (values : List (String × α))
    (value : String) : Except String α :=
  match values.lookup value with
  | some member => .ok member
  | none => .error (R.repr (.str value) ++ " is not a valid " ++ name)

/-- `_validated_slots`, from an index on and with the slots and tokens before it. -/
def validatedSlots : ℕ → List (String × ℕ × TwoTokenSlot) → List String → List TwoTokenSlot →
    Except String (List (String × ℕ × TwoTokenSlot))
  | _, bySlot, _, [] => .ok bySlot
  | index, bySlot, tokenIds, slot :: slots => do
    let slotId ← validateIdentity "token_slot" slot.slotId
    let tokenId ← validateIdentity "token" slot.tokenId
    let _ ← validateIdentity "mint" slot.mintId
    let _ ← validateIdentity "pair" slot.pairId
    let _ ← validateIdentity "lifecycle" slot.lifecycleId
    if (bySlot.lookup slotId).isSome then throw "duplicate_token_slot_identity"
    if tokenId ∈ tokenIds then throw "duplicate_token_identity"
    if slot.ordinaryServiceCount < 0 then throw "negative_ordinary_service_count"
    validatedSlots (index + 1) (bySlot ++ [(slotId, index, slot)]) (tokenId :: tokenIds) slots

/-- `_validated_work_items`, with the identities before. -/
def validatedWorkItems (R : Value.Rendering) :
    List String → List SchedulerWorkItem → Except String Unit
  | _, [] => .ok ()
  | seenWorkIds, item :: items => do
    let workId ← validateIdentity "scheduler_work" item.schedulerWorkId
    let _ ← validateIdentity "token_slot" item.tokenSlotId
    let _ ← validateIdentity "token" item.tokenId
    let _ ← enumMember R "JobKind" jobKindValues item.jobKind
    let _ ← enumMember R "SchedulerWorkIntent" schedulerWorkIntentValues item.workIntent
    let _ ← enumMember R "JobStatus" jobStatusValues item.status
    if workId ∈ seenWorkIds then throw "duplicate_scheduler_work_identity"
    validatedWorkItems R (workId :: seenWorkIds) items

/-- `_exhausted_ceiling_reason` -/
def exhaustedCeilingReason (c : CampaignSchedulerCeilings) : Option String :=
  ([("scheduler_work_ceiling_exhausted", c.schedulerWorkUsed, c.schedulerWorkCeiling),
    ("source_request_ceiling_exhausted", c.sourceRequestsUsed, c.sourceRequestCeiling),
    ("storage_growth_ceiling_exhausted", c.storageGrowthUsed, c.storageGrowthCeiling),
    ("failure_ceiling_exhausted", c.failuresUsed, c.failureCeiling)].find? fun check =>
      check.2.2.any (· ≤ check.2.1)).map Prod.fst

section Selection

variable (slotById : List (String × ℕ × TwoTokenSlot))

/-- Work of the slot is excluded as a whole. -/
def TwoTokenSlot.stopped (slot : TwoTokenSlot) : Bool :=
  !slot.eligible || slot.tokenLocalFailure || slot.tokenState ∈ tokenTerminalOrIneligibleStates

/-- `_eligible_work`, for one item. -/
def isEligible (now : Instant) (item : SchedulerWorkItem) : Bool :=
  match slotById.lookup item.tokenSlotId with
  | none => false
  | some (_, slot) =>
    item.tokenId = slot.tokenId ∧ item.eligible ∧ !slot.stopped ∧
      item.status ∈ selectableWorkStatuses ∧
      (item.scheduledFor.map Datetime.instantUtc).all (· ≤ now)

def farFuture : String := "9999-12-31T23:59:59+00:00"

/-- `_category_value` -/
def categoryValue (item : SchedulerWorkItem) : ℕ :=
  let intent := schedulerWorkIntentValues.lookup item.workIntent
  if jobKindValues.lookup item.jobKind = some .memoryWindowClose ∧
      intent = some .mainWindowClose then 0
  else if intent = some .evidenceGap ∨ intent = some .safeStop then 1
  else 2

def isoOf (value : Datetime) : String := isoformat value.instantUtc

/-- `_deadline_value` -/
def deadlineValue (item : SchedulerWorkItem) : String :=
  ((item.deadlineAt <|> item.scheduledFor).map isoOf).getD farFuture

/-- `_created_value` -/
def createdValue (item : SchedulerWorkItem) : String := (item.createdAt.map isoOf).getD farFuture

-- The computable order, where a complete one of the integers is in scope too.
local instance preorderInt : Preorder ℤ := Int.instLinearOrder.toPreorder

/-- Category, deadline, service count, creation, index of the slot and identity of the work. -/
abbrev SelectionKey := ℕ ×ₗ String ×ₗ ℤ ×ₗ String ×ₗ ℕ ×ₗ String

/-- `_selection_key` -/
def selectionKey (item : SchedulerWorkItem) : SelectionKey :=
  let entry := (slotById.lookup item.tokenSlotId).getD (0, ⟨"", "", "", "", "", "", 0, true, false⟩)
  let category := categoryValue item
  let deadline := if category = 0 then deadlineValue item else farFuture
  toLex (category, toLex (deadline, toLex (entry.2.ordinaryServiceCount,
    toLex (createdValue item, toLex (entry.1, item.schedulerWorkId)))))

/-- The selection among items that are validated. -/
def selectEligible (now : Instant) (items : List SchedulerWorkItem) : TwoTokenSchedulerSelection :=
  let eligible := items.filter (isEligible slotById now)
  let excluded := (items.filter fun item => !isEligible slotById now item).map
    SchedulerWorkItem.schedulerWorkId
  match eligible.argmin (selectionKey slotById) with
  | none => ⟨.noEligibleWork, none, "no_eligible_work", excluded⟩
  | some selected => ⟨.selected, some selected, "selected", excluded⟩

end Selection

/-- `_blocked` -/
def blocked (reason : String) : TwoTokenSchedulerSelection where
  status := .blocked
  selectedWork := none
  reason

/-- `select_two_token_scheduler_work` -/
def selectTwoTokenSchedulerWork (R : Value.Rendering) (slots : List TwoTokenSlot)
    (items : List SchedulerWorkItem) (now : Datetime)
    (ceilings : CampaignSchedulerCeilings) (stopReasons : List String) :
    TwoTokenSchedulerSelection :=
  if slots.length ≠ 2 then blocked "active_token_slot_count_not_two"
  else
    match validatedSlots 0 [] [] slots, validatedWorkItems R [] items with
    | .error text, _ => blocked text
    | .ok _, .error text => blocked text
    | .ok slotById, .ok _ =>
      match stopReasons.find? (· ∈ sharedStopReasons) with
      | some reason => blocked (lower reason)
      | none =>
        match exhaustedCeilingReason ceilings with
        | some reason => blocked reason
        | none => selectEligible slotById now.instantUtc items

end PrinterV1.Scheduler
