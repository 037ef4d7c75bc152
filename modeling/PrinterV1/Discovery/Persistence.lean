import PrinterV1.Discovery.AcquisitionPlan
import PrinterV1.Foundation.Sorting
import PrinterV1.Foundation.WriteOnce

/-!
# Discovery persistence

The eleven writers of `discovery/persistence.py`. Each checks its arguments, looks for
the row under its id, compares some columns or a content hash, and inserts a row where
there is none. A row is its arguments, as they are stored, with the columns that the
writer adds: hashes, a derived key and the clock.
-/

namespace PrinterV1.Discovery.Persistence

open Python WriteOnce

/-! ## Checks of arguments -/

/-- `WORK_TYPES` -/
def workTypes : List String :=
  ["DISCOVERY_PUMPFUN_LATEST", "DISCOVERY_DEXSCREENER_ACTIVE",
    "DISCOVERY_GECKOTERMINAL_TRENDING_ACTIVE", "DISCOVERY_SOLANA_TRACKER_TRENDING_TOP",
    "DISCOVERY_IDENTITY_MERGE", "DISCOVERY_ORIGIN_VERIFICATION", "DISCOVERY_PUMPSWAP_CONFIRMATION",
    "DISCOVERY_FIXED_ELIGIBILITY_GATES", "DISCOVERY_UNIFORM_SELECTION",
    "DISCOVERY_TRACKING_HANDOFF_SLOT_1", "DISCOVERY_TRACKING_HANDOFF_SLOT_2"]

/-- `CHANNELS` -/
def channels : List String :=
  ["LATEST_PUMPFUN", "TRENDING_PUMPFUN", "TOP_PUMPFUN", "ACTIVE_PUMPFUN"]

/-- `CONTINUITY_STATES` -/
def continuityStates : List String := ["NONE", "CONTIGUOUS", "GAPPED", "UNKNOWN"]

/-- `FORBIDDEN_FACTUAL_FIELDS` -/
def forbiddenFactualFields : List String :=
  ["rank", "score", "gt_score", "risk", "promoted", "popularity", "response_order",
    "performanceRank", "jupiterVerified", "holders", "boost", "sponsored"]

/-- `_required` -/
def required (value label : String) : Except String String :=
  if strip value = "" then throw (label ++ " is required") else return strip value

/-- `_sha256_hex` -/
def sha256Hex (value label : String) : Except String String := do
  let text := lower (← required value label)
  if text.length ≠ 64 ∨ text.toList.any fun ch => ch ∉ "0123456789abcdef".toList then
    throw (label ++ " must be a 64-char lowercase hex digest")
  return text

mutual
/-- The value has a JSON text: it holds no infinity and no not-a-number. -/
def encodable : Value → Bool
  | .inf _ => false
  | .nan => false
  | .list xs => encodableList xs
  | .dict entries => encodableEntries entries
  | _ => true
  termination_by structural x => x

def encodableList : List Value → Bool
  | [] => true
  | x :: xs => encodable x && encodableList xs

def encodableEntries : List (String × Value) → Bool
  | [] => true
  | (_, x) :: entries => encodable x && encodableEntries entries
end

/-- `_canonical_json`: the text is that of the value. -/
def canonicalJson (value : Value) (label : String) : Except String Value :=
  if encodable value then return value else throw (label ++ " is not canonical JSON")

/-- `_assert_no_forbidden_fields` -/
def assertNoForbiddenFields (payload : Dict) (label : String) : Except String Unit :=
  match payload.find? fun e => e.1 ∈ forbiddenFactualFields with
  | some e => throw (label ++ " must not store non-authoritative field: " ++ e.1)
  | none => return ()

def optText (text : Option String) : Value := text.elim .none .str

def optInt (n : Option ℤ) : Value := n.elim .none .int

/-- `candidate_identity_key` of a mint that is filled. -/
def candidateIdentityKey (mint : String) (market lifecycle : Option String) : String :=
  "solana-mainnet:" ++ mint ++ "|" ++ strip (market.getD "") ++ "|" ++ strip (lifecycle.getD "")

/-! ## Rows -/

structure BatchArguments where
  discoveryBatchId : String
  campaignId : String
  configurationId : String
  runId : String
  cycleId : String
  cycleCutoff : String
  policyVersion : String
  providerContractVersions : Dict
  gitProvenanceIdentity : String
  campaignSelectionSeedIdentity : String
  cycleSeedHash : String
  pumpContinuityState : String := "NONE"
  pumpCursorSlot : Option ℤ := none
  pumpCursorSignature : Option String := none
  batchState : String := "PLANNED"
  deriving DecidableEq, Repr

structure BatchRow extends BatchArguments where
  canonicalHash : String
  createdAt : String
  deriving DecidableEq, Repr

structure WorkArguments where
  discoveryWorkId : String
  discoveryBatchId : String
  campaignId : String
  runId : String
  cycleId : String
  schedulerJobId : ℤ
  workType : String
  deadlineAt : String
  workState : String := "PENDING"
  firstTerminalCause : Option String := none
  terminalAt : Option String := none
  deriving DecidableEq, Repr

structure WorkRow extends WorkArguments where
  createdAt : String
  updatedAt : String
  deriving DecidableEq, Repr

structure WorkSourceArguments where
  discoveryWorkId : String
  linkOrdinal : ℤ
  sourceRequestId : Option ℤ := none
  sourceResponseId : Option ℤ := none
  sourceFailureId : Option ℤ := none
  deriving DecidableEq, Repr

structure WorkSourceRow extends WorkSourceArguments where
  createdAt : String
  deriving DecidableEq, Repr

structure ObservationArguments where
  observationId : String
  discoveryBatchId : String
  discoveryWorkId : String
  campaignId : String
  runId : String
  cycleId : String
  sourceName : String
  requestKind : String
  channel : String
  mintIdentity : String
  observedAt : String
  capturedAt : String
  rawPayloadHash : String
  factualPayload : Dict
  marketIdentity : Option String := none
  lifecycleIdentity : Option String := none
  sourceRequestId : Option ℤ := none
  sourceResponseId : Option ℤ := none
  sourceFailureId : Option ℤ := none
  deriving DecidableEq, Repr

structure ObservationRow extends ObservationArguments where
  observationHash : String
  createdAt : String
  deriving DecidableEq, Repr

structure CandidateArguments where
  mergedCandidateId : String
  discoveryBatchId : String
  campaignId : String
  runId : String
  cycleId : String
  mintIdentity : String
  channelLabels : List String
  identityConflicts : List Value := []
  evidenceGaps : List Value := []
  originVerificationState : String := "PENDING"
  pumpswapConfirmationState : String := "NOT_REQUIRED"
  marketIdentity : Option String := none
  lifecycleIdentity : Option String := none
  firstFailedEligibilityGate : Option String := none
  deriving DecidableEq, Repr

structure CandidateRow extends CandidateArguments where
  candidateIdentityKey : String
  mergedCandidateHash : String
  createdAt : String
  deriving DecidableEq, Repr

structure ContributionArguments where
  mergedCandidateId : String
  observationId : String
  contributionOrdinal : ℤ
  deriving DecidableEq, Repr

structure ContributionRow extends ContributionArguments where
  createdAt : String
  deriving DecidableEq, Repr

structure OriginArguments where
  originVerificationId : String
  discoveryBatchId : String
  mergedCandidateId : String
  mintIdentity : String
  admissionState : String
  verificationState : String
  sourceRequestId : Option ℤ := none
  sourceResponseId : Option ℤ := none
  sourceFailureId : Option ℤ := none
  transactionSignature : Option String := none
  programId : Option String := none
  slot : Option ℤ := none
  evidenceDetail : Dict := []
  deriving DecidableEq, Repr

structure OriginRow extends OriginArguments where
  createdAt : String
  deriving DecidableEq, Repr

structure PumpswapArguments where
  pumpswapConfirmationId : String
  discoveryBatchId : String
  mergedCandidateId : String
  mintIdentity : String
  admissionState : String
  confirmationState : String
  marketIdentity : Option String := none
  sourceRequestId : Option ℤ := none
  sourceResponseId : Option ℤ := none
  sourceFailureId : Option ℤ := none
  poolAddress : Option String := none
  programId : Option String := none
  evidenceDetail : Dict := []
  deriving DecidableEq, Repr

structure PumpswapRow extends PumpswapArguments where
  createdAt : String
  deriving DecidableEq, Repr

structure SelectionArguments where
  discoveryBatchId : String
  selectionBatchId : String
  campaignId : String
  runId : String
  cycleId : String
  deriving DecidableEq, Repr

structure SelectionRow extends SelectionArguments where
  createdAt : String
  deriving DecidableEq, Repr

structure SelectedItemArguments where
  discoveryBatchId : String
  selectionBatchId : String
  selectionItemId : ℤ
  mergedCandidateId : String
  campaignId : String
  runId : String
  cycleId : String
  tokenSlotId : Option String := none
  trackingHandoffState : String := "NOT_ACTIVATED"
  firstWindow15mSchedulerJobId : Option ℤ := none
  deriving DecidableEq, Repr

structure SelectedItemRow extends SelectedItemArguments where
  createdAt : String
  deriving DecidableEq, Repr

structure ReportArguments where
  reportLinkId : String
  discoveryBatchId : String
  campaignId : String
  configurationId : String
  reportPayload : Dict
  reportId : Option String := none
  discoveryWorkId : Option String := none
  deriving DecidableEq, Repr

structure ReportRow extends ReportArguments where
  reportHash : String
  createdAt : String
  deriving DecidableEq, Repr

/-! ## Payloads of the content hashes -/

/-- `discovery_batch_canonical_payload` -/
def BatchArguments.payload (a : BatchArguments) : Value :=
  .dict [("campaign_id", .str a.campaignId),
    ("campaign_selection_seed_identity", .str a.campaignSelectionSeedIdentity),
    ("configuration_id", .str a.configurationId), ("cycle_cutoff", .str a.cycleCutoff),
    ("cycle_id", .str a.cycleId), ("cycle_seed_hash", .str a.cycleSeedHash),
    ("discovery_batch_id", .str a.discoveryBatchId),
    ("git_provenance_identity", .str a.gitProvenanceIdentity),
    ("policy_version", .str a.policyVersion),
    ("provider_contract_versions", .dict a.providerContractVersions),
    ("pump_continuity_state", .str a.pumpContinuityState),
    ("pump_cursor_signature", optText a.pumpCursorSignature),
    ("pump_cursor_slot", optInt a.pumpCursorSlot), ("run_id", .str a.runId)]

/-- `observation_canonical_payload` -/
def ObservationArguments.payload (a : ObservationArguments) : Value :=
  .dict [("captured_at", .str a.capturedAt), ("channel", .str a.channel),
    ("discovery_batch_id", .str a.discoveryBatchId), ("discovery_work_id", .str a.discoveryWorkId),
    ("factual_payload", .dict a.factualPayload),
    ("lifecycle_identity", optText a.lifecycleIdentity),
    ("market_identity", optText a.marketIdentity), ("mint_identity", .str a.mintIdentity),
    ("observed_at", .str a.observedAt), ("raw_payload_hash", .str a.rawPayloadHash),
    ("request_kind", .str a.requestKind), ("source_failure_id", optInt a.sourceFailureId),
    ("source_name", .str a.sourceName), ("source_request_id", optInt a.sourceRequestId),
    ("source_response_id", optInt a.sourceResponseId)]

/-- `merged_candidate_canonical_payload` of labels that are checked and sorted. -/
def CandidateArguments.payload (a : CandidateArguments) : Value :=
  .dict [("candidate_identity_key", .str (Persistence.candidateIdentityKey a.mintIdentity
      a.marketIdentity a.lifecycleIdentity)),
    ("channel_labels", .list (a.channelLabels.map .str)),
    ("discovery_batch_id", .str a.discoveryBatchId), ("evidence_gaps", .list a.evidenceGaps),
    ("first_failed_eligibility_gate", optText a.firstFailedEligibilityGate),
    ("identity_conflicts", .list a.identityConflicts),
    ("lifecycle_identity", optText a.lifecycleIdentity),
    ("market_identity", optText a.marketIdentity), ("mint_identity", .str a.mintIdentity),
    ("origin_verification_state", .str a.originVerificationState),
    ("pumpswap_confirmation_state", .str a.pumpswapConfirmationState)]

/-! ## The arguments as they are stored -/

def BatchArguments.checked (a : BatchArguments) : Except String BatchArguments := do
  let discoveryBatchId ← required a.discoveryBatchId "discovery_batch_id"
  let campaignId ← required a.campaignId "campaign_id"
  let configurationId ← required a.configurationId "configuration_id"
  let runId ← required a.runId "run_id"
  let cycleId ← required a.cycleId "cycle_id"
  let cycleCutoff ← required a.cycleCutoff "cycle_cutoff"
  let policyVersion ← required a.policyVersion "policy_version"
  let gitProvenanceIdentity ← required a.gitProvenanceIdentity "git_provenance_identity"
  let campaignSelectionSeedIdentity ←
    required a.campaignSelectionSeedIdentity "campaign_selection_seed_identity"
  let cycleSeedHash ← sha256Hex a.cycleSeedHash "cycle_seed_hash"
  let pumpContinuityState ← required a.pumpContinuityState "pump_continuity_state"
  if pumpContinuityState ∉ continuityStates then throw "invalid pump_continuity_state"
  let _ ← canonicalJson (.dict a.providerContractVersions) "provider_contract_versions"
  return { a with
    discoveryBatchId, campaignId, configurationId, runId, cycleId, cycleCutoff, policyVersion
    gitProvenanceIdentity, campaignSelectionSeedIdentity, cycleSeedHash, pumpContinuityState }

def WorkArguments.checked (a : WorkArguments) : Except String WorkArguments := do
  let discoveryWorkId ← required a.discoveryWorkId "discovery_work_id"
  let discoveryBatchId ← required a.discoveryBatchId "discovery_batch_id"
  let campaignId ← required a.campaignId "campaign_id"
  let runId ← required a.runId "run_id"
  let cycleId ← required a.cycleId "cycle_id"
  let workType ← required a.workType "work_type"
  if workType ∉ workTypes then throw ("unsupported discovery work_type: " ++ workType)
  let deadlineAt ← required a.deadlineAt "deadline_at"
  let workState ← required a.workState "work_state"
  return { a with
    discoveryWorkId, discoveryBatchId, campaignId, runId, cycleId, workType, deadlineAt, workState }

def WorkSourceArguments.checked (a : WorkSourceArguments) : Except String WorkSourceArguments := do
  let discoveryWorkId ← required a.discoveryWorkId "discovery_work_id"
  if a.linkOrdinal ≤ 0 then throw "link_ordinal must be positive"
  if a.sourceRequestId = none ∧ a.sourceResponseId = none ∧ a.sourceFailureId = none then
    throw "source link requires at least one source row"
  return { a with discoveryWorkId }

def ObservationArguments.checked (a : ObservationArguments) :
    Except String ObservationArguments := do
  let observationId ← required a.observationId "observation_id"
  let discoveryBatchId ← required a.discoveryBatchId "discovery_batch_id"
  let discoveryWorkId ← required a.discoveryWorkId "discovery_work_id"
  let campaignId ← required a.campaignId "campaign_id"
  let runId ← required a.runId "run_id"
  let cycleId ← required a.cycleId "cycle_id"
  let sourceName ← required a.sourceName "source_name"
  let requestKind ← required a.requestKind "request_kind"
  let channel ← required a.channel "channel"
  if channel ∉ channels then throw ("unsupported channel: " ++ channel)
  let mintIdentity ← required a.mintIdentity "mint_identity"
  let observedAt ← required a.observedAt "observed_at"
  let capturedAt ← required a.capturedAt "captured_at"
  let rawPayloadHash ← sha256Hex a.rawPayloadHash "raw_payload_hash"
  assertNoForbiddenFields a.factualPayload "observation factual payload"
  let stored := { a with
    observationId, discoveryBatchId, discoveryWorkId, campaignId, runId, cycleId, sourceName
    requestKind, channel, mintIdentity, observedAt, capturedAt, rawPayloadHash }
  let _ ← canonicalJson stored.payload "provider observation"
  return stored

def CandidateArguments.checked (a : CandidateArguments) : Except String CandidateArguments := do
  let mergedCandidateId ← required a.mergedCandidateId "merged_candidate_id"
  let discoveryBatchId ← required a.discoveryBatchId "discovery_batch_id"
  let campaignId ← required a.campaignId "campaign_id"
  let runId ← required a.runId "run_id"
  let cycleId ← required a.cycleId "cycle_id"
  let mintIdentity ← required a.mintIdentity "mint_identity"
  let labels ← a.channelLabels.mapM fun label => required label "channel label"
  let channelLabels := sortedSet labels
  match channelLabels.find? fun label => label ∉ channels with
  | some label => throw ("unsupported channel label: " ++ label)
  | none =>
    let stored := { a with
      mergedCandidateId, discoveryBatchId, campaignId, runId, cycleId, mintIdentity, channelLabels }
    let _ ← canonicalJson stored.payload "merged candidate"
    return stored

def ContributionArguments.checked (a : ContributionArguments) :
    Except String ContributionArguments := do
  let mergedCandidateId ← required a.mergedCandidateId "merged_candidate_id"
  let observationId ← required a.observationId "observation_id"
  if a.contributionOrdinal ≤ 0 then throw "contribution_ordinal must be positive"
  return { a with mergedCandidateId, observationId }

def OriginArguments.checked (a : OriginArguments) : Except String OriginArguments := do
  let originVerificationId ← required a.originVerificationId "origin_verification_id"
  let discoveryBatchId ← required a.discoveryBatchId "discovery_batch_id"
  let mergedCandidateId ← required a.mergedCandidateId "merged_candidate_id"
  let mintIdentity ← required a.mintIdentity "mint_identity"
  let _ ← canonicalJson (.dict a.evidenceDetail) "evidence_detail"
  return { a with originVerificationId, discoveryBatchId, mergedCandidateId, mintIdentity }

def PumpswapArguments.checked (a : PumpswapArguments) : Except String PumpswapArguments := do
  let pumpswapConfirmationId ← required a.pumpswapConfirmationId "pumpswap_confirmation_id"
  let discoveryBatchId ← required a.discoveryBatchId "discovery_batch_id"
  let mergedCandidateId ← required a.mergedCandidateId "merged_candidate_id"
  let mintIdentity ← required a.mintIdentity "mint_identity"
  let _ ← canonicalJson (.dict a.evidenceDetail) "evidence_detail"
  return { a with pumpswapConfirmationId, discoveryBatchId, mergedCandidateId, mintIdentity }

def SelectionArguments.checked (a : SelectionArguments) : Except String SelectionArguments := do
  let discoveryBatchId ← required a.discoveryBatchId "discovery_batch_id"
  let selectionBatchId ← required a.selectionBatchId "selection_batch_id"
  let campaignId ← required a.campaignId "campaign_id"
  let runId ← required a.runId "run_id"
  let cycleId ← required a.cycleId "cycle_id"
  return { discoveryBatchId, selectionBatchId, campaignId, runId, cycleId }

def SelectedItemArguments.checked (a : SelectedItemArguments) :
    Except String SelectedItemArguments := do
  let discoveryBatchId ← required a.discoveryBatchId "discovery_batch_id"
  let selectionBatchId ← required a.selectionBatchId "selection_batch_id"
  let mergedCandidateId ← required a.mergedCandidateId "merged_candidate_id"
  let campaignId ← required a.campaignId "campaign_id"
  let runId ← required a.runId "run_id"
  let cycleId ← required a.cycleId "cycle_id"
  return { a with
    discoveryBatchId, selectionBatchId, mergedCandidateId, campaignId, runId, cycleId }

def ReportArguments.checked (a : ReportArguments) : Except String ReportArguments := do
  let reportLinkId ← required a.reportLinkId "report_link_id"
  let discoveryBatchId ← required a.discoveryBatchId "discovery_batch_id"
  let campaignId ← required a.campaignId "campaign_id"
  let configurationId ← required a.configurationId "configuration_id"
  match ["provider_rank", "provider_score", "yield_rank", "quality_rank"].find?
      fun banned => a.reportPayload.has banned with
  | some banned => throw ("provider report must not store " ++ banned)
  | none =>
    let _ ← canonicalJson (.dict a.reportPayload) "provider report payload"
    return { a with reportLinkId, discoveryBatchId, campaignId, configurationId }

/-! ## The tables -/

inductive Kind
  | batch | work | workSource | observation | candidate | contribution | origin | pumpswap
  | selection | selectedItem | report
  deriving DecidableEq, Repr

abbrev Row : Kind → Type
  | .batch => BatchRow
  | .work => WorkRow
  | .workSource => WorkSourceRow
  | .observation => ObservationRow
  | .candidate => CandidateRow
  | .contribution => ContributionRow
  | .origin => OriginRow
  | .pumpswap => PumpswapRow
  | .selection => SelectionRow
  | .selectedItem => SelectedItemRow
  | .report => ReportRow

abbrev Key : Kind → Type
  | .workSource => String × ℤ
  | .contribution => String × String
  | .selection => String × String
  | .selectedItem => String × ℤ
  | _ => String

instance (priority := low) : (k : Kind) → DecidableEq (Key k)
  | .batch => inferInstanceAs (DecidableEq String)
  | .work => inferInstanceAs (DecidableEq String)
  | .workSource => inferInstanceAs (DecidableEq (String × ℤ))
  | .observation => inferInstanceAs (DecidableEq String)
  | .candidate => inferInstanceAs (DecidableEq String)
  | .contribution => inferInstanceAs (DecidableEq (String × String))
  | .origin => inferInstanceAs (DecidableEq String)
  | .pumpswap => inferInstanceAs (DecidableEq String)
  | .selection => inferInstanceAs (DecidableEq (String × String))
  | .selectedItem => inferInstanceAs (DecidableEq (String × ℤ))
  | .report => inferInstanceAs (DecidableEq String)

/-- The primary keys. -/
def rowKey : (k : Kind) → Row k → Key k
  | .batch, r => r.discoveryBatchId
  | .work, r => r.discoveryWorkId
  | .workSource, r => (r.discoveryWorkId, r.linkOrdinal)
  | .observation, r => r.observationId
  | .candidate, r => r.mergedCandidateId
  | .contribution, r => (r.mergedCandidateId, r.observationId)
  | .origin, r => r.originVerificationId
  | .pumpswap, r => r.pumpswapConfirmationId
  | .selection, r => (r.discoveryBatchId, r.selectionBatchId)
  | .selectedItem, r => (r.discoveryBatchId, r.selectionItemId)
  | .report, r => r.reportLinkId

abbrev Tables := Store rowKey

def Tables.empty : Tables := fun _ => Table.empty

/-- The rows of the campaign that a batch has to be owned by; none of the writers touches
them. -/
structure Campaigns where
  /-- `cycle_id`, `run_id`, `campaign_id` -/
  cycles : List (String × String × String)
  /-- `configuration_id`, `campaign_id` -/
  configurations : List (String × String)

/-- `_owner_row` finds a row. -/
def Campaigns.owns (c : Campaigns) (a : BatchArguments) : Bool :=
  (a.cycleId, a.runId, a.campaignId) ∈ c.cycles ∧
    (a.configurationId, a.campaignId) ∈ c.configurations

/-! ## The writers -/

section Writers

variable (digest : Value → Digest) (campaigns : Campaigns)

/-- `_sha256_text(_canonical_json(payload))` -/
def contentHash (payload : Value) : String := (digest payload).text

def batchRow (now : String) (a : BatchArguments) : BatchRow :=
  { a with canonicalHash := contentHash digest a.payload, createdAt := now }

def observationRow (now : String) (a : ObservationArguments) : ObservationRow :=
  { a with observationHash := contentHash digest a.payload, createdAt := now }

def candidateRow (now : String) (a : CandidateArguments) : CandidateRow :=
  { a with
    candidateIdentityKey := candidateIdentityKey a.mintIdentity a.marketIdentity a.lifecycleIdentity
    mergedCandidateHash := contentHash digest a.payload
    createdAt := now }

def reportRow (now : String) (a : ReportArguments) : ReportRow :=
  { a with reportHash := contentHash digest (.dict a.reportPayload), createdAt := now }

/-- A writer that compares the row under its id, and writes where there is none. -/
def comparing {ρ : Type} (agrees : ρ → ρ → Bool) (conflict : String) :
    Writer ρ String (Option String) where
  gate := fun _ => none
  agrees := agrees
  conflict := conflict
  instead := fun _ => none
  result := fun _ => none

def batchWriter : Writer BatchRow String (Option String) where
  gate := fun row => if campaigns.owns row.toBatchArguments then none
    else some "campaign/configuration/run/cycle ownership mismatch"
  agrees := fun old row => old.canonicalHash = row.canonicalHash
  conflict := "conflicting discovery batch repeat rejected"
  instead := fun _ => none
  result := fun row => some row.canonicalHash

/-- `insert_discovery_batch` -/
def insertDiscoveryBatch (s : Tables) (a : BatchArguments) (now : String)
    (refusal : Option String) : Except String (Option String) × Tables :=
  write s .batch (batchWriter campaigns) (a.checked.map (batchRow digest now)) refusal

def workWriter : Writer WorkRow String (Option String) :=
  comparing (fun old row => old.toWorkArguments = row.toWorkArguments)
    "conflicting discovery work repeat rejected"

/-- `insert_discovery_work` -/
def insertDiscoveryWork (s : Tables) (a : WorkArguments) (now : String)
    (refusal : Option String) : Except String (Option String) × Tables :=
  write s .work workWriter
    (a.checked.map fun a => { a with createdAt := now, updatedAt := now }) refusal

def workSourceWriter : Writer WorkSourceRow String (Option String) :=
  comparing (fun old row => (old.sourceRequestId, old.sourceResponseId, old.sourceFailureId) =
      (row.sourceRequestId, row.sourceResponseId, row.sourceFailureId))
    "conflicting discovery work source link rejected"

/-- `link_discovery_work_source` -/
def linkDiscoveryWorkSource (s : Tables) (a : WorkSourceArguments) (now : String)
    (refusal : Option String) : Except String (Option String) × Tables :=
  write s .workSource workSourceWriter
    (a.checked.map fun a => { a with createdAt := now }) refusal

def observationWriter (s : Tables) : Writer ObservationRow String (Option String) where
  gate := fun _ => none
  agrees := fun old row => old.observationHash = row.observationHash
  conflict := "conflicting provider observation repeat rejected"
  -- the row of the same content has another id, since none has this one
  instead := fun row =>
    ((s .observation).rows.find? fun old => old.discoveryBatchId = row.discoveryBatchId ∧
      old.observationHash = row.observationHash).map fun _ =>
        .error "identical observation content already owned by another id"
  result := fun row => some row.observationHash

/-- `insert_provider_observation` -/
def insertProviderObservation (s : Tables) (a : ObservationArguments) (now : String)
    (refusal : Option String) : Except String (Option String) × Tables :=
  write s .observation (observationWriter s) (a.checked.map (observationRow digest now)) refusal

/-- The candidate of the batch that has the identity. -/
def byKey (s : Tables) (row : CandidateRow) : Option CandidateRow :=
  (s .candidate).rows.find? fun old => old.discoveryBatchId = row.discoveryBatchId ∧
    old.candidateIdentityKey = row.candidateIdentityKey

def candidateWriter (s : Tables) : Writer CandidateRow String (Option String) where
  gate := fun _ => none
  agrees := fun old row => old.mergedCandidateHash = row.mergedCandidateHash
  conflict := "conflicting merged candidate repeat rejected"
  instead := fun row => (byKey s row).map fun old =>
    if old.mergedCandidateHash = row.mergedCandidateHash then .ok ()
    else .error "duplicate candidate authority rejected for batch identity"
  result := fun row => some row.mergedCandidateHash

/-- `insert_merged_candidate` -/
def insertMergedCandidate (s : Tables) (a : CandidateArguments) (now : String)
    (refusal : Option String) : Except String (Option String) × Tables :=
  write s .candidate (candidateWriter s) (a.checked.map (candidateRow digest now)) refusal

def contributionWriter : Writer ContributionRow String (Option String) :=
  comparing (fun old row => old.contributionOrdinal = row.contributionOrdinal)
    "conflicting candidate contribution repeat rejected"

/-- `link_candidate_contribution` -/
def linkCandidateContribution (s : Tables) (a : ContributionArguments) (now : String)
    (refusal : Option String) : Except String (Option String) × Tables :=
  write s .contribution contributionWriter
    (a.checked.map fun a => { a with createdAt := now }) refusal

/-- The columns `insert_origin_verification` compares are equal. -/
def OriginArguments.Agree (a b : OriginArguments) : Prop :=
  a.admissionState = b.admissionState ∧ a.verificationState = b.verificationState ∧
    a.transactionSignature = b.transactionSignature ∧ a.programId = b.programId ∧
    a.slot = b.slot ∧ a.evidenceDetail = b.evidenceDetail

instance (a b : OriginArguments) : Decidable (a.Agree b) := inferInstanceAs (Decidable (_ ∧ _))

def originWriter : Writer OriginRow String (Option String) :=
  comparing (fun old row => old.toOriginArguments.Agree row.toOriginArguments)
    "conflicting origin verification repeat rejected"

/-- `insert_origin_verification` -/
def insertOriginVerification (s : Tables) (a : OriginArguments) (now : String)
    (refusal : Option String) : Except String (Option String) × Tables :=
  write s .origin originWriter
    (a.checked.map fun a => { a with createdAt := now }) refusal

/-- The columns `insert_pumpswap_confirmation` compares are equal. -/
def PumpswapArguments.Agree (a b : PumpswapArguments) : Prop :=
  a.admissionState = b.admissionState ∧ a.confirmationState = b.confirmationState ∧
    a.marketIdentity = b.marketIdentity ∧ a.poolAddress = b.poolAddress ∧
    a.programId = b.programId ∧ a.evidenceDetail = b.evidenceDetail

instance (a b : PumpswapArguments) : Decidable (a.Agree b) := inferInstanceAs (Decidable (_ ∧ _))

def pumpswapWriter : Writer PumpswapRow String (Option String) :=
  comparing (fun old row => old.toPumpswapArguments.Agree row.toPumpswapArguments)
    "conflicting pumpswap confirmation repeat rejected"

/-- `insert_pumpswap_confirmation` -/
def insertPumpswapConfirmation (s : Tables) (a : PumpswapArguments) (now : String)
    (refusal : Option String) : Except String (Option String) × Tables :=
  write s .pumpswap pumpswapWriter
    (a.checked.map fun a => { a with createdAt := now }) refusal

def selectionWriter : Writer SelectionRow String (Option String) :=
  comparing (fun old row => old.campaignId = row.campaignId ∧ old.runId = row.runId ∧
      old.cycleId = row.cycleId)
    "conflicting selection batch link rejected"

/-- `link_selection_batch` -/
def linkSelectionBatch (s : Tables) (a : SelectionArguments) (now : String)
    (refusal : Option String) : Except String (Option String) × Tables :=
  write s .selection selectionWriter
    (a.checked.map fun a => { a with createdAt := now }) refusal

/-- The columns `link_selected_item` compares are equal. -/
def SelectedItemArguments.Agree (a b : SelectedItemArguments) : Prop :=
  a.selectionBatchId = b.selectionBatchId ∧ a.mergedCandidateId = b.mergedCandidateId ∧
    a.campaignId = b.campaignId ∧ a.runId = b.runId ∧ a.cycleId = b.cycleId ∧
    a.tokenSlotId = b.tokenSlotId ∧ a.trackingHandoffState = b.trackingHandoffState ∧
    a.firstWindow15mSchedulerJobId = b.firstWindow15mSchedulerJobId

instance (a b : SelectedItemArguments) : Decidable (a.Agree b) :=
  inferInstanceAs (Decidable (_ ∧ _))

def selectedItemWriter : Writer SelectedItemRow String (Option String) :=
  comparing (fun old row => old.toSelectedItemArguments.Agree row.toSelectedItemArguments)
    "conflicting selected item link rejected"

/-- `link_selected_item` -/
def linkSelectedItem (s : Tables) (a : SelectedItemArguments) (now : String)
    (refusal : Option String) : Except String (Option String) × Tables :=
  write s .selectedItem selectedItemWriter
    (a.checked.map fun a => { a with createdAt := now }) refusal

def reportWriter : Writer ReportRow String (Option String) where
  gate := fun _ => none
  agrees := fun old row => old.reportHash = row.reportHash
  conflict := "conflicting provider report link repeat rejected"
  instead := fun _ => none
  result := fun row => some row.reportHash

/-- `insert_provider_report_link` -/
def insertProviderReportLink (s : Tables) (a : ReportArguments) (now : String)
    (refusal : Option String) : Except String (Option String) × Tables :=
  write s .report reportWriter (a.checked.map (reportRow digest now)) refusal

end Writers

end PrinterV1.Discovery.Persistence
