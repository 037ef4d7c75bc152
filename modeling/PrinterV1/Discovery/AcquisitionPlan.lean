import PrinterV1.Foundation.Sorting
import PrinterV1.Python.Datetime
import PrinterV1.Python.Value

/-!
# The frozen acquisition plan

The plan of one acquisition execution: its fields, the payload its policy hash
is taken of, and the checks every run repeats. The digest and the conversions
of the storage engine are those of a `Library`.
-/

namespace PrinterV1.Discovery

open Python

/-- A SHA-256 digest in hexadecimal digits. -/
structure Digest where
  text : String
  length_eq : text.length = 64

/-- What the code takes from its library: the digest of a value's canonical JSON
text, or of the text itself, how values are written as text, and what SQLite
keeps of a value bound to a `TEXT` and to an `INTEGER` column. -/
structure Library where
  digest : Value → Digest
  rendering : Value.Rendering
  textColumn : Value → Value
  integerColumn : Value → Value

/-- What a call can raise: the error of this component, an exception of the
language, or a statement the database refuses. -/
inductive Fault
  | acquisition (code : String) (detail : String)
  | python (e : PyError)
  | database (text : String)
  deriving DecidableEq, Repr

/-- `_sha` -/
def sha (L : Library) (payload : Value) : String := (L.digest payload).text

/-- `_identifier` -/
def identifier (L : Library) (kind : String) (payload : Value) : String :=
  kind ++ "-" ++ String.ofList ((sha L payload).toList.take 32)

/-- The last instant a datetime can denote. -/
def maxInstant : Instant := ymdToDays 9999 12 31 * microsPerDay + microsPerDay - 1

/-- `_iso` -/
def iso (value : String) : Except Fault Instant :=
  match fromisoformat (replaceZulu value) with
  | none => .error (.acquisition "INVALID_TIMESTAMP" value)
  | some parsed =>
    if parsed.utcoffset = none then .error (.acquisition "NAIVE_TIMESTAMP" value)
    else if parsed.instantUtc < 0 ∨ maxInstant < parsed.instantUtc then
      .error (.python (.overflowError "date value out of range"))
    else .ok parsed.instantUtc

def schemaVersion : String := "V2_9_8B_CANDIDATE_ACQUISITION_V1"
def certificateVersion : String := "V2_9_8B_CANDIDATE_CERTIFICATE_V1"
def seedDomain : String := "PrinterV1|candidate-acquisition-foundation-v1|"
def approvedActiveMemoryCapacity : ℤ := 2
def minSelectionCapacity : ℤ := 1
def maxSelectionCapacity : ℤ := 16
def schedulerOwner : String := "Central Scheduler"
def schedulerJobKind : String := "DISCOVERY_REFRESH"
def solanaMainnet : String := "solana-mainnet"
def prohibitedFoundationSources : List String := ["dextools", "pumpportal"]

/-- A plan, with the fields and types `build_acquisition_plan` gives it. -/
structure Plan where
  schemaVersion : String
  executionId : String
  network : String
  selectionCapacity : ℤ
  candidateAcquisitionCapacity : ℤ
  candidateReserveTarget : ℤ
  approvedActiveMemoryCapacity : ℤ
  selectionSeed : String
  seedDomain : String
  windowStart : String
  windowEnd : String
  cutoffAt : String
  finalizedCutoffSlot : ℤ
  allowedSources : List String
  sourceBudgets : Value
  schedulerOwner : String
  schedulerJobKind : String
  sourceGovernorRequired : Bool
  noRetry : Bool
  noReconnect : Bool
  gitProvenance : String
  policyHash : String
  policyId : String
  deriving DecidableEq, Repr

/-- The plan without what changes from execution to execution. -/
def Plan.policyPayload (p : Plan) : Value :=
  .dict
    [("allowed_sources", .list (p.allowedSources.map .str)),
      ("approved_active_memory_capacity", .int p.approvedActiveMemoryCapacity),
      ("candidate_acquisition_capacity", .int p.candidateAcquisitionCapacity),
      ("candidate_reserve_target", .int p.candidateReserveTarget),
      ("git_provenance", .str p.gitProvenance), ("network", .str p.network),
      ("no_reconnect", .bool p.noReconnect), ("no_retry", .bool p.noRetry),
      ("scheduler_job_kind", .str p.schedulerJobKind), ("scheduler_owner", .str p.schedulerOwner),
      ("schema_version", .str p.schemaVersion), ("seed_domain", .str p.seedDomain),
      ("selection_capacity", .int p.selectionCapacity), ("selection_seed", .str p.selectionSeed),
      ("source_budgets", p.sourceBudgets),
      ("source_governor_required", .bool p.sourceGovernorRequired)]

/-- The whole plan. -/
def Plan.payload (p : Plan) : Value :=
  .dict
    [("allowed_sources", .list (p.allowedSources.map .str)),
      ("approved_active_memory_capacity", .int p.approvedActiveMemoryCapacity),
      ("candidate_acquisition_capacity", .int p.candidateAcquisitionCapacity),
      ("candidate_reserve_target", .int p.candidateReserveTarget), ("cutoff_at", .str p.cutoffAt),
      ("execution_id", .str p.executionId), ("finalized_cutoff_slot", .int p.finalizedCutoffSlot),
      ("git_provenance", .str p.gitProvenance), ("network", .str p.network),
      ("no_reconnect", .bool p.noReconnect), ("no_retry", .bool p.noRetry),
      ("policy_hash", .str p.policyHash), ("policy_id", .str p.policyId),
      ("scheduler_job_kind", .str p.schedulerJobKind), ("scheduler_owner", .str p.schedulerOwner),
      ("schema_version", .str p.schemaVersion), ("seed_domain", .str p.seedDomain),
      ("selection_capacity", .int p.selectionCapacity), ("selection_seed", .str p.selectionSeed),
      ("source_budgets", p.sourceBudgets),
      ("source_governor_required", .bool p.sourceGovernorRequired),
      ("window_end", .str p.windowEnd), ("window_start", .str p.windowStart)]

/-- The prohibited sources of a list, as the error names them. -/
def prohibitedSources (sources : List String) : List String :=
  sortedSet (sources.filter fun source => source ∈ prohibitedFoundationSources)

/-- A window of the three instants, in order. -/
def checkWindow (windowStart windowEnd cutoffAt : String) : Except Fault Unit := do
  let start ← iso windowStart
  let stop ← iso windowEnd
  let cutoff ← iso cutoffAt
  if start ≤ stop ∧ stop ≤ cutoff then return ()
  else throw (.acquisition "INVALID_FROZEN_WINDOW" "")

/-- The arguments of `build_acquisition_plan`. -/
structure PlanArgs where
  selectionCapacity : ℤ
  executionId : String
  selectionSeed : String
  windowStart : String
  windowEnd : String
  cutoffAt : String
  finalizedCutoffSlot : ℤ
  gitProvenance : String
  sourceBudgets : Value
  allowedSources : List String :=
    ["solana_rpc", "dexscreener", "geckoterminal", "birdeye", "goplus", "helius_free"]

def buildAcquisitionPlan (L : Library) (a : PlanArgs) : Except Fault Plan := do
  if ¬(minSelectionCapacity ≤ a.selectionCapacity ∧ a.selectionCapacity ≤ maxSelectionCapacity) then
    throw (.acquisition "INVALID_SELECTION_CAPACITY" "")
  if strip a.executionId = "" ∨ strip a.selectionSeed = "" then
    throw (.acquisition "MISSING_PLAN_IDENTITY" "")
  checkWindow a.windowStart a.windowEnd a.cutoffAt
  if a.finalizedCutoffSlot < 0 then throw (.acquisition "INVALID_FINALIZED_CUTOFF" "")
  let sources := sortedSet a.allowedSources
  if sources = [] then throw (.acquisition "EMPTY_ALLOWED_SOURCE_SET" "")
  if prohibitedSources sources ≠ [] then
    throw (.acquisition "FOUNDATION_SOURCE_CONTRACT_PROHIBITED"
      (",".intercalate (prohibitedSources sources)))
  let n := a.selectionCapacity
  let plan : Plan :=
    { schemaVersion := schemaVersion, executionId := a.executionId, network := solanaMainnet
      selectionCapacity := n, candidateAcquisitionCapacity := 2 * n
      candidateReserveTarget := n + (n + 1) / 2
      approvedActiveMemoryCapacity := approvedActiveMemoryCapacity
      selectionSeed := a.selectionSeed, seedDomain := seedDomain, windowStart := a.windowStart
      windowEnd := a.windowEnd, cutoffAt := a.cutoffAt
      finalizedCutoffSlot := a.finalizedCutoffSlot, allowedSources := sources
      sourceBudgets := a.sourceBudgets, schedulerOwner := schedulerOwner
      schedulerJobKind := schedulerJobKind, sourceGovernorRequired := true, noRetry := true
      noReconnect := true, gitProvenance := a.gitProvenance, policyHash := "", policyId := "" }
  return { plan with
    policyHash := sha L plan.policyPayload
    policyId := identifier L "capol" plan.policyPayload }

/-- The contracts of `_validate_plan`, in its order. -/
def checkPlan (L : Library) (p : Plan) : Except Fault Unit := do
  let n := p.selectionCapacity
  if ¬(1 ≤ n ∧ n ≤ 16) then throw (.acquisition "INVALID_SELECTION_CAPACITY" "")
  if p.candidateAcquisitionCapacity ≠ 2 * n then
    throw (.acquisition "INVALID_ACQUISITION_CAPACITY" "")
  if p.candidateReserveTarget ≠ n + (n + 1) / 2 then
    throw (.acquisition "INVALID_RESERVE_TARGET" "")
  if p.approvedActiveMemoryCapacity ≠ 2 then
    throw (.acquisition "ACTIVE_CAPACITY_UNLOCK_ATTEMPT" "")
  if p.schedulerOwner ≠ schedulerOwner ∨ p.schedulerJobKind ≠ schedulerJobKind then
    throw (.acquisition "CENTRAL_SCHEDULER_OWNERSHIP_REQUIRED" "")
  if ¬(p.sourceGovernorRequired = true ∧ p.noRetry = true ∧ p.noReconnect = true) then
    throw (.acquisition "UNBOUNDED_SOURCE_PLAN" "")
  if p.network ≠ solanaMainnet ∨ p.schemaVersion ≠ schemaVersion then
    throw (.acquisition "UNSUPPORTED_PLAN_CONTRACT" "")
  checkWindow p.windowStart p.windowEnd p.cutoffAt
  if p.finalizedCutoffSlot < 0 then throw (.acquisition "INVALID_FINALIZED_CUTOFF" "")
  if p.allowedSources ≠ sortedSet p.allowedSources then
    throw (.acquisition "NONCANONICAL_ALLOWED_SOURCES" "")
  if prohibitedSources p.allowedSources ≠ [] then
    throw (.acquisition "FOUNDATION_SOURCE_CONTRACT_PROHIBITED"
      (",".intercalate (prohibitedSources p.allowedSources)))
  if p.policyHash ≠ sha L p.policyPayload ∨ p.policyId ≠ identifier L "capol" p.policyPayload then
    throw (.acquisition "POLICY_IDENTITY_MISMATCH" "")

/-- A plan that is built passes its own check. -/
theorem checkPlan_of_build {a : PlanArgs} {p : Plan} (h : buildAcquisitionPlan L a = .ok p) :
    checkPlan L p = .ok () := by
  unfold buildAcquisitionPlan at h
  simp only [bind, Except.bind, pure, Except.pure, throw, throwThe, MonadExceptOf.throw] at h
  cases hwindow : checkWindow a.windowStart a.windowEnd a.cutoffAt with
  | error fault =>
    rw [hwindow] at h
    split_ifs at h
  | ok _ =>
    rw [hwindow] at h
    split_ifs at h with hcapacity hidentity hcutoff hempty hprohibited
    obtain rfl := Except.ok.inj h
    have hcapacity' : 1 ≤ a.selectionCapacity ∧ a.selectionCapacity ≤ 16 := hcapacity
    simp [checkPlan, bind, Except.bind, pure, Except.pure, hwindow, hcapacity', hcutoff,
      not_not.mp hprohibited, sortedSet_sortedSet, approvedActiveMemoryCapacity,
      Plan.policyPayload]

/-- `_validate_plan` -/
def validatePlan (L : Library) (p : Plan) : Except Fault Plan := do
  checkPlan L p
  return p

theorem validatePlan_ok {L : Library} {p q : Plan} (h : validatePlan L p = .ok q) : q = p := by
  unfold validatePlan at h
  cases hcheck : checkPlan L p with
  | error fault => simp [hcheck, bind, Except.bind] at h
  | ok _ =>
    simp only [hcheck, bind, Except.bind, pure, Except.pure, Except.ok.injEq] at h
    exact h.symm

def checksumModulus : ℕ := 2305843009213693951

def checksumText (s : String) : ℕ :=
  s.toByteArray.data.toList.foldl (fun acc byte => (acc * 1000003 + byte.toNat) % checksumModulus) 7

mutual
def checksum : Value → ℕ
  | .none => 1
  | .bool b => if b then 3 else 2
  | .int n => 11 + 2 * n.natAbs + if n < 0 then 1 else 0
  | .float q => (13 + 7 * q.num.natAbs + 17 * q.den) % checksumModulus
  | .inf negative => if negative then 5 else 4
  | .nan => 6
  | .str s => checksumText s
  | .list xs => (checksumList xs * 31 + 17) % checksumModulus
  | .dict entries => (checksumEntries entries * 37 + 19) % checksumModulus
  termination_by structural x => x

def checksumList : List Value → ℕ
  | [] => 23
  | x :: xs => (checksum x + 1000003 * checksumList xs) % checksumModulus

def checksumEntries : List (String × Value) → ℕ
  | [] => 29
  | (k, x) :: rest =>
    (checksumText k * 131 + checksum x * 65537 + 1000003 * checksumEntries rest) % checksumModulus
end

/-- A library whose digest is a checksum, so that executions on fixed inputs can
be evaluated. -/
def checksumLibrary : Library where
  digest v :=
    { text := String.ofList ((Nat.toDigits 10 (checksum v) ++ 'f' :: List.replicate 64 '0').take 64)
      length_eq := by simp }
  rendering := ⟨fun _ => "", fun _ => ""⟩
  textColumn := id
  integerColumn := id

/-- A plan for one token, with a budget for references to the chain. -/
def samplePlan (executionId : String) : Plan :=
  let plan : Plan :=
    { schemaVersion := schemaVersion, executionId, network := solanaMainnet
      selectionCapacity := 1, candidateAcquisitionCapacity := 2, candidateReserveTarget := 2
      approvedActiveMemoryCapacity := approvedActiveMemoryCapacity, selectionSeed := "seed"
      seedDomain := seedDomain, windowStart := "2026-07-29T11:00:00+00:00"
      windowEnd := "2026-07-29T12:00:00+00:00", cutoffAt := "2026-07-29T12:00:00+00:00"
      finalizedCutoffSlot := 0, allowedSources := ["solana_rpc"]
      sourceBudgets := .dict [("solana_rpc", .dict [("onchain_reference", .int 2)])]
      schedulerOwner := schedulerOwner, schedulerJobKind := schedulerJobKind
      sourceGovernorRequired := true, noRetry := true, noReconnect := true
      gitProvenance := "head", policyHash := "", policyId := "" }
  { plan with
    policyHash := sha checksumLibrary plan.policyPayload
    policyId := identifier checksumLibrary "capol" plan.policyPayload }

end PrinterV1.Discovery
