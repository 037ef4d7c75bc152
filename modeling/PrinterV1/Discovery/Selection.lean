import PrinterV1.Discovery.Candidates

/-!
# Selection, failure and the source report

`_selection` takes exactly the capacity of the plan or nothing, `_failure_family`
names why nothing was taken, and `_source_report` accounts for the rounds.
-/

namespace PrinterV1.Discovery

open Python

inductive Readiness
  | exactNoSpare | withReserve
  deriving DecidableEq, Repr

def Readiness.value : Readiness → String
  | .exactNoSpare => "READY_EXACT_NO_SPARE"
  | .withReserve => "READY_WITH_RESERVE"

structure SelectedItem where
  itemOrdinal : ℕ
  certificateId : String
  certificateHash : String
  mint : String
  pool : Option String
  itemHash : String
  deriving DecidableEq, Repr

/-- The seeded order of the admitted candidates. -/
def selectionKey (L : Library) (plan : Plan) (c : Candidate) : String ×ₗ String ×ₗ String :=
  let poolText := c.pool.getD "None"
  toLex
    (sha L (.str (plan.seedDomain ++ plan.selectionSeed ++ "|" ++ c.mint ++ "|" ++ poolText ++ "|" ++
      c.certificateHash)), toLex (c.mint, poolText))

/-- An item of the manifest, with the hash of its payload. -/
def selectItem (L : Library) (entry : Candidate × ℕ) : SelectedItem :=
  let c := entry.1
  { itemOrdinal := entry.2 + 1
    certificateId := c.certificateId
    certificateHash := c.certificateHash
    mint := c.mint
    pool := c.pool
    itemHash := sha L
      (.dict
        [("certificate_hash", .str c.certificateHash), ("certificate_id", .str c.certificateId),
          ("item_ordinal", .int (entry.2 + 1)), ("mint", .str c.mint),
          ("pool", optionalText c.pool)]) }

/-- `manifest_payload` -/
def manifestPayload (plan : Plan) (readiness : Readiness) (selected : List SelectedItem) : Value :=
  .dict
    [("approved_active_memory_capacity", .int 2), ("execution_id", .str plan.executionId),
      ("item_count", .int plan.selectionCapacity),
      ("ordered_item_hashes", .list (selected.map fun item => .str item.itemHash)),
      ("policy_id", .str plan.policyId), ("readiness_status", .str readiness.value),
      ("runtime_neutral", .bool true), ("selection_capacity", .int plan.selectionCapacity),
      ("selection_seed", .str plan.selectionSeed)]

/-- What `_selection` returns beside the items. -/
structure Manifest where
  readiness : Readiness
  manifestHash : String
  deriving DecidableEq, Repr

/-- `_selection` -/
def selection (L : Library) (plan : Plan) (admitted : List Candidate) :
    List SelectedItem × Option Manifest :=
  if (admitted.length : ℤ) < plan.selectionCapacity then ([], none)
  else
    let ordered := sortBy (selectionKey L plan) admitted
    let selected := ((ordered.take plan.selectionCapacity.toNat).zipIdx).map (selectItem L)
    let readiness : Readiness :=
      if (admitted.length : ℤ) ≥ plan.candidateReserveTarget then .withReserve else .exactNoSpare
    (selected, some
      { readiness, manifestHash := sha L (manifestPayload plan readiness selected) })

inductive FailureFamily
  | coverageFailure | sourceProviderFailure | budgetExhaustion | staleOrIncompleteEvidence
  | unsupportedContract | identityMergeFailure | admissionFailure | insufficientEligiblePool
  deriving DecidableEq, Repr

def FailureFamily.value : FailureFamily → String
  | .coverageFailure => "COVERAGE_FAILURE"
  | .sourceProviderFailure => "SOURCE_PROVIDER_FAILURE"
  | .budgetExhaustion => "BUDGET_EXHAUSTION"
  | .staleOrIncompleteEvidence => "STALE_OR_INCOMPLETE_EVIDENCE"
  | .unsupportedContract => "UNSUPPORTED_CONTRACT"
  | .identityMergeFailure => "IDENTITY_MERGE_FAILURE"
  | .admissionFailure => "ADMISSION_FAILURE"
  | .insufficientEligiblePool => "INSUFFICIENT_ELIGIBLE_POOL"

structure Failure where
  family : FailureFamily
  reason : String
  deriving DecidableEq, Repr

/-- `FAILURE_PRECEDENCE` -/
def failurePrecedence : List (String × FailureFamily) :=
  [("UNSUPPORTED_CONTRACT", .unsupportedContract), ("PROVIDER_FAILURE", .sourceProviderFailure),
    ("BUDGET_EXHAUSTED", .budgetExhaustion), ("COVERAGE_INCOMPLETE", .coverageFailure),
    ("STALE", .staleOrIncompleteEvidence), ("MALFORMED", .staleOrIncompleteEvidence)]

/-- A source status that names the failure. -/
def sourceFailure (items : List Item) : Option Failure :=
  (failurePrecedence.find? fun entry => items.any fun item => item.sourceStatus = entry.1).map
    fun entry => ⟨entry.2, entry.1⟩

def pumpFamilyPrecedence : List FailureFamily :=
  [.unsupportedContract, .sourceProviderFailure, .budgetExhaustion, .coverageFailure,
    .staleOrIncompleteEvidence, .identityMergeFailure, .admissionFailure]

/-- The families and reasons of failed migrations, in the facts of the candidates. -/
def pumpFailures (L : Library) (candidates : List Candidate) : List (String × String) :=
  (candidates.flatMap fun candidate => candidate.observations).filterMap fun item =>
    if (item.facts.get "pump_migration_failure_family").truthy then
      some ((item.facts.get "pump_migration_failure_family").text L.rendering,
        (item.facts.get "pump_migration_failure_reason").textOrEmpty L.rendering)
    else none

/-- The reasons of the failed migrations of a family. -/
def pumpReasons (failures : List (String × String)) (family : FailureFamily) : List String :=
  sortedSet ((failures.filter fun f => f.1 = family.value && f.2 ≠ "").map Prod.snd)

def pumpFailure (failures : List (String × String)) : Option Failure :=
  (pumpFamilyPrecedence.find? fun family => pumpReasons failures family ≠ []).map fun family =>
    match pumpReasons failures family with
    | [reason] => ⟨family, reason⟩
    | _ => ⟨family, "MULTIPLE_PUMP_MIGRATION_FAILURES"⟩

/-- The reasons of the failed stages the predicate picks, each once. -/
def failedReasons (candidates : List Candidate) (p : Stage → Bool) : List String :=
  sortedSet
    (((candidates.flatMap fun candidate => candidate.stages).filter fun stage =>
      p stage && stage.stageOutcome = .fail).map fun stage => stage.reasonCode)

/-- One reason, or a word for several. -/
def soleReason (reasons : List String) (several : String) : String :=
  match reasons with
  | [reason] => reason
  | _ => several

def mintFailure (candidates : List Candidate) : Option Failure :=
  let reasons := failedReasons candidates fun stage => stage.stageName = .chainMintValid
  if reasons = [] then none
  else if reasons.any fun reason =>
      reason ∈ ["MINT_EVIDENCE_MERGE_KEY_MISMATCH", "MINT_TARGET_MISMATCH"] then
    some ⟨.identityMergeFailure, reasons.head?.getD ""⟩
  else some ⟨.admissionFailure, soleReason reasons "CHAIN_MINT_VALID_MULTIPLE_REASONS"⟩

/-- A reason that says evidence is missing. -/
def isEvidenceGap (reason : String) : Bool :=
  "_MISSING".toList.isSuffixOf reason.toList ||
    ["IDENTITY_INCOMPLETE", "EXACT_POOL_QUOTE_IDENTITY_REQUIRED",
      "PUMP_BONDING_CURVE_PROOF_INCOMPLETE", "PUMP_PROOF_INCOMPLETE"].contains reason

/-- The failure of candidates that were not admitted. -/
def admissionFailure (candidates : List Candidate) : Failure :=
  let firstReasons := failedReasons candidates fun _ => true
  if firstReasons ≠ [] ∧ firstReasons.all isEvidenceGap = true then
    ⟨.staleOrIncompleteEvidence, soleReason firstReasons "MULTIPLE_REQUIRED_EVIDENCE_GAPS"⟩
  else ⟨.admissionFailure, soleReason firstReasons "CATEGORICAL_ADMISSION_REJECTIONS"⟩

/-- `_failure_family` -/
def failureFamily (L : Library) (items : List Item) (candidates : List Candidate) : Failure :=
  match sourceFailure items with
  | some failure => failure
  | none =>
    match pumpFailure (pumpFailures L candidates) with
    | some failure => failure
    | none =>
      match mintFailure candidates with
      | some failure => failure
      | none =>
        if candidates.any fun candidate => candidate.identityStatus = .conflict then
          ⟨.identityMergeFailure, "IDENTITY_CONFLICT"⟩
        else if candidates.any fun candidate => !candidate.admitted then admissionFailure candidates
        else ⟨.insufficientEligiblePool, "COMPLETE_COVERAGE_FEWER_THAN_N"⟩

/-- `dict(sorted(Counter(texts).items()))` -/
def countTexts (texts : List String) : Value :=
  .dict ((sortedSet texts).map fun text => (text, .int (texts.count text)))

/-- The sources of a mint. -/
def mintSources (items : List Item) (mint : String) : List String :=
  ((groupOf items mint).map fun item => item.sourceName).dedup

/-- The governed requests of the rounds, by source and kind. -/
def governedOperations (usage : List (String × String × ℤ)) : Value :=
  .dict ((sortedSet (usage.map fun u => u.1)).map fun source =>
    (source,
      .dict ((sortedSet ((usage.filter fun u => u.1 = source).map fun u => u.2.1)).map
        fun requestKind => (requestKind, .int (usageOf usage source requestKind)))))

/-- `_source_report` -/
def sourceReport (items : List Item) : Value :=
  let sourcesOfMints :=
    ((items.filterMap fun item => item.mint).dedup).map fun mint => mintSources items mint
  .dict
    [("cross_source_overlap_count", .int (sourcesOfMints.countP fun sources => sources.length > 1)),
      ("governed_operations", governedOperations (roundUsage [] items)),
      ("observations_per_source", countTexts (items.map fun item => item.sourceName)),
      ("unique_candidate_contribution",
        countTexts (sourcesOfMints.filterMap fun sources =>
          match sources with
          | [source] => some source
          | _ => none))]

end PrinterV1.Discovery
