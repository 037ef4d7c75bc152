import PrinterV1.Discovery.Observations

/-!
# Categorical gates and lineage

How the facts of a mint's observations are merged: the categorical status of a
gate key, the mint and the pool gate with their exact reasons, and the lineage
of the mint with its gate.
-/

namespace PrinterV1.Discovery

open Python

inductive StageOutcome
  | pass | fail | notReached
  deriving DecidableEq, Repr

def StageOutcome.value : StageOutcome → String
  | .pass => "PASS"
  | .fail => "FAIL"
  | .notReached => "NOT_REACHED"

/-- What a gate answers: its outcome and the reason. -/
abbrev Verdict := StageOutcome × String

variable (L : Library)

/-- The texts the facts give for a key. -/
def factTexts (facts : List Dict) (key : String) : List String :=
  (facts.filterMap fun fact =>
    if Dict.get fact key = .none then none else some ((Dict.get fact key).text L.rendering)).dedup

/-- `_categorical_status` -/
def categoricalStatus (facts : List Dict) (key : String) : Verdict :=
  let values := factTexts L facts key
  if values = [] then (.fail, upper key ++ "_MISSING")
  else if "CONFLICT" ∈ values ∨ ("PASS" ∈ values ∧ "FAIL" ∈ values) then
    (.fail, upper key ++ "_CONFLICT")
  else if "FAIL" ∈ values then (.fail, upper key ++ "_FAILED")
  else if values = ["PASS"] then (.pass, upper key ++ "_PASS")
  else (.fail, upper key ++ "_UNSUPPORTED")

/-- The reasons given by the facts that fail a gate. -/
def preciseReasons (facts : List Dict) (statusKey reasonKey : String) : List String :=
  (facts.filterMap fun fact =>
    if Dict.get fact statusKey = .str "FAIL" ∧ (Dict.get fact reasonKey).truthy = true then
      some ((Dict.get fact reasonKey).text L.rendering)
    else none).dedup

/-- A categorical status whose failure is named by the facts, where they agree. -/
def preciseStatus (facts : List Dict) (statusKey reasonKey conflict : String) : Verdict :=
  let generic := categoricalStatus L facts statusKey
  if generic.1 = .pass then generic
  else
    match preciseReasons L facts statusKey reasonKey with
    | [] => generic
    | [reason] => (.fail, reason)
    | _ => (.fail, conflict)

/-- Mint evidence that was merged under another mint or answers for another one. -/
def mintEvidenceFault (candidateMint : String) (fact : Dict) : Option String :=
  if fact.get "mint_account_evidence_version" = .none then none
  else
    let requestTarget := (fact.get "mint_request_target").textOrEmpty L.rendering
    let responseAddress := fact.get "mint_response_address"
    if requestTarget ≠ candidateMint then some "MINT_EVIDENCE_MERGE_KEY_MISMATCH"
    else if responseAddress ≠ .none ∧ responseAddress.text L.rendering ≠ requestTarget then
      some "MINT_TARGET_MISMATCH"
    else none

/-- `_mint_categorical_status` -/
def mintCategoricalStatus (facts : List Dict) (candidateMint : String) : Verdict :=
  match facts.findSome? (mintEvidenceFault L candidateMint) with
  | some reason => (.fail, reason)
  | none => preciseStatus L facts "mint_status" "mint_failure_reason" "MINT_EVIDENCE_REASON_CONFLICT"

/-- Pool evidence for another pool than the candidate's. -/
def poolTargetMismatch (candidatePool : Option String) (fact : Dict) : Bool :=
  let target := fact.get "pool_evidence_target"
  target ≠ .none && candidatePool.any fun pool => target.text L.rendering ≠ pool

/-- `_pool_categorical_status` -/
def poolCategoricalStatus (facts : List Dict) (candidatePool : Option String) : Verdict :=
  if facts.any (poolTargetMismatch L candidatePool) then (.fail, "POOL_TARGET_MISMATCH")
  else preciseStatus L facts "pool_status" "pool_failure_reason" "POOL_EVIDENCE_REASON_CONFLICT"

inductive LineageState
  | pumpOriginConfirmed | pumpGraduationConfirmed | nonPumpPoolConfirmed | unknownOrigin
  | conflictingLineage | unsupportedLineage
  deriving DecidableEq, Repr

def LineageState.value : LineageState → String
  | .pumpOriginConfirmed => "PUMP_ORIGIN_CONFIRMED"
  | .pumpGraduationConfirmed => "PUMP_GRADUATION_CONFIRMED"
  | .nonPumpPoolConfirmed => "NON_PUMP_POOL_CONFIRMED"
  | .unknownOrigin => "UNKNOWN_ORIGIN"
  | .conflictingLineage => "CONFLICTING_LINEAGE"
  | .unsupportedLineage => "UNSUPPORTED_LINEAGE"

def pumpIdlSha256 : String := "b90bc471327f671449271d5d1d42354d1fae6f5a06502f5834459a3108138e49"
def pumpswapIdlSha256 : String := "6b5c7ec4e5ef9742fa99dc57b0d75b1031b379bba02a7e1b3c5a4cad68d77e56"

/-- `_lineage_state` -/
def lineageState (group : List Item) : LineageState :=
  let claims := group.filterMap fun item => item.lineageClaim
  let branchFacts := group.map fun item =>
    (item.facts.get "pump_migration_branch").textOrEmpty L.rendering
  let pump := "PUMP_GRADUATION_CONFIRMED" ∈ claims ∨ "PUMP_ORIGIN_CONFIRMED" ∈ claims
  let nonPump := "NON_PUMP_POOL_CONFIRMED" ∈ claims
  if "CONFLICTING_LINEAGE" ∈ claims then .conflictingLineage
  else if "PUMP_LINEAGE_CONFLICT" ∈ branchFacts then .conflictingLineage
  else if pump ∧ nonPump then .conflictingLineage
  else if "PUMP_GRADUATION_CONFIRMED" ∈ claims then .pumpGraduationConfirmed
  else if "PUMP_GRADUATION_CLAIMED" ∈ branchFacts then .unsupportedLineage
  else if "PUMP_ORIGIN_CONFIRMED" ∈ claims then .pumpOriginConfirmed
  else if nonPump then .nonPumpPoolConfirmed
  else if "UNSUPPORTED_LINEAGE" ∈ claims then .unsupportedLineage
  else .unknownOrigin

/-- The different values the facts give for a key. -/
def factValues (facts : List Dict) (key : String) : List Value :=
  (facts.filterMap fun fact =>
    if Dict.get fact key = .none then none else some (Dict.get fact key)).dedup

/-- `merged.get(key)`: the value of a key the facts agree on. -/
def merged (facts : List Dict) (key : String) : Option Value :=
  match factValues facts key with
  | [v] => some v
  | _ => none

def isPumpKey (key : String) : Bool := "pump".toList.isPrefixOf key.toList

/-- The facts disagree on a key of the pump family. -/
def pumpFactConflict (facts : List Dict) : Bool :=
  (facts.flatMap fun fact => fact.map Prod.fst).any fun key =>
    isPumpKey key && (factValues facts key).length > 1

def graduationProof : List String :=
  ["pump_origin_signature", "pump_origin_contract_hash", "pump_migration_signature",
    "pump_migration_contract_hash", "pumpswap_account_hash", "pumpswap_contract_hash"]

def bondingCurveProof : List String :=
  ["pump_origin_signature", "pump_origin_contract_hash", "pump_bonding_curve_address",
    "pump_bonding_curve_account_hash", "pump_bonding_curve_contract_hash",
    "pump_bonding_curve_complete"]

def graduationGate (facts : List Dict) : Verdict :=
  if graduationProof.any fun key => (merged facts key).isNone then (.fail, "PUMP_PROOF_INCOMPLETE")
  else if merged facts "pump_origin_contract_hash" ≠ some (.str pumpIdlSha256) then
    (.fail, "PUMP_ORIGIN_CONTRACT_MISMATCH")
  else if merged facts "pump_migration_contract_hash" ≠ some (.str pumpIdlSha256) then
    (.fail, "PUMP_MIGRATION_CONTRACT_MISMATCH")
  else if merged facts "pumpswap_contract_hash" ≠ some (.str pumpswapIdlSha256) then
    (.fail, "PUMPSWAP_CONTRACT_MISMATCH")
  else if !Value.pyEq ((merged facts "pumpswap_index").getD .none) (.int 0) then
    (.fail, "PUMP_CANONICAL_POOL_INDEX_REQUIRED")
  else (.pass, "PUMP_EXACT_LINEAGE_PASS")

def bondingCurveGate (facts : List Dict) : Verdict :=
  if bondingCurveProof.any fun key => (merged facts key).isNone then
    (.fail, "PUMP_BONDING_CURVE_PROOF_INCOMPLETE")
  else if merged facts "pump_origin_contract_hash" ≠ some (.str pumpIdlSha256) ∨
      merged facts "pump_bonding_curve_contract_hash" ≠ some (.str pumpIdlSha256) then
    (.fail, "PUMP_BONDING_CURVE_CONTRACT_MISMATCH")
  else if merged facts "pump_bonding_curve_complete" ≠ some (.bool false) then
    (.fail, "PUMP_BONDING_CURVE_COMPLETE_REQUIRES_GRADUATION")
  else (.pass, "PUMP_EXACT_BONDING_CURVE_LINEAGE_PASS")

/-- A lineage that is refused, by the reason of its migration where there is one. -/
def refusedLineage (lineage : LineageState) (facts : List Dict) : Verdict :=
  let reasons := (facts.filterMap fun fact =>
    if (Dict.get fact "pump_migration_failure_reason").truthy then
      some ((Dict.get fact "pump_migration_failure_reason").text L.rendering)
    else none).dedup
  match reasons with
  | [] => (.fail, lineage.value ++ "_REJECTED")
  | [reason] => (.fail, reason)
  | _ => (.fail, "PUMP_MIGRATION_MULTIPLE_FAILURE_REASONS")

/-- `_lineage_gate` -/
def lineageGate (lineage : LineageState) (facts : List Dict) : Verdict :=
  if pumpFactConflict facts then (.fail, "PUMP_LINEAGE_FACT_CONFLICT")
  else
    match lineage with
    | .pumpGraduationConfirmed => graduationGate facts
    | .pumpOriginConfirmed => bondingCurveGate facts
    | .nonPumpPoolConfirmed => (.pass, lineage.value ++ "_PRESENT_POOL_PASS")
    | .unknownOrigin => (.pass, lineage.value ++ "_PRESENT_POOL_PASS")
    | .unsupportedLineage => refusedLineage L lineage facts
    | .conflictingLineage => refusedLineage L lineage facts

end PrinterV1.Discovery
