import PrinterV1.Foundation.Faults
import PrinterV1.Sources.SixUnitAccounting

/-!
# The terminal report of a campaign

`build_campaign_terminal_report` puts the six totals of a campaign beside the
evidence they are accounted by. The totals come from the caller, from the
evidence, or from the block of the campaign's activity; the last is read behind
the comparison with the evidence.
-/

namespace PrinterV1.Sources

open Python

namespace SixUnitTotals

/-- The mapping from each of `SIX_UNITS` to its total. -/
def toDict (t : SixUnitTotals) : Dict :=
  [("LIFECYCLE_RESERVED_TRANSPORT_OPERATION", .int t.lifecycleReservedTransportOperation),
    ("LOCAL_VALIDATION_STEP", .int t.localValidationStep),
    ("NORMALIZED_SOURCE_ROWS", .int t.normalizedSourceRows),
    ("SCHEDULER_WORK_ITEM", .int t.schedulerWorkItem),
    ("SOURCE_RESPONSE_BYTES", .int t.sourceResponseBytes),
    ("SOURCE_TRANSPORT_OPERATION", .int t.sourceTransportOperation)]

end SixUnitTotals

/-- `{unit: int(raw.get(unit) or 0) for unit in SIX_UNITS}` -/
def readUnits (R : Value.Rendering) (raw : Dict) : Except PyError SixUnitTotals := do
  let transports ← (raw.get "SOURCE_TRANSPORT_OPERATION").toIntOrZero R
  let validations ← (raw.get "LOCAL_VALIDATION_STEP").toIntOrZero R
  let work ← (raw.get "SCHEDULER_WORK_ITEM").toIntOrZero R
  let bytes ← (raw.get "SOURCE_RESPONSE_BYTES").toIntOrZero R
  let rows ← (raw.get "NORMALIZED_SOURCE_ROWS").toIntOrZero R
  let reserved ← (raw.get "LIFECYCLE_RESERVED_TRANSPORT_OPERATION").toIntOrZero R
  return ⟨transports, validations, work, bytes, rows, reserved⟩

/-- `raw`: the totals inside the mapping, or the mapping itself. -/
def rawTotals (payload : Dict) : Value :=
  if payload.has "six_unit_totals" then payload.get "six_unit_totals" else .dict payload

def readRawTotals (R : Value.Rendering) : Value → Except PyError SixUnitTotals
  | .dict raw => readUnits R raw
  | _ => .ok 0

/-- `six_unit_totals_from_mapping` -/
def sixUnitTotalsFromMapping (R : Value.Rendering) : Value → Except PyError SixUnitTotals
  | .dict payload => readRawTotals R (rawTotals payload)
  | _ => .ok 0

structure SixUnitComparison where
  equal : Bool
  left : SixUnitTotals
  right : SixUnitTotals
  deriving DecidableEq, Repr

/-- `reconcile_six_unit_totals`, on totals: they are equal where no unit differs. -/
def reconcileSixUnitTotals (left right : SixUnitTotals) : SixUnitComparison where
  equal := (left.values.zip right.values).all fun units => units.1 = units.2
  left := left
  right := right

/-- `compare_report_totals_to_evidence`, on totals. -/
def compareReportTotalsToEvidence (R : Value.Rendering) (reportTotals : SixUnitTotals)
    (evidence : Value) : Except Fault SixUnitComparison := do
  let reconstructed ← reconstructSixUnitTotalsFromEvidence R evidence
  return reconcileSixUnitTotals reportTotals reconstructed

def emptySixUnitEvidence (now : String) : Dict :=
  [("campaign_id", .none), ("cycle_id", .none), ("elapsed_seconds", .float 0), ("ended_at", .str now),
    ("evidence_kind", .str evidenceKind), ("lifecycle_reservations", .int 0),
    ("local_validations", .int 0), ("run_id", .none), ("scheduler_work_items", .int 0),
    ("started_at", .str now), ("transport_operations", .list [])]

theorem reconcile_equal_iff {left right : SixUnitTotals} :
    (reconcileSixUnitTotals left right).equal = true ↔ left = right := by
  simp only [reconcileSixUnitTotals, SixUnitTotals.values, List.zip_cons_cons, List.zip_nil_right,
    List.all_cons, List.all_nil, Bool.and_true, Bool.and_eq_true, decide_eq_true_eq]
  exact ⟨fun ⟨h₁, h₂, h₃, h₄, h₅, h₆⟩ => SixUnitTotals.ext h₁ h₂ h₃ h₄ h₅ h₆, fun h => by simp [h]⟩

end PrinterV1.Sources

namespace PrinterV1.OperatorCli

open Python Sources

structure ReportIdentity where
  campaignId : String
  configurationId : String
  runId : String
  cycleId : String
  reportId : String
  factoryRunId : Option String
  executionId : String

structure TerminalReportArguments where
  identity : ReportIdentity
  terminalStatus : String
  terminalCause : String
  runStatus : Option String
  lifecycleStarted : Bool
  reconciliation : Dict
  forbiddenDeltas : Option Dict := none
  launchGitProvenance : Option Dict := none
  campaignActivity : Option Dict := none
  blockedSupply : Option Dict := none
  campaignSourceCalls : Option ℤ := none
  campaignSchedulerCalls : Option ℤ := none
  candidatesObserved : Option ℤ := none
  candidatesValidated : Option ℤ := none
  eligibleCandidates : Option ℤ := none
  requiredTokenCapacity : Option ℤ := none
  blockedSupplyReason : Option String := none
  faultDetails : Option Dict := none
  selective1h : Option Dict := none
  preLifecycleAdmission : Option Dict := none
  sixUnitTotals : Value := .none
  sixUnitEvidence : Value := .none
  elapsedSeconds : Value := .none
  requireSixUnitEvidence : Bool := false

/-- What the call raises: `TerminalClosureError`, a fault of the accounting, or an exception of
the language. -/
inductive ReportFault
  | closure (text : String)
  | accounting (fault : Fault)
  | python (e : PyError)
  deriving DecidableEq, Repr

structure ResolvedSixUnits where
  evidence : Dict
  totals : SixUnitTotals
  equal : Bool

/-- `evidence` -/
def evidenceOf (utcNow : String) (sixUnitEvidence : Value) : Dict :=
  match sixUnitEvidence with
  | .dict entries => entries
  | _ => emptySixUnitEvidence utcNow

def isMapping : Value → Bool
  | .dict _ => true
  | _ => false

/-- A fault of the accounting becomes `SIX_UNIT_EVIDENCE_INVALID`; the rest passes. -/
def invalidEvidence : Fault → ReportFault
  | .sixUnit e => .closure ("SIX_UNIT_EVIDENCE_INVALID:" ++ e.text)
  | fault => .accounting fault

/-- `resolved_six` -/
def resolveTotals (R : Value.Rendering) (args : TerminalReportArguments) (evidence : Dict) :
    Except ReportFault SixUnitTotals :=
  if args.requireSixUnitEvidence then do
    let evidenceTotals ←
      (reconstructSixUnitTotalsFromEvidence R (.dict evidence)).mapError invalidEvidence
    if args.sixUnitTotals = .none then .ok evidenceTotals
    else (sixUnitTotalsFromMapping R args.sixUnitTotals).mapError .python
  else if args.sixUnitTotals ≠ .none then
    (sixUnitTotalsFromMapping R args.sixUnitTotals).mapError .python
  else if evidence.get "transport_operations" ≠ .none then
    .ok ((reconstructSixUnitTotalsFromEvidence R (.dict evidence)).toOption.getD 0)
  else .ok 0

def resolveSixUnits (R : Value.Rendering) (utcNow : String) (args : TerminalReportArguments) :
    Except ReportFault ResolvedSixUnits := do
  if args.requireSixUnitEvidence = true ∧ isMapping args.sixUnitEvidence = false then
    throw (.closure "SIX_UNIT_EVIDENCE_MISSING")
  let evidence := evidenceOf utcNow args.sixUnitEvidence
  let totals ← resolveTotals R args evidence
  let comparison ← (compareReportTotalsToEvidence R totals (.dict evidence)).mapError .accounting
  if args.requireSixUnitEvidence = true ∧ comparison.equal = false then
    throw (.closure "SIX_UNIT_EVIDENCE_MISMATCH")
  return ⟨evidence, totals, comparison.equal⟩

mutual
/-- A number in the value is no number of JSON. -/
def outOfRange : Value → Bool
  | .inf _ => true
  | .nan => true
  | .list xs => outOfRangeList xs
  | .dict entries => outOfRangeEntries entries
  | _ => false
  termination_by structural x => x

def outOfRangeList : List Value → Bool
  | [] => false
  | x :: xs => outOfRange x || outOfRangeList xs

def outOfRangeEntries : List (String × Value) → Bool
  | [] => false
  | (_, x) :: entries => outOfRange x || outOfRangeEntries entries
end

/-- `json.loads(_canonical_json(payload))`: what JSON can write is read back as it is. -/
def throughJson (payload : Dict) : Except ReportFault Dict :=
  if outOfRangeEntries payload then
    .error (.python (.valueError "Out of range float values are not JSON compliant"))
  else .ok payload

def textOrNone : Option String → Value
  | some s => .str s
  | none => .none

def identityOf (identity : ReportIdentity) : Dict :=
  [("campaign_id", .str identity.campaignId), ("configuration_id", .str identity.configurationId),
    ("cycle_id", .str identity.cycleId), ("execution_id", .str identity.executionId),
    ("factory_run_id", textOrNone identity.factoryRunId), ("report_id", .str identity.reportId),
    ("run_id", .str identity.runId)]

def downstreamUnlocks : Dict :=
  [("audits", .bool false), ("buy_sell_hold", .bool false), ("paper_decisions", .bool false),
    ("pnl", .bool false), ("positions", .bool false), ("retrieval", .bool false),
    ("trades", .bool false)]

/-- `payload["terminal"]` -/
def terminalOf (args : TerminalReportArguments) : Except ReportFault Dict :=
  let terminal : Dict :=
    [("first_terminal_cause", .str args.terminalCause),
      ("lifecycle_started", .bool args.lifecycleStarted), ("run_status", textOrNone args.runStatus),
      ("terminal_status", .str args.terminalStatus)]
  match args.faultDetails with
  | some (item :: items) => do
    let details ← throughJson (item :: items)
    return terminal.set "fault_details" (.dict details)
  | _ => .ok terminal

def basePayload (args : TerminalReportArguments) (six : ResolvedSixUnits)
    (reconciliation terminal : Dict) : Dict :=
  Dict.merge []
    [("report_kind", .str "PILOT_CAMPAIGN_TERMINAL"),
      ("policy_version", .str "V2_9_8B_VERIFIABLE_REAL_PATH_TERMINAL"),
      ("identity", .dict (identityOf args.identity)), ("terminal", .dict terminal),
      ("reconciliation", .dict reconciliation),
      ("forbidden_deltas", .dict (args.forbiddenDeltas.getD [])),
      ("launch_git_provenance", .dict (args.launchGitProvenance.getD [])),
      ("six_unit_totals", .dict six.totals.toDict), ("six_unit_evidence", .dict six.evidence),
      ("six_unit_evidence_match", .bool six.equal),
      ("elapsed_seconds", args.elapsedSeconds.floated),
      ("downstream_unlocks", .dict downstreamUnlocks), ("restart_created", .bool false),
      ("successor_created", .bool false)]

/-- An optional block that the payload takes through JSON. -/
def addThroughJson (key : String) (block : Option Dict) (payload : Dict) :
    Except ReportFault Dict :=
  match block with
  | none => .ok payload
  | some entries => do
    let entries ← throughJson entries
    return payload.set key (.dict entries)

/-- `int(stored if given is None else given)` -/
def givenOr (R : Value.Rendering) (given : Option ℤ) (stored : Value) : Except ReportFault ℤ :=
  match given with
  | some n => .ok n
  | none => (stored.toInt R).mapError .python

/-- The totals of the activity and of the payload. -/
def addActivityTotals (R : Value.Rendering) (args : TerminalReportArguments)
    (resolved : SixUnitTotals) (activity payload : Dict) : Except ReportFault Dict :=
  if activity.has "six_unit_totals" = false then
    .ok (payload.set "campaign_activity"
      (.dict (activity.set "six_unit_totals" (.dict resolved.toDict))))
  else if args.sixUnitTotals = .none then do
    let own ← (sixUnitTotalsFromMapping R (activity.get "six_unit_totals")).mapError .python
    return (payload.set "six_unit_totals" (.dict own.toDict)).set "campaign_activity" (.dict activity)
  else .ok (payload.set "campaign_activity" (.dict activity))

def addCampaignActivity (R : Value.Rendering) (args : TerminalReportArguments)
    (resolved : SixUnitTotals) (payload : Dict) : Except ReportFault Dict :=
  match args.campaignActivity with
  | some activity => do
    let payload ← addActivityTotals R args resolved activity payload
    let sourceCalls ← givenOr R args.campaignSourceCalls (activity.get "campaign_source_calls")
    let schedulerCalls ←
      givenOr R args.campaignSchedulerCalls (activity.get "campaign_scheduler_calls")
    return (payload.set "campaign_source_calls" (.int sourceCalls)).set "campaign_scheduler_calls"
      (.int schedulerCalls)
  | none =>
    if args.campaignSourceCalls.isSome ∨ args.campaignSchedulerCalls.isSome then
      let sourceCalls := Value.int (args.campaignSourceCalls.getD 0)
      let schedulerCalls := Value.int (args.campaignSchedulerCalls.getD 0)
      .ok (((payload.set "campaign_source_calls" sourceCalls).set "campaign_scheduler_calls"
        schedulerCalls).set "campaign_activity"
          (.dict [("campaign_scheduler_calls", schedulerCalls),
            ("campaign_source_calls", sourceCalls), ("six_unit_totals", .dict resolved.toDict)]))
    else .ok payload

/-- `payload[key] = int(given)`, where it is given. -/
def addGiven (key : String) (given : Option ℤ) (payload : Dict) : Dict :=
  match given with
  | some n => payload.set key (.int n)
  | none => payload

def addCount (R : Value.Rendering) (key : String) (given : Option ℤ) (blockedSupply : Dict)
    (payload : Dict) : Except ReportFault Dict := do
  let n ← givenOr R given (blockedSupply.get key)
  return payload.set key (.int n)

/-- The blocked supply, with its counts and its reason. -/
def addSupplyBlock (R : Value.Rendering) (args : TerminalReportArguments) (blockedSupply : Dict)
    (payload : Dict) : Except ReportFault Dict := do
  let payload := ((payload.set "blocked_supply" (.dict blockedSupply)).set
    "shortage_classification" (blockedSupply.get "shortage_classification")).set
    "exhaustion_certificate" (blockedSupply.get "exhaustion_certificate")
  let payload ← addCount R "candidates_observed" args.candidatesObserved blockedSupply payload
  let payload ← addCount R "candidates_validated" args.candidatesValidated blockedSupply payload
  let payload ← addCount R "eligible_candidates" args.eligibleCandidates blockedSupply payload
  let payload ←
    addCount R "required_token_capacity" args.requiredTokenCapacity blockedSupply payload
  return payload.set "blocked_supply_reason" (match args.blockedSupplyReason with
    | none => blockedSupply.get "blocked_supply_reason"
    | some reason => .str reason)

def addBlockedSupply (R : Value.Rendering) (args : TerminalReportArguments) (payload : Dict) :
    Except ReportFault Dict :=
  match args.blockedSupply with
  | some blockedSupply => addSupplyBlock R args blockedSupply payload
  | none =>
    let payload := addGiven "candidates_observed" args.candidatesObserved payload
    let payload := addGiven "candidates_validated" args.candidatesValidated payload
    let payload := addGiven "eligible_candidates" args.eligibleCandidates payload
    let payload := addGiven "required_token_capacity" args.requiredTokenCapacity payload
    match args.blockedSupplyReason with
    | none => .ok payload
    | some reason => .ok (payload.set "blocked_supply_reason" (.str reason))

/-- `build_campaign_terminal_report` -/
def buildCampaignTerminalReport (R : Value.Rendering) (utcNow : String)
    (args : TerminalReportArguments) : Except ReportFault Dict := do
  let six ← resolveSixUnits R utcNow args
  let reconciliation ← throughJson args.reconciliation
  let terminal ← terminalOf args
  let payload ← addThroughJson "selective_1h" args.selective1h
    (basePayload args six reconciliation terminal)
  let payload ← addThroughJson "pre_lifecycle_admission" args.preLifecycleAdmission payload
  let payload ← addCampaignActivity R args six.totals payload
  addBlockedSupply R args payload

end PrinterV1.OperatorCli
