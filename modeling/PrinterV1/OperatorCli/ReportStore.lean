import PrinterV1.Foundation.Runs
import PrinterV1.Foundation.WriteOnce
import PrinterV1.OperatorCli.ReportEvidence

/-!
# Writing and replaying the terminal report

`write_campaign_terminal_report` puts one row and one file down, both with the canonical
text of the report, and `replay_campaign_terminal_report` reads them again. The row and
the file are written once: what is there has to agree.
-/

namespace PrinterV1.OperatorCli.CampaignReport

open Python Faults
open Sources (SixUnitTotals)

/-- What a call depends on beside its arguments. -/
structure ReportHost where
  rendering : Value.Rendering
  floats : FloatText
  hexdigest : Value → String
  utcNow : String

/-- The text of a column or of a file: that of a document, or any other. -/
inductive ReportText
  | json (document : Value)
  | other (text : String)
  deriving DecidableEq, Repr

/-- A row of `printer_memory_factory_campaign_reports`. -/
structure CampaignReportRow where
  reportId : String
  campaignId : String
  configurationId : String
  reportKind : String
  reportState : String
  replayOfReportId : Option String
  reportHash : Option String
  reportJson : Option ReportText
  createdAt : String
  deriving DecidableEq, Repr

/-- A file of the report directory. -/
structure Artifact where
  name : String
  text : ReportText
  deriving DecidableEq, Repr

structure ReportStore where
  campaigns : List String
  configurations : List (String × String)
  reports : Table CampaignReportRow.reportId
  artifacts : Table Artifact.name

structure WriteCall where
  reportId : String
  campaignId : String
  configurationId : String
  report : Entries
  now : String
  requireSixUnitEvidence : Bool := false

variable (host : ReportHost)

/-- `_nonempty` -/
def nonemptyError (value field : String) : Option String :=
  if strip value = "" then some (field ++ " must be a non-empty string") else none

def idError (row : CampaignReportRow) : Option String :=
  nonemptyError row.reportId "report_id" <|> nonemptyError row.campaignId "campaign_id" <|>
    nonemptyError row.configurationId "configuration_id"

/-- `expected`, of a stored record: all but the time it was created at. -/
def samePayload (record row : CampaignReportRow) : Bool :=
  { record with createdAt := row.createdAt } = row

/-- How `_persist_report` writes a row; it returns the hash of the one that is there. -/
def reportWriter : WriteOnce.Writer CampaignReportRow String (Option String) where
  gate := idError
  agrees := samePayload
  conflict := "report identity or immutable payload already differs"
  instead _ := none
  result row := row.reportHash

def rowOf (call : WriteCall) (document : Value) : CampaignReportRow where
  reportId := call.reportId
  campaignId := call.campaignId
  configurationId := call.configurationId
  reportKind := "TERMINAL"
  reportState := "REPORT_TERMINAL"
  replayOfReportId := none
  reportHash := some (host.hexdigest document)
  reportJson := some (.json document)
  createdAt := call.now

-- Membership among pairs of texts is decided by their equality.
local instance lawfulTextPair : LawfulBEq (String × String) := inferInstance

/-- The foreign keys of the table. -/
def refusal (store : ReportStore) (call : WriteCall) : Option String :=
  if call.campaignId ∈ store.campaigns ∧
      (call.configurationId, call.campaignId) ∈ store.configurations then none
  else some "report persistence failed: FOREIGN KEY constraint failed"

def artifactName (reportId : String) : String := reportId ++ ".campaign-report.json"

def artifactWriter : WriteOnce.Writer Artifact String Unit where
  gate _ := none
  agrees existing artifact := existing.text = artifact.text
  conflict := "durable campaign report artifact already differs"
  instead _ := none
  result _ := ()

def artifactOf (call : WriteCall) (document : Value) : Artifact :=
  ⟨artifactName call.reportId, .json document⟩

/-- The guard of the evidence, and the canonical text; what cannot be written as JSON raises
`TypeError` or `ValueError`, which are not told apart. -/
def reportDocument (call : WriteCall) : Except ReportFault Value := do
  if call.requireSixUnitEvidence then assertReportSixUnitEvidence host.rendering call.report
  match (PyObject.dict call.report).dumps host.floats with
  | some document => .ok document
  | none => .error (.python (.valueError "report is not JSON compliant"))

def isNone : PyObject → Bool
  | .scalar .none => true
  | _ => false

/-- A count of the campaign: the report's own, or that of its activity. -/
def campaignCount (report : Entries) (key : String) : Except PyError ℤ :=
  if !isNone (report.get key) then (report.get key).toInt host.rendering
  else
    match report.get "campaign_activity" with
    | .dict activity =>
      if !isNone (Entries.get activity key) then (Entries.get activity key).toInt host.rendering
      else .ok 0
    | _ => .ok 0

/-- The fields of the report that the call returns as they are. -/
def returnedFields : List String :=
  ["candidates_observed", "candidates_validated", "eligible_candidates",
    "required_token_capacity", "blocked_supply_reason", "blocked_supply",
    "shortage_classification", "exhaustion_certificate"]

structure WrittenReport where
  reportId : String
  campaignId : String
  configurationId : String
  reportHash : String
  artifactCreated : Bool
  artifacts : List String
  campaignSourceCalls : ℤ
  campaignSchedulerCalls : ℤ
  fields : List (String × PyObject)
  sixUnitTotals : Entries

/-- What the call returns, of the files as they are. -/
def writtenReport (store : ReportStore) (call : WriteCall) (document : Value) (created : Bool) :
    Except ReportFault WrittenReport := do
  let sourceCalls ← (campaignCount host call.report "campaign_source_calls").mapError .python
  let schedulerCalls ← (campaignCount host call.report "campaign_scheduler_calls").mapError .python
  return {
    reportId := call.reportId
    campaignId := call.campaignId
    configurationId := call.configurationId
    reportHash := host.hexdigest document
    artifactCreated := created
    artifacts := sortBy id (store.artifacts.rows.map Artifact.name)
    campaignSourceCalls := sourceCalls
    campaignSchedulerCalls := schedulerCalls
    fields := returnedFields.map fun field => (field, call.report.get field)
    sixUnitTotals :=
      match call.report.get "six_unit_totals" with
      | .dict totals => totals
      | _ => [] }

/-- The file of a report whose row is there. -/
def writeArtifact (store : ReportStore) (call : WriteCall) (document : Value) :
    ReportStore × Except ReportFault WrittenReport :=
  let written := WriteOnce.writeRow store.artifacts artifactWriter (artifactOf call document) none
  let after := { store with artifacts := written.2 }
  match written.1 with
  | .error text => (after, .error (.closure text))
  | .ok _ =>
    (after, writtenReport host after call document
      (store.artifacts.find? (artifactName call.reportId)).isNone)

/-- `write_campaign_terminal_report` -/
def writeCampaignTerminalReport (store : ReportStore) (call : WriteCall) :
    ReportStore × Except ReportFault WrittenReport :=
  match reportDocument host call with
  | .error e => (store, .error e)
  | .ok document =>
    let persisted := WriteOnce.writeRow store.reports reportWriter (rowOf host call document)
      (refusal store call)
    let after := { store with reports := persisted.2 }
    match persisted.1 with
    | .error text => (after, .error (.closure ("campaign report persistence blocked: " ++ text)))
    | .ok reportHash =>
      if reportHash ≠ some (host.hexdigest document) then
        (after, .error (.closure "persisted campaign report hash mismatch"))
      else writeArtifact host after call document

/-- The store after a call. -/
def afterWrite (store : ReportStore) (call : WriteCall) : ReportStore :=
  (writeCampaignTerminalReport host store call).1

structure ReplayedReport where
  reportId : String
  reportHash : String
  report : Dict
  artifactMatches : Bool
  campaignSourceCalls : ℤ
  campaignSchedulerCalls : ℤ
  sixUnitTotals : SixUnitTotals
  sixUnitEvidence : Dict
  sixUnitTotalsReconstructed : SixUnitTotals
  sixUnitReportReplayEqual : Bool
  elapsedSeconds : Value

/-- The one row under the identities, in its terminal state. -/
def terminalRow (store : ReportStore) (reportId campaignId configurationId : String) :
    Except ReportFault CampaignReportRow :=
  match store.reports.rows.filter fun row => row.reportId = reportId ∧
      row.campaignId = campaignId ∧ row.configurationId = configurationId with
  | [row] =>
    if row.reportKind ≠ "TERMINAL" ∨ row.reportState ≠ "REPORT_TERMINAL" then
      .error (.closure "terminal campaign report state mismatch")
    else .ok row
  | _ => .error (.closure "terminal campaign report identity mismatch")

/-- `stored`, and its canonical text, which has to be the one that is stored. -/
def storedReport (row : CampaignReportRow) : Except ReportFault (Dict × Value) :=
  match row.reportJson with
  | some (.json document) =>
    match loads document with
    | .dict stored =>
      match (PyObject.ofValue (.dict stored)).dumps host.floats with
      | some canonical =>
        if canonical ≠ document then
          .error (.closure "stored campaign report is not canonical JSON")
        else if some (host.hexdigest canonical) ≠ row.reportHash then
          .error (.closure "stored campaign report hash mismatch")
        else .ok (stored, canonical)
      | none => .error (.python (.valueError "report is not JSON compliant"))
    | v => .error (.python (.typeError ("'" ++ v.typeName ++ "' object is not a mapping")))
  | _ => .error (.python (.valueError "Expecting value"))

/-- A count of the campaign, of the stored report. -/
def storedCount (stored : Dict) (key : String) : Except PyError ℤ :=
  if stored.get key ≠ .none then (stored.get key).toInt host.rendering
  else
    match stored.get "campaign_activity" with
    | .dict activity =>
      if Dict.get activity key ≠ .none then (Dict.get activity key).toInt host.rendering
      else .ok 0
    | _ => .ok 0

/-- The items of a mapping that are found by a text. -/
def textItems (F : FloatText) (entries : Entries) : Dict :=
  entries.filterMap fun e =>
    match e.1 with
    | .str key => some (key, e.2.image F)
    | _ => none

/-- `dict(stored.get("six_unit_evidence") or {})`, or the empty evidence in its place. -/
def storedEvidence (evidence : Value) : Except PyError Dict := do
  let entries ← if evidence.truthy then (PyObject.ofValue evidence).dictOf else .ok []
  if entries.isEmpty then return Sources.emptySixUnitEvidence host.utcNow
  else return textItems host.floats entries

/-- The totals, the evidence and the totals that are reconstructed from it. -/
def readSixUnits (stored : Dict) : Except ReportFault (SixUnitTotals × Dict × SixUnitTotals) := do
  let totals ← (Sources.sixUnitTotalsFromMapping host.rendering
    (stored.get "six_unit_totals")).mapError .python
  let evidence ← (storedEvidence host (stored.get "six_unit_evidence")).mapError .python
  let reconstructed ← (Sources.reconstructSixUnitTotalsFromEvidence host.rendering
    (.dict evidence)).mapError .accounting
  return (totals, evidence, reconstructed)

/-- What the replay returns. -/
def replayedReport (store : ReportStore) (reportId : String) (stored : Dict) (canonical : Value)
    (sourceCalls schedulerCalls : ℤ) (six : SixUnitTotals × Dict × SixUnitTotals) :
    ReplayedReport where
  reportId := reportId
  reportHash := host.hexdigest canonical
  report := stored
  artifactMatches :=
    (store.artifacts.find? (artifactName reportId)).any fun artifact =>
      artifact.text = .json canonical
  campaignSourceCalls := sourceCalls
  campaignSchedulerCalls := schedulerCalls
  sixUnitTotals := six.1
  sixUnitEvidence := six.2.1
  sixUnitTotalsReconstructed := six.2.2
  sixUnitReportReplayEqual := (Sources.reconcileSixUnitTotals six.1 six.2.2).equal
  elapsedSeconds := stored.get "elapsed_seconds"

/-- `replay_campaign_terminal_report`. Its connection opens the URI of the path as it stands, so the
path is one that names itself there: without `#`, `?`, an escape or two slashes at its start. -/
def replayCampaignTerminalReport (store : ReportStore)
    (reportId campaignId configurationId : String) : Except ReportFault ReplayedReport := do
  let row ← terminalRow store reportId campaignId configurationId
  let (stored, canonical) ← storedReport host row
  let sourceCalls ← (storedCount host stored "campaign_source_calls").mapError .python
  let schedulerCalls ← (storedCount host stored "campaign_scheduler_calls").mapError .python
  let six ← readSixUnits host stored
  return replayedReport host store reportId stored canonical sourceCalls schedulerCalls six

end PrinterV1.OperatorCli.CampaignReport
