import PrinterV1.OperatorCli.TerminalReport
import PrinterV1.Python.Objects
import PrinterV1.Sources.SixUnitEscapes

/-!
# The evidence of a report before it is written

`_assert_report_six_unit_evidence` compares the totals of a report with the evidence
that it carries, before the report goes through JSON: either may hold tuples, and the
totals may be a list of pairs. The reconstruction is that of the stored report where
no identity of an operation holds a tuple.
-/

namespace PrinterV1.OperatorCli.CampaignReport

open Python Faults
open Sources (Fault SixUnitTotals SixUnitComparison evidenceKind)

variable (R : Value.Rendering)

/-- `_integer` -/
def integer (x : PyObject) : Except Fault ℤ :=
  match x.toIntOrZero R with
  | .ok n => .ok n
  | .error (.overflowError text) => .error (.python (.overflowError text))
  | .error _ => .error (.sixUnit ⟨"EVIDENCE_MALFORMED_COUNTER"⟩)

def identityFields : List String :=
  ["stage", "source_name", "governed_request_kind", "method_or_endpoint", "within_request_ordinal",
    "target_category", "target_identity"]

/-- The objects that identify a raw operation. -/
def rawKey (raw : Entries) : List PyObject := identityFields.map raw.get

/-- One raw operation: its key and its two measures. -/
def readEntries (seen : List (List PyObject)) (raw : Entries) :
    Except Fault (List PyObject × ℤ × ℤ) :=
  let key := rawKey raw
  match key.find? fun x => !x.hashable with
  | some x => .error (.python (.typeError ("unhashable type: '" ++ x.typeName ++ "'")))
  | none =>
    if seen.any fun k => PyObject.sameKeys key k then
      .error (.sixUnit ⟨"EVIDENCE_DUPLICATE_IDENTITY"⟩)
    else do
      let bytes ← integer R (raw.get "response_bytes")
      let rows ← integer R (raw.get "normalized_rows")
      if bytes < 0 ∨ rows < 0 then .error (.sixUnit ⟨"EVIDENCE_NEGATIVE_MEASURE"⟩)
      else .ok (key, bytes, rows)

def readOperation (seen : List (List PyObject)) : PyObject → Except Fault (List PyObject × ℤ × ℤ)
  | .dict raw => readEntries R seen raw
  | _ => .error (.sixUnit ⟨"EVIDENCE_IDENTITY_MALFORMED"⟩)

/-- The loop over the operations: the sums of their measures. -/
def readOperations : List (List PyObject) → List PyObject → Except Fault (ℤ × ℤ)
  | _, [] => .ok (0, 0)
  | seen, raw :: rest => do
    let (key, bytes, rows) ← readOperation R seen raw
    let (moreBytes, moreRows) ← readOperations (key :: seen) rest
    return (bytes + moreBytes, rows + moreRows)

/-- `evidence.get("transport_operations") or ()`, where it is a sequence. -/
def operationsOf (evidence : Entries) : Option (List PyObject) :=
  let transports := evidence.get "transport_operations"
  if transports.truthy then
    match transports with
    | .list xs => some xs
    | .tuple xs => some xs
    | _ => none
  else some []

/-- The kind is neither absent nor the one that is supported; the text of a list, a tuple or a
mapping is no kind. -/
def otherKind : PyObject → Bool
  | .scalar s => s.value.textOrEmpty R ≠ evidenceKind && s.value.textOrEmpty R ≠ ""
  | x => x.truthy

/-- The three counters of the evidence. -/
def readCounters (evidence : Entries) : Except Fault (ℤ × ℤ × ℤ) := do
  let validations ← integer R (evidence.get "local_validations")
  let work ← integer R (evidence.get "scheduler_work_items")
  let reservations ← integer R (evidence.get "lifecycle_reservations")
  if validations < 0 ∨ work < 0 ∨ reservations < 0 then
    .error (.sixUnit ⟨"EVIDENCE_NEGATIVE_MEASURE"⟩)
  else .ok (validations, work, reservations)

/-- `reconstruct_six_unit_totals_from_evidence`, on a mapping. -/
def reconstructSixUnitTotals (evidence : Entries) : Except Fault SixUnitTotals :=
  if otherKind R (evidence.get "evidence_kind") ∧ evidence.has "transport_operations" = false then
    .error (.sixUnit ⟨"EVIDENCE_KIND_UNSUPPORTED"⟩)
  else
    match operationsOf evidence with
    | none => .error (.sixUnit ⟨"EVIDENCE_TRANSPORTS_MALFORMED"⟩)
    | some transports => do
      let (bytes, rows) ← readOperations R [] transports
      let (validations, work, reservations) ← readCounters R evidence
      return {
        sourceTransportOperation := transports.length
        localValidationStep := validations
        schedulerWorkItem := work
        sourceResponseBytes := bytes
        normalizedSourceRows := rows
        lifecycleReservedTransportOperation := reservations }

/-- `{unit: int(stored.get(unit) or 0) for unit in SIX_UNITS}` -/
def readUnits (stored : Entries) : Except PyError SixUnitTotals := do
  let transports ← (stored.get "SOURCE_TRANSPORT_OPERATION").toIntOrZero R
  let validations ← (stored.get "LOCAL_VALIDATION_STEP").toIntOrZero R
  let work ← (stored.get "SCHEDULER_WORK_ITEM").toIntOrZero R
  let bytes ← (stored.get "SOURCE_RESPONSE_BYTES").toIntOrZero R
  let rows ← (stored.get "NORMALIZED_SOURCE_ROWS").toIntOrZero R
  let reserved ← (stored.get "LIFECYCLE_RESERVED_TRANSPORT_OPERATION").toIntOrZero R
  return ⟨transports, validations, work, bytes, rows, reserved⟩

/-- `dict(report_totals or {})`, or the totals inside it. -/
def storedTotals (reportTotals : PyObject) : Except PyError Entries := do
  let stored ← if reportTotals.truthy then reportTotals.dictOf else .ok []
  if stored.has "six_unit_totals" then (stored.get "six_unit_totals").dictOf else .ok stored

/-- `compare_report_totals_to_evidence` -/
def compareReportTotals (reportTotals : PyObject) (evidence : Entries) :
    Except Fault SixUnitComparison := do
  let reconstructed ← reconstructSixUnitTotals R evidence
  let stored ← (storedTotals reportTotals).mapError .python
  let totals ← (readUnits R stored).mapError .python
  return Sources.reconcileSixUnitTotals totals reconstructed

/-- `_assert_report_six_unit_evidence` -/
def assertReportSixUnitEvidence (report : Entries) : Except ReportFault Unit :=
  match report.get "six_unit_evidence" with
  | .dict evidence => do
    if evidence.isEmpty then throw (.closure "SIX_UNIT_EVIDENCE_MISSING")
    let comparison ←
      (compareReportTotals R (report.get "six_unit_totals") evidence).mapError invalidEvidence
    if comparison.equal = false then throw (.closure "SIX_UNIT_EVIDENCE_MISMATCH")
    match report.get "six_unit_evidence_match" with
    | .scalar (.bool false) => throw (.closure "SIX_UNIT_EVIDENCE_MISMATCH")
    | _ => return ()
  | _ => .error (.closure "SIX_UNIT_EVIDENCE_MISSING")

end PrinterV1.OperatorCli.CampaignReport
