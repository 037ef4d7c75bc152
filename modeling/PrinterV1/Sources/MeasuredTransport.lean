import Mathlib.Algebra.BigOperators.Group.List.Basic
import Mathlib.Data.List.Nodup
import Mathlib.Tactic.Ring
import PrinterV1.Python.Text

/-!
# Measured transport operations

A ledger of outbound calls and of the three counters beside them. The ledger
carries what recording guarantees: no two operations have one key, and no
measure is negative. Its six unit totals are the count, the byte and row sums of
the operations and the three counters.
-/

namespace PrinterV1.Sources

/-- The six independent budget units. -/
@[ext]
structure SixUnitTotals where
  sourceTransportOperation : ℤ
  localValidationStep : ℤ
  schedulerWorkItem : ℤ
  sourceResponseBytes : ℤ
  normalizedSourceRows : ℤ
  lifecycleReservedTransportOperation : ℤ
  deriving DecidableEq, Repr

namespace SixUnitTotals

instance : Zero SixUnitTotals := ⟨⟨0, 0, 0, 0, 0, 0⟩⟩

instance : Add SixUnitTotals where
  add a b :=
    { sourceTransportOperation := a.sourceTransportOperation + b.sourceTransportOperation
      localValidationStep := a.localValidationStep + b.localValidationStep
      schedulerWorkItem := a.schedulerWorkItem + b.schedulerWorkItem
      sourceResponseBytes := a.sourceResponseBytes + b.sourceResponseBytes
      normalizedSourceRows := a.normalizedSourceRows + b.normalizedSourceRows
      lifecycleReservedTransportOperation :=
        a.lifecycleReservedTransportOperation + b.lifecycleReservedTransportOperation }

instance : AddMonoid SixUnitTotals where
  add_assoc a b c := by ext <;> exact Int.add_assoc _ _ _
  zero_add a := by ext <;> exact Int.zero_add _
  add_zero a := by ext <;> exact Int.add_zero _
  nsmul := nsmulRec

/-- The values, in the order of `SIX_UNITS`. -/
def values (t : SixUnitTotals) : List ℤ :=
  [t.sourceTransportOperation, t.localValidationStep, t.schedulerWorkItem, t.sourceResponseBytes,
    t.normalizedSourceRows, t.lifecycleReservedTransportOperation]

end SixUnitTotals

/-- One actual outbound call. -/
structure TransportOperationIdentity where
  stage : String
  sourceName : String
  endpointOwner : String
  governedRequestKind : String
  methodOrEndpoint : String
  withinRequestOrdinal : ℤ
  targetCategory : String
  targetIdentity : Option String
  responseBytes : ℤ
  normalizedRows : ℤ
  result : String
  reservedFrom : Option String
  deriving DecidableEq, Repr

/-- What the ledger tells two operations apart by. -/
structure TransportKey where
  stage : String
  sourceName : String
  governedRequestKind : String
  methodOrEndpoint : String
  withinRequestOrdinal : ℤ
  targetCategory : String
  targetIdentity : Option String
  deriving DecidableEq, Repr

def TransportOperationIdentity.key (i : TransportOperationIdentity) : TransportKey where
  stage := i.stage
  sourceName := i.sourceName
  governedRequestKind := i.governedRequestKind
  methodOrEndpoint := i.methodOrEndpoint
  withinRequestOrdinal := i.withinRequestOrdinal
  targetCategory := i.targetCategory
  targetIdentity := i.targetIdentity

def stageCeilings : List (String × ℤ) :=
  [("DIRECT_PUMP_NOMINATION", 13), ("PUMPSWAP_EXACT_VERIFICATION", 20),
    ("DEXSCREENER_DISCOVERY", 30), ("CANDIDATE_SUPPLY_AGGREGATE", 46), ("HOLDER_SAFETY", 10),
    ("READINESS_ONLY", 6), ("WINDOW_15M_OBSERVATIONS", 64), ("PRE_CLOSE_CONTEXT", 16)]

def defaultByteCeiling : ℤ := 1048576

def byteCeilings : List (String × ℤ) :=
  [("solana_rpc", 1048576), ("dexscreener_profiles", 2000000), ("dexscreener_pair", 512000),
    ("default", defaultByteCeiling)]

/-- `MeasuredTransportError`, with its text. -/
structure MeasuredTransportError where
  text : String
  deriving DecidableEq, Repr

/-- A ledger whose operations have different keys and no negative measure. -/
structure MeasuredTransportLedger where
  transports : List TransportOperationIdentity
  localValidations : ℕ
  schedulerWorkItems : ℕ
  lifecycleReservations : ℕ
  keys_nodup : (transports.map TransportOperationIdentity.key).Nodup
  measured : ∀ i ∈ transports, 0 ≤ i.responseBytes ∧ 0 ≤ i.normalizedRows

namespace MeasuredTransportLedger

def empty : MeasuredTransportLedger where
  transports := []
  localValidations := 0
  schedulerWorkItems := 0
  lifecycleReservations := 0
  keys_nodup := by simp
  measured := by simp

/-- Why a ledger does not take an operation; `none` when it does. The checks are
those of `record_transport` under its default ceilings, in its order. -/
def recordFault (ledger : MeasuredTransportLedger) (i : TransportOperationIdentity) :
    Option MeasuredTransportError :=
  let ceiling := stageCeilings.lookup i.stage
  let stageCount := (ledger.transports.filter fun item => item.stage = i.stage).length
  let bytesCeiling := (byteCeilings.lookup i.sourceName).getD defaultByteCeiling
  if i.key ∈ ledger.transports.map TransportOperationIdentity.key then
    some ⟨"DUPLICATE_TRANSPORT_IDENTITY"⟩
  else if ceiling.any fun limit => (stageCount : ℤ) + 1 > limit then
    some ⟨"STAGE_TRANSPORT_CEILING:" ++ i.stage ++ ":" ++ toString (ceiling.getD 0)⟩
  else if i.responseBytes > bytesCeiling then
    some ⟨"SOURCE_RESPONSE_BYTE_CEILING:" ++ i.sourceName⟩
  else if i.responseBytes < 0 ∨ i.normalizedRows < 0 then some ⟨"NEGATIVE_TRANSPORT_MEASURE"⟩
  else none

theorem recordFault_eq_none {ledger : MeasuredTransportLedger} {i : TransportOperationIdentity}
    (h : ledger.recordFault i = none) :
    i.key ∉ ledger.transports.map TransportOperationIdentity.key ∧
      0 ≤ i.responseBytes ∧ 0 ≤ i.normalizedRows := by
  unfold recordFault at h
  dsimp only at h
  split_ifs at h with hkey hstage hbytes hsign
  refine ⟨hkey, ?_, ?_⟩ <;> omega

/-- A ledger with one more operation. -/
def append (ledger : MeasuredTransportLedger) (i : TransportOperationIdentity)
    (h : ledger.recordFault i = none) : MeasuredTransportLedger :=
  { ledger with
    transports := ledger.transports ++ [i]
    keys_nodup := by
      rw [List.map_append, List.nodup_append]
      refine ⟨ledger.keys_nodup, by simp, ?_⟩
      intro k hk k' hk'
      have hkey : k' = i.key := by simpa using hk'
      rw [hkey]
      rintro rfl
      exact (recordFault_eq_none h).1 hk
    measured := by
      intro j hj
      rcases List.mem_append.mp hj with hj | hj
      · exact ledger.measured j hj
      · obtain rfl : j = i := by simpa using hj
        exact (recordFault_eq_none h).2 }

def recordTransport (ledger : MeasuredTransportLedger) (i : TransportOperationIdentity) :
    Except MeasuredTransportError MeasuredTransportLedger :=
  match h : ledger.recordFault i with
  | some fault => .error fault
  | none => .ok (ledger.append i h)

def recordLocalValidation (ledger : MeasuredTransportLedger) (count : ℤ) :
    Except MeasuredTransportError MeasuredTransportLedger :=
  if count < 0 then .error ⟨"NEGATIVE_LOCAL_VALIDATION"⟩
  else .ok { ledger with localValidations := ledger.localValidations + count.toNat }

def recordSchedulerWorkItem (ledger : MeasuredTransportLedger) (count : ℤ) :
    Except MeasuredTransportError MeasuredTransportLedger :=
  if count < 0 then .error ⟨"NEGATIVE_SCHEDULER_WORK_ITEM"⟩
  else .ok { ledger with schedulerWorkItems := ledger.schedulerWorkItems + count.toNat }

def reserveLifecycleTransports (ledger : MeasuredTransportLedger) (count : ℤ) :
    Except MeasuredTransportError MeasuredTransportLedger :=
  if count < 0 then .error ⟨"NEGATIVE_LIFECYCLE_RESERVATION"⟩
  else .ok { ledger with lifecycleReservations := ledger.lifecycleReservations + count.toNat }

def recordAll (ledger : MeasuredTransportLedger) (items : List TransportOperationIdentity) :
    Except MeasuredTransportError MeasuredTransportLedger :=
  items.foldlM recordTransport ledger

/-- `extend`; a ledger that raises is not used again. -/
def extend (ledger other : MeasuredTransportLedger) :
    Except MeasuredTransportError MeasuredTransportLedger := do
  let ledger ← ledger.recordAll other.transports
  return { ledger with
    localValidations := ledger.localValidations + other.localValidations
    schedulerWorkItems := ledger.schedulerWorkItems + other.schedulerWorkItems
    lifecycleReservations := ledger.lifecycleReservations + other.lifecycleReservations }

def sourceResponseBytes (ledger : MeasuredTransportLedger) : ℤ :=
  (ledger.transports.map fun i => i.responseBytes).sum

def normalizedSourceRows (ledger : MeasuredTransportLedger) : ℤ :=
  (ledger.transports.map fun i => i.normalizedRows).sum

def sixUnitTotals (ledger : MeasuredTransportLedger) : SixUnitTotals where
  sourceTransportOperation := ledger.transports.length
  localValidationStep := ledger.localValidations
  schedulerWorkItem := ledger.schedulerWorkItems
  sourceResponseBytes := ledger.sourceResponseBytes
  normalizedSourceRows := ledger.normalizedSourceRows
  lifecycleReservedTransportOperation := ledger.lifecycleReservations

theorem recordTransport_ok {ledger ledger' : MeasuredTransportLedger}
    {i : TransportOperationIdentity} (h : ledger.recordTransport i = .ok ledger') :
    ledger'.transports = ledger.transports ++ [i] ∧
      ledger'.localValidations = ledger.localValidations ∧
      ledger'.schedulerWorkItems = ledger.schedulerWorkItems ∧
      ledger'.lifecycleReservations = ledger.lifecycleReservations := by
  unfold recordTransport at h
  split at h
  · cases h
  · obtain rfl := Except.ok.inj h
    exact ⟨rfl, rfl, rfl, rfl⟩

theorem recordAll_ok {items : List TransportOperationIdentity} :
    ∀ {ledger ledger' : MeasuredTransportLedger}, ledger.recordAll items = .ok ledger' →
      ledger'.transports = ledger.transports ++ items ∧
        ledger'.localValidations = ledger.localValidations ∧
        ledger'.schedulerWorkItems = ledger.schedulerWorkItems ∧
        ledger'.lifecycleReservations = ledger.lifecycleReservations := by
  induction items with
  | nil =>
    intro ledger ledger' h
    obtain rfl : ledger = ledger' := Except.ok.inj h
    simp
  | cons i items ih =>
    intro ledger ledger' h
    simp only [recordAll, List.foldlM_cons] at h
    cases hi : ledger.recordTransport i with
    | error fault => simp [hi, bind, Except.bind] at h
    | ok middle =>
      simp only [hi, bind, Except.bind] at h
      obtain ⟨ht, hv, hw, hr⟩ := recordTransport_ok hi
      obtain ⟨ht', hv', hw', hr'⟩ := ih h
      refine ⟨?_, hv'.trans hv, hw'.trans hw, hr'.trans hr⟩
      rw [ht', ht]
      simp

/-- Extending a ledger adds the totals. -/
theorem extend_totals {ledger other ledger' : MeasuredTransportLedger}
    (h : ledger.extend other = .ok ledger') :
    ledger'.sixUnitTotals = ledger.sixUnitTotals + other.sixUnitTotals := by
  unfold extend at h
  cases hall : ledger.recordAll other.transports with
  | error fault => simp [hall, bind, Except.bind] at h
  | ok middle =>
    simp only [hall, bind, Except.bind, pure, Except.pure, Except.ok.injEq] at h
    obtain ⟨ht, hv, hw, hr⟩ := recordAll_ok hall
    subst h
    simp only [sixUnitTotals, sourceResponseBytes, normalizedSourceRows, ht, hv, hw, hr,
      List.length_append, List.map_append, List.sum_append, Nat.cast_add]
    rfl

end MeasuredTransportLedger
end PrinterV1.Sources
