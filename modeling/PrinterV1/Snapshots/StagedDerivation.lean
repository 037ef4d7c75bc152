import Mathlib.Data.Prod.Lex
import PrinterV1.Foundation.Faults
import PrinterV1.Foundation.Maxima
import PrinterV1.Foundation.Sorting
import PrinterV1.Foundation.Tables
import PrinterV1.Python.IsoOrder
import PrinterV1.Sources.Governor
import PrinterV1.Sources.TradeWindows

/-!
# The staged fifteen-minute price change

A new snapshot takes its price change from an older one of its pair. The older
ones are looked up by the text of their time, in the order of how near their
interval comes to fifteen minutes, which is computed in doubles; the first is used
that the derivation accepts, which reads the times themselves.
-/

namespace PrinterV1.Snapshots.Staged

open Python Sources
open Sources.Geckoterminal15m (LocalZone)

inductive SnapshotQualityLabel
  | cleanSnapshot | partialSnapshot | dirtySnapshot | staleSnapshot | missingCriticalFields
  | conflictingSnapshot | doNotUseForMemory
  deriving DecidableEq, Repr

def disqualifyingQualityLabels : List SnapshotQualityLabel :=
  [.dirtySnapshot, .staleSnapshot, .missingCriticalFields, .conflictingSnapshot]

/-- The texts of the labels. -/
def statusText : SourceStatus → String
  | .complete => "COMPLETE"
  | .partialStatus => "PARTIAL"
  | .failed => "FAILED"
  | .stale => "STALE"
  | .conflicting => "CONFLICTING"

def labelText : DataQualityLabel → String
  | .cleanData => "CLEAN_DATA"
  | .acceptablePartialData => "ACCEPTABLE_PARTIAL_DATA"
  | .dirtyData => "DIRTY_DATA"
  | .staleData => "STALE_DATA"
  | .missingCriticalData => "MISSING_CRITICAL_DATA"
  | .conflictingData => "CONFLICTING_DATA"
  | .doNotTrain => "DO_NOT_TRAIN"

def intervalMin : ℤ := seconds 720
def intervalMax : ℤ := seconds 1080
def targetInterval : ℤ := seconds 900

/-- `parse_timestamp` of a text, where it does not raise. -/
def parseTimestamp (zone : LocalZone) (value : String) : Option Instant := do
  let d ← fromisoformat (replaceZulu value)
  let i := d.wall - d.utcoffset.getD (zone.offset d.wall)
  if 0 ≤ i ∧ i < instantEnd then some i else none

/-- A text that is accepted as a time, and the time it is. -/
structure CapturedAt (zone : LocalZone) where
  text : String
  instant : Instant
  parsed : parseTimestamp zone text = some instant

variable {zone : LocalZone}

/-- The columns of `printer_token_snapshots` past the id. -/
structure SnapshotColumns (zone : LocalZone) where
  tokenId : ℤ
  pairId : Option ℤ
  capturedAt : CapturedAt zone
  priceUsd : Option ℚ
  priceChange15m : Option ℚ
  sourceStatus : SourceStatus
  dataQualityLabel : DataQualityLabel
  snapshotQualityLabel : Option SnapshotQualityLabel
  normalizedSnapshotPayloadJson : Option Dict
  otherColumns : Dict

structure SnapshotRow (zone : LocalZone) where
  id : ℤ
  columns : SnapshotColumns zone

/-- What `derive_price_change_15m` reads of a snapshot. -/
structure Snapshot (zone : LocalZone) where
  id : ℤ
  columns : SnapshotColumns zone
  sourceName : Value

/-- A normalized payload: the columns it is stored in, and its source. -/
structure NormalizedSnapshot (zone : LocalZone) where
  columns : SnapshotColumns zone
  sourceName : Option String

abbrev SnapshotTable (zone : LocalZone) := Table (SnapshotRow.id : SnapshotRow zone → ℤ)

/-- The rows in the order in which a query reads them: the `SELECT` names none, and there is an
index. -/
structure Scan (table : SnapshotTable zone) where
  rows : List (SnapshotRow zone)
  perm : rows.Perm table.rows

/-! ## The derivation -/

structure StagedDerivationResult where
  derivedPriceChange15m : ℚ
  provenance : Dict
  deriving DecidableEq, Repr

/-- `round(((end - start) / start) * 100, 6)` -/
def priceChange (startPrice endPrice : ℚ) : ℚ :=
  roundHalfEven ((endPrice - startPrice) / startPrice * 100 * 10 ^ 6) / 10 ^ 6

/-- The keys of the provenance, in order. -/
def provenanceOf (start stop : Snapshot zone) (startPrice endPrice : ℚ) (derivedAt : String) :
    Dict :=
  [("derivation_kind", .str "STAGED_SNAPSHOT_PRICE_CHANGE_15M"),
    ("derived_at", .str derivedAt),
    ("derived_price_change_15m", .float (priceChange startPrice endPrice)),
    ("end_captured_at", .str stop.columns.capturedAt.text),
    ("end_data_quality_label", .str (labelText stop.columns.dataQualityLabel)),
    ("end_price_usd", .float endPrice),
    ("end_snapshot_id", .int stop.id),
    ("end_source_status", .str (statusText stop.columns.sourceStatus)),
    ("interval_seconds",
      .float (totalSeconds
        (stop.columns.capturedAt.instant - start.columns.capturedAt.instant))),
    ("pair_id", start.columns.pairId.elim .none .int),
    ("source_name", start.sourceName),
    ("start_captured_at", .str start.columns.capturedAt.text),
    ("start_data_quality_label", .str (labelText start.columns.dataQualityLabel)),
    ("start_price_usd", .float startPrice),
    ("start_snapshot_id", .int start.id),
    ("start_source_status", .str (statusText start.columns.sourceStatus)),
    ("token_id", .int start.columns.tokenId)]

/-- The label does not rule the snapshot out. -/
def qualifies (c : SnapshotColumns zone) : Bool :=
  c.snapshotQualityLabel.all fun label => label ∉ disqualifyingQualityLabels

def derivePriceChange15m (start stop : Snapshot zone) (derivedAt : String) :
    Option StagedDerivationResult := do
  guard (start.columns.tokenId = stop.columns.tokenId)
  guard (start.columns.pairId.isSome ∧ start.columns.pairId = stop.columns.pairId)
  guard (Value.pyEq start.sourceName stop.sourceName)
  guard (start.columns.sourceStatus = .complete ∧ stop.columns.sourceStatus = .complete)
  guard (start.columns.dataQualityLabel = .cleanData ∧ stop.columns.dataQualityLabel = .cleanData)
  guard (qualifies start.columns ∧ qualifies stop.columns)
  let startPrice ← start.columns.priceUsd
  let endPrice ← stop.columns.priceUsd
  guard (0 < startPrice)
  let interval := stop.columns.capturedAt.instant - start.columns.capturedAt.instant
  guard (0 < interval)
  guard (intervalMin ≤ interval ∧ interval ≤ intervalMax)
  return ⟨priceChange startPrice endPrice, provenanceOf start stop startPrice endPrice derivedAt⟩

/-! ## The candidates -/

/-- `ts - timedelta(...)` -/
def before (ts duration : ℤ) : Except PyError Instant :=
  if 0 ≤ ts - duration then .ok (ts - duration)
  else .error (.overflowError "date value out of range")

/-- `abs(interval - target_interval_seconds)` -/
def intervalKey (micros : ℤ) : ℚ := |float64 (totalSeconds micros - 900)|

/-- `_sort_key` -/
def startKey (stop : Instant) (row : SnapshotRow zone) : ℚ ×ₗ ℚ :=
  toLex (intervalKey (stop - row.columns.capturedAt.instant),
    -totalSeconds (row.columns.capturedAt.instant - unixEpoch))

/-- The source clause; a name that is no text is the name of no source. -/
def fromSource (sourceName : Option String) (row : SnapshotRow zone) : Bool :=
  sourceName.all fun name =>
    row.columns.normalizedSnapshotPayloadJson.any fun payload =>
      payload.get "source_name" = .str name

def findEligibleSnapshotPairs (rows : List (SnapshotRow zone)) (tokenId pairId : ℤ)
    (sourceName : Option String) (stop : Instant) : Except PyError (List (SnapshotRow zone)) := do
  let earliestStart ← before stop intervalMax
  let latestStart ← before stop intervalMin
  let eligible := rows.filter fun row =>
    row.columns.tokenId = tokenId ∧ row.columns.pairId.getD (-1) = pairId ∧
      isoformat earliestStart ≤ row.columns.capturedAt.text ∧
      row.columns.capturedAt.text ≤ isoformat latestStart ∧
      fromSource sourceName row ∧ row.columns.sourceStatus = .complete ∧
      row.columns.dataQualityLabel = .cleanData
  return sortBy (startKey stop) eligible

/-! ## The update -/

/-- The start a stored row is, with the source its payload names. -/
def SnapshotRow.snapshot (row : SnapshotRow zone) : Snapshot zone where
  id := row.id
  columns := row.columns
  sourceName := (row.columns.normalizedSnapshotPayloadJson.getD []).get "source_name"

/-- `dict(normalized)` with its id. -/
def NormalizedSnapshot.snapshot (normalized : NormalizedSnapshot zone) (id : ℤ) :
    Snapshot zone where
  id := id
  columns := normalized.columns
  sourceName := normalized.sourceName.elim .none .str

def protectedSourceKinds : List Value := [.str "NATIVE_SOURCE", .str "PROVIDER_CANDLE_DERIVED"]

/-- The annotation of a payload. -/
def sourceKind (payload : Option Dict) : Value :=
  (payload.getD []).get "price_change_15m_source_kind"

/-- The payload with the derivation in it. -/
def mergedPayload (payload : Option Dict) (result : StagedDerivationResult) : Dict :=
  ((payload.getD []).set "price_change_15m_source_kind" (.str "DERIVED_STAGED_SNAPSHOT")).set
    "price_change_15m_provenance" (.dict result.provenance)

/-- The two columns of the `UPDATE`. -/
def setDerivation (derived : ℚ) (payload : Dict) :
    Update (SnapshotRow.id : SnapshotRow zone → ℤ) where
  apply row := { row with columns := { row.columns with
    priceChange15m := some derived, normalizedSnapshotPayloadJson := some payload } }
  key_apply _ := rfl

/-- What is done with the first result there is. -/
def storeDerivation (table : SnapshotTable zone) (snapshotId : ℤ) (payload : Option Dict)
    (result : StagedDerivationResult) : Except PyError (SnapshotTable zone × Bool) := do
  if (sourceKind payload).hashable = false then
    throw (.typeError ("unhashable type: '" ++ (sourceKind payload).typeName ++ "'"))
  if sourceKind payload ∈ protectedSourceKinds then return (table, false)
  return (table.updateKey snapshotId
    (setDerivation result.derivedPriceChange15m (mergedPayload payload result)), true)

def applyStagedDerivation (table : SnapshotTable zone) (scan : Scan table) (snapshotId : ℤ)
    (normalized : NormalizedSnapshot zone) (derivedAt : String) :
    Except PyError (SnapshotTable zone × Bool) :=
  match normalized.columns.pairId with
  | none => .ok (table, false)
  | some pairId => do
    let candidates ← findEligibleSnapshotPairs scan.rows normalized.columns.tokenId pairId
      normalized.sourceName normalized.columns.capturedAt.instant
    match candidates.findSome? fun row =>
        derivePriceChange15m row.snapshot (normalized.snapshot snapshotId) derivedAt with
    | none => return (table, false)
    | some result =>
      storeDerivation table snapshotId normalized.columns.normalizedSnapshotPayloadJson result

/-! ## What is accepted -/

variable {stop : Snapshot zone} {derivedAt : String}

/-- What the derivation checks, of the start `start`. -/
structure AcceptedBy (stop start : Snapshot zone) : Prop where
  token : start.columns.tokenId = stop.columns.tokenId
  pair : start.columns.pairId.isSome ∧ start.columns.pairId = stop.columns.pairId
  source : Value.pyEq start.sourceName stop.sourceName = true
  complete : start.columns.sourceStatus = .complete ∧ stop.columns.sourceStatus = .complete
  clean : start.columns.dataQualityLabel = .cleanData ∧ stop.columns.dataQualityLabel = .cleanData
  interval : intervalMin ≤ stop.columns.capturedAt.instant - start.columns.capturedAt.instant ∧
    stop.columns.capturedAt.instant - start.columns.capturedAt.instant ≤ intervalMax

/-- What a derivation that succeeds has checked, and what it returns. -/
theorem derived_spec {start : Snapshot zone} {result : StagedDerivationResult}
    (h : derivePriceChange15m start stop derivedAt = some result) :
    AcceptedBy stop start ∧ ∃ startPrice endPrice,
      result = ⟨priceChange startPrice endPrice,
        provenanceOf start stop startPrice endPrice derivedAt⟩ := by
  simp only [derivePriceChange15m, Option.bind_eq_bind, Option.bind_eq_some_iff,
    Option.guard_eq_some'] at h
  obtain ⟨_, htoken, _, hpair, _, hsource, _, hcomplete, _, hclean, _, _, startPrice, _, endPrice,
    _, _, _, _, _, _, hinterval, h⟩ := h
  exact ⟨⟨htoken, hpair, hsource, hcomplete, hclean, hinterval⟩, startPrice, endPrice,
    (Option.some.inj h).symm⟩

theorem acceptedBy_of_derived {start : Snapshot zone} {result : StagedDerivationResult}
    (h : derivePriceChange15m start stop derivedAt = some result) : AcceptedBy stop start :=
  (derived_spec h).1

/-- The id of the start is found again in the provenance. -/
theorem startId_of_derived {start : Snapshot zone} {result : StagedDerivationResult}
    (h : derivePriceChange15m start stop derivedAt = some result) :
    result.provenance.get "start_snapshot_id" = .int start.id := by
  obtain ⟨_, startPrice, endPrice, rfl⟩ := derived_spec h
  simp [provenanceOf]

/-! ## The best start -/

/-- The row is stored, and accepted as the start. -/
structure Accepted (table : SnapshotTable zone) (stop : Snapshot zone) (derivedAt : String)
    (row : SnapshotRow zone) : Prop where
  mem : row ∈ table.rows
  derived : (derivePriceChange15m row.snapshot stop derivedAt).isSome = true

theorem Accepted.acceptedBy {table : SnapshotTable zone} {row : SnapshotRow zone}
    (h : Accepted table stop derivedAt row) : AcceptedBy stop row.snapshot := by
  obtain ⟨result, hresult⟩ := Option.isSome_iff_exists.mp h.derived
  exact acceptedBy_of_derived hresult

/-- How far the interval is from the target. -/
def distance (stop : Snapshot zone) (row : SnapshotRow zone) : ℕ :=
  (stop.columns.capturedAt.instant - row.columns.capturedAt.instant - targetInterval).natAbs

/-- The interval of an accepted start that is closest to the target, the start
the latest of those. -/
structure IsBest (table : SnapshotTable zone) (stop : Snapshot zone) (derivedAt : String)
    (row : SnapshotRow zone) : Prop where
  accepted : Accepted table stop derivedAt row
  nearest : ∀ other, Accepted table stop derivedAt other → distance stop row ≤ distance stop other
  latest : ∀ other, Accepted table stop derivedAt other →
    distance stop other = distance stop row →
      other.columns.capturedAt.instant ≤ row.columns.capturedAt.instant

/-- The exact distances in order, the later start first on ties. -/
def rank (stop : Snapshot zone) (row : SnapshotRow zone) : ℕ ×ₗ ℤ :=
  toLex (distance stop row, -row.columns.capturedAt.instant)

theorem rank_le_iff {row other : SnapshotRow zone} :
    rank stop row ≤ rank stop other ↔
      distance stop row ≤ distance stop other ∧ (distance stop other = distance stop row →
        other.columns.capturedAt.instant ≤ row.columns.capturedAt.instant) := by
  rw [rank, rank, Prod.Lex.toLex_le_toLex]
  change distance stop row < distance stop other ∨ distance stop row = distance stop other ∧
    -row.columns.capturedAt.instant ≤ -other.columns.capturedAt.instant ↔ _
  constructor
  · rintro (hlt | ⟨heq, hle⟩)
    · exact ⟨hlt.le, fun heq => absurd heq hlt.ne'⟩
    · exact ⟨heq.le, fun _ => neg_le_neg_iff.mp hle⟩
  · rintro ⟨hle, hlatest⟩
    rcases lt_or_eq_of_le hle with hlt | heq
    · exact .inl hlt
    · exact .inr ⟨heq, neg_le_neg (hlatest heq.symm)⟩

theorem isBest_iff {table : SnapshotTable zone} {row : SnapshotRow zone} :
    IsBest table stop derivedAt row ↔ Accepted table stop derivedAt row ∧
      ∀ other, Accepted table stop derivedAt other → rank stop row ≤ rank stop other := by
  constructor
  · intro h
    exact ⟨h.accepted, fun other ho => rank_le_iff.mpr ⟨h.nearest other ho, h.latest other ho⟩⟩
  · rintro ⟨haccepted, hkey⟩
    exact ⟨haccepted, fun other ho => (rank_le_iff.mp (hkey other ho)).1,
      fun other ho => (rank_le_iff.mp (hkey other ho)).2⟩

theorem IsBest.of_same {table : SnapshotTable zone} {row other : SnapshotRow zone}
    (h : IsBest table stop derivedAt row) (hother : Accepted table stop derivedAt other)
    (hinstant : other.columns.capturedAt.instant = row.columns.capturedAt.instant) :
    IsBest table stop derivedAt other := by
  have hdistance : distance stop other = distance stop row := by
    unfold distance
    rw [hinstant]
  refine ⟨hother, fun third hthird => hdistance.trans_le (h.nearest third hthird), ?_⟩
  intro third hthird heq
  exact (h.latest third hthird (heq.trans hdistance)).trans hinstant.ge

/-! ## The order of the candidates -/

/-- In doubles the distance of an interval is off by less than a tenth of a microsecond. -/
theorem abs_intervalKey_sub_le {micros : ℤ} (h : intervalMin ≤ micros ∧ micros ≤ intervalMax) :
    abs (intervalKey micros - |(micros : ℚ) / microsPerSecond - 900|) ≤ 1 / 10 ^ 7 := by
  have hmicros : (720000000 : ℚ) ≤ micros ∧ (micros : ℚ) ≤ 1080000000 :=
    ⟨by exact_mod_cast h.1, by exact_mod_cast h.2⟩
  have hsecond : ((microsPerSecond : ℤ) : ℚ) = 1000000 := by norm_num [microsPerSecond]
  have hinterval : |(micros : ℚ) / microsPerSecond| < 2 ^ (11 : ℤ) := by
    rw [hsecond, abs_lt]
    constructor <;> norm_num <;> linarith
  have hfirst : |totalSeconds micros - (micros : ℚ) / microsPerSecond| ≤ 2 ^ (11 - 54 : ℤ) :=
    abs_float64_sub_le hinterval
  have hsmall : (2 : ℚ) ^ (11 - 54 : ℤ) + 2 ^ (8 - 54 : ℤ) ≤ 1 / 10 ^ 7 := by norm_num
  have hdifference : |totalSeconds micros - 900| < 2 ^ (8 : ℤ) := by
    rw [hsecond] at hfirst
    rw [abs_lt]
    obtain ⟨hlow, hhigh⟩ := abs_le.mp hfirst
    norm_num at hlow hhigh ⊢
    constructor <;> linarith
  have hsecondRound := abs_float64_sub_le hdifference
  have habs := abs_abs_sub_abs_le_abs_sub (float64 (totalSeconds micros - 900))
    ((micros : ℚ) / microsPerSecond - 900)
  have htriangle := abs_sub_le (float64 (totalSeconds micros - 900)) (totalSeconds micros - 900)
    ((micros : ℚ) / microsPerSecond - 900)
  rw [sub_sub_sub_cancel_right] at htriangle
  exact habs.trans (htriangle.trans ((add_le_add hsecondRound hfirst).trans
    (by rw [add_comm]; exact hsmall)))

/-- Two distances that differ are a microsecond apart, so the doubles keep their order. -/
theorem startKey_lt_of_distance_lt {row other : SnapshotRow zone}
    (hrow : AcceptedBy stop row.snapshot) (hother : AcceptedBy stop other.snapshot)
    (h : distance stop row < distance stop other) :
    startKey stop.columns.capturedAt.instant row <
      startKey stop.columns.capturedAt.instant other := by
  have herror := (abs_le.mp (abs_intervalKey_sub_le hrow.interval)).2
  have herror' := (abs_le.mp (abs_intervalKey_sub_le hother.interval)).1
  have hdistance : ∀ r : SnapshotRow zone,
      |((stop.columns.capturedAt.instant - r.columns.capturedAt.instant : ℤ) : ℚ) /
        microsPerSecond - 900| = (distance stop r : ℚ) / 1000000 := by
    intro r
    have hcast : (distance stop r : ℚ) =
        |((stop.columns.capturedAt.instant - r.columns.capturedAt.instant : ℤ) : ℚ) -
          900000000| := by
      rw [distance, Nat.cast_natAbs, Int.cast_abs]
      norm_num [targetInterval, seconds, microsPerSecond]
    rw [hcast, ← abs_of_pos (by norm_num : (0 : ℚ) < 1000000), ← abs_div, sub_div]
    norm_num [microsPerSecond]
  have hstep : (distance stop row : ℚ) + 1 ≤ distance stop other := by exact_mod_cast h
  apply Prod.Lex.toLex_lt_toLex.mpr
  left
  simp only [SnapshotRow.snapshot] at herror herror'
  rw [hdistance] at herror herror'
  change intervalKey _ < intervalKey _
  linarith

/-- Equal distances are rounded apart where one of the intervals is past 1024 seconds. -/
example : intervalKey 1024100000 < intervalKey 775900000 := by decide +kernel

/-- The doubles put the start before the other one, or do not tell them apart and it is read
before. -/
def Precedes {table : SnapshotTable zone} (scan : Scan table) (stop : Snapshot zone)
    (row other : SnapshotRow zone) : Prop :=
  startKey stop.columns.capturedAt.instant row < startKey stop.columns.capturedAt.instant other ∨
    startKey stop.columns.capturedAt.instant row = startKey stop.columns.capturedAt.instant other ∧
      [row, other].Sublist scan.rows

theorem Scan.nodup {table : SnapshotTable zone} (scan : Scan table) : scan.rows.Nodup :=
  scan.perm.nodup_iff.mpr table.nodup.of_map

theorem Precedes.asymm {table : SnapshotTable zone} {scan : Scan table}
    {row other : SnapshotRow zone} (h : Precedes scan stop row other) :
    ¬Precedes scan stop other row := by
  rcases h with hlt | ⟨heq, hfirst⟩
  · rintro (hlt' | ⟨heq', -⟩)
    · exact lt_asymm hlt hlt'
    · exact hlt.ne heq'.symm
  · rintro (hlt' | ⟨-, hsecond⟩)
    · exact hlt'.ne heq.symm
    · exact not_pair_sublist_swap scan.nodup hfirst hsecond

/-- Of two accepted starts the nearer one is not preceded. -/
theorem Precedes.distance_le {table : SnapshotTable zone} {scan : Scan table}
    {row other : SnapshotRow zone} (h : Precedes scan stop row other) (hrow : AcceptedBy stop row.snapshot)
    (hother : AcceptedBy stop other.snapshot) : distance stop row ≤ distance stop other := by
  by_contra hlt
  have hkey := startKey_lt_of_distance_lt hother hrow (not_le.mp hlt)
  rcases h with hlt' | ⟨heq, -⟩
  · exact lt_asymm hkey hlt'
  · exact hkey.ne heq.symm

/-! ## Candidates that are accepted -/

/-- The text of the start lies between the texts of the earliest and the latest
start there may be. -/
def Listed (stop : Snapshot zone) (row : SnapshotRow zone) : Prop :=
  isoformat (stop.columns.capturedAt.instant - intervalMax) ≤ row.columns.capturedAt.text ∧
    row.columns.capturedAt.text ≤ isoformat (stop.columns.capturedAt.instant - intervalMin)

variable {table : SnapshotTable zone} {scan : Scan table} {normalized : NormalizedSnapshot zone}
  {id : ℤ}

/-- The source clause lets every accepted start through. -/
theorem fromSource_of_accepted {row : SnapshotRow zone}
    (h : AcceptedBy (normalized.snapshot id) row.snapshot) :
    fromSource normalized.sourceName row = true := by
  unfold fromSource
  cases hname : normalized.sourceName with
  | none => rfl
  | some name =>
    have hstop : (normalized.snapshot id).sourceName = .str name := by
      simp [NormalizedSnapshot.snapshot, hname]
    have hsource := (Value.pyEq_iff.mp h.source).1
    rw [hstop] at hsource
    have hrow : row.snapshot.sourceName = .str name := by
      cases hv : row.snapshot.sourceName <;> rw [hv] at hsource <;>
        simp_all [Value.floated]
    simp only [SnapshotRow.snapshot] at hrow
    cases hpayload : row.columns.normalizedSnapshotPayloadJson with
    | none =>
      rw [hpayload] at hrow
      simp [Dict.get] at hrow
    | some payload =>
      rw [hpayload, Option.getD_some] at hrow
      simp [hrow]

/-- The candidates that are accepted are the accepted starts that are listed. -/
theorem find_eligible (derivedAt : String) {pairId : ℤ}
    (hpair : normalized.columns.pairId = some pairId)
    {candidates : List (SnapshotRow zone)}
    (h : findEligibleSnapshotPairs scan.rows normalized.columns.tokenId pairId
      normalized.sourceName normalized.columns.capturedAt.instant = .ok candidates) :
    ∃ eligible, candidates = sortBy (startKey normalized.columns.capturedAt.instant) eligible ∧
      eligible.Sublist scan.rows ∧ (∀ row ∈ eligible, Listed (normalized.snapshot id) row) ∧
      ∀ row, Accepted table (normalized.snapshot id) derivedAt row →
        Listed (normalized.snapshot id) row → row ∈ eligible := by
  unfold findEligibleSnapshotPairs before at h
  split_ifs at h with hmax hmin
  · refine ⟨_, (Except.ok.inj h).symm, List.filter_sublist, ?_, ?_⟩
    · intro row hrow
      rw [List.mem_filter, decide_eq_true_eq] at hrow
      exact ⟨hrow.2.2.2.1, hrow.2.2.2.2.1⟩
    · intro row haccepted hlisted
      obtain ⟨result, hresult⟩ := Option.isSome_iff_exists.mp haccepted.derived
      have hby := acceptedBy_of_derived hresult
      have hrowPair : row.columns.pairId = some pairId := hby.pair.2.trans hpair
      rw [List.mem_filter, decide_eq_true_eq]
      exact ⟨scan.perm.mem_iff.mpr haccepted.mem, hby.token, by rw [hrowPair, Option.getD_some], hlisted.1, hlisted.2,
        fromSource_of_accepted hby, hby.complete.1, hby.clean.1⟩
  all_goals cases h

theorem find_ok_iff (rows : List (SnapshotRow zone)) (tokenId pairId : ℤ)
    (sourceName : Option String) {ts : Instant} :
    (∃ candidates, findEligibleSnapshotPairs rows tokenId pairId sourceName ts = .ok candidates) ↔
      intervalMax ≤ ts := by
  have hwider : intervalMin ≤ intervalMax := by decide
  unfold findEligibleSnapshotPairs before
  constructor
  · rintro ⟨candidates, h⟩
    by_contra hlt
    rw [if_neg (by omega)] at h
    cases h
  · intro hle
    rw [if_pos (by omega), if_pos (by omega)]
    exact ⟨_, rfl⟩

/-! ## The update of the new snapshot -/

/-- The payload has an annotation that is never overwritten. -/
def Annotated (payload : Option Dict) : Prop := sourceKind payload ∈ protectedSourceKinds

/-- The table with the derivation of `result` in the row of the new snapshot. -/
def derivedTable (table : SnapshotTable zone) (id : ℤ) (payload : Option Dict)
    (result : StagedDerivationResult) : SnapshotTable zone :=
  table.updateKey id (setDerivation result.derivedPriceChange15m (mergedPayload payload result))

theorem storeDerivation_true_iff {payload : Option Dict} {result : StagedDerivationResult}
    {table' : SnapshotTable zone} :
    storeDerivation table id payload result = .ok (table', true) ↔
      (sourceKind payload).hashable = true ∧ ¬Annotated payload ∧
        table' = derivedTable table id payload result := by
  unfold storeDerivation Annotated derivedTable
  cases hhash : (sourceKind payload).hashable with
  | false => simp [throw, throwThe, MonadExceptOf.throw, Faults.error_bind]
  | true =>
    by_cases hkind : sourceKind payload ∈ protectedSourceKinds
    · simp [hkind, pure, Except.pure]
    · simp [hkind, pure, Except.pure, eq_comm]

theorem storeDerivation_false {payload : Option Dict} {result : StagedDerivationResult}
    {table' : SnapshotTable zone}
    (h : storeDerivation table id payload result = .ok (table', false)) :
    table' = table := by
  unfold storeDerivation at h
  cases hhash : (sourceKind payload).hashable with
  | false =>
    rw [hhash] at h
    cases h
  | true =>
    by_cases hkind : sourceKind payload ∈ protectedSourceKinds
    · simpa [hhash, hkind, pure, Except.pure, eq_comm] using h
    · simp [hhash, hkind, pure, Except.pure] at h

/-- The first of the candidates that is accepted. -/
theorem apply_true_iff {table' : SnapshotTable zone} :
    applyStagedDerivation table scan id normalized derivedAt = .ok (table', true) ↔
      ∃ pairId candidates result, normalized.columns.pairId = some pairId ∧
        findEligibleSnapshotPairs scan.rows normalized.columns.tokenId pairId
          normalized.sourceName normalized.columns.capturedAt.instant = .ok candidates ∧
        (candidates.findSome? fun row =>
          derivePriceChange15m row.snapshot (normalized.snapshot id) derivedAt) = some result ∧
        storeDerivation table id normalized.columns.normalizedSnapshotPayloadJson result =
          .ok (table', true) := by
  unfold applyStagedDerivation
  cases hpair : normalized.columns.pairId with
  | none => simp
  | some pairId =>
    cases hfind : findEligibleSnapshotPairs scan.rows normalized.columns.tokenId pairId
        normalized.sourceName normalized.columns.capturedAt.instant with
    | error e => simp [hfind, Faults.error_bind]
    | ok candidates =>
      simp only [hfind, Faults.ok_bind]
      cases hfirst : candidates.findSome? fun row =>
          derivePriceChange15m row.snapshot (normalized.snapshot id) derivedAt with
      | none => simp [hfind, hfirst, pure, Except.pure]
      | some result => simp [hfind, hfirst]

theorem apply_false {table' : SnapshotTable zone}
    (h : applyStagedDerivation table scan id normalized derivedAt = .ok (table', false)) :
    table' = table := by
  unfold applyStagedDerivation at h
  cases hpair : normalized.columns.pairId with
  | none =>
    rw [hpair] at h
    exact (Prod.mk.inj (Except.ok.inj h)).1.symm
  | some pairId =>
    rw [hpair] at h
    obtain ⟨candidates, _, h⟩ := Faults.bind_ok h
    cases hfirst : candidates.findSome? fun row =>
        derivePriceChange15m row.snapshot (normalized.snapshot id) derivedAt with
    | none =>
      simp only [hfirst] at h
      exact (Prod.mk.inj (Except.ok.inj h)).1.symm
    | some result =>
      simp only [hfirst] at h
      exact storeDerivation_false h

/-- What an update stores comes from a start that is accepted and listed, and that
precedes the others. -/
theorem stored_of_true {table' : SnapshotTable zone}
    (h : applyStagedDerivation table scan id normalized derivedAt = .ok (table', true)) :
    ∃ row result, Accepted table (normalized.snapshot id) derivedAt row ∧
      Listed (normalized.snapshot id) row ∧
      derivePriceChange15m row.snapshot (normalized.snapshot id) derivedAt = some result ∧
      (∀ other, Accepted table (normalized.snapshot id) derivedAt other →
        Listed (normalized.snapshot id) other →
          other = row ∨ Precedes scan (normalized.snapshot id) row other) ∧
      table' = derivedTable table id normalized.columns.normalizedSnapshotPayloadJson result := by
  obtain ⟨pairId, candidates, result, hpair, hfind, hfirst, hstore⟩ := apply_true_iff.mp h
  obtain ⟨eligible, rfl, hsub, hsound, hcomplete⟩ := find_eligible derivedAt hpair hfind
  obtain ⟨row, hrow, hresult, hleast⟩ :=
    findSome?_sortBy (scan.nodup.sublist hsub) hfirst
  have haccepted : Accepted table (normalized.snapshot id) derivedAt row :=
    ⟨scan.perm.subset (hsub.subset hrow), Option.isSome_iff_exists.mpr ⟨result, hresult⟩⟩
  refine ⟨row, result, haccepted, hsound row hrow, hresult, ?_,
    (storeDerivation_true_iff.mp hstore).2.2⟩
  intro other hother hotherListed
  rcases hleast other (hcomplete other hother hotherListed) hother.derived with
    heq | hlt | ⟨heq, hstored⟩
  · exact .inl heq
  · exact .inr (.inl hlt)
  · exact .inr (.inr ⟨heq, hstored.trans hsub⟩)

/-- An accepted start that is listed leads to an update, where nothing raises and
the annotation is not protected. -/
theorem exists_update {row : SnapshotRow zone}
    (haccepted : Accepted table (normalized.snapshot id) derivedAt row)
    (hlisted : Listed (normalized.snapshot id) row)
    (hrange : intervalMax ≤ normalized.columns.capturedAt.instant)
    (hhash : (sourceKind normalized.columns.normalizedSnapshotPayloadJson).hashable = true)
    (hkind : ¬Annotated normalized.columns.normalizedSnapshotPayloadJson) :
    ∃ table', applyStagedDerivation table scan id normalized derivedAt = .ok (table', true) := by
  obtain ⟨result, hresult⟩ := Option.isSome_iff_exists.mp haccepted.derived
  have hby := acceptedBy_of_derived hresult
  obtain ⟨pairId, hpairId⟩ := Option.isSome_iff_exists.mp hby.pair.1
  have hpair : normalized.columns.pairId = some pairId := hby.pair.2.symm.trans hpairId
  obtain ⟨candidates, hfind⟩ := (find_ok_iff scan.rows normalized.columns.tokenId pairId
    normalized.sourceName).mpr hrange
  obtain ⟨eligible, rfl, -, -, hcomplete⟩ := find_eligible derivedAt hpair hfind
  have hsome : ((sortBy (startKey normalized.columns.capturedAt.instant) eligible).findSome?
      fun row => derivePriceChange15m row.snapshot (normalized.snapshot id) derivedAt).isSome := by
    rw [List.findSome?_isSome_iff]
    exact ⟨row, mem_sortBy.mpr (hcomplete row haccepted hlisted), haccepted.derived⟩
  obtain ⟨first, hfirst⟩ := Option.isSome_iff_exists.mp hsome
  exact ⟨_, apply_true_iff.mpr ⟨pairId, _, first, hpair, hfind, hfirst,
    storeDerivation_true_iff.mpr ⟨hhash, hkind, rfl⟩⟩⟩

/-! ## When the update is right -/

/-- A new snapshot, stored under the next id. -/
def insertSnapshot (stored : SnapshotTable zone) (normalized : NormalizedSnapshot zone) :
    SnapshotTable zone :=
  stored.insert ⟨nextRowid (stored.rows.map SnapshotRow.id), normalized.columns⟩ fun _ hold =>
    (lt_nextRowid (List.mem_map_of_mem hold)).ne

/-- The row of the new snapshot is updated exactly where it may be and there is a
start, with what the best start gives; and nothing else changes. -/
structure DerivesBest (table : SnapshotTable zone) (scan : Scan table) (id : ℤ) (normalized : NormalizedSnapshot zone)
    (derivedAt : String) : Prop where
  updates : (∃ table', applyStagedDerivation table scan id normalized derivedAt = .ok (table', true)) ↔
    ¬Annotated normalized.columns.normalizedSnapshotPayloadJson ∧
      ∃ row, Accepted table (normalized.snapshot id) derivedAt row
  chosen : ∀ table', applyStagedDerivation table scan id normalized derivedAt = .ok (table', true) →
    ∃ row result, IsBest table (normalized.snapshot id) derivedAt row ∧
      (intervalMin ≤ normalized.columns.capturedAt.instant - row.columns.capturedAt.instant ∧
        normalized.columns.capturedAt.instant - row.columns.capturedAt.instant ≤ intervalMax) ∧
      derivePriceChange15m row.snapshot (normalized.snapshot id) derivedAt = some result ∧
      table' = derivedTable table id normalized.columns.normalizedSnapshotPayloadJson result
  kept : ∀ table', applyStagedDerivation table scan id normalized derivedAt = .ok (table', false) →
    table' = table

/-- The two intervals are as far from the target, and the other start is the earlier. -/
def Mirrors (stop : Snapshot zone) (row other : SnapshotRow zone) : Prop :=
  distance stop other = distance stop row ∧
    other.columns.capturedAt.instant < row.columns.capturedAt.instant

/-- A best start is listed and precedes those listed that mirror it, and nothing raises. -/
structure BestListed (table : SnapshotTable zone) (scan : Scan table) (id : ℤ) (normalized : NormalizedSnapshot zone)
    (derivedAt : String) : Prop where
  hashable : (sourceKind normalized.columns.normalizedSnapshotPayloadJson).hashable = true
  range : intervalMax ≤ normalized.columns.capturedAt.instant
  listed : ∃ row, IsBest table (normalized.snapshot id) derivedAt row ∧
    Listed (normalized.snapshot id) row ∧
      ∀ other, Accepted table (normalized.snapshot id) derivedAt other →
        Listed (normalized.snapshot id) other → Mirrors (normalized.snapshot id) row other →
          Precedes scan (normalized.snapshot id) row other

/-- What is stored in the row of the new snapshot tells which start it came from. -/
theorem start_eq_of_derivedTable {payload : Option Dict} {row other : SnapshotRow zone}
    {result result' : StagedDerivationResult} (hid : ∃ r ∈ table.rows, r.id = id)
    (hrow : row ∈ table.rows) (hother : other ∈ table.rows)
    (h : derivePriceChange15m row.snapshot stop derivedAt = some result)
    (h' : derivePriceChange15m other.snapshot stop derivedAt = some result')
    (heq : derivedTable table id payload result = derivedTable table id payload result') :
    row = other := by
  obtain ⟨new, hnew, hnewId⟩ := hid
  have hfind : table.find? id = some new := Table.find?_eq_some_iff.mpr ⟨hnew, hnewId⟩
  have hrows := congrArg (fun t : SnapshotTable zone => t.find? id) heq
  simp only [derivedTable, Table.find?_updateKey, hfind, if_true, Option.map_some,
    Option.some.injEq] at hrows
  have hpayload : mergedPayload payload result = mergedPayload payload result' :=
    Option.some.inj (congrArg (fun r : SnapshotRow zone =>
      r.columns.normalizedSnapshotPayloadJson) hrows)
  have hprovenance := congrArg (fun d : Dict => d.get "price_change_15m_provenance") hpayload
  simp only [mergedPayload, Dict.get_set, if_true, Value.dict.injEq] at hprovenance
  have hids : (Value.int row.id) = .int other.id :=
    (startId_of_derived h).symm.trans ((congrArg (fun d : Dict => d.get "start_snapshot_id")
      hprovenance).trans (startId_of_derived h'))
  exact table.eq_of_key hrow hother (Value.int.inj hids)

theorem bestListed_of_derivesBest (hid : ∃ r ∈ table.rows, r.id = id)
    (h : DerivesBest table scan id normalized derivedAt)
    (hkind : ¬Annotated normalized.columns.normalizedSnapshotPayloadJson)
    (hsome : ∃ row, Accepted table (normalized.snapshot id) derivedAt row) :
    BestListed table scan id normalized derivedAt := by
  obtain ⟨table', htrue⟩ := h.updates.mpr ⟨hkind, hsome⟩
  obtain ⟨pairId, candidates, result, _, hfind, _, hstore⟩ := apply_true_iff.mp htrue
  obtain ⟨row, result, haccepted, hlisted, hresult, hfirst, hstored⟩ := stored_of_true htrue
  obtain ⟨best, bestResult, hbest, _, hbestResult, hchosen⟩ := h.chosen table' htrue
  have hsame : row = best := start_eq_of_derivedTable hid haccepted.mem hbest.accepted.mem hresult
    hbestResult (hstored.symm.trans hchosen)
  refine ⟨(storeDerivation_true_iff.mp hstore).1, (find_ok_iff _ _ _ _).mp ⟨candidates, hfind⟩,
    row, hsame ▸ hbest, hlisted, ?_⟩
  intro other hother hotherListed hmirrors
  rcases hfirst other hother hotherListed with rfl | hprecedes
  · exact absurd hmirrors.2 (lt_irrefl _)
  · exact hprecedes

/-- The start that precedes the others is a best one, where a best one that is listed precedes
those that mirror it. -/
theorem BestListed.isBest {row : SnapshotRow zone}
    (h : BestListed table scan id normalized derivedAt)
    (haccepted : Accepted table (normalized.snapshot id) derivedAt row)
    (hlisted : Listed (normalized.snapshot id) row)
    (hfirst : ∀ other, Accepted table (normalized.snapshot id) derivedAt other →
      Listed (normalized.snapshot id) other →
        other = row ∨ Precedes scan (normalized.snapshot id) row other) :
    IsBest table (normalized.snapshot id) derivedAt row := by
  obtain ⟨best, hbest, hbestListed, hmirrored⟩ := h.listed
  rcases hfirst best hbest.accepted hbestListed with rfl | hprecedes
  · exact hbest
  have hequal : distance (normalized.snapshot id) row = distance (normalized.snapshot id) best :=
    le_antisymm (hprecedes.distance_le haccepted.acceptedBy hbest.accepted.acceptedBy)
      (hbest.nearest row haccepted)
  refine hbest.of_same haccepted (le_antisymm (hbest.latest row haccepted hequal) ?_)
  by_contra hearlier
  exact hprecedes.asymm (hmirrored row haccepted hlisted ⟨hequal, not_le.mp hearlier⟩)

theorem derivesBest_of
    (h : Annotated normalized.columns.normalizedSnapshotPayloadJson ∨
      (∀ row, ¬Accepted table (normalized.snapshot id) derivedAt row) ∨
      BestListed table scan id normalized derivedAt) :
    DerivesBest table scan id normalized derivedAt := by
  have hkind : ∀ table', applyStagedDerivation table scan id normalized derivedAt =
      .ok (table', true) → ¬Annotated normalized.columns.normalizedSnapshotPayloadJson := by
    intro table' htrue
    obtain ⟨_, _, _, _, _, _, hstore⟩ := apply_true_iff.mp htrue
    exact (storeDerivation_true_iff.mp hstore).2.1
  constructor
  · constructor
    · rintro ⟨table', htrue⟩
      obtain ⟨row, _, haccepted, _⟩ := stored_of_true htrue
      exact ⟨hkind table' htrue, row, haccepted⟩
    · rintro ⟨hplain, row, haccepted⟩
      rcases h with hannotated | hnone | hbest
      · exact absurd hannotated hplain
      · exact absurd haccepted (hnone row)
      · obtain ⟨best, hisBest, hlisted, -⟩ := hbest.listed
        exact exists_update hisBest.accepted hlisted hbest.range hbest.hashable hplain
  · intro table' htrue
    obtain ⟨row, result, haccepted, hlisted, hresult, hfirst, hstored⟩ := stored_of_true htrue
    refine ⟨row, result, ?_, (acceptedBy_of_derived hresult).interval, hresult, hstored⟩
    rcases h with hannotated | hnone | hbest
    · exact absurd hannotated (hkind table' htrue)
    · exact absurd haccepted (hnone row)
    · exact hbest.isBest haccepted hlisted hfirst
  · intro table' hfalse
    exact apply_false hfalse

/-- The update of a new snapshot is right exactly where there is nothing to derive
or a best start is listed. -/
theorem applyStagedDerivation_derivesBest_iff (stored : SnapshotTable zone)
    (normalized : NormalizedSnapshot zone) (scan : Scan (insertSnapshot stored normalized))
    (derivedAt : String) :
    DerivesBest (insertSnapshot stored normalized) scan
        (nextRowid (stored.rows.map SnapshotRow.id)) normalized derivedAt ↔
      Annotated normalized.columns.normalizedSnapshotPayloadJson ∨
        (∀ row, ¬Accepted (insertSnapshot stored normalized)
          (normalized.snapshot (nextRowid (stored.rows.map SnapshotRow.id))) derivedAt row) ∨
        BestListed (insertSnapshot stored normalized) scan
          (nextRowid (stored.rows.map SnapshotRow.id)) normalized derivedAt := by
  constructor
  · intro h
    by_cases hkind : Annotated normalized.columns.normalizedSnapshotPayloadJson
    · exact .inl hkind
    by_cases hsome : ∃ row, Accepted (insertSnapshot stored normalized)
        (normalized.snapshot (nextRowid (stored.rows.map SnapshotRow.id))) derivedAt row
    · right; right
      refine bestListed_of_derivesBest ⟨⟨_, normalized.columns⟩, ?_, rfl⟩ h hkind hsome
      exact Table.mem_insert.mpr (.inr rfl)
    · exact .inr (.inl (not_exists.mp hsome))
  · exact derivesBest_of

/-- A start two hours ahead of UTC on its clock, fifteen minutes before the new one. -/
def earlierRow : SnapshotRow Sources.Geckoterminal15m.utcZone where
  id := 1
  columns :=
    { tokenId := 7, pairId := some 8
      capturedAt :=
        { text := "2026-01-01T02:00:00+02:00"
          instant := ymdToDays 2026 1 1 * microsPerDay
          parsed := by decide }
      priceUsd := some 1, priceChange15m := none, sourceStatus := .complete
      dataQualityLabel := .cleanData, snapshotQualityLabel := some .partialSnapshot
      normalizedSnapshotPayloadJson := some [("source_name", .str "dexscreener")]
      otherColumns := [] }

def laterSnapshot : NormalizedSnapshot Sources.Geckoterminal15m.utcZone where
  columns :=
    { earlierRow.columns with
      capturedAt :=
        { text := "2026-01-01T00:15:00+00:00"
          instant := ymdToDays 2026 1 1 * microsPerDay + targetInterval
          parsed := by decide }
      priceUsd := some 2 }
  sourceName := some "dexscreener"

/-- A start whose clock shows another zone is accepted, but not found. -/
theorem applyStagedDerivation_misses_offset :
    ¬DerivesBest (insertSnapshot ⟨[earlierRow], by simp⟩ laterSnapshot) ⟨_, .refl _⟩
      (nextRowid ([earlierRow].map SnapshotRow.id)) laterSnapshot "2026-01-01T00:15:01+00:00" := by
  intro h
  have hplain : ¬Annotated laterSnapshot.columns.normalizedSnapshotPayloadJson := by
    unfold Annotated
    decide
  have haccepted : Accepted (insertSnapshot ⟨[earlierRow], by simp⟩ laterSnapshot)
      (laterSnapshot.snapshot (nextRowid ([earlierRow].map SnapshotRow.id)))
      "2026-01-01T00:15:01+00:00" earlierRow :=
    ⟨Table.mem_insert.mpr (.inl (by simp)), by decide⟩
  obtain ⟨table', htrue⟩ := h.updates.mpr ⟨hplain, earlierRow, haccepted⟩
  have hfalse : (applyStagedDerivation (insertSnapshot ⟨[earlierRow], by simp⟩ laterSnapshot)
      ⟨_, .refl _⟩ (nextRowid ([earlierRow].map SnapshotRow.id)) laterSnapshot
      "2026-01-01T00:15:01+00:00").toOption.map Prod.snd = some false := by
    decide
  rw [htrue] at hfalse
  cases hfalse

/-! ## Times in UTC -/

theorem CapturedAt.inRange (c : CapturedAt zone) : InRange c.instant := by
  have hparsed := c.parsed
  unfold parseTimestamp at hparsed
  obtain ⟨d, _, hd⟩ := Option.bind_eq_some_iff.mp hparsed
  simp only at hd
  split_ifs at hd with hrange
  rw [← Option.some.inj hd]
  exact hrange

theorem startRange {ts start shortest longest : ℤ} (hshortest : 0 ≤ shortest)
    (hlongest : shortest ≤ longest) (hts : 0 ≤ ts ∧ ts < instantEnd) (hrange : longest ≤ ts)
    (hinterval : shortest ≤ ts - start ∧ ts - start ≤ longest) :
    (0 ≤ ts - longest ∧ ts - longest < instantEnd) ∧
      (0 ≤ ts - shortest ∧ ts - shortest < instantEnd) ∧
        ts - longest ≤ start ∧ start ≤ ts - shortest := by
  omega

/-- A start in UTC is listed where its interval is accepted. -/
theorem listed_of_utc {row : SnapshotRow zone}
    (hutc : row.columns.capturedAt.text = isoformat row.columns.capturedAt.instant)
    (hrange : intervalMax ≤ stop.columns.capturedAt.instant) (h : AcceptedBy stop row.snapshot) :
    Listed stop row := by
  have hrow := row.columns.capturedAt.inRange
  obtain ⟨hearliest, hlatest, hbounds⟩ := startRange (by decide : 0 ≤ intervalMin)
    (by decide : intervalMin ≤ intervalMax) stop.columns.capturedAt.inRange hrange h.interval
  rw [Listed, hutc, isoformat_le_iff hearliest hrow, isoformat_le_iff hrow hlatest]
  exact hbounds

theorem exists_isBest (h : ∃ row, Accepted table stop derivedAt row) :
    ∃ row, IsBest table stop derivedAt row := by
  let accepts : SnapshotRow zone → Bool := fun row =>
    (derivePriceChange15m row.snapshot stop derivedAt).isSome
  have hmem : ∀ row, row ∈ table.rows.filter accepts ↔ Accepted table stop derivedAt row := by
    intro row
    rw [List.mem_filter]
    exact ⟨fun h => ⟨h.1, h.2⟩, fun h => ⟨h.mem, h.derived⟩⟩
  obtain ⟨row, hrow⟩ := h
  obtain ⟨best, hbest⟩ := Maxima.exists_isLargest (fun row => OrderDual.toDual (rank stop row))
    (List.ne_nil_of_mem ((hmem row).mpr hrow))
  refine ⟨best, isBest_iff.mpr ⟨(hmem best).mp hbest.mem, fun other hother => ?_⟩⟩
  exact OrderDual.toDual_le_toDual.mp (hbest.le other ((hmem other).mpr hother))

/-- Where the stored times are written as the recorder writes them, in UTC, every accepted start is
listed; and unless two of them lie equally far on either side of the target, the update is right. -/
theorem derivesBest_of_utc {stored : SnapshotTable zone}
    {scan : Scan (insertSnapshot stored normalized)}
    (hutc : ∀ row ∈ stored.rows,
      row.columns.capturedAt.text = isoformat row.columns.capturedAt.instant)
    (hhash : (sourceKind normalized.columns.normalizedSnapshotPayloadJson).hashable = true)
    (hrange : intervalMax ≤ normalized.columns.capturedAt.instant)
    (hsides : ∀ row other, Accepted (insertSnapshot stored normalized)
        (normalized.snapshot (nextRowid (stored.rows.map SnapshotRow.id))) derivedAt row →
      Accepted (insertSnapshot stored normalized)
        (normalized.snapshot (nextRowid (stored.rows.map SnapshotRow.id))) derivedAt other →
      ¬Mirrors (normalized.snapshot (nextRowid (stored.rows.map SnapshotRow.id))) row other) :
    DerivesBest (insertSnapshot stored normalized) scan
      (nextRowid (stored.rows.map SnapshotRow.id)) normalized derivedAt := by
  apply derivesBest_of
  by_cases hsome : ∃ row, Accepted (insertSnapshot stored normalized)
      (normalized.snapshot (nextRowid (stored.rows.map SnapshotRow.id))) derivedAt row
  · right; right
    obtain ⟨best, hbest⟩ := exists_isBest hsome
    refine ⟨hhash, hrange, best, hbest, ?_, fun other hother _ hmirrors =>
      absurd hmirrors (hsides best other hbest.accepted hother)⟩
    rcases Table.mem_insert.mp hbest.accepted.mem with hstored | hnew
    · exact listed_of_utc (hutc best hstored) hrange hbest.accepted.acceptedBy
    · -- the new snapshot is no start of its own
      have hinterval := hbest.accepted.acceptedBy.interval.1
      rw [hnew] at hinterval
      simp [SnapshotRow.snapshot, NormalizedSnapshot.snapshot, intervalMin, seconds,
        microsPerSecond] at hinterval
  · exact .inr (.inl (not_exists.mp hsome))

end PrinterV1.Snapshots.Staged
