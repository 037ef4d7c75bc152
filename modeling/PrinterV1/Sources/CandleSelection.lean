import PrinterV1.Foundation.Faults
import PrinterV1.Foundation.Maxima
import PrinterV1.Sources.TradeWindows

/-!
# The newest completed candle

Of the fifteen-minute candles of a response the newest completed one is reported,
if it is not too old. A row is coerced to numbers and filtered; what is left is
rendered, its start as whole seconds and its ends as dates, before the newest is
taken. A row that cannot be rendered raises, and of rows that start in one second
the first one listed is taken.
-/

namespace PrinterV1.Sources.Geckoterminal15m

open Python Faults Maxima

def sourceName : String := "geckoterminal"
def providerCandleDerived : String := "PROVIDER_CANDLE_DERIVED"
def ohlcvRequestKind : String := "geckoterminal_ohlcv_15m"
def candleMaxAgeSeconds : ℤ := 1800

/-- `_to_float` -/
def toFloat : Value → Option PyFloat
  | .bool b => some (.rat (if b then 1 else 0))
  | .int n => some (.rat n)
  | .float q => some (.rat q)
  | .inf negative => some (.inf negative)
  | .str s => (floatOfText s).filter fun x => x ≠ .nan
  | _ => none

/-- `_unix_to_iso` -/
def unixToIso (ts : PyFloat) : Except PyError String := return isoformat (← fromTimestamp ts)

/-- `_payload_is_failure` -/
def payloadIsFailure (payload : Dict) : Bool :=
  payload.get "fixture_status" = .str "failure" ∨
    payload.get "fixture_status" = .str "rate_limited" ∨ (payload.get "error").truthy

/-- The numbers of a row that are used. -/
structure CandleRow where
  ts : PyFloat
  openPrice : PyFloat
  closePrice : PyFloat
  volume : PyFloat
  deriving DecidableEq, Repr

/-- When the candle ends. -/
def CandleRow.endUnix (row : CandleRow) : PyFloat := row.ts.add (.rat candleSeconds)

/-- A candle that was rendered. -/
structure Candle where
  candleStartUnix : ℤ
  candleEndUnix : ℤ
  candleStartIso : String
  candleEndIso : String
  openPrice : PyFloat
  closePrice : PyFloat
  volumeUsd : PyFloat
  ageSinceCompletionSeconds : ℤ
  deriving DecidableEq, Repr

/-- The numbers of a raw row, where it has them. -/
def candleRow : Value → Option CandleRow
  | .list (ts :: openPrice :: _ :: _ :: closePrice :: volume :: _) => do
    let ts ← toFloat ts
    let openPrice ← toFloat openPrice
    let closePrice ← toFloat closePrice
    let volume ← toFloat volume
    return ⟨ts, openPrice, closePrice, volume⟩
  | _ => none

/-- The row is one of a candle with a price and a volume that was over by `now`. -/
def completed (now : ℚ) (row : CandleRow) : Bool :=
  !(row.openPrice.le (.rat 0) || row.volume.lt (.rat 0)) && !(PyFloat.rat now).lt row.endUnix

def candleOf (now : ℚ) (row : CandleRow) : Except PyError Candle := do
  return {
    candleStartUnix := ← row.ts.toInt
    candleEndUnix := ← row.endUnix.toInt
    candleStartIso := ← unixToIso row.ts
    candleEndIso := ← unixToIso row.endUnix
    openPrice := row.openPrice
    closePrice := row.closePrice
    volumeUsd := row.volume
    ageSinceCompletionSeconds := ← ((PyFloat.rat now).sub row.endUnix).toInt }

/-- The rows of the loop that are not skipped. -/
def completedRows (now : ℚ) (rows : List Value) : List CandleRow :=
  (rows.filterMap candleRow).filter (completed now)

def selectCompleted15mCandle (rows : List Value) (now : ℚ) : Except PyError (Option Candle) := do
  let candles ← (completedRows now rows).mapM (candleOf now)
  return (candles.maxOn? Candle.candleStartUnix).filter fun newest =>
    newest.ageSinceCompletionSeconds ≤ candleMaxAgeSeconds

/-! ## What is reported -/

/-- The request a response answers. -/
structure CandleRequest where
  poolAddress : String
  network : String
  endpointUrl : String
  deriving DecidableEq, Repr

/-- The fetch time: its instant, and its text. -/
structure FetchTime where
  instant : Instant
  iso : String
  deriving DecidableEq, Repr

structure PriceProvenance where
  source : String
  request : CandleRequest
  requestKind : String
  calculationMethod : String
  calculationFormula : String
  candleStartIso : String
  candleEndIso : String
  candleOpen : PyFloat
  candleClose : PyFloat
  candleAgeSinceCompletionSeconds : ℤ
  fetchTimeIso : String
  currency : String
  token : String
  deriving DecidableEq, Repr

structure PriceChange15m where
  priceChange15m : PyFloat
  sourceKind : String
  provenance : PriceProvenance
  deriving DecidableEq, Repr

structure VolumeProvenance where
  source : String
  request : CandleRequest
  requestKind : String
  evidenceKind : String
  candleStartIso : String
  candleEndIso : String
  candleAgeSinceCompletionSeconds : ℤ
  fetchTimeIso : String
  currency : String
  token : String
  deriving DecidableEq, Repr

structure Volume15m where
  volume15m : PyFloat
  sourceKind : String
  provenance : VolumeProvenance
  deriving DecidableEq, Repr

/-- The fields of the candidate that are filled. -/
structure Enrichment where
  price : Option PriceChange15m := none
  volume : Option Volume15m := none
  deriving DecidableEq, Repr

variable (request : CandleRequest) (now : FetchTime)

def derivePriceChange15mFromCandle (candle : Candle) : Option PriceChange15m :=
  if candle.openPrice = .rat 0 then none
  else some
    { priceChange15m := (((candle.closePrice.sub candle.openPrice).div candle.openPrice).mul
        (.rat 100)).round 6
      sourceKind := providerCandleDerived
      provenance :=
        { source := sourceName
          request := request
          requestKind := ohlcvRequestKind
          calculationMethod := "candle_arithmetic"
          calculationFormula := "(close - open) / open * 100"
          candleStartIso := candle.candleStartIso
          candleEndIso := candle.candleEndIso
          candleOpen := candle.openPrice
          candleClose := candle.closePrice
          candleAgeSinceCompletionSeconds := candle.ageSinceCompletionSeconds
          fetchTimeIso := now.iso
          currency := "usd"
          token := "base" } }

def deriveVolume15mFromCandle (candle : Candle) : Option Volume15m :=
  some
    { volume15m := candle.volumeUsd
      sourceKind := providerCandleDerived
      provenance :=
        { source := sourceName
          request := request
          requestKind := ohlcvRequestKind
          evidenceKind := "ohlcv_candle_native_volume"
          candleStartIso := candle.candleStartIso
          candleEndIso := candle.candleEndIso
          candleAgeSinceCompletionSeconds := candle.ageSinceCompletionSeconds
          fetchTimeIso := now.iso
          currency := "usd"
          token := "base" } }

/-- The list of rows of a payload, past the checks before the candles. -/
def ohlcvList (payload : Dict) : Option (List Value) :=
  if payloadIsFailure payload then none
  else
    match payload.get "data" with
    | .dict rawData =>
      match Dict.get rawData "attributes" with
      | .dict attrs =>
        match Dict.get attrs "ohlcv_list" with
        | .list rows => some rows
        | _ => none
      | _ => none
    | _ => none

def enrichCandidate15mOhlcv (payload : Dict) : Except PyError Enrichment :=
  match ohlcvList payload with
  | none => .ok {}
  | some rows => do
    match ← selectCompleted15mCandle rows (timestamp now.instant) with
    | none => return {}
    | some candle =>
      return {
        price := derivePriceChange15mFromCandle request now candle
        volume := deriveVolume15mFromCandle request now candle }

/-! ## Rows that can be rendered -/

/-- The start and the end of the candle are dates. -/
def CandleRow.Dated (row : CandleRow) : Prop :=
  ∃ start stop, fromTimestamp row.ts = .ok start ∧ fromTimestamp row.endUnix = .ok stop

/-- The whole second the candle starts in. -/
def CandleRow.startSecond (row : CandleRow) : ℤ := row.ts.toInt.toOption.getD 0

/-- How long ago the candle ended. -/
def CandleRow.age (now : ℚ) (row : CandleRow) : PyFloat := (PyFloat.rat now).sub row.endUnix

/-- The candle of a row that can be rendered. -/
def CandleRow.candle (now : ℚ) (row : CandleRow) : Candle where
  candleStartUnix := row.startSecond
  candleEndUnix := row.endUnix.toInt.toOption.getD 0
  candleStartIso := (unixToIso row.ts).toOption.getD ""
  candleEndIso := (unixToIso row.endUnix).toOption.getD ""
  openPrice := row.openPrice
  closePrice := row.closePrice
  volumeUsd := row.volume
  ageSinceCompletionSeconds := (row.age now).toInt.toOption.getD 0

theorem fromTimestamp_ok {ts : PyFloat} {i : Instant} (h : fromTimestamp ts = .ok i) :
    ∃ q, ts = .rat q := by
  cases ts with
  | rat q => exact ⟨q, rfl⟩
  | inf negative => cases h
  | nan => cases h

theorem CandleRow.Dated.rat {row : CandleRow} (h : row.Dated) : ∃ q, row.ts = .rat q := by
  obtain ⟨_, _, hstart, _⟩ := h
  exact fromTimestamp_ok hstart

theorem candleOf_ok_iff {now : ℚ} {row : CandleRow} {c : Candle} :
    candleOf now row = .ok c ↔ row.Dated ∧ c = row.candle now := by
  constructor
  · intro h
    obtain ⟨startUnix, hstartUnix, h⟩ := bind_ok h
    obtain ⟨endUnix, hendUnix, h⟩ := bind_ok h
    obtain ⟨startIso, hstartIso, h⟩ := bind_ok h
    obtain ⟨endIso, hendIso, h⟩ := bind_ok h
    obtain ⟨age, hage, h⟩ := bind_ok h
    obtain ⟨start, hstart, _⟩ := bind_ok hstartIso
    obtain ⟨stop, hstop, _⟩ := bind_ok hendIso
    obtain rfl := Except.ok.inj h
    refine ⟨⟨start, stop, hstart, hstop⟩, ?_⟩
    simp only [CandleRow.candle, CandleRow.startSecond, CandleRow.age, hstartUnix, hendUnix,
      hstartIso, hendIso, hage]
    rfl
  · rintro ⟨hdated, rfl⟩
    obtain ⟨q, hq⟩ := hdated.rat
    obtain ⟨start, stop, hstart, hstop⟩ := hdated
    obtain ⟨ts, openPrice, closePrice, volume⟩ := row
    obtain rfl : ts = .rat q := hq
    have hend : (CandleRow.mk (.rat q) openPrice closePrice volume).endUnix =
        .rat (q + candleSeconds) := rfl
    rw [hend] at hstop
    simp only [candleOf, CandleRow.candle, CandleRow.startSecond, CandleRow.age, unixToIso, hend,
      hstart, hstop]
    rfl

/-- Rendering passes exactly where every completed row is dated. -/
theorem candles_ok_iff {now : ℚ} {rows : List CandleRow} {candles : List Candle} :
    rows.mapM (candleOf now) = .ok candles ↔
      (∀ row ∈ rows, row.Dated) ∧ candles = rows.map (CandleRow.candle now) := by
  rw [mapM_ok_iff fun row c h => (candleOf_ok_iff.mp h).2.symm]
  simp only [candleOf_ok_iff, and_true]

/-! ## Rounding towards zero -/

/-- `int(q)` -/
def truncated (q : ℚ) : ℤ := q.num.tdiv q.den

theorem truncated_eq (q : ℚ) : truncated q = if 0 ≤ q then ⌊q⌋ else ⌈q⌉ := by
  unfold truncated
  split_ifs with h
  · rw [Int.tdiv_eq_ediv_of_nonneg (Rat.num_nonneg.mpr h), Rat.floor_def']
  · have hneg : 0 ≤ -q.num := by
      have hnum := mt Rat.num_nonneg.mp h
      omega
    rw [Rat.ceil_def', ← Int.tdiv_eq_ediv_of_nonneg hneg, Int.neg_tdiv, neg_neg]

theorem truncated_mono {p q : ℚ} (h : p ≤ q) : truncated p ≤ truncated q := by
  rw [truncated_eq, truncated_eq]
  split_ifs with hp hq hq
  · exact Int.floor_mono h
  · exact absurd (hp.trans h) hq
  · have hceil : ⌈p⌉ ≤ 0 := Int.ceil_le.mpr (by simpa using (not_le.mp hp).le)
    exact hceil.trans (Int.floor_nonneg.mpr hq)
  · exact Int.ceil_mono h

/-! ## Failing closed -/

/-- The payload with other rows in the place of its own. -/
def withRows (payload : Dict) (rows : List Value) : Dict :=
  match payload.get "data" with
  | .dict rawData =>
    match Dict.get rawData "attributes" with
    | .dict attrs =>
      payload.set "data" (.dict (Dict.set rawData "attributes"
        (.dict (Dict.set attrs "ohlcv_list" (.list rows)))))
    | _ => payload
  | _ => payload

theorem ohlcvList_withRows {payload : Dict} {rows : List Value} (h : ohlcvList payload = some rows)
    (rows' : List Value) : ohlcvList (withRows payload rows') = some rows' := by
  unfold ohlcvList at h
  split_ifs at h with hfailure
  split at h
  · rename_i rawData hdata
    split at h
    · rename_i attrs hattrs
      have hkept : payloadIsFailure (withRows payload rows') = payloadIsFailure payload := by
        simp [payloadIsFailure, withRows, hdata, hattrs]
      have hrows : (withRows payload rows').get "data" = .dict (Dict.set rawData "attributes"
          (.dict (Dict.set attrs "ohlcv_list" (.list rows')))) := by
        simp [withRows, hdata, hattrs]
      simp [ohlcvList, hkept, hfailure, hrows]
    · cases h
  · cases h

/-- The fields are those of the candle of a row. -/
structure ReportedFrom (e : Enrichment) (row : CandleRow) : Prop where
  price : ∃ p, e.price = some p ∧
    p.priceChange15m = (((row.closePrice.sub row.openPrice).div row.openPrice).mul
      (.rat 100)).round 6 ∧
    p.provenance.candleOpen = row.openPrice ∧ p.provenance.candleClose = row.closePrice ∧
    unixToIso row.ts = .ok p.provenance.candleStartIso ∧
    unixToIso row.endUnix = .ok p.provenance.candleEndIso
  volume : ∃ v, e.volume = some v ∧ v.volume15m = row.volume ∧
    unixToIso row.ts = .ok v.provenance.candleStartIso ∧
    unixToIso row.endUnix = .ok v.provenance.candleEndIso

/-- A row of the list with a positive open, a volume that is not negative, and an
end no later than `now`. -/
structure Eligible (now : ℚ) (rows : List Value) (row : CandleRow) : Prop where
  mem : ∃ raw ∈ rows, candleRow raw = some row
  openPositive : (PyFloat.rat 0).lt row.openPrice = true
  volumeNonneg : (PyFloat.rat 0).le row.volume = true
  ended : row.endUnix.le (.rat now) = true

/-- The row is eligible, no eligible one starts later, and it ended at most 1800
seconds ago. -/
structure NewestFresh (now : ℚ) (rows : List Value) (row : CandleRow) : Prop where
  eligible : Eligible now rows row
  newest : ∀ other, Eligible now rows other → row.ts.lt other.ts = false
  fresh : (row.age now).le (.rat candleMaxAgeSeconds) = true

/-- The enrichment returns; what it reports comes from the newest row, a fresh one;
and the order of the rows does not show. -/
structure FailsClosed (payload : Dict) : Prop where
  returns : ∃ e, enrichCandidate15mOhlcv request now payload = .ok e
  chosen : ∀ rows e, ohlcvList payload = some rows →
    enrichCandidate15mOhlcv request now payload = .ok e → e ≠ {} →
      ∃ row, NewestFresh (timestamp now.instant) rows row ∧ ReportedFrom e row
  empty : ∀ e, ohlcvList payload = none →
    enrichCandidate15mOhlcv request now payload = .ok e → e = {}
  order : ∀ rows rows', ohlcvList payload = some rows → rows'.Perm rows →
    enrichCandidate15mOhlcv request now (withRows payload rows') =
      enrichCandidate15mOhlcv request now payload

/-- What is reported of a candle. -/
def Candle.shown (c : Candle) : PyFloat × PyFloat × PyFloat × String × String × ℤ :=
  (c.openPrice, c.closePrice, c.volumeUsd, c.candleStartIso, c.candleEndIso,
    c.ageSinceCompletionSeconds)

/-- Every completed row can be rendered, and the ones that start in the newest
second are all too old, or they are one candle and it is fresh. -/
structure Clear (now : ℚ) (rows : List CandleRow) : Prop where
  dated : ∀ row ∈ rows, row.Dated
  newest : (∀ row, IsLargest CandleRow.startSecond rows row →
      candleMaxAgeSeconds < (row.candle now).ageSinceCompletionSeconds) ∨
    ((∀ row other, IsLargest CandleRow.startSecond rows row →
        IsLargest CandleRow.startSecond rows other →
        (row.candle now).shown = (other.candle now).shown) ∧
      ∃ row, IsLargest CandleRow.startSecond rows row ∧
        (row.age now).le (.rat candleMaxAgeSeconds) = true)

/-! ## Completed rows are the eligible ones -/

theorem toFloat_ne_nan {v : Value} {x : PyFloat} (h : toFloat v = some x) : x ≠ .nan := by
  cases v with
  | str s =>
    obtain ⟨_, hx⟩ := Option.filter_eq_some_iff.mp h
    simpa using hx
  | bool b => obtain rfl := Option.some.inj h; simp
  | int n => obtain rfl := Option.some.inj h; simp
  | float q => obtain rfl := Option.some.inj h; simp
  | inf negative => obtain rfl := Option.some.inj h; simp
  | _ => cases h

theorem lt_eq_not_le {a b : PyFloat} (ha : a ≠ .nan) (hb : b ≠ .nan) : a.lt b = !b.le a := by
  cases a with
  | rat p =>
    cases b with
    | rat q => rw [PyFloat.lt_rat, PyFloat.le_rat, ← decide_not, decide_eq_decide, not_le]
    | inf negative => rfl
    | nan => exact absurd rfl hb
  | inf negative =>
    cases b with
    | rat q => cases negative <;> rfl
    | inf other => cases negative <;> cases other <;> rfl
    | nan => exact absurd rfl hb
  | nan => exact absurd rfl ha

/-- The numbers of a row are numbers. -/
theorem candleRow_ne_nan {raw : Value} {row : CandleRow} (h : candleRow raw = some row) :
    row.ts ≠ .nan ∧ row.openPrice ≠ .nan ∧ row.volume ≠ .nan := by
  unfold candleRow at h
  split at h
  · obtain ⟨ts, hts, h⟩ := Option.bind_eq_some_iff.mp h
    obtain ⟨openPrice, hopen, h⟩ := Option.bind_eq_some_iff.mp h
    obtain ⟨closePrice, _, h⟩ := Option.bind_eq_some_iff.mp h
    obtain ⟨volume, hvolume, h⟩ := Option.bind_eq_some_iff.mp h
    obtain rfl := Option.some.inj h
    exact ⟨toFloat_ne_nan hts, toFloat_ne_nan hopen, toFloat_ne_nan hvolume⟩
  · cases h

theorem endUnix_ne_nan {row : CandleRow} (h : row.ts ≠ .nan) : row.endUnix ≠ .nan := by
  unfold CandleRow.endUnix
  cases hts : row.ts with
  | rat q => simp [PyFloat.add]
  | inf negative => simp [PyFloat.add]
  | nan => exact absurd hts h

theorem mem_completedRows {now : ℚ} {rows : List Value} {row : CandleRow} :
    row ∈ completedRows now rows ↔ Eligible now rows row := by
  rw [completedRows, List.mem_filter, List.mem_filterMap]
  have hparts : ∀ raw, candleRow raw = some row →
      (completed now row = true ↔ (PyFloat.rat 0).lt row.openPrice = true ∧
        (PyFloat.rat 0).le row.volume = true ∧ row.endUnix.le (.rat now) = true) := by
    intro raw hraw
    obtain ⟨hts, hopen, hvolume⟩ := candleRow_ne_nan hraw
    rw [completed, lt_eq_not_le (by simp) hopen, lt_eq_not_le hvolume (by simp),
      lt_eq_not_le (by simp) (endUnix_ne_nan hts)]
    simp [and_assoc]
  constructor
  · rintro ⟨⟨raw, hmem, hraw⟩, hcompleted⟩
    obtain ⟨hopen, hvolume, hended⟩ := (hparts raw hraw).mp hcompleted
    exact ⟨⟨raw, hmem, hraw⟩, hopen, hvolume, hended⟩
  · rintro ⟨⟨raw, hmem, hraw⟩, hopen, hvolume, hended⟩
    exact ⟨⟨raw, hmem, hraw⟩, (hparts raw hraw).mpr ⟨hopen, hvolume, hended⟩⟩

/-! ## The enrichment of a list of rows -/

/-- What is reported where a candle is the newest. -/
def reported (c : Candle) : Enrichment :=
  if c.ageSinceCompletionSeconds ≤ candleMaxAgeSeconds then
    { price := derivePriceChange15mFromCandle request now c
      volume := deriveVolume15mFromCandle request now c }
  else {}

variable {request now}

theorem reported_eq_empty_iff {c : Candle} :
    reported request now c = {} ↔ candleMaxAgeSeconds < c.ageSinceCompletionSeconds := by
  unfold reported
  split_ifs with h
  · refine iff_of_false (fun heq => ?_) (not_lt.mpr h)
    have hvolume := congrArg Enrichment.volume heq
    simp [deriveVolume15mFromCandle] at hvolume
  · exact iff_of_true rfl (not_le.mp h)

theorem reported_congr {c d : Candle} (h : c.shown = d.shown) :
    reported request now c = reported request now d := by
  simp only [Candle.shown, Prod.mk.injEq] at h
  obtain ⟨hopen, hclose, hvolume, hstart, hend, hage⟩ := h
  simp only [reported, derivePriceChange15mFromCandle, deriveVolume15mFromCandle, hopen, hclose,
    hvolume, hstart, hend, hage]

theorem shown_eq_of_reported {c d : Candle} (hc : c.openPrice ≠ .rat 0) (hd : d.openPrice ≠ .rat 0)
    (hsome : reported request now c ≠ {}) (h : reported request now c = reported request now d) :
    c.shown = d.shown := by
  have hcfresh := not_lt.mp (mt reported_eq_empty_iff.mpr hsome)
  have hdfresh := not_lt.mp (mt reported_eq_empty_iff.mpr (h ▸ hsome))
  have hprice := congrArg Enrichment.price h
  have hvolume := congrArg Enrichment.volume h
  simp only [reported, if_pos hcfresh, if_pos hdfresh, derivePriceChange15mFromCandle, if_neg hc,
    if_neg hd, Option.some.injEq, PriceChange15m.mk.injEq, PriceProvenance.mk.injEq] at hprice
  simp only [reported, if_pos hcfresh, if_pos hdfresh, deriveVolume15mFromCandle,
    Option.some.injEq, Volume15m.mk.injEq] at hvolume
  simp only [Candle.shown, Prod.mk.injEq]
  obtain ⟨-, -, -, -, -, -, -, hstart, hend, hopen, hclose, hage, -⟩ := hprice
  exact ⟨hopen, hclose, hvolume.1, hstart, hend, hage⟩

/-- The fields reported of a fresh candle of a dated row are the row's. -/
theorem reportedFrom_candle {time : ℚ} {row : CandleRow} (hdated : row.Dated)
    (hopen : row.openPrice ≠ .rat 0)
    (hfresh : (row.candle time).ageSinceCompletionSeconds ≤ candleMaxAgeSeconds) :
    ReportedFrom (reported request now (row.candle time)) row := by
  obtain ⟨start, stop, hstart, hstop⟩ := hdated
  have hstartIso : unixToIso row.ts = .ok (row.candle time).candleStartIso := by
    simp only [CandleRow.candle, unixToIso, hstart]
    rfl
  have hendIso : unixToIso row.endUnix = .ok (row.candle time).candleEndIso := by
    simp only [CandleRow.candle, unixToIso, hstop]
    rfl
  have hopen' : (row.candle time).openPrice ≠ .rat 0 := hopen
  rw [reported, if_pos hfresh]
  constructor
  · exact ⟨_, by rw [derivePriceChange15mFromCandle, if_neg hopen'], rfl, rfl, rfl, hstartIso,
      hendIso⟩
  · exact ⟨_, rfl, rfl, hstartIso, hendIso⟩

theorem enrich_of_rows {payload : Dict} {rows : List Value} (h : ohlcvList payload = some rows) :
    enrichCandidate15mOhlcv request now payload =
      ((completedRows (timestamp now.instant) rows).mapM (candleOf (timestamp now.instant))).map
        fun candles => (candles.maxOn? Candle.candleStartUnix).elim {} (reported request now) := by
  simp only [enrichCandidate15mOhlcv, h, selectCompleted15mCandle]
  cases (completedRows (timestamp now.instant) rows).mapM (candleOf (timestamp now.instant)) with
  | error e => rfl
  | ok candles =>
    rw [ok_bind]
    cases hnewest : candles.maxOn? Candle.candleStartUnix with
    | none => simp [Except.map, hnewest, pure, Except.pure, ok_bind]
    | some newest =>
      by_cases hfresh : newest.ageSinceCompletionSeconds ≤ candleMaxAgeSeconds <;>
        simp [Except.map, hnewest, pure, Except.pure, ok_bind, reported, hfresh, Option.filter]

/-- On rows that can be rendered the newest one is reported. -/
theorem enrich_of_dated {payload : Dict} {rows : List Value} (h : ohlcvList payload = some rows)
    (hdated : ∀ row ∈ completedRows (timestamp now.instant) rows, row.Dated) :
    enrichCandidate15mOhlcv request now payload =
      .ok (((completedRows (timestamp now.instant) rows).maxOn? CandleRow.startSecond).elim {}
        fun row => reported request now (row.candle (timestamp now.instant))) := by
  have hkey : (fun row => (CandleRow.candle (timestamp now.instant) row).candleStartUnix) =
      CandleRow.startSecond := rfl
  rw [enrich_of_rows h, candles_ok_iff.mpr ⟨hdated, rfl⟩, Except.map, maxOn?_map, hkey]
  cases (completedRows (timestamp now.instant) rows).maxOn? CandleRow.startSecond <;> rfl

/-! ## When the enrichment fails closed -/

theorem Eligible.open_ne_zero {time : ℚ} {rows : List Value} {row : CandleRow}
    (h : Eligible time rows row) : row.openPrice ≠ .rat 0 := by
  intro hzero
  have hpositive := h.openPositive
  rw [hzero, PyFloat.lt_rat] at hpositive
  simp at hpositive

theorem dated_of_returns {payload : Dict} {rows : List Value} (h : ohlcvList payload = some rows)
    (hreturns : ∃ e, enrichCandidate15mOhlcv request now payload = .ok e) :
    ∀ row ∈ completedRows (timestamp now.instant) rows, row.Dated := by
  obtain ⟨e, he⟩ := hreturns
  rw [enrich_of_rows h] at he
  cases hcandles : (completedRows (timestamp now.instant) rows).mapM
      (candleOf (timestamp now.instant)) with
  | error err =>
    rw [hcandles] at he
    cases he
  | ok candles => exact (candles_ok_iff.mp hcandles).1

theorem completedRows_eq_filterMap (time : ℚ) (rows : List Value) :
    completedRows time rows = rows.filterMap fun raw => (candleRow raw).filter (completed time) :=
  List.filter_filterMap

theorem completedRows_perm (time : ℚ) {rows rows' : List Value} (h : rows'.Perm rows) :
    (completedRows time rows').Perm (completedRows time rows) := by
  rw [completedRows_eq_filterMap, completedRows_eq_filterMap]
  exact h.filterMap _

/-- Any row of the newest second can be the one reported, the rows in some order. -/
theorem exists_order_reporting {payload : Dict} {rows : List Value} {row : CandleRow}
    (h : ohlcvList payload = some rows)
    (hdated : ∀ row ∈ completedRows (timestamp now.instant) rows, row.Dated)
    (hrow : IsLargest CandleRow.startSecond (completedRows (timestamp now.instant) rows) row) :
    ∃ rows', rows'.Perm rows ∧ enrichCandidate15mOhlcv request now (withRows payload rows') =
      .ok (reported request now (row.candle (timestamp now.instant))) := by
  have hmem := hrow.mem
  rw [completedRows_eq_filterMap] at hmem
  obtain ⟨rows', rest, hperm, hfront⟩ := exists_perm_filterMap_cons hmem
  rw [← completedRows_eq_filterMap] at hfront
  have hrows' := completedRows_perm (timestamp now.instant) hperm
  refine ⟨rows', hperm, ?_⟩
  rw [enrich_of_dated (ohlcvList_withRows h rows') fun r hr => hdated r (hrows'.mem_iff.mp hr),
    hfront, maxOn?_cons_of_le, Option.elim_some]
  intro other hother
  exact hrow.le other (hrows'.mem_iff.mp (hfront ▸ List.mem_cons_of_mem row hother))

/-- No row that starts in a later second starts earlier. -/
theorem startSecond_le_of_not_lt {row other : CandleRow} (hrow : row.Dated) (hother : other.Dated)
    (h : row.ts.lt other.ts = false) : other.startSecond ≤ row.startSecond := by
  obtain ⟨q, hq⟩ := hrow.rat
  obtain ⟨p, hp⟩ := hother.rat
  rw [hq, hp, PyFloat.lt_rat, decide_eq_false_iff_not, not_lt] at h
  rw [CandleRow.startSecond, CandleRow.startSecond, hq, hp]
  exact truncated_mono h

/-- The start of a row as a rational, which that of a dated row is. -/
def CandleRow.rationalStart (row : CandleRow) : ℚ :=
  match row.ts with
  | .rat q => q
  | _ => 0

/-- Of dated rows one starts last. -/
theorem exists_latest {rows : List CandleRow} (hdated : ∀ row ∈ rows, row.Dated) (h : rows ≠ []) :
    ∃ row ∈ rows, ∀ other ∈ rows, row.ts.lt other.ts = false := by
  have hkey : ∀ row ∈ rows, ∃ q, row.ts = .rat q := fun row hrow => (hdated row hrow).rat
  obtain ⟨row, hrow⟩ := exists_isLargest CandleRow.rationalStart h
  refine ⟨row, hrow.mem, fun other hother => ?_⟩
  obtain ⟨q, hq⟩ := hkey row hrow.mem
  obtain ⟨p, hp⟩ := hkey other hother
  have hle := hrow.le other hother
  simp only [CandleRow.rationalStart, hq, hp] at hle
  rw [hq, hp, PyFloat.lt_rat, decide_eq_false_iff_not, not_lt]
  exact hle

/-- A row that starts no earlier ended no longer ago. -/
theorem age_le_of_not_lt {time : ℚ} {row other : CandleRow} (hrow : row.Dated)
    (hother : other.Dated) (h : row.ts.lt other.ts = false)
    (hfresh : (other.age time).le (.rat candleMaxAgeSeconds) = true) :
    (row.age time).le (.rat candleMaxAgeSeconds) = true := by
  obtain ⟨q, hq⟩ := hrow.rat
  obtain ⟨p, hp⟩ := hother.rat
  rw [hq, hp, PyFloat.lt_rat, decide_eq_false_iff_not, not_lt] at h
  simp only [CandleRow.age, CandleRow.endUnix, hq, hp, PyFloat.add, PyFloat.sub, PyFloat.neg,
    PyFloat.le_rat, decide_eq_true_eq] at hfresh ⊢
  linarith

/-- A dated row whose real age is no more than the limit is not too old in whole
seconds either. -/
theorem age_candle_le {time : ℚ} {row : CandleRow} (hrow : row.Dated)
    (hfresh : (row.age time).le (.rat candleMaxAgeSeconds) = true) :
    (row.candle time).ageSinceCompletionSeconds ≤ candleMaxAgeSeconds := by
  obtain ⟨q, hq⟩ := hrow.rat
  have hage : row.age time = .rat (time + -(q + candleSeconds)) := by
    rw [CandleRow.age, CandleRow.endUnix, hq]
    rfl
  rw [hage, PyFloat.le_rat, decide_eq_true_eq] at hfresh
  have htruncated : (row.candle time).ageSinceCompletionSeconds =
      truncated (time + -(q + candleSeconds)) := by
    simp only [CandleRow.candle, hage]
    rfl
  rw [htruncated]
  exact truncated_mono hfresh

theorem clear_of_failsClosed {payload : Dict} (h : FailsClosed request now payload)
    {rows : List Value} (hrows : ohlcvList payload = some rows) :
    Clear (timestamp now.instant) (completedRows (timestamp now.instant) rows) := by
  have hdated := dated_of_returns hrows h.returns
  -- whichever row of the newest second comes first, the payload's own result is reported
  have hsame : ∀ row, IsLargest CandleRow.startSecond
      (completedRows (timestamp now.instant) rows) row →
        enrichCandidate15mOhlcv request now payload =
          .ok (reported request now (row.candle (timestamp now.instant))) := by
    intro row hrow
    obtain ⟨rows', hperm, hout⟩ := exists_order_reporting hrows hdated hrow
    rw [← hout, h.order rows rows' hrows hperm]
  refine ⟨hdated, ?_⟩
  obtain ⟨e, he⟩ := h.returns
  by_cases hempty : e = {}
  · left
    intro row hrow
    have hrow' := hsame row hrow
    rw [he, hempty] at hrow'
    exact reported_eq_empty_iff.mp (Except.ok.inj hrow').symm
  · right
    constructor
    · intro row other hrow hother
      have hrow' := hsame row hrow
      have hother' := hsame other hother
      rw [he] at hrow' hother'
      have hrowOut := Except.ok.inj hrow'
      have hsome : reported request now (row.candle (timestamp now.instant)) ≠ {} :=
        hrowOut ▸ hempty
      exact shown_eq_of_reported (mem_completedRows.mp hrow.mem).open_ne_zero
        (mem_completedRows.mp hother.mem).open_ne_zero hsome
        (hrowOut.symm.trans (Except.ok.inj hother'))
    · obtain ⟨row, hnewest, _⟩ := h.chosen rows e hrows he hempty
      have hmem := mem_completedRows.mpr hnewest.eligible
      refine ⟨row, ⟨hmem, ?_⟩, hnewest.fresh⟩
      intro other hother
      exact startSecond_le_of_not_lt (hdated row hmem) (hdated other hother)
        (hnewest.newest other (mem_completedRows.mp hother))

theorem failsClosed_of_clear {payload : Dict}
    (h : ∀ rows, ohlcvList payload = some rows →
      Clear (timestamp now.instant) (completedRows (timestamp now.instant) rows)) :
    FailsClosed request now payload := by
  constructor
  · cases hrows : ohlcvList payload with
    | none => exact ⟨{}, by simp only [enrichCandidate15mOhlcv, hrows]⟩
    | some rows => exact ⟨_, enrich_of_dated hrows (h rows hrows).dated⟩
  · intro rows e hrows he hsome
    have hclear := h rows hrows
    rw [enrich_of_dated hrows hclear.dated] at he
    cases hnewest : (completedRows (timestamp now.instant) rows).maxOn? CandleRow.startSecond with
    | none =>
      rw [hnewest] at he
      exact absurd (Except.ok.inj he).symm hsome
    | some first =>
      rw [hnewest, Option.elim_some] at he
      obtain rfl := Except.ok.inj he
      have hfirst := isLargest_of_maxOn? hnewest
      -- the candle reported is that of the row that starts last
      obtain ⟨row, hrow, hlatest⟩ := exists_latest hclear.dated (List.ne_nil_of_mem hfirst.mem)
      have hlargest : IsLargest CandleRow.startSecond
          (completedRows (timestamp now.instant) rows) row := by
        refine ⟨hrow, fun other hother => ?_⟩
        exact startSecond_le_of_not_lt (hclear.dated row hrow) (hclear.dated other hother)
          (hlatest other hother)
      rcases hclear.newest with hold | ⟨hsame, fresh, hfresh, hage⟩
      · exact absurd (reported_eq_empty_iff.mpr (hold first hfirst)) hsome
      · have hrowAge := age_le_of_not_lt (hclear.dated row hrow) (hclear.dated fresh hfresh.mem)
          (hlatest fresh hfresh.mem) hage
        have heligible := mem_completedRows.mp hrow
        refine ⟨row, ⟨heligible, ?_, hrowAge⟩, ?_⟩
        · intro other hother
          exact hlatest other (mem_completedRows.mpr hother)
        · rw [reported_congr (hsame first row hfirst hlargest)]
          exact reportedFrom_candle (hclear.dated row hrow) heligible.open_ne_zero
            (age_candle_le (hclear.dated row hrow) hrowAge)
  · intro e hrows he
    simp only [enrichCandidate15mOhlcv, hrows] at he
    exact (Except.ok.inj he).symm
  · intro rows rows' hrows hperm
    have hclear := h rows hrows
    have hperm' := completedRows_perm (timestamp now.instant) hperm
    rw [enrich_of_dated hrows hclear.dated, enrich_of_dated (ohlcvList_withRows hrows rows')
      fun row hrow => hclear.dated row (hperm'.mem_iff.mp hrow)]
    congr 1
    cases hnewest : (completedRows (timestamp now.instant) rows).maxOn? CandleRow.startSecond with
    | none =>
      rw [maxOn?_eq_none_iff] at hnewest
      rw [hnewest] at hperm'
      rw [hperm'.eq_nil]
      rfl
    | some first =>
      have hfirst := isLargest_of_maxOn? hnewest
      have hsome : completedRows (timestamp now.instant) rows' ≠ [] :=
        List.ne_nil_of_mem (hperm'.mem_iff.mpr hfirst.mem)
      obtain ⟨other, hnewest'⟩ := Option.isSome_iff_exists.mp
        (List.isSome_maxOn?_iff (f := CandleRow.startSecond).mpr hsome)
      have hother := (isLargest_of_maxOn? hnewest').of_perm hperm'.symm
      rw [hnewest', Option.elim_some, Option.elim_some]
      rcases hclear.newest with hold | ⟨hsame, _⟩
      · rw [reported_eq_empty_iff.mpr (hold _ hother), reported_eq_empty_iff.mpr (hold _ hfirst)]
      · exact reported_congr (hsame _ _ hother hfirst)

/-- The enrichment fails closed exactly where the completed rows are clear. -/
theorem enrichCandidate15mOhlcv_failsClosed_iff (request : CandleRequest) (now : FetchTime)
    (payload : Dict) :
    FailsClosed request now payload ↔ ∀ rows, ohlcvList payload = some rows →
      Clear (timestamp now.instant) (completedRows (timestamp now.instant) rows) :=
  ⟨fun h _ hrows => clear_of_failsClosed h hrows, failsClosed_of_clear⟩

/-- A payload of one row, which starts long before the first date. -/
def ancientPayload : Dict :=
  [("data", .dict [("attributes", .dict [("ohlcv_list",
    .list [.list [.int (-1000000000000), .int 1, .int 1, .int 1, .int 1, .int 1]])])])]

/-- A row that starts long before the first date raises. -/
theorem enrichCandidate15mOhlcv_raises_ancient :
    ¬FailsClosed ⟨"pool", "solana", "https://example"⟩ ⟨unixEpoch, "1970-01-01T00:00:00+00:00"⟩
      ancientPayload := by
  intro h
  obtain ⟨e, he⟩ := h.returns
  have hraises : (enrichCandidate15mOhlcv ⟨"pool", "solana", "https://example"⟩
      ⟨unixEpoch, "1970-01-01T00:00:00+00:00"⟩ ancientPayload).toOption = none := by
    decide +kernel
  rw [he] at hraises
  cases hraises

end PrinterV1.Sources.Geckoterminal15m
