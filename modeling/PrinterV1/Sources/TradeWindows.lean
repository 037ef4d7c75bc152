import PrinterV1.Python.Floats

/-!
# Transactions of a fifteen-minute window

The pool-trades endpoint returns the newest trades of a pool, 300 at most. The
count of the window is taken for complete when fewer were returned, or when the
oldest one returned is no younger than the start of the window. The window holds
its start: trades at that instant that were cut off are missed.
-/

namespace PrinterV1.Sources.Geckoterminal15m

open Python

def candleSeconds : ℚ := 900
def tradesMaxResponse : ℕ := 300
inductive Completeness
  | tradeHistoryComplete | tradeHistoryTruncated
  deriving DecidableEq, Repr

inductive TradeError
  | dataNotAList | malformedRecord | malformedAttributes | malformedTimestamp
  deriving DecidableEq, Repr

inductive CompletenessRule
  | fewerThanMax | oldestReachesWindow | truncated
  deriving DecidableEq, Repr

/-- The details of a count. -/
structure CountDetails where
  totalTradesReturned : ℕ
  tradesInWindow : ℕ
  oldestTradeUnix : Option PyFloat
  windowStartUnix : ℚ
  windowEndUnix : ℚ
  maxResponseLimit : ℕ
  completenessRuleApplied : CompletenessRule
  deriving DecidableEq, Repr

inductive TradeDetails
  | refused (error : TradeError) (totalTradesReturned : Option ℕ)
  | counted (details : CountDetails)
  deriving DecidableEq, Repr

structure TradeCount where
  count : Option ℕ
  completeness : Completeness
  details : TradeDetails
  deriving DecidableEq, Repr

/-- The local time zone: the offset it has from UTC at a clock time. -/
structure LocalZone where
  offset : ℤ → ℤ

/-- `value.timestamp()` -/
def LocalZone.timestamp (zone : LocalZone) (d : Datetime) : ℚ :=
  Python.timestamp (d.wall - d.utcoffset.getD (zone.offset d.wall))

variable (zone : LocalZone)

/-- `_parse_trade_block_timestamp` -/
def parseTradeBlockTimestamp (attrs : Dict) : Option PyFloat :=
  match attrs.get "block_timestamp" with
  | .none => none
  | .bool b => some (.rat (if b then 1 else 0))
  | .int n => some (.rat n)
  | .float q => some (.rat q)
  | .inf negative => some (.inf negative)
  | .nan => some .nan
  | .str s => (fromisoformat (replaceZulu s)).map fun d => .rat (zone.timestamp d)
  | _ => none

/-- `trade.get("attributes") or {}` -/
def tradeAttributes (trade : Dict) : Value :=
  if (trade.get "attributes").truthy then trade.get "attributes" else .dict []

/-- The time stamp of a record, or what is wrong with it. -/
def tradeTimestamp (trade : Value) : Except TradeError PyFloat :=
  match trade with
  | .dict entries =>
    match tradeAttributes entries with
    | .dict attrs =>
      match parseTradeBlockTimestamp zone attrs with
      | some ts => .ok ts
      | none => .error .malformedTimestamp
    | _ => .error .malformedAttributes
  | _ => .error .malformedRecord

/-- The loop over the records: their time stamps, or the first error. -/
def tradeTimestamps : List Value → Except TradeError (List PyFloat)
  | [] => .ok []
  | trade :: rest => do
    let ts ← tradeTimestamp zone trade
    let later ← tradeTimestamps rest
    return ts :: later

/-- `min(xs) if xs else None` -/
def oldest : List PyFloat → Option PyFloat
  | [] => none
  | x :: xs => some (xs.foldl (fun least y => if y.lt least then y else least) x)

/-- `window_start <= ts < window_end` -/
def inWindow (windowStart windowEnd : ℚ) (ts : PyFloat) : Bool :=
  (PyFloat.rat windowStart).le ts && ts.lt (.rat windowEnd)

def countTxns15mFromTrades (rawTradesData : Value) (windowStart windowEnd : ℚ)
    (maxResponse : ℕ := tradesMaxResponse) : TradeCount :=
  match rawTradesData with
  | .list trades =>
    match tradeTimestamps zone trades with
    | .error e => ⟨none, .tradeHistoryTruncated, .refused e (some trades.length)⟩
    | .ok timestamps =>
      let inWindowCount := timestamps.countP (inWindow windowStart windowEnd)
      let fewerThanMax := trades.length < maxResponse
      let oldestReachesWindow := (oldest timestamps).any fun ts => ts.le (.rat windowStart)
      let complete := fewerThanMax ∨ oldestReachesWindow = true
      { count := if complete then some inWindowCount else none
        completeness := if complete then .tradeHistoryComplete else .tradeHistoryTruncated
        details := .counted
          { totalTradesReturned := trades.length
            tradesInWindow := inWindowCount
            oldestTradeUnix := oldest timestamps
            windowStartUnix := windowStart
            windowEndUnix := windowEnd
            maxResponseLimit := maxResponse
            completenessRuleApplied :=
              if fewerThanMax then .fewerThanMax
              else if oldestReachesWindow then .oldestReachesWindow else .truncated } }
  | _ => ⟨none, .tradeHistoryTruncated, .refused .dataNotAList none⟩

/-- The time of a record, where it has one. -/
def tradeTime (trade : Value) : Option ℚ :=
  match tradeTimestamp zone trade with
  | .ok (.rat q) => some q
  | _ => none

variable {zone}

theorem tradeTimestamp_of_time {trade : Value} {q : ℚ} (h : tradeTime zone trade = some q) :
    tradeTimestamp zone trade = .ok (.rat q) := by
  unfold tradeTime at h
  split at h
  · rename_i q' htime
    rw [htime, Option.some.inj h]
  · cases h

/-- The records all have a time. -/
def Timed (zone : LocalZone) (trades : List Value) : Prop :=
  ∀ trade ∈ trades, (tradeTime zone trade).isSome

/-- The times of the records. -/
def times (zone : LocalZone) (trades : List Value) : List ℚ := trades.filterMap (tradeTime zone)

theorem times_cons {trade : Value} {q : ℚ} (h : tradeTime zone trade = some q)
    (rest : List Value) : times zone (trade :: rest) = q :: times zone rest := by
  rw [times, List.filterMap_cons, h]
  rfl

theorem Timed.of_cons {trade : Value} {rest : List Value} (h : Timed zone (trade :: rest)) :
    (∃ q, tradeTime zone trade = some q) ∧ Timed zone rest :=
  ⟨Option.isSome_iff_exists.mp (h trade List.mem_cons_self),
    fun t ht => h t (List.mem_cons_of_mem trade ht)⟩

theorem tradeTimestamps_of_timed {trades : List Value} (h : Timed zone trades) :
    tradeTimestamps zone trades = .ok ((times zone trades).map .rat) := by
  induction trades with
  | nil => rfl
  | cons trade rest ih =>
    obtain ⟨⟨q, hq⟩, hrest⟩ := h.of_cons
    rw [tradeTimestamps, tradeTimestamp_of_time hq, ih hrest, times_cons hq]
    rfl

theorem length_times {trades : List Value} (h : Timed zone trades) :
    (times zone trades).length = trades.length := by
  induction trades with
  | nil => rfl
  | cons trade rest ih =>
    obtain ⟨⟨q, hq⟩, hrest⟩ := h.of_cons
    rw [times_cons hq, List.length_cons, List.length_cons, ih hrest]

/-- The oldest of some times is the least of them. -/
theorem oldest_map_rat (qs : List ℚ) : oldest (qs.map .rat) = qs.min?.map .rat := by
  cases qs with
  | nil => rfl
  | cons q rest =>
    have hfold : ∀ (rest : List ℚ) (q : ℚ),
        (rest.map PyFloat.rat).foldl (fun least y => if y.lt least then y else least) (.rat q) =
          .rat (rest.foldl min q) := by
      intro rest
      induction rest with
      | nil => intro q; rfl
      | cons r rest ih =>
        intro q
        rw [List.map_cons, List.foldl_cons, List.foldl_cons, ← ih, PyFloat.lt_rat]
        congr 1
        rcases lt_or_ge r q with h | h
        · rw [if_pos (by simpa using h), min_eq_right h.le]
        · rw [if_neg (by simpa using h), min_eq_left h]
    rw [List.map_cons, oldest, hfold, List.min?_cons']
    rfl

/-- The oldest of the records reaches the start when one of them does. -/
theorem oldest_le_iff (qs : List ℚ) (start : ℚ) :
    ((oldest (qs.map .rat)).any fun ts => ts.le (.rat start)) = true ↔ ∃ q ∈ qs, q ≤ start := by
  rw [oldest_map_rat]
  cases hmin : qs.min? with
  | none =>
    obtain rfl := List.min?_eq_none_iff.mp hmin
    simp
  | some m =>
    obtain ⟨hmem, hle⟩ := List.min?_eq_some_iff.mp hmin
    simp only [Option.map_some, Option.any_some, PyFloat.le_rat, decide_eq_true_eq]
    exact ⟨fun h => ⟨m, hmem, h⟩, fun ⟨q, hq, h⟩ => (hle q hq).trans h⟩

/-- The time lies in the window of fifteen minutes from `start`. -/
def InWindow (start q : ℚ) : Prop := start ≤ q ∧ q < start + candleSeconds

instance (start : ℚ) : DecidablePred (InWindow start) := fun q =>
  inferInstanceAs (Decidable (start ≤ q ∧ q < start + candleSeconds))

/-- What the count comes to on records with a time. -/
theorem count_of_timed {trades : List Value} (h : Timed zone trades) (start : ℚ) :
    let complete := trades.length < tradesMaxResponse ∨ ∃ q ∈ times zone trades, q ≤ start
    let result := countTxns15mFromTrades zone (.list trades) start (start + candleSeconds)
    (result.completeness = .tradeHistoryComplete ↔ complete) ∧
      (complete → result.count = some ((times zone trades).countP (InWindow start))) ∧
      (¬complete → result.count = none) := by
  have hreaches := oldest_le_iff (times zone trades) start
  have hcount : ((times zone trades).map PyFloat.rat).countP
      (inWindow start (start + candleSeconds)) =
        (times zone trades).countP (InWindow start) := by
    rw [List.countP_map]
    apply List.countP_congr
    intro q _
    simp only [inWindow, Function.comp_apply, PyFloat.le_rat, PyFloat.lt_rat, Bool.and_eq_true,
      decide_eq_true_eq]
    exact Iff.rfl
  simp only [countTxns15mFromTrades, tradeTimestamps_of_timed h, hreaches, hcount]
  split_ifs with hcomplete <;> simp [hcomplete]

/-- The response holds the newest trades of the pool, as many as there are up to
the limit, newest first. -/
structure Returned (zone : LocalZone) (limit : ℕ) (pool response : List Value) : Prop where
  newest : ∃ omitted, (response ++ omitted).Perm pool ∧
    ∀ a ∈ times zone response, ∀ b ∈ times zone omitted, b ≤ a
  length_eq : response.length = min limit pool.length
  newestFirst : (times zone response).Pairwise fun a b => b ≤ a

/-- Of the newest times, those of the window are all there are, where the older
ones do not share the start of the window with some of them. -/
theorem countP_newest_iff {newest omitted : List ℚ} {limit : ℕ} (start : ℚ)
    (hlength : newest.length = min limit (newest.length + omitted.length))
    (hnewest : ∀ a ∈ newest, ∀ b ∈ omitted, b ≤ a) :
    ((newest.length < limit ∨ ∃ q ∈ newest, q ≤ start) →
        newest.countP (InWindow start) = (newest ++ omitted).countP (InWindow start)) ↔
      ¬((newest ++ omitted).countP (fun q => start < q) < limit ∧
        limit < (newest ++ omitted).countP fun q => start ≤ q) := by
  simp only [List.countP_append]
  have hgt := List.countP_le_length (p := fun q => decide (start < q)) (l := newest)
  constructor
  · rintro hexact ⟨hyounger, hreaching⟩
    have hge := List.countP_le_length (p := fun q => decide (start ≤ q)) (l := newest)
    have hgeOmitted := List.countP_le_length (p := fun q => decide (start ≤ q)) (l := omitted)
    have hfull : newest.length = limit := by omega
    -- one of the newest is no younger than the start, and one left out is as old
    obtain ⟨q, hq, hqstart⟩ : ∃ q ∈ newest, q ≤ start := by
      by_contra hnone
      have hall : newest.countP (fun q => decide (start < q)) = newest.length := by
        rw [List.countP_eq_length]
        intro q hq
        simpa using fun hle => hnone ⟨q, hq, hle⟩
      omega
    have homitted : 0 < omitted.countP fun q => decide (start ≤ q) := by omega
    obtain ⟨b, hb, hstart⟩ := List.countP_pos_iff.mp homitted
    have hsame : b = start := le_antisymm ((hnewest q hq b hb).trans hqstart) (by simpa using hstart)
    have hin : 0 < omitted.countP (InWindow start) :=
      List.countP_pos_iff.mpr ⟨b, hb, by simp [InWindow, hsame, candleSeconds]⟩
    have hall := hexact (.inr ⟨q, hq, hqstart⟩)
    omega
  · intro hapart hcomplete
    suffices hnone : omitted.countP (InWindow start) = 0 by omega
    rw [List.countP_eq_zero]
    intro b hb hin
    have hstart : start ≤ b := (of_decide_eq_true hin).1
    have hsome : 0 < omitted.length := List.length_pos_of_mem hb
    have hfull : newest.length = limit := by omega
    obtain ⟨q, hq, hqstart⟩ := hcomplete.resolve_left (by omega)
    have hbq := hnewest q hq b hb
    have hall : newest.countP (fun q => decide (start ≤ q)) = newest.length := by
      rw [List.countP_eq_length]
      intro a ha
      simpa using hstart.trans (hnewest a ha b hb)
    have hfew : newest.countP (fun q => decide (start < q)) < newest.length := by
      apply lt_of_le_of_ne hgt
      intro heq
      have hyounger := List.countP_eq_length.mp heq q hq
      exact absurd hqstart (not_le.mpr (by simpa using hyounger))
    have hold : omitted.countP (fun q => decide (start < q)) = 0 := by
      rw [List.countP_eq_zero]
      intro c hc
      simpa using (hnewest q hq c hc).trans hqstart
    have hreaching : 0 < omitted.countP fun q => decide (start ≤ q) :=
      List.countP_pos_iff.mpr ⟨b, hb, by simpa using hstart⟩
    exact hapart ⟨by omega, by omega⟩

/-- The count of a response is the pool's, or there is none, and the order of the
records does not show. -/
structure ExactCount (zone : LocalZone) (pool response : List Value) (start : ℚ) : Prop where
  complete : (countTxns15mFromTrades zone (.list response) start
      (start + candleSeconds)).completeness = .tradeHistoryComplete →
    (countTxns15mFromTrades zone (.list response) start (start + candleSeconds)).count =
      some ((times zone pool).countP (InWindow start))
  truncated : (countTxns15mFromTrades zone (.list response) start
      (start + candleSeconds)).completeness ≠ .tradeHistoryComplete →
    (countTxns15mFromTrades zone (.list response) start (start + candleSeconds)).count = none
  order : ∀ response', response'.Perm response →
    countTxns15mFromTrades zone (.list response') start (start + candleSeconds) =
      countTxns15mFromTrades zone (.list response) start (start + candleSeconds)

theorem oldest_eq_of_perm {qs qs' : List ℚ} (h : qs'.Perm qs) :
    oldest (qs'.map .rat) = oldest (qs.map .rat) := by
  rw [oldest_map_rat, oldest_map_rat]
  cases hmin : qs.min? with
  | none =>
    obtain rfl := List.min?_eq_none_iff.mp hmin
    rw [h.eq_nil]
    rfl
  | some m =>
    obtain ⟨hmem, hle⟩ := List.min?_eq_some_iff.mp hmin
    have hmin' : qs'.min? = some m :=
      List.min?_eq_some_iff.mpr ⟨h.mem_iff.mpr hmem, fun q hq => hle q (h.mem_iff.mp hq)⟩
    rw [hmin']

theorem countTxns_eq_of_perm {trades trades' : List Value} (htimed : Timed zone trades)
    (h : trades'.Perm trades) (start stop : ℚ) :
    countTxns15mFromTrades zone (.list trades') start stop =
      countTxns15mFromTrades zone (.list trades) start stop := by
  have htimed' : Timed zone trades' := fun t ht => htimed t (h.mem_iff.mp ht)
  have htimes : (times zone trades').Perm (times zone trades) := h.filterMap _
  simp only [countTxns15mFromTrades, tradeTimestamps_of_timed htimed',
    tradeTimestamps_of_timed htimed, h.length_eq, oldest_eq_of_perm htimes,
    (htimes.map PyFloat.rat).countP_eq]

/-- The count of what the provider returns is exact, unless the limit cuts
through the trades at the start of the window. -/
theorem countTxns15m_exact_iff {pool response : List Value} (hpool : Timed zone pool)
    (h : Returned zone tradesMaxResponse pool response) (start : ℚ) :
    ExactCount zone pool response start ↔
      ¬((times zone pool).countP (fun q => start < q) < tradesMaxResponse ∧
        tradesMaxResponse < (times zone pool).countP fun q => start ≤ q) := by
  obtain ⟨omitted, hperm, hnewest⟩ := h.newest
  have hresponse : Timed zone response := fun t ht =>
    hpool t (hperm.mem_iff.mp (List.mem_append_left omitted ht))
  have homitted : Timed zone omitted := fun t ht =>
    hpool t (hperm.mem_iff.mp (List.mem_append_right response ht))
  have htimes : (times zone response ++ times zone omitted).Perm (times zone pool) := by
    rw [times, times, ← List.filterMap_append]
    exact hperm.filterMap _
  have hlength : (times zone response).length =
      min tradesMaxResponse ((times zone response).length + (times zone omitted).length) := by
    have htotal := hperm.length_eq
    rw [List.length_append] at htotal
    rw [length_times hresponse, length_times homitted, htotal]
    exact h.length_eq
  have hcut := countP_newest_iff start hlength hnewest
  rw [htimes.countP_eq, htimes.countP_eq, htimes.countP_eq, length_times hresponse] at hcut
  obtain ⟨hlabel, hcount, hnone⟩ := count_of_timed hresponse start
  rw [← hcut]
  constructor
  · intro hexact hcomplete
    have hall := hexact.complete (hlabel.mpr hcomplete)
    rw [hcount hcomplete] at hall
    exact Option.some.inj hall
  · intro hall
    constructor
    · intro hcomplete
      rw [hcount (hlabel.mp hcomplete), hall (hlabel.mp hcomplete)]
    · intro htruncated
      exact hnone fun hcomplete => htruncated (hlabel.mpr hcomplete)
    · intro response' hperm'
      exact countTxns_eq_of_perm hresponse hperm' _ _

/-- A trade at a number of seconds. -/
def tradeAt (q : ℚ) : Value := .dict [("attributes", .dict [("block_timestamp", .float q)])]

def utcZone : LocalZone := ⟨fun _ => 0⟩

theorem tradeTime_tradeAt (q : ℚ) : tradeTime utcZone (tradeAt q) = some q := by
  simp [tradeTime, tradeTimestamp, tradeAt, tradeAttributes, parseTradeBlockTimestamp,
    Value.truthy]

theorem times_tradeAt (qs : List ℚ) : times utcZone (qs.map tradeAt) = qs := by
  rw [times, List.filterMap_map]
  exact (List.filterMap_congr fun q _ => tradeTime_tradeAt q).trans List.filterMap_some

theorem timed_tradeAt (qs : List ℚ) : Timed utcZone (qs.map tradeAt) := by
  intro trade htrade
  obtain ⟨q, _, rfl⟩ := List.mem_map.mp htrade
  rw [tradeTime_tradeAt]
  rfl

/-- As many trades at one time as the provider returns, of more or as many. -/
theorem returned_replicate {n : ℕ} (q : ℚ) :
    Returned utcZone tradesMaxResponse ((List.replicate n q).map tradeAt)
      ((List.replicate (min tradesMaxResponse n) q).map tradeAt) := by
  have hsame : ∀ k, ∀ a ∈ List.replicate k q, a = q := fun k a ha => List.eq_of_mem_replicate ha
  constructor
  · refine ⟨(List.replicate (n - tradesMaxResponse) q).map tradeAt, ?_, ?_⟩
    · rw [← List.map_append, ← List.replicate_add]
      rw [show min tradesMaxResponse n + (n - tradesMaxResponse) = n by omega]
    · intro a ha b hb
      rw [times_tradeAt] at ha hb
      rw [hsame _ a ha, hsame _ b hb]
  · simp
  · rw [times_tradeAt, List.pairwise_replicate]
    exact .inr le_rfl

/-- Three trades at the start of the window are counted. -/
theorem countTxns15m_exact_three :
    ExactCount utcZone ((List.replicate 3 0).map tradeAt) ((List.replicate 3 0).map tradeAt) 0 := by
  have hreturned := returned_replicate (n := 3) 0
  apply (countTxns15m_exact_iff (timed_tradeAt _) hreturned 0).mpr
  rw [times_tradeAt]
  decide

/-- Of 301 trades at the start of the window 300 are counted. -/
theorem countTxns15m_not_exact_boundary :
    Timed utcZone ((List.replicate 301 0).map tradeAt) ∧
      Returned utcZone tradesMaxResponse ((List.replicate 301 0).map tradeAt)
        ((List.replicate 300 0).map tradeAt) ∧
      ¬ExactCount utcZone ((List.replicate 301 0).map tradeAt)
        ((List.replicate 300 0).map tradeAt) 0 := by
  refine ⟨timed_tradeAt _, returned_replicate (n := 301) 0, ?_⟩
  intro hexact
  obtain ⟨hlabel, hcount, _⟩ := count_of_timed (timed_tradeAt (List.replicate 300 0)) 0
  rw [times_tradeAt] at hlabel hcount
  have hreaching : ∃ q ∈ List.replicate 300 (0 : ℚ), q ≤ 0 := ⟨0, List.mem_replicate.mpr ⟨by decide, rfl⟩, le_rfl⟩
  have hall := hexact.complete (hlabel.mpr (.inr hreaching))
  rw [hcount (.inr hreaching), times_tradeAt, List.countP_replicate, List.countP_replicate] at hall
  simp [InWindow, candleSeconds] at hall

end PrinterV1.Sources.Geckoterminal15m
