import Mathlib.Data.Rat.Defs
import Mathlib.Algebra.Order.Ring.Rat
import PrinterV1.Python.Text
import PrinterV1.Python.Value

/-!
# Selection buckets

The bucket taxonomy, `assign_bucket` and `validate_batch_quota`. A market figure
is only compared with fixed thresholds, so it is a rational number.
-/

namespace PrinterV1.Discovery

open Python

inductive Bucket
  | a1 | a2 | a3 | a4
  | b1 | b2 | b3 | b4 | b5
  | c1 | c2 | c3
  | d1 | d2 | d3 | d4
  | e1 | e2
  | f1 | f2 | f3 | f4
  deriving DecidableEq, Repr

namespace Bucket

/-- The buckets in the order of their ids. -/
def all : List Bucket :=
  [a1, a2, a3, a4, b1, b2, b3, b4, b5, c1, c2, c3, d1, d2, d3, d4, e1, e2, f1, f2, f3, f4]

/-- `BUCKET_NAMES` -/
def bucketName : Bucket → String
  | a1 => "FAST_PUMP_FOLLOW"
  | a2 => "WICK_ONLY_PUMP"
  | a3 => "LATE_BUY_TRAP"
  | a4 => "FAILED_PUMP"
  | b1 => "VOLUME_RISING"
  | b2 => "VOLUME_DECAYING"
  | b3 => "TRANSACTION_SPIKE"
  | b4 => "TRANSACTION_DECAY"
  | b5 => "CONSOLIDATION"
  | c1 => "LIQUIDITY_RISING"
  | c2 => "LIQUIDITY_FALLING"
  | c3 => "LIQUIDITY_REMOVED"
  | d1 => "DEAD_TOKEN"
  | d2 => "REVIVAL"
  | d3 => "MIGRATION_EVENT"
  | d4 => "SUSPICIOUS_SAFETY"
  | e1 => "REALISTIC_EXIT"
  | e2 => "UNREALISTIC_EXIT"
  | f1 => "CORRECT_AVOID"
  | f2 => "WRONG_AVOID"
  | f3 => "CORRECT_WAIT"
  | f4 => "WRONG_WAIT"

/-- `GROUP_A_BUCKETS` -/
def groupA (b : Bucket) : Bool := b ∈ [a1, a2, a3, a4]

/-- `GROUP_B_BUCKETS` -/
def groupB (b : Bucket) : Bool := b ∈ [b1, b2, b3, b4, b5]

/-- `GROUP_D_BUCKETS` -/
def groupD (b : Bucket) : Bool := b ∈ [d1, d2, d3, d4]

/-- `GROUP_F_BUCKETS` -/
def groupF (b : Bucket) : Bool := b ∈ [f1, f2, f3, f4]

/-- `TRAP_FAILURE_BUCKETS` -/
def trapFailure (b : Bucket) : Bool := b ∈ [a2, a3, a4]

/-- The buckets of decay in group B. -/
def groupBDecay (b : Bucket) : Bool := b ∈ [b2, b4]

end Bucket

/-- The keys `a4_*` of a candidate. -/
structure A4Evidence where
  evidenceStatus : Option String := none
  priorDiscoveryCandidateId : Option ℤ := none
  priorSourceRequestId : Option ℤ := none
  priorSourceResponseId : Option ℤ := none
  currentSourceRequestId : Option ℤ := none
  currentSourceResponseId : Option ℤ := none
  priorSourceStatus : Option String := none
  priorDataQualityLabel : Option String := none
  currentSourceStatus : Option String := none
  currentDataQualityLabel : Option String := none
  priorBucket : Option String := none
  priorObservedAt : Option String := none
  currentObservedAt : Option String := none
  deriving DecidableEq

/-- The market figures of a candidate. -/
structure Market where
  liquidityUsd : Option ℚ := none
  volume5m : Option ℚ := none
  volume1h : Option ℚ := none
  volume24h : Option ℚ := none
  txns5m : Option ℚ := none
  txns1h : Option ℚ := none
  txns24h : Option ℚ := none
  priceChange5m : Option ℚ := none
  priceChange1h : Option ℚ := none
  tokenAgeSeconds : Option ℚ := none
  deriving DecidableEq

/-- A candidate: the keys the selection reads or drops, and the others. -/
structure PoolCandidate where
  tokenMint : Option String := none
  pairAddress : Option String := none
  sourceResponseId : Option ℤ := none
  sourceStatus : Option String := none
  dataQualityLabel : Option String := none
  trackingLane : Option String := none
  auditOnly : Bool := false
  safetyLabel : Option String := none
  sourceChannel : Option String := none
  market : Market := {}
  a4 : A4Evidence := {}
  primaryBucket : Option String := none
  other : Dict := []
  deriving DecidableEq

/-- The candidate without the bucket its caller supplied. -/
def PoolCandidate.clean (c : PoolCandidate) : PoolCandidate := { c with primaryBucket := none }

/-- `str(candidate.get("token_mint") or "").strip()` -/
def PoolCandidate.mint (c : PoolCandidate) : String := strip (c.tokenMint.getD "")

/-- `str(candidate.get("pair_address") or "").strip()` -/
def PoolCandidate.pair (c : PoolCandidate) : String := strip (c.pairAddress.getD "")

/-- The values of `token_mint` and `pair_address`. -/
def PoolCandidate.identity (c : PoolCandidate) : String × String :=
  (c.tokenMint.getD "", c.pairAddress.getD "")

/-- The mint or the pair is that of another candidate. -/
def PoolCandidate.Clashes (a b : PoolCandidate) : Prop := a.mint = b.mint ∨ a.pair = b.pair

instance (a b : PoolCandidate) : Decidable (a.Clashes b) := inferInstanceAs (Decidable (_ ∨ _))

theorem PoolCandidate.clashes_symm {a b : PoolCandidate} (h : a.Clashes b) : b.Clashes a :=
  h.imp Eq.symm Eq.symm

theorem PoolCandidate.mint_of_identity {a b : PoolCandidate} (h : a.identity = b.identity) :
    a.mint = b.mint :=
  congrArg strip (congrArg Prod.fst h)

theorem PoolCandidate.pair_of_identity {a b : PoolCandidate} (h : a.identity = b.identity) :
    a.pair = b.pair :=
  congrArg strip (congrArg Prod.snd h)

/-- Candidates with one identity clash. -/
theorem PoolCandidate.clashes_of_identity {a b : PoolCandidate} (h : a.identity = b.identity) :
    a.Clashes b :=
  .inl (PoolCandidate.mint_of_identity h)

/-- `_f` -/
def figure (value : Option ℚ) : ℚ := value.getD 0

/-- `A4_EVIDENCE_VALID` with both responses complete and clean. -/
def A4Evidence.valid (a4 : A4Evidence) : Bool :=
  a4.evidenceStatus = some "VALID_PRIOR_A_TIER_COLLAPSE" ∧
    a4.priorDiscoveryCandidateId.isSome ∧ a4.priorSourceRequestId.isSome ∧
    a4.priorSourceResponseId.isSome ∧ a4.currentSourceRequestId.isSome ∧
    a4.currentSourceResponseId.isSome ∧ a4.priorSourceStatus = some "COMPLETE" ∧
    a4.priorDataQualityLabel = some "CLEAN_DATA" ∧ a4.currentSourceStatus = some "COMPLETE" ∧
    a4.currentDataQualityLabel = some "CLEAN_DATA" ∧
    a4.priorBucket ∈ [some "A1", some "A2", some "A3"] ∧
    a4.priorSourceResponseId ≠ a4.currentSourceResponseId ∧
    a4.priorObservedAt.getD "" ≠ "" ∧ a4.currentObservedAt.getD "" ≠ ""

/-- `_migration_channel` -/
def migrationChannel (sourceChannel : Option String) : Bool :=
  sourceChannel ∈
    [some "PUMPFUN_MIGRATION", some "PUMPSWAP_GRADUATED", some "PUMPSWAP_MIGRATION_POOL_REFERENCE"]

/-- `is_near_dead` -/
def Market.nearDead (m : Market) : Bool :=
  figure m.volume5m ≤ 0 ∧ figure m.txns5m ≤ 0 ∧ figure m.volume1h ≤ 0 ∧ figure m.txns1h ≤ 0 ∧
    figure m.volume24h ≤ 10 ∧ figure m.txns24h ≤ 2

/-- `is_fast_tier` -/
def Market.fastTier (m : Market) : Bool :=
  figure m.liquidityUsd ≥ 5000 ∧ (figure m.volume5m ≥ 1000 ∨ figure m.txns5m ≥ 10)

/-- The bucket of a fast candidate: a figure that is missing makes it neither wick nor trap. -/
def Market.fastBucket (m : Market) : Bucket :=
  if m.priceChange5m.isSome ∧ figure m.priceChange5m ≤ -20 ∧ figure m.volume5m ≥ 1000 then .a2
  else if m.tokenAgeSeconds.isSome ∧ m.priceChange1h.isSome ∧
      figure m.tokenAgeSeconds ≥ 3600 ∧ figure m.priceChange1h < 0 then .a3
  else .a1

/-- The bucket of a candidate that is not fast. -/
def Market.normalBucket (m : Market) : Bucket :=
  let liquidity := figure m.liquidityUsd
  let priceChange1h := figure m.priceChange1h
  if liquidity < 1000 ∧ liquidity > 500 then .c2
  else if priceChange1h > 10 ∧ figure m.volume1h > 0 then .c1
  else if priceChange1h < -10 ∧ liquidity > 0 then .c2
  else if figure m.txns5m ≥ 10 ∧ figure m.volume5m > 0 then .b3
  else if figure m.volume24h > 10 then
    if figure m.volume1h > 0 ∧ priceChange1h > 0 then .b1
    else if figure m.volume1h ≤ 0 ∧ figure m.txns1h ≤ 0 then .b4
    else if priceChange1h < 0 then .b2
    else .b5
  else .b5

/-- `assign_bucket` -/
def assignBucket (c : PoolCandidate) : Bucket :=
  if c.a4.valid then .a4
  else if c.market.nearDead then .d1
  else if 0 < figure c.market.liquidityUsd ∧ figure c.market.liquidityUsd ≤ 500 then .c3
  else if c.safetyLabel.getD "" ∉ ["", "SAFE", "UNKNOWN"] then .d4
  else if migrationChannel c.sourceChannel then .d3
  else if c.market.fastTier then c.market.fastBucket
  else c.market.normalBucket

example :
    assignBucket
      { market :=
          { liquidityUsd := some 3000
            volume24h := some 10000
            volume1h := some 500
            priceChange1h := some (-5) } } = .b2 := by decide

/-- The keys of an item the quota rules read. -/
structure QuotaItem where
  tokenMint : String := ""
  pairAddress : String := ""
  primaryBucket : Bucket
  trackingLane : Option String
  deriving DecidableEq

/-- `validate_batch_quota`: the violations, none of which the batch may have. -/
def validateBatchQuota (items : List QuotaItem) (minCorpusEpisodes : ℤ := 0) : List String :=
  let n := items.length
  let mints := items.map QuotaItem.tokenMint
  let pairs := items.map QuotaItem.pairAddress
  let buckets := items.map QuotaItem.primaryBucket
  let lanes := items.map QuotaItem.trackingLane
  let groupACount := buckets.countP Bucket.groupA
  let groupBCount := buckets.countP Bucket.groupB
  (if ¬mints.Nodup then ["DUPLICATE_MINT_IN_BATCH"] else []) ++
    (if ¬pairs.Nodup then ["DUPLICATE_PAIR_IN_BATCH"] else []) ++
    (if buckets.count .a1 > 2 then ["WINNER_CAP_EXCEEDED_A1_MAX_2"] else []) ++
    (if n ≥ 5 ∧ groupACount = 0 then ["MISSING_GROUP_A_REQUIRED_FOR_5PLUS_BATCH"] else []) ++
    (if groupACount > 4 then ["GROUP_A_TOTAL_CAP_EXCEEDED_MAX_4"] else []) ++
    (if n ≠ 0 ∧ groupACount * 100 > n * 40 then ["GROUP_A_SHARE_EXCEEDED_MAX_40_PERCENT"]
      else []) ++
    (if buckets.any Bucket.groupA ∧ ¬buckets.any Bucket.trapFailure then
      ["GROUP_A_PRESENT_BUT_NO_TRAP_FAILURE_BUCKET"] else []) ++
    (if n ≥ 6 then
      (if .d1 ∉ buckets then ["MISSING_D1_DEAD_TOKEN_REQUIRED_FOR_6PLUS_BATCH"] else []) ++
        (if some "WATCH_ONLY" ∉ lanes then ["MISSING_WATCH_ONLY_REQUIRED_FOR_6PLUS_BATCH"]
          else []) ++
        (if ¬buckets.any fun b => b.groupB || b.groupD then ["NO_GROUP_B_OR_D_TOKEN_IN_BATCH"]
          else []) ++
        (if ¬buckets.any Bucket.groupB then ["MISSING_GROUP_B_REQUIRED_FOR_6PLUS_BATCH"]
          else []) ++
        (if groupBCount * 100 < n * 30 then ["GROUP_B_SHARE_BELOW_MIN_30_PERCENT"] else []) ++
        (if ¬buckets.any Bucket.groupBDecay then
          ["MISSING_GROUP_B_DECAY_REQUIRED_FOR_6PLUS_BATCH"] else [])
    else []) ++
    (if buckets.any Bucket.groupF ∧ minCorpusEpisodes < 10 then
      ["GROUP_F_REQUIRES_10_CLEAN_EPISODES"] else [])

end PrinterV1.Discovery
