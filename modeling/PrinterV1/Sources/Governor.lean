import Mathlib.Data.Int.Notation
import Mathlib.Data.List.Basic
import Mathlib.Tactic.Common

/-!
# Source registry and governor

The allowed free-first sources and the pure decision whether a source may be
asked for a kind of request. The checks are made in the order of
`can_request_source`; the first that fails names the reason.
-/

namespace PrinterV1.Sources

inductive SourceStatus
  | complete | partialStatus | failed | stale | conflicting
  deriving DecidableEq, Repr

inductive DataQualityLabel
  | cleanData | acceptablePartialData | dirtyData | staleData | missingCriticalData
  | conflictingData | doNotTrain
  deriving DecidableEq, Repr

/-- `supports_solana`: `True` or one of two texts. -/
inductive SolanaSupport
  | yes | notChainSpecific | whereAvailable
  deriving DecidableEq, Repr

structure SourceDefinition where
  sourceName : String
  requiresPaidPlan : Bool
  supportsSolana : SolanaSupport
  allowedRequestKinds : List String
  defaultRateLimitPerMinute : ℤ
  retryAfterSeconds : ℤ
  restriction : Option String := none
  deriving DecidableEq, Repr

def sourceRegistry : List SourceDefinition := [
  { sourceName := "dexscreener", requiresPaidPlan := false, supportsSolana := .yes
    allowedRequestKinds := ["token_discovery", "candidate_nomination", "candidate_market_batch",
      "dexscreener_fresh_profiles", "pair_market_snapshot", "token_market_snapshot",
      "boosted_token_reference"]
    defaultRateLimitPerMinute := 60, retryAfterSeconds := 30 },
  { sourceName := "geckoterminal", requiresPaidPlan := false, supportsSolana := .yes
    allowedRequestKinds := ["candidate_nomination", "candidate_market_batch",
      "geckoterminal_new_pool_discovery", "geckoterminal_trending_pool_reference",
      "geckoterminal_active_pool_reference", "geckoterminal_ohlcv_15m",
      "geckoterminal_pool_trades_15m", "geckoterminal_readiness_base_snapshot",
      "pair_market_snapshot"]
    defaultRateLimitPerMinute := 10, retryAfterSeconds := 60 },
  { sourceName := "birdeye", requiresPaidPlan := false, supportsSolana := .yes
    allowedRequestKinds := ["birdeye_new_listing_nomination"]
    defaultRateLimitPerMinute := 30, retryAfterSeconds := 60
    restriction := some "free_standard_plan_nomination_only" },
  { sourceName := "solana_tracker", requiresPaidPlan := false, supportsSolana := .yes
    allowedRequestKinds := ["solana_tracker_pumpfun_trending", "solana_tracker_pumpfun_top"]
    defaultRateLimitPerMinute := 10, retryAfterSeconds := 60 },
  { sourceName := "pumpportal", requiresPaidPlan := false, supportsSolana := .yes
    allowedRequestKinds := ["pumpfun_launch_stream", "pumpfun_migration_stream"]
    defaultRateLimitPerMinute := 30, retryAfterSeconds := 30
    restriction := some "candidate_foundation_prohibited_current_contract" },
  { sourceName := "alternative_me", requiresPaidPlan := false, supportsSolana := .notChainSpecific
    allowedRequestKinds := ["fear_greed_context"]
    defaultRateLimitPerMinute := 10, retryAfterSeconds := 300 },
  { sourceName := "coingecko", requiresPaidPlan := false, supportsSolana := .notChainSpecific
    allowedRequestKinds := ["broad_market_context", "asset_context"]
    defaultRateLimitPerMinute := 20, retryAfterSeconds := 120 },
  { sourceName := "defillama", requiresPaidPlan := false, supportsSolana := .notChainSpecific
    allowedRequestKinds := ["chain_liquidity_context", "tvl_context", "dex_volume_context"]
    defaultRateLimitPerMinute := 20, retryAfterSeconds := 120 },
  { sourceName := "goplus", requiresPaidPlan := false, supportsSolana := .whereAvailable
    allowedRequestKinds := ["safety_reference"]
    defaultRateLimitPerMinute := 20, retryAfterSeconds := 120 },
  { sourceName := "solana_rpc", requiresPaidPlan := false, supportsSolana := .yes
    allowedRequestKinds := ["onchain_reference", "mint_account_reference", "pool_reference",
      "holder_concentration_reference", "mint_creation_time_reference",
      "pumpfun_create_index_signature_page", "pumpfun_create_index_transaction",
      "pumpfun_create_event_subscription", "pumpfun_create_signature_backfill",
      "pumpfun_create_transaction_reference", "pumpfun_origin_signature_reference",
      "pumpfun_origin_transaction_reference", "candidate_mint_account_batch",
      "pumpfun_migration_signature_page", "pumpfun_migration_transaction",
      "pumpswap_pool_account_batch", "candidate_pump_migration_signature_lookup",
      "candidate_pump_migration_transaction", "candidate_pumpswap_pool_verification",
      "restored_pump_migration_signature_page", "restored_pump_migration_transaction"]
    defaultRateLimitPerMinute := 30, retryAfterSeconds := 60 },
  { sourceName := "helius_free", requiresPaidPlan := false, supportsSolana := .yes
    allowedRequestKinds := ["onchain_reference", "mint_account_reference", "pool_reference",
      "holder_concentration_reference"]
    defaultRateLimitPerMinute := 30, retryAfterSeconds := 60 },
  { sourceName := "pumpswap", requiresPaidPlan := false, supportsSolana := .yes
    allowedRequestKinds := ["pumpswap_pool_confirmation", "pumpswap_migration_pool_reference",
      "pumpswap_liquidity_reference", "pumpswap_onchain_pool_confirmation",
      "pumpswap_signature_pool_resolution"]
    defaultRateLimitPerMinute := 20, retryAfterSeconds := 60
    restriction := some "read_only_confirmation" },
  { sourceName := "jupiter_quote", requiresPaidPlan := false, supportsSolana := .yes
    allowedRequestKinds := ["paper_quote_realism"]
    defaultRateLimitPerMinute := 30, retryAfterSeconds := 30
    restriction := some "paper_simulation_only" }]

def tokenLevelRequestKinds : List String :=
  ["token_discovery", "pair_market_snapshot", "token_market_snapshot", "pair_market_reference",
    "ohlc_reference", "liquidity_reference", "safety_reference", "onchain_reference",
    "mint_account_reference", "pool_reference", "paper_quote_realism", "candidate_nomination",
    "candidate_market_batch", "birdeye_new_listing_nomination", "candidate_mint_account_batch",
    "pumpfun_migration_signature_page", "pumpfun_migration_transaction",
    "pumpswap_pool_account_batch", "candidate_pump_migration_signature_lookup",
    "candidate_pump_migration_transaction", "candidate_pumpswap_pool_verification"]

structure SourceRequestDecision where
  allowed : Bool
  reason : String
  sourceStatus : SourceStatus
  dataQualityLabel : DataQualityLabel
  retryAfterSeconds : Option ℤ := none
  deriving DecidableEq, Repr

def getSourceDefinition (sourceName : String) : Option SourceDefinition :=
  sourceRegistry.find? fun d => d.sourceName = sourceName

def validateRequestKind (d : SourceDefinition) (requestKind : String) : Bool :=
  d.allowedRequestKinds.contains requestKind &&
    (d.sourceName ≠ "jupiter_quote" || requestKind = "paper_quote_realism")

def rejected (reason : String) (label : DataQualityLabel) : SourceRequestDecision :=
  { allowed := false, reason, sourceStatus := .failed, dataQualityLabel := label }

def canRequestSource (sourceName requestKind : String) (recentRequestCount : ℤ) :
    SourceRequestDecision :=
  match getSourceDefinition sourceName with
  | none => rejected "unknown_source" .missingCriticalData
  | some d =>
    if d.requiresPaidPlan then rejected "paid_dependency_rejected" .doNotTrain
    else if !validateRequestKind d requestKind then
      rejected "request_kind_not_allowed" .missingCriticalData
    else if tokenLevelRequestKinds.contains requestKind && d.supportsSolana = .notChainSpecific then
      rejected "not_solana_token_level_source" .missingCriticalData
    else if d.sourceName = "jupiter_quote" && d.restriction = some "paper_simulation_only" &&
        requestKind ≠ "paper_quote_realism" then
      rejected "jupiter_quote_paper_only" .doNotTrain
    else if d.defaultRateLimitPerMinute ≤ recentRequestCount then
      { allowed := false, reason := "rate_limit_exceeded", sourceStatus := .stale
        dataQualityLabel := .staleData, retryAfterSeconds := some d.retryAfterSeconds }
    else
      { allowed := true, reason := "allowed", sourceStatus := .complete
        dataQualityLabel := .cleanData }

/-- An allowed request names a registered source and a kind the source offers,
and the source has room for one more request. -/
theorem canRequestSource_allowed {sourceName requestKind : String} {count : ℤ}
    (h : (canRequestSource sourceName requestKind count).allowed = true) :
    ∃ d ∈ sourceRegistry, d.sourceName = sourceName ∧
      requestKind ∈ d.allowedRequestKinds ∧ count < d.defaultRateLimitPerMinute := by
  unfold canRequestSource at h
  cases hd : getSourceDefinition sourceName with
  | none => simp [hd, rejected] at h
  | some d =>
    rw [hd] at h
    dsimp only at h
    split_ifs at h with hpaid hkind htoken hpaper hrate
    · simp [rejected] at h
    · simp [rejected] at h
    · simp [rejected] at h
    · simp [rejected] at h
    · refine ⟨d, List.mem_of_find?_eq_some hd, by simpa using List.find?_some hd, ?_, by omega⟩
      simp only [validateRequestKind, Bool.not_eq_true', Bool.not_eq_false,
        Bool.and_eq_true, List.contains_iff_mem] at hkind
      exact hkind.1

end PrinterV1.Sources
