import PrinterV1.Discovery.Candidates
import PrinterV1.Foundation.Faults

/-!
# What an admission rests on

A candidate is admitted when none of its stages fails. The evidence behind it
is read back from the stages: the freshness of the observations of its mint,
the identity they claim and the categorical facts they give.
-/

namespace PrinterV1.Discovery

open Python Faults

/-- Some observation claims the value of a field, and none claims another. -/
def OnlyClaim (items : List Item) (field : Item → Option String) (v : String) : Prop :=
  (∃ item ∈ items, field item = some v) ∧ ∀ item ∈ items, ∀ w, field item = some w → w = v

/-- Every observation expires after the cutoff, as instants. -/
def AllFresh (plan : Plan) (group : List Item) : Prop :=
  ∀ cutoff, iso plan.cutoffAt = .ok cutoff →
    ∀ item ∈ group, ∀ expires, iso item.expiresAt = .ok expires → cutoff < expires

def NoneStale (group : List Item) : Prop := ∀ item ∈ group, item.sourceStatus ≠ "STALE"

/-- The expiry with the least text is the earliest instant too. -/
def LeastTextEarliest (group : List Item) : Prop :=
  ∀ least, iso (minText (group.map fun item => item.expiresAt)) = .ok least →
    ∀ item ∈ group, ∀ expires, iso item.expiresAt = .ok expires → least ≤ expires

/-- One pool with one program, the mint as its base and an allowed quote, claimed
among the observations that speak of its roles; one supported token program; and
no other mint that claims the pool. -/
structure IdentityClaims (items group roles : List Item) (mint : String) : Prop where
  pool : ∃ pool, OnlyClaim group (fun item => item.pool) pool ∧
    ∀ item ∈ items, item.pool = some pool → ∀ other, item.mint = some other → other = mint
  program : ∃ program, OnlyClaim roles (fun item => item.poolProgramId) program
  base : OnlyClaim roles (fun item => item.baseMint) mint
  quote : ∃ quote ∈ allowedQuoteMints, OnlyClaim roles (fun item => item.quoteMint) quote
  tokenProgram : ∃ program ∈ supportedTokenPrograms,
    OnlyClaim group (fun item => item.tokenProgramId) program

variable (L : Library)

/-- An observation gives the text for a key of its facts. -/
def Item.Says (item : Item) (key text : String) : Prop :=
  item.facts.get key ≠ .none ∧ (item.facts.get key).text L.rendering = text

/-- Some observation says `PASS` for the key, and none says anything else. -/
def AllPass (group : List Item) (key : String) : Prop :=
  (∃ item ∈ group, item.Says L key "PASS") ∧
    ∀ item ∈ group, ∀ text, item.Says L key text → text = "PASS"

def CategoricalPass (group : List Item) : Prop :=
  ∀ stage : StageName, stage ≠ .lineageValid → AllPass L group stage.factKey

/-- Every observation of the mint bears the admission out. -/
structure FullyEvidenced (plan : Plan) (items : List Item) (mint : String) : Prop where
  fresh : AllFresh plan (groupOf items mint)
  noneStale : NoneStale (groupOf items mint)
  identity : IdentityClaims items (groupOf items mint) (groupOf items mint) mint
  categorical : CategoricalPass L (groupOf items mint)

/-- The observations of the mint bear the admission out, the roles of the pool
being read from the observations with a pool only. -/
structure Evidenced (plan : Plan) (items : List Item) (mint : String) : Prop where
  fresh : LeastTextEarliest (groupOf items mint) → AllFresh plan (groupOf items mint)
  noneStale : NoneStale (groupOf items mint)
  identity : IdentityClaims items (groupOf items mint)
    (poolIdentityObservations (groupOf items mint)) mint
  categorical : CategoricalPass L (groupOf items mint)

variable {L}

section Stage

variable {facts : List Dict}

theorem mem_factTexts {group : List Item} {key text : String} :
    text ∈ factTexts L (group.map fun item => item.facts) key ↔
      ∃ item ∈ group, item.Says L key text := by
  unfold factTexts Item.Says
  rw [List.mem_dedup, List.mem_filterMap]
  constructor
  · rintro ⟨fact, hfact, htext⟩
    obtain ⟨item, hitem, rfl⟩ := List.mem_map.mp hfact
    split_ifs at htext with hnone
    exact ⟨item, hitem, hnone, Option.some.inj htext⟩
  · rintro ⟨item, hitem, hnone, htext⟩
    exact ⟨item.facts, List.mem_map_of_mem hitem, by rw [if_neg hnone, htext]⟩

theorem allPass_of_factTexts {group : List Item} {key : String}
    (h : factTexts L (group.map fun item => item.facts) key = ["PASS"]) : AllPass L group key := by
  constructor
  · apply mem_factTexts.mp
    rw [h]
    exact List.mem_singleton_self _
  · intro item hitem text hsays
    have hmem := mem_factTexts.mpr ⟨item, hitem, hsays⟩
    rw [h] at hmem
    exact List.mem_singleton.mp hmem

theorem categoricalStatus_pass {key : String} (h : (categoricalStatus L facts key).1 ≠ .fail) :
    (categoricalStatus L facts key).1 = .pass ∧ factTexts L facts key = ["PASS"] := by
  unfold categoricalStatus at h ⊢
  dsimp only at h ⊢
  split_ifs at h ⊢ with h₁ h₂ h₃ h₄
  all_goals first | exact absurd rfl h | exact ⟨rfl, h₄⟩

theorem preciseStatus_pass {statusKey reasonKey conflict : String}
    (h : (preciseStatus L facts statusKey reasonKey conflict).1 ≠ .fail) :
    (preciseStatus L facts statusKey reasonKey conflict).1 = .pass ∧
      factTexts L facts statusKey = ["PASS"] := by
  unfold preciseStatus at h ⊢
  dsimp only at h ⊢
  by_cases hpass : (categoricalStatus L facts statusKey).1 = .pass
  · rw [if_pos hpass] at h ⊢
    exact categoricalStatus_pass h
  · rw [if_neg hpass] at h
    split at h
    · exact absurd (categoricalStatus_pass h).1 hpass
    · exact absurd rfl h
    · exact absurd rfl h

theorem mintCategoricalStatus_pass {mint : String}
    (h : (mintCategoricalStatus L facts mint).1 ≠ .fail) :
    factTexts L facts "mint_status" = ["PASS"] := by
  unfold mintCategoricalStatus at h
  split at h
  · exact absurd rfl h
  · exact (preciseStatus_pass h).2

theorem poolCategoricalStatus_pass {pool : Option String}
    (h : (poolCategoricalStatus L facts pool).1 ≠ .fail) :
    (poolCategoricalStatus L facts pool).1 = .pass ∧ factTexts L facts "pool_status" = ["PASS"] := by
  unfold poolCategoricalStatus at h ⊢
  split_ifs at h ⊢
  · exact absurd rfl h
  · exact preciseStatus_pass h

theorem poolQuoteVerdict_pass {i : Identity} (h : (poolQuoteVerdict L i facts).1 ≠ .fail) :
    i.poolQuoteComplete = true ∧ factTexts L facts "pool_status" = ["PASS"] := by
  unfold poolQuoteVerdict at h
  dsimp only at h
  split_ifs at h with hbase hquote
  · exact absurd rfl h
  · exact absurd rfl h
  · obtain ⟨hpass, htexts⟩ := poolCategoricalStatus_pass h
    have hcomplete : ¬i.poolQuoteComplete = false := fun hfalse => hquote ⟨hpass, hfalse⟩
    exact ⟨Bool.not_eq_false i.poolQuoteComplete ▸ hcomplete, htexts⟩

/-- A categorical stage that does not fail has its key at `PASS`. -/
theorem stageVerdict_pass {i : Identity} {stale : Bool} {stage : StageName}
    (hstage : stage ≠ .lineageValid) (h : (stageVerdict L i facts stale stage).1 ≠ .fail) :
    factTexts L facts stage.factKey = ["PASS"] := by
  cases stage with
  | lineageValid => exact absurd rfl hstage
  | chainMintValid => exact mintCategoricalStatus_pass h
  | poolQuoteValid => exact (poolQuoteVerdict_pass h).2
  | tokenProgramValid =>
    simp only [stageVerdict] at h
    split_ifs at h
    · exact absurd rfl h
    · exact (categoricalStatus_pass h).2
  | identityAvailable =>
    simp only [stageVerdict] at h
    split_ifs at h
    · exact absurd rfl h
    · exact (categoricalStatus_pass h).2
  | marketFresh =>
    simp only [stageVerdict] at h
    split_ifs at h
    · exact absurd rfl h
    · exact (categoricalStatus_pass h).2
  | ageValid => exact (categoricalStatus_pass h).2
  | holderAcceptable => exact (categoricalStatus_pass h).2
  | safetyAcceptable => exact (categoricalStatus_pass h).2
  | liquidityTradeabilityValid => exact (categoricalStatus_pass h).2
  | routeTradeabilityValid => exact (categoricalStatus_pass h).2

end Stage

/-- Where no stage failed, every stage was reached and answered. -/
theorem evaluateStages_noFailure {verdict : StageName → Verdict} {stages : List StageName} :
    ∀ {ordinal : ℕ}, firstFailure (evaluateStages verdict ordinal none stages) = none →
      ∀ stage ∈ stages, (verdict stage).1 ≠ .fail := by
  induction stages with
  | nil =>
    intro _ _ stage hstage
    cases hstage
  | cons first rest ih =>
    intro ordinal hnone stage hstage
    simp only [evaluateStages, firstFailure, List.find?_cons] at hnone
    by_cases hfail : (verdict first).1 = .fail
    · simp [hfail] at hnone
    · have hrest : firstFailure (evaluateStages verdict (ordinal + 1) none rest) = none := by
        simpa [hfail, firstFailure] using hnone
      rcases List.mem_cons.mp hstage with rfl | hmem
      · exact hfail
      · exact ih hrest stage hmem

theorem eq_of_length_le_one {α : Type} {xs : List α} (h : xs.length ≤ 1) {x y : α} (hx : x ∈ xs)
    (hy : y ∈ xs) : x = y := by
  cases xs with
  | nil => cases hx
  | cons z zs =>
    have hzs : zs = [] := by
      apply List.length_eq_zero_iff.mp
      rw [List.length_cons] at h
      omega
    rw [hzs] at hx hy
    rw [List.mem_singleton.mp hx, List.mem_singleton.mp hy]

/-- The values of a field, where there is at most one, are the first one's. -/
theorem onlyClaim_of_head {items : List Item} {field : Item → Option String} {v : String}
    (hone : (sortedSet (items.filterMap field)).length ≤ 1)
    (hhead : (sortedSet (items.filterMap field)).head? = some v) : OnlyClaim items field v := by
  have hv : v ∈ sortedSet (items.filterMap field) := List.mem_of_head? hhead
  constructor
  · exact List.mem_filterMap.mp (mem_sortedSet.mp hv)
  · intro item hitem w hw
    have hmem : w ∈ sortedSet (items.filterMap field) :=
      mem_sortedSet.mpr (List.mem_filterMap.mpr ⟨item, hitem, hw⟩)
    exact eq_of_length_le_one hone hmem hv

section Identity

variable {items group : List Item} {mint : String}

theorem mem_poolMints {pool other : String} :
    other ∈ poolMints items pool ↔ ∃ item ∈ items, item.pool = some pool ∧ item.mint = some other := by
  unfold poolMints
  rw [List.mem_dedup, List.mem_filterMap]
  constructor
  · rintro ⟨item, hitem, h⟩
    split_ifs at h with hpool
    exact ⟨item, hitem, hpool, h⟩
  · rintro ⟨item, hitem, hpool, hmint⟩
    exact ⟨item, hitem, by rw [if_pos hpool, hmint]⟩

/-- At most one value of each field is claimed, and no pool by two mints. -/
structure Unconflicted (items group : List Item) : Prop where
  pools : (pools group).length ≤ 1
  programs : (programs group).length ≤ 1
  bases : (bases group).length ≤ 1
  quotes : (quotes group).length ≤ 1
  tokenPrograms : (tokenPrograms group).length ≤ 1
  poolMints : ∀ pool ∈ Discovery.pools group, (poolMints items pool).length ≤ 1

theorem unconflicted_of (h : identityConflict items group = false) : Unconflicted items group := by
  unfold identityConflict at h
  simp only [Bool.or_eq_false_iff, decide_eq_false_iff_not, not_lt, List.any_eq_false,
    decide_eq_true_eq] at h
  obtain ⟨⟨⟨⟨⟨hpools, hprograms⟩, hbases⟩, hquotes⟩, htokens⟩, hmints⟩ := h
  exact ⟨hpools, hprograms, hbases, hquotes, htokens, hmints⟩

/-- A merged identity with its exact pool and quote is claimed by the evidence. -/
theorem identityClaims_of_merged (hmerged : (mergeIdentity L items mint).identityStatus = .merged)
    (hcomplete : (mergeIdentity L items mint).poolQuoteComplete = true) :
    IdentityClaims items (groupOf items mint) (poolIdentityObservations (groupOf items mint)) mint := by
  have hnone : identityConflict items (groupOf items mint) = false := by
    by_contra hconflict
    rw [Bool.not_eq_false] at hconflict
    simp [mergeIdentity, hconflict] at hmerged
  have hone := unconflicted_of hnone
  simp only [Identity.poolQuoteComplete, mergeIdentity, identityAvailable, hnone, Bool.false_eq_true,
    if_false, Bool.and_eq_true, decide_eq_true_eq, Option.isSome_iff_exists,
    Option.any_eq_true] at hcomplete
  obtain ⟨⟨⟨⟨⟨⟨pool, hpool⟩, _⟩, token, htoken, hsupported⟩, program, hprogram⟩, hbase⟩, quote,
    hquote, hallowed⟩ := hcomplete
  have honlyPool := onlyClaim_of_head hone.pools hpool
  constructor
  · refine ⟨pool, honlyPool, ?_⟩
    intro item hitem hclaim other hother
    obtain ⟨own, hown, hownPool⟩ := honlyPool.1
    obtain ⟨hownItem, hownMint⟩ := List.mem_filter.mp hown
    have hmint : mint ∈ poolMints items pool :=
      mem_poolMints.mpr ⟨own, hownItem, hownPool, of_decide_eq_true hownMint⟩
    have hotherMint : other ∈ poolMints items pool := mem_poolMints.mpr ⟨item, hitem, hclaim, hother⟩
    exact eq_of_length_le_one (hone.poolMints pool (List.mem_of_head? hpool)) hotherMint hmint
  · exact ⟨program, onlyClaim_of_head hone.programs hprogram⟩
  · exact onlyClaim_of_head hone.bases hbase
  · exact ⟨quote, hallowed, onlyClaim_of_head hone.quotes hquote⟩
  · exact ⟨token, hsupported, onlyClaim_of_head hone.tokenPrograms htoken⟩

end Identity

theorem allFresh_of_least {plan : Plan} {group : List Item} {cutoff least : Instant}
    (hcutoff : iso plan.cutoffAt = .ok cutoff)
    (hleast : iso (minText (group.map fun item => item.expiresAt)) = .ok least)
    (hfresh : cutoff < least) (hearliest : LeastTextEarliest group) : AllFresh plan group := by
  intro cutoff' hcutoff' item hitem expires hexpires
  obtain rfl : cutoff = cutoff' := Except.ok.inj (hcutoff.symm.trans hcutoff')
  exact lt_of_lt_of_le hfresh (hearliest least hleast item hitem expires hexpires)

/-- A group that is not stale has its least expiry text after the cutoff. -/
theorem isStale_false {group : List Item} {cutoff : Instant} (h : isStale group cutoff = .ok false) :
    (∃ least, iso (minText (group.map fun item => item.expiresAt)) = .ok least ∧ cutoff < least) ∧
      NoneStale group := by
  unfold isStale at h
  obtain ⟨least, hleast, h⟩ := bind_ok h
  have hfalse := Except.ok.inj h
  simp only [Bool.or_eq_false_iff, decide_eq_false_iff_not, not_le, List.any_eq_false,
    decide_eq_true_eq] at hfalse
  exact ⟨⟨least, hleast, hfalse.1⟩, hfalse.2⟩

/-- What a candidate that was built rests on. -/
theorem buildCandidate_ok {plan : Plan} {items : List Item} {cutoff : Instant} {mint : String}
    {c : Candidate} (h : buildCandidate L plan items cutoff mint = .ok c) :
    ∃ stale, isStale (groupOf items mint) cutoff = .ok stale ∧
      c.toIdentity = mergeIdentity L items mint ∧
      (c.admitted = true →
        firstFailure
          (evaluateStages
            (stageVerdict L (mergeIdentity L items mint)
              ((groupOf items mint).map fun item => item.facts) stale) 1 none stageNames) = none) := by
  unfold buildCandidate at h
  dsimp only at h
  obtain ⟨stale, hstale, h⟩ := bind_ok h
  split at h
  · cases h
  · obtain rfl := Except.ok.inj h
    exact ⟨stale, hstale, rfl, of_decide_eq_true⟩

/-- An admitted candidate is borne out by the observations of its mint. -/
theorem admitted_evidenced {plan : Plan} {items : List Item} {candidates : List Candidate}
    (hbuild : buildCandidates L plan items = .ok candidates) :
    ∀ c ∈ candidates, c.admitted = true → Evidenced L plan items c.mint := by
  intro c hc hadmitted
  unfold buildCandidates at hbuild
  obtain ⟨cutoff, hcutoff, hbuild⟩ := bind_ok hbuild
  obtain ⟨mint, _, hcandidate⟩ := mem_mapM_ok hbuild c hc
  obtain ⟨stale, hstale, hidentity, hstages⟩ := buildCandidate_ok hcandidate
  have hmint : c.mint = mint := by rw [hidentity]; rfl
  rw [hmint]
  have hpass := evaluateStages_noFailure (hstages hadmitted)
  have hmerged : (mergeIdentity L items mint).identityStatus = .merged := by
    by_contra hstatus
    exact hpass .identityAvailable (by decide) (by simp [stageVerdict, hstatus])
  have hfresh : stale = false := by
    by_contra hstatus
    exact hpass .marketFresh (by decide) (by simp [stageVerdict, hstatus])
  have hcomplete := (poolQuoteVerdict_pass (hpass .poolQuoteValid (by decide))).1
  rw [hfresh] at hstale
  obtain ⟨⟨least, hleast, hlater⟩, hnoneStale⟩ := isStale_false hstale
  constructor
  · exact allFresh_of_least hcutoff hleast hlater
  · exact hnoneStale
  · exact identityClaims_of_merged hmerged hcomplete
  · intro stage hstage
    have hmem : stage ∈ stageNames := by cases stage <;> decide
    exact allPass_of_factTexts (stageVerdict_pass hstage (hpass stage hmem))

/-- The facts of an observation that passes every categorical gate. -/
def passingFacts : Dict :=
  [("age_status", .str "PASS"), ("holder_status", .str "PASS"), ("liquidity_status", .str "PASS"),
    ("market_status", .str "PASS"), ("mint_status", .str "PASS"), ("pool_status", .str "PASS"),
    ("safety_status", .str "PASS"), ("token_program_status", .str "PASS"),
    ("tracking_status", .str "PASS"), ("tradeability_status", .str "PASS")]

/-- The exact pool of a mint, as the chain shows it. -/
def poolObservation : Dict :=
  [("base_mint", .str "A"), ("expires_at", .str "2026-07-29T13:00:00+00:00"),
    ("facts", .dict passingFacts), ("mint", .str "A"),
    ("observed_at", .str "2026-07-29T08:00:00+00:00"), ("pool", .str "POOL"),
    ("pool_program_id", .str "PROGRAM"),
    ("quote_mint", .str "So11111111111111111111111111111111111111112"),
    ("request_kind", .str "onchain_reference"), ("round_ordinal", .int 1),
    ("source_name", .str "solana_rpc"),
    ("token_program_id", .str "TokenkegQfeZyiNwAJbNbGKPFXCWuBvf9Ss623VQ5DA")]

/-- An observation of the same mint without a pool. It names another base mint,
and it expired at 08:30 of the cutoff's clock, written five hours ahead. -/
def offsetObservation : Dict :=
  [("base_mint", .str "B"), ("expires_at", .str "2026-07-29T13:30:00+05:00"),
    ("facts", .dict passingFacts), ("mint", .str "A"),
    ("observed_at", .str "2026-07-29T08:00:00+00:00"),
    ("request_kind", .str "onchain_reference"), ("round_ordinal", .int 2),
    ("source_name", .str "solana_rpc")]

/-- The normalized list of some observations under the sample plan. -/
def sampleItems (observations : List Dict) : List Item :=
  ((normalizeObservations checksumLibrary (samplePlan "e1") observations).toOption).getD []

def sampleCandidates (observations : List Dict) : List Candidate :=
  ((buildCandidates checksumLibrary (samplePlan "e1") (sampleItems observations)).toOption).getD []

theorem admitted_evidenced_pool :
    ∃ c ∈ sampleCandidates [poolObservation], c.admitted = true ∧
      Evidenced checksumLibrary (samplePlan "e1") (sampleItems [poolObservation]) c.mint := by
  have hadmitted : ∃ c ∈ sampleCandidates [poolObservation], c.admitted = true := by
    decide +kernel
  obtain ⟨c, hc, hyes⟩ := hadmitted
  exact ⟨c, hc, hyes, admitted_evidenced (ok_of_mem_getD hc) c hc hyes⟩

/-- A mint is admitted on normalized observations of which one has expired and
names another base mint. -/
theorem offsetExpiry_admitted :
    ∃ items candidates,
      normalizeObservations checksumLibrary (samplePlan "e1") [poolObservation, offsetObservation] =
        .ok items ∧
      buildCandidates checksumLibrary (samplePlan "e1") items = .ok candidates ∧
      ∃ c ∈ candidates, c.admitted = true ∧ ¬AllFresh (samplePlan "e1") (groupOf items c.mint) ∧
        ¬OnlyClaim (groupOf items c.mint) (fun item => item.baseMint) c.mint ∧
        ¬FullyEvidenced checksumLibrary (samplePlan "e1") items c.mint := by
  let observations := [poolObservation, offsetObservation]
  have hadmitted : ∃ c ∈ sampleCandidates observations, c.admitted = true ∧ c.mint = "A" := by
    decide +kernel
  have hexpired : ∃ item ∈ groupOf (sampleItems observations) "A",
      iso item.expiresAt = .ok 63920910600000000 ∧ item.baseMint = some "B" := by
    decide +kernel
  have hcutoff : iso (samplePlan "e1").cutoffAt = .ok 63920923200000000 := by decide +kernel
  obtain ⟨c, hc, hyes, hmint⟩ := hadmitted
  obtain ⟨item, hitem, hexpires, hbase⟩ := hexpired
  have hitems : normalizeObservations checksumLibrary (samplePlan "e1") observations =
      .ok (sampleItems observations) :=
    ok_of_mem_getD (List.mem_of_mem_filter hitem)
  have hstale : ¬AllFresh (samplePlan "e1") (groupOf (sampleItems observations) "A") := fun hfresh =>
    absurd (hfresh _ hcutoff item hitem _ hexpires) (by decide)
  have hother : ¬OnlyClaim (groupOf (sampleItems observations) "A") (fun item => item.baseMint) "A" :=
    fun honly => absurd (honly.2 item hitem "B" hbase) (by decide)
  refine ⟨_, _, hitems, ok_of_mem_getD hc, c, hc, hyes, ?_⟩
  rw [hmint]
  exact ⟨hstale, hother, fun hfull => hstale hfull.fresh⟩

end PrinterV1.Discovery
