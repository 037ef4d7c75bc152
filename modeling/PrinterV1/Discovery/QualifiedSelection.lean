import Mathlib.Data.List.FinRange
import Mathlib.Data.List.OfFn
import Mathlib.Data.List.Pairwise
import Mathlib.Data.Prod.Lex
import Mathlib.GroupTheory.Perm.Basic
import PrinterV1.Discovery.BucketAssignment
import PrinterV1.Foundation.FirstWins
import PrinterV1.Foundation.Runs
import PrinterV1.Foundation.Sorting

/-!
# The seeded random selection

`build_qualified_random_active_selection` drops duplicates as they come, sorts
what is left by mint and pair, shuffles it by the seed and takes the front. The
selected mints and pairs do not depend on the order of the input exactly when
qualified candidates that share a mint or a pair share both.
-/

namespace PrinterV1.Discovery

open Python

/-! ## The source -/

def rejectionMintDuplicate : String := "MINT_DUPLICATE"
def rejectionPairDuplicate : String := "PAIR_DUPLICATE"
def rejectionStaleSourceData : String := "STALE_SOURCE_DATA"
def rejectionNoSourceTrace : String := "NO_SOURCE_TRACE"

/-- `{**clean, "primary_bucket": bucket, "bucket_name": bucket_name}` -/
structure Bucketed where
  candidate : PoolCandidate
  primaryBucket : Bucket
  bucketName : String
  deriving DecidableEq

/-- A candidate with the bucket `assign_bucket` gives it. -/
def PoolCandidate.bucketed (c : PoolCandidate) : Bucketed :=
  ⟨c, assignBucket c, (assignBucket c).bucketName⟩

/-- A rejected candidate; what was eligible has its bucket. -/
structure PoolRejection where
  candidate : PoolCandidate
  bucket : Option Bucket
  rejectionReason : String
  deriving DecidableEq

-- Membership among optional texts and among pairs of texts is decided by their equality.
local instance lawfulOptionText : LawfulBEq (Option String) := inferInstance
local instance lawfulTextPair : LawfulBEq (String × String) := inferInstance

/-- The statuses and labels of data that is fresh enough. -/
def PoolCandidate.freshSource (c : PoolCandidate) : Bool :=
  c.sourceStatus ∈ [some "COMPLETE", some "PARTIAL"] ∧
    c.dataQualityLabel ∈ [some "CLEAN_DATA", some "ACCEPTABLE_PARTIAL_DATA"]

/-- `not mint or not pair or clean.get("source_response_id") is None` -/
def PoolCandidate.untraced (c : PoolCandidate) : Bool :=
  c.mint = "" ∨ c.pair = "" ∨ c.sourceResponseId = none

/-- The variables of the loop over the candidates. -/
structure ActivePool where
  eligible : List Bucketed := []
  rejected : List PoolRejection := []
  seenMints : List String := []
  seenPairs : List String := []
  deriving DecidableEq

namespace ActivePool

/-- Why a candidate is kept out of the pool. -/
def reason (s : ActivePool) (clean : PoolCandidate) : Option String :=
  if clean.auditOnly then some "AUDIT_ONLY_ACTIVE_SELECTION_BLOCKED"
  else if clean.trackingLane ∉ [some "TRACK_FAST", some "TRACK_NORMAL"] then
    some "INACTIVE_TRACKING_LANE_BLOCKED"
  else if clean.untraced then some rejectionNoSourceTrace
  else if !clean.freshSource then some rejectionStaleSourceData
  else if clean.mint ∈ s.seenMints then some rejectionMintDuplicate
  else if clean.pair ∈ s.seenPairs then some rejectionPairDuplicate
  else none

def step (s : ActivePool) (candidate : PoolCandidate) : ActivePool :=
  let clean := candidate.clean
  match s.reason clean with
  | some reason => { s with rejected := s.rejected ++ [⟨clean, none, reason⟩] }
  | none =>
    { s with
      seenMints := clean.mint :: s.seenMints
      seenPairs := clean.pair :: s.seenPairs
      eligible := s.eligible ++ [clean.bucketed] }

end ActivePool

def activePool (candidates : List PoolCandidate) : ActivePool :=
  Runs.run ActivePool.step {} candidates

inductive Seed
  | text (s : String)
  | int (n : ℤ)
  deriving DecidableEq, Repr

/-- `str(seed) if seed is not None else secrets.token_hex(16)` -/
def resolvedSeed (tokenHex : String) : Option Seed → String
  | some (.text s) => s
  | some (.int n) => toString n
  | none => tokenHex

/-- The permutation of the positions that a seed and the size of the pool give. -/
abbrev Shuffle := String → (n : ℕ) → Equiv.Perm (Fin n)

/-- `random.Random(seed).shuffle(xs)` -/
def shuffled {α : Type*} (shuffle : Shuffle) (seed : String) (xs : List α) : List α :=
  List.ofFn fun i => xs.get (shuffle seed xs.length i)

structure QuotaDiagnostic where
  quotaOk : Bool
  quotaViolations : List String
  hardGate : Bool
  deriving DecidableEq

structure RandomSelection where
  selectionSeed : String
  eligiblePoolSize : ℕ
  requestedTargetSize : ℤ
  effectiveTargetSize : ℕ
  selectionReady : Bool
  selectedCandidates : List Bucketed
  rejectedCandidates : List PoolRejection
  oldQuotaDiagnostic : QuotaDiagnostic
  deriving DecidableEq

/-- The items of the diagnostic carry no mint and no pair. -/
def diagnosticItem (item : Bucketed) : QuotaItem :=
  { primaryBucket := item.primaryBucket, trackingLane := item.candidate.trackingLane }

/-- `(str(item["token_mint"]), str(item["pair_address"]))` -/
def sortKey (item : Bucketed) : String ×ₗ String := toLex item.candidate.identity

/-- `build_qualified_random_active_selection` -/
def buildQualifiedRandomActiveSelection (shuffle : Shuffle) (tokenHex : String)
    (activeCandidates : List PoolCandidate) (targetSize : ℤ) (seed : Option Seed) :
    Except String RandomSelection :=
  if targetSize < 1 ∨ targetSize > 50 then .error "target_size must be between 1 and 50"
  else
    let pool := activePool activeCandidates
    let eligible := sortBy sortKey pool.eligible
    let seedText := resolvedSeed tokenHex seed
    let order := shuffled shuffle seedText eligible
    let effectiveTarget := min targetSize.toNat order.length
    let ready := decide (effectiveTarget > 0)
    let selected := if ready then order.take effectiveTarget else []
    let selectedKeys := selected.map fun item => item.candidate.identity
    let remainderReason :=
      if ready then "QUALIFIED_RANDOM_NOT_SELECTED" else "INSUFFICIENT_QUALIFIED_ACTIVE_POOL"
    let remainder := eligible.filter fun item => item.candidate.identity ∉ selectedKeys
    let violations := validateBatchQuota (selected.map diagnosticItem)
    .ok
      { selectionSeed := seedText
        eligiblePoolSize := eligible.length
        requestedTargetSize := targetSize
        effectiveTargetSize := effectiveTarget
        selectionReady := ready
        selectedCandidates := selected
        rejectedCandidates := pool.rejected ++
          remainder.map fun item => ⟨item.candidate, some item.primaryBucket, remainderReason⟩
        oldQuotaDiagnostic := ⟨violations = [], violations, false⟩ }

/-! ## The pool -/

/-- Every check but that of the duplicates passes. -/
def PoolCandidate.qualified (c : PoolCandidate) : Bool :=
  !c.auditOnly && decide (c.trackingLane ∈ [some "TRACK_FAST", some "TRACK_NORMAL"]) &&
    !c.untraced && c.freshSource

theorem PoolCandidate.qualified_clean (c : PoolCandidate) : c.clean.qualified = c.qualified := rfl

theorem ActivePool.reason_eq_none {s : ActivePool} {c : PoolCandidate} :
    s.reason c = none ↔ c.qualified = true ∧ c.mint ∉ s.seenMints ∧ c.pair ∉ s.seenPairs := by
  unfold reason PoolCandidate.qualified
  split_ifs <;> simp_all

theorem ActivePool.step_of_some {s : ActivePool} {c : PoolCandidate} {reason : String}
    (h : s.reason c.clean = some reason) :
    s.step c = { s with rejected := s.rejected ++ [⟨c.clean, none, reason⟩] } := by
  simp only [step, h]

theorem ActivePool.step_of_none {s : ActivePool} {c : PoolCandidate}
    (h : s.reason c.clean = none) :
    s.step c =
      { s with
        seenMints := c.clean.mint :: s.seenMints
        seenPairs := c.clean.pair :: s.seenPairs
        eligible := s.eligible ++ [c.clean.bucketed] } := by
  simp only [step, h]

/-- The qualified candidates, in the order of the input. -/
def qualifiedOf (candidates : List PoolCandidate) : List PoolCandidate :=
  (candidates.map PoolCandidate.clean).filter PoolCandidate.qualified

theorem mem_qualifiedOf {cs : List PoolCandidate} {c : PoolCandidate} :
    c ∈ qualifiedOf cs ↔ ∃ a ∈ cs, a.qualified = true ∧ a.clean = c := by
  unfold qualifiedOf
  rw [List.mem_filter, List.mem_map]
  constructor
  · rintro ⟨⟨a, ha, rfl⟩, hq⟩
    exact ⟨a, ha, hq, rfl⟩
  · rintro ⟨a, ha, hq, rfl⟩
    exact ⟨⟨a, ha, rfl⟩, hq⟩

/-- The loop keeps the qualified candidates that clash with none it kept. -/
theorem eligible_run (cs : List PoolCandidate) : ∀ (s : ActivePool) (before : List PoolCandidate),
    s.seenMints = before.map PoolCandidate.mint → s.seenPairs = before.map PoolCandidate.pair →
      (Runs.run ActivePool.step s cs).eligible = s.eligible ++
        (FirstWins.kept PoolCandidate.Clashes before (qualifiedOf cs)).map
          PoolCandidate.bucketed := by
  induction cs with
  | nil => intro s before _ _; simp [qualifiedOf]
  | cons c cs ih =>
    intro s before hmints hpairs
    have hseen : (∃ k ∈ before, k.Clashes c.clean) ↔
        c.clean.mint ∈ s.seenMints ∨ c.clean.pair ∈ s.seenPairs := by
      simp only [hmints, hpairs, List.mem_map, PoolCandidate.Clashes, and_or_left, exists_or]
    have hqualified : qualifiedOf (c :: cs) =
        if c.qualified = true then c.clean :: qualifiedOf cs else qualifiedOf cs := by
      unfold qualifiedOf
      rw [List.map_cons, List.filter_cons, PoolCandidate.qualified_clean]
    rw [Runs.run_cons, hqualified]
    cases hreason : s.reason c.clean with
    | none =>
      obtain ⟨hq, hmint, hpair⟩ := ActivePool.reason_eq_none.mp hreason
      have hfresh : ¬∃ k ∈ before, k.Clashes c.clean := by
        rw [hseen]
        tauto
      have hrest := ih (s.step c) (c.clean :: before)
        (by rw [ActivePool.step_of_none hreason, List.map_cons, hmints])
        (by rw [ActivePool.step_of_none hreason, List.map_cons, hpairs])
      rw [if_pos (c.qualified_clean ▸ hq), FirstWins.kept, if_neg hfresh, hrest,
        ActivePool.step_of_none hreason]
      simp
    | some reason =>
      have hnot : ¬(c.qualified = true ∧ ¬∃ k ∈ before, k.Clashes c.clean) := by
        rw [hseen, not_or]
        intro h
        have hnone : s.reason c.clean = none := ActivePool.reason_eq_none.mpr h
        rw [hreason] at hnone
        cases hnone
      have hrest := ih (s.step c) before (by rw [ActivePool.step_of_some hreason, hmints])
        (by rw [ActivePool.step_of_some hreason, hpairs])
      rw [hrest, ActivePool.step_of_some hreason]
      by_cases hq : c.qualified = true
      · rw [if_pos hq, FirstWins.kept, if_pos (by tauto)]
      · rw [if_neg hq]

/-- The candidates of the pool, in the order of the input. -/
def keptOf (candidates : List PoolCandidate) : List PoolCandidate :=
  FirstWins.kept PoolCandidate.Clashes [] (qualifiedOf candidates)

theorem eligible_activePool (cs : List PoolCandidate) :
    (activePool cs).eligible = (keptOf cs).map PoolCandidate.bucketed :=
  eligible_run cs {} [] rfl rfl

theorem pairwise_keptOf (cs : List PoolCandidate) :
    (keptOf cs).Pairwise fun a b => ¬a.Clashes b :=
  FirstWins.pairwise_kept _ []

theorem qualified_of_mem_keptOf {cs : List PoolCandidate} {c : PoolCandidate} (h : c ∈ keptOf cs) :
    ∃ a ∈ cs, a.qualified = true ∧ a.clean = c :=
  mem_qualifiedOf.mp ((FirstWins.kept_sublist _ []).subset h)

theorem exists_clash_keptOf {cs : List PoolCandidate} {a : PoolCandidate} (ha : a ∈ cs)
    (hq : a.qualified = true) : ∃ k ∈ keptOf cs, k.Clashes a := by
  have hmem : a.clean ∈ qualifiedOf cs := mem_qualifiedOf.mpr ⟨a, ha, hq, rfl⟩
  have hsplit : a.clean ∈ keptOf cs ∨ ∃ k ∈ [] ++ keptOf cs, k.Clashes a.clean :=
    FirstWins.mem_kept_or_clash (qualifiedOf cs) [] hmem
  obtain hkept | ⟨k, hk, hclash⟩ := hsplit
  · exact ⟨a.clean, hkept, .inl rfl⟩
  · exact ⟨k, hk, hclash⟩

/-- A candidate goes to one of the two lists. -/
theorem step_conserves (s : ActivePool) (c : PoolCandidate) :
    ((s.step c).eligible.map Bucketed.candidate ++
        (s.step c).rejected.map PoolRejection.candidate).Perm
      (s.eligible.map Bucketed.candidate ++ s.rejected.map PoolRejection.candidate ++ [c.clean]) := by
  cases hreason : s.reason c.clean with
  | some reason =>
    rw [ActivePool.step_of_some hreason]
    simp
  | none =>
    rw [ActivePool.step_of_none hreason]
    simp only [List.map_append, List.map_cons, List.map_nil, List.append_assoc]
    apply List.Perm.append_left
    exact List.perm_append_comm

theorem run_conserves (cs : List PoolCandidate) : ∀ s : ActivePool,
    let last := Runs.run ActivePool.step s cs
    (last.eligible.map Bucketed.candidate ++ last.rejected.map PoolRejection.candidate).Perm
      (s.eligible.map Bucketed.candidate ++ s.rejected.map PoolRejection.candidate ++
        cs.map PoolCandidate.clean) := by
  induction cs with
  | nil => intro s; simp
  | cons c cs ih =>
    intro s
    apply (ih (s.step c)).trans
    rw [List.map_cons, ← List.singleton_append, ← List.append_assoc]
    exact (step_conserves s c).append_right _

/-! ## The shuffle -/

theorem shuffled_perm {α : Type*} (shuffle : Shuffle) (seed : String) (xs : List α) :
    (shuffled shuffle seed xs).Perm xs := by
  have h := Equiv.Perm.ofFn_comp_perm (shuffle seed xs.length) xs.get
  rw [List.ofFn_get] at h
  exact h

theorem shuffle_val (shuffle : Shuffle) (seed : String) {n m i : ℕ} (h : n = m) (hn : i < n)
    (hm : i < m) : (shuffle seed n ⟨i, hn⟩).val = (shuffle seed m ⟨i, hm⟩).val := by
  subst h
  rfl

theorem map_shuffled {α β : Type*} (f : α → β) (shuffle : Shuffle) (seed : String)
    (xs : List α) : (shuffled shuffle seed xs).map f = shuffled shuffle seed (xs.map f) := by
  apply List.ext_getElem
  · simp [shuffled]
  · intro i h₁ h₂
    have hlength : (xs.map f).length = xs.length := List.length_map f
    simp [shuffled, shuffle_val shuffle seed hlength]

/-! ## One selection -/

/-- The pool in the order of the shuffle. -/
def selectionOrder (shuffle : Shuffle) (seed : String) (candidates : List PoolCandidate) :
    List Bucketed :=
  shuffled shuffle seed (sortBy sortKey (activePool candidates).eligible)

def Bucketed.identity (item : Bucketed) : String × String := item.candidate.identity

theorem selectionOrder_perm (shuffle : Shuffle) (seed : String) (cs : List PoolCandidate) :
    (selectionOrder shuffle seed cs).Perm (activePool cs).eligible :=
  (shuffled_perm shuffle seed _).trans (sortBy_perm sortKey _)

theorem candidates_eligible (cs : List PoolCandidate) :
    (activePool cs).eligible.map Bucketed.candidate = keptOf cs := by
  rw [eligible_activePool, List.map_map]
  exact List.map_id'' (fun _ => rfl) _

/-- No two candidates of the pool clash, in whatever order. -/
theorem pairwise_selectionOrder (shuffle : Shuffle) (seed : String) (cs : List PoolCandidate) :
    (selectionOrder shuffle seed cs).Pairwise fun a b => ¬a.candidate.Clashes b.candidate := by
  have hpool : (activePool cs).eligible.Pairwise fun a b => ¬a.candidate.Clashes b.candidate := by
    have h := pairwise_keptOf cs
    rw [← candidates_eligible, List.pairwise_map] at h
    exact h
  apply hpool.perm (selectionOrder_perm shuffle seed cs).symm
  intro a b h hclash
  exact h (PoolCandidate.clashes_symm hclash)

theorem nodup_identity_selectionOrder (shuffle : Shuffle) (seed : String)
    (cs : List PoolCandidate) : ((selectionOrder shuffle seed cs).map Bucketed.identity).Nodup := by
  unfold List.Nodup
  rw [List.pairwise_map]
  apply (pairwise_selectionOrder shuffle seed cs).imp
  intro a b h hsame
  exact h (PoolCandidate.clashes_of_identity hsame)

theorem take_when_ready {α : Type*} (n : ℕ) (xs : List α) :
    (if decide (min n xs.length > 0) = true then xs.take (min n xs.length) else []) =
      xs.take n := by
  rw [← List.take_eq_take_min]
  split_ifs with hready
  · rfl
  · have hnone : min n xs.length = 0 := by
      simpa only [decide_eq_true_eq, gt_iff_lt, Nat.not_lt, Nat.le_zero] using hready
    rw [List.take_eq_take_min, hnone, List.take_zero]

/-- What the function returns, for a target it accepts. -/
theorem build_ok {shuffle : Shuffle} {tokenHex : String} {cs : List PoolCandidate} {target : ℤ}
    {seed : Option Seed} {r : RandomSelection}
    (h : buildQualifiedRandomActiveSelection shuffle tokenHex cs target seed = .ok r) :
    1 ≤ target ∧ r.eligiblePoolSize = (activePool cs).eligible.length ∧
      r.selectedCandidates =
        (selectionOrder shuffle (resolvedSeed tokenHex seed) cs).take target.toNat ∧
      r.rejectedCandidates.map PoolRejection.candidate =
        (activePool cs).rejected.map PoolRejection.candidate ++
          ((sortBy sortKey (activePool cs).eligible).filter fun item => item.identity ∉
            r.selectedCandidates.map Bucketed.identity).map Bucketed.candidate := by
  unfold buildQualifiedRandomActiveSelection at h
  split_ifs at h with htarget
  obtain rfl := Except.ok.inj h
  refine ⟨by omega, (sortBy_perm sortKey _).length_eq, take_when_ready _ _, ?_⟩
  rw [List.map_append, List.map_map]
  rfl

/-! ## What is claimed of a selection -/

/-- What one selection does with its candidates. -/
structure WellSelected (candidates : List PoolCandidate) (target : ℤ) (r : RandomSelection) :
    Prop where
  size : r.selectedCandidates.length = min target.toNat r.eligiblePoolSize
  mints : (r.selectedCandidates.map fun item => item.candidate.mint).Nodup
  pairs : (r.selectedCandidates.map fun item => item.candidate.pair).Nodup
  conserved : (r.selectedCandidates.map Bucketed.candidate ++
    r.rejectedCandidates.map PoolRejection.candidate).Perm (candidates.map PoolCandidate.clean)

/-- The same mints and pairs are selected from the candidates in any order. -/
def SameSelection (candidates : List PoolCandidate) : Prop :=
  ∀ shuffle tokenHex tokenHex' target seed other r r', other.Perm candidates →
    buildQualifiedRandomActiveSelection shuffle tokenHex candidates target (some seed) = .ok r →
    buildQualifiedRandomActiveSelection shuffle tokenHex' other target (some seed) = .ok r' →
      ∀ k, k ∈ r.selectedCandidates.map Bucketed.identity ↔
        k ∈ r'.selectedCandidates.map Bucketed.identity

structure QualifiedRandom (candidates : List PoolCandidate) : Prop where
  returns : ∀ shuffle tokenHex target seed, 1 ≤ target → target ≤ 50 →
    ∃ r, buildQualifiedRandomActiveSelection shuffle tokenHex candidates target (some seed) = .ok r
  selected : ∀ shuffle tokenHex target seed r,
    buildQualifiedRandomActiveSelection shuffle tokenHex candidates target (some seed) = .ok r →
      WellSelected candidates target r
  same : SameSelection candidates

/-- Qualified candidates that share a mint or a pair have the same mint and pair. -/
def AgreeOnClash (candidates : List PoolCandidate) : Prop :=
  ∀ a ∈ candidates, ∀ b ∈ candidates, a.qualified = true → b.qualified = true → a.Clashes b →
    a.identity = b.identity

instance (candidates : List PoolCandidate) : Decidable (AgreeOnClash candidates) :=
  inferInstanceAs (Decidable (∀ a ∈ candidates, ∀ b ∈ candidates, _ → _ → _ → _))

theorem wellSelected_of_ok {shuffle : Shuffle} {tokenHex : String} {cs : List PoolCandidate}
    {target : ℤ} {seed : Option Seed} {r : RandomSelection}
    (h : buildQualifiedRandomActiveSelection shuffle tokenHex cs target seed = .ok r) :
    WellSelected cs target r := by
  obtain ⟨_, hpool, hselected, hrejected⟩ := build_ok h
  set order := selectionOrder shuffle (resolvedSeed tokenHex seed) cs with horder
  have hperm : order.Perm (activePool cs).eligible := selectionOrder_perm shuffle _ cs
  have hapart := (pairwise_selectionOrder shuffle (resolvedSeed tokenHex seed) cs).sublist
    (List.take_sublist target.toNat order)
  have hnodup := nodup_identity_selectionOrder shuffle (resolvedSeed tokenHex seed) cs
  rw [← hselected] at hapart
  constructor
  · rw [hselected, hpool, List.length_take, hperm.length_eq]
  · exact List.pairwise_map.mpr (hapart.imp fun hclash hsame => hclash (.inl hsame))
  · exact List.pairwise_map.mpr (hapart.imp fun hclash hsame => hclash (.inr hsame))
  · have hpoolPerm := (sortBy_perm sortKey (activePool cs).eligible)
    have hview : ((sortBy sortKey (activePool cs).eligible).map Bucketed.identity).Nodup :=
      ((hperm.trans hpoolPerm.symm).map Bucketed.identity).nodup_iff.mp hnodup
    have htaken : r.selectedCandidates.Nodup := by
      rw [hselected]
      exact (List.take_sublist _ _).nodup hnodup.of_map
    have hsub : r.selectedCandidates ⊆ sortBy sortKey (activePool cs).eligible := by
      rw [hselected]
      exact fun x hx => (hperm.trans hpoolPerm.symm).subset (List.mem_of_mem_take hx)
    have hsplit := (FirstWins.perm_append_remainder hview htaken hsub
      (fun _ => decide_eq_true_iff)).trans hpoolPerm
    have hall := run_conserves cs {}
    rw [hrejected]
    calc (r.selectedCandidates.map Bucketed.candidate ++
            ((activePool cs).rejected.map PoolRejection.candidate ++ _)).Perm
          ((r.selectedCandidates.map Bucketed.candidate ++ _) ++
            (activePool cs).rejected.map PoolRejection.candidate) := by
            rw [List.append_assoc]
            exact List.perm_append_comm.append_left _
      _ |>.Perm ((activePool cs).eligible.map Bucketed.candidate ++
            (activePool cs).rejected.map PoolRejection.candidate) := by
            rw [← List.map_append]
            exact (hsplit.map Bucketed.candidate).append_right _
      _ |>.Perm (cs.map PoolCandidate.clean) := hall

/-! ## The order of the input -/

theorem nodup_identity_keptOf (cs : List PoolCandidate) :
    ((keptOf cs).map PoolCandidate.identity).Nodup := by
  unfold List.Nodup
  rw [List.pairwise_map]
  apply (pairwise_keptOf cs).imp
  intro a b h hsame
  exact h (PoolCandidate.clashes_of_identity hsame)

theorem mem_identity_keptOf {cs : List PoolCandidate} (h : AgreeOnClash cs) {k : String × String} :
    k ∈ (keptOf cs).map PoolCandidate.identity ↔
      ∃ a ∈ cs, a.qualified = true ∧ a.identity = k := by
  rw [List.mem_map]
  constructor
  · rintro ⟨c, hc, rfl⟩
    obtain ⟨a, ha, hq, rfl⟩ := qualified_of_mem_keptOf hc
    exact ⟨a, ha, hq, rfl⟩
  · rintro ⟨a, ha, hq, rfl⟩
    obtain ⟨k, hk, hclash⟩ := exists_clash_keptOf ha hq
    obtain ⟨b, hb, hqb, rfl⟩ := qualified_of_mem_keptOf hk
    exact ⟨b.clean, hk, h b hb a ha hqb hq hclash⟩

/-- The keys of the sorted pool depend on the keys of the pool. -/
theorem identity_selectionOrder_eq {cs other : List PoolCandidate} (shuffle : Shuffle)
    (seed : String) (h : AgreeOnClash cs) (hperm : other.Perm cs) :
    (selectionOrder shuffle seed cs).map Bucketed.identity =
      (selectionOrder shuffle seed other).map Bucketed.identity := by
  have hother : AgreeOnClash other := fun a ha b hb =>
    h a (hperm.subset ha) b (hperm.subset hb)
  have hkept : ((keptOf cs).map PoolCandidate.identity).Perm
      ((keptOf other).map PoolCandidate.identity) := by
    rw [List.perm_ext_iff_of_nodup (nodup_identity_keptOf cs) (nodup_identity_keptOf other)]
    intro k
    rw [mem_identity_keptOf h, mem_identity_keptOf hother]
    simp only [hperm.mem_iff]
  have hkeys : ∀ xs : List PoolCandidate, (activePool xs).eligible.map sortKey =
      ((keptOf xs).map PoolCandidate.identity).map toLex := by
    intro xs
    rw [← candidates_eligible, List.map_map, List.map_map]
    rfl
  have hsorted : ((sortBy sortKey (activePool cs).eligible).map sortKey).map ofLex =
      ((sortBy sortKey (activePool other).eligible).map sortKey).map ofLex := by
    rw [map_sortBy_eq]
    rw [hkeys, hkeys]
    exact hkept.map toLex
  rw [List.map_map, List.map_map] at hsorted
  unfold selectionOrder
  rw [map_shuffled, map_shuffled]
  exact congrArg (shuffled shuffle seed) hsorted

theorem resolvedSeed_some (tokenHex tokenHex' : String) (seed : Seed) :
    resolvedSeed tokenHex (some seed) = resolvedSeed tokenHex' (some seed) := by
  cases seed <;> rfl

theorem sameSelection_of_agree {cs : List PoolCandidate} (h : AgreeOnClash cs) :
    SameSelection cs := by
  intro shuffle tokenHex tokenHex' target seed other r r' hperm hr hr' k
  obtain ⟨_, _, hselected, _⟩ := build_ok hr
  obtain ⟨_, _, hselected', _⟩ := build_ok hr'
  have horder := identity_selectionOrder_eq shuffle (resolvedSeed tokenHex (some seed)) h hperm
  rw [hselected, hselected', List.map_take, List.map_take, horder,
    resolvedSeed_some tokenHex tokenHex']

/-- A shuffle that brings a position to the front. -/
def bringFront (i : ℕ) : Shuffle := fun _ n =>
  if h : i < n then Equiv.swap ⟨i, h⟩ ⟨0, by omega⟩ else Equiv.refl _

theorem take_bringFront {α : Type*} {seed : String} {xs : List α} {i : ℕ} (h : i < xs.length) :
    (shuffled (bringFront i) seed xs).take 1 = [xs[i]] := by
  apply List.ext_getElem
  · simp [shuffled]
    omega
  · intro j h₁ h₂
    have hj : j = 0 := by simpa using h₂
    subst hj
    simp [shuffled, bringFront, h]

/-- The pool keeps the first of the qualified candidates. -/
theorem mem_keptOf_cons {a : PoolCandidate} (h : a.qualified = true) (cs : List PoolCandidate) :
    a.clean ∈ keptOf (a :: cs) := by
  have hfirst : qualifiedOf (a :: cs) = a.clean :: qualifiedOf cs := by
    unfold qualifiedOf
    rw [List.map_cons, List.filter_cons, if_pos (a.qualified_clean ▸ h)]
  unfold keptOf
  rw [hfirst]
  exact FirstWins.mem_kept_head _ _

/-- What clashes with a candidate of the pool and differs from it has its keys not in the pool. -/
theorem identity_not_mem {a b : PoolCandidate} {cs : List PoolCandidate} (hb : b.clean ∈ keptOf cs)
    (hclash : a.Clashes b) (hne : a.identity ≠ b.identity) :
    a.identity ∉ (keptOf cs).map PoolCandidate.identity := by
  intro hmem
  obtain ⟨e, he, hsame⟩ := List.mem_map.mp hmem
  have heb : e.Clashes b.clean :=
    hclash.imp (PoolCandidate.mint_of_identity hsame).trans
      (PoolCandidate.pair_of_identity hsame).trans
  have hsymm : Std.Symm fun a b : PoolCandidate => ¬a.Clashes b :=
    ⟨fun a b h hclash => h (PoolCandidate.clashes_symm hclash)⟩
  have heq : e = b.clean := by
    by_contra hdiff
    exact (pairwise_keptOf cs).forall he hb hdiff heb
  apply hne
  rw [← hsame, heq]
  rfl

theorem build_returns (shuffle : Shuffle) (tokenHex : String) (cs : List PoolCandidate)
    {target : ℤ} (seed : Option Seed) (h₁ : 1 ≤ target) (h₂ : target ≤ 50) :
    ∃ r, buildQualifiedRandomActiveSelection shuffle tokenHex cs target seed = .ok r := by
  unfold buildQualifiedRandomActiveSelection
  rw [if_neg (by omega)]
  exact ⟨_, rfl⟩

/-- Only keys of the pool are selected. -/
theorem mem_selected {shuffle : Shuffle} {tokenHex : String} {cs : List PoolCandidate} {target : ℤ}
    {seed : Option Seed} {r : RandomSelection} {k : String × String}
    (h : buildQualifiedRandomActiveSelection shuffle tokenHex cs target seed = .ok r)
    (hk : k ∈ r.selectedCandidates.map Bucketed.identity) :
    k ∈ (keptOf cs).map PoolCandidate.identity := by
  obtain ⟨_, _, hselected, _⟩ := build_ok h
  rw [hselected] at hk
  obtain ⟨item, hitem, rfl⟩ := List.mem_map.mp hk
  rw [← candidates_eligible, List.map_map]
  exact List.mem_map_of_mem
    ((selectionOrder_perm shuffle _ cs).subset (List.mem_of_mem_take hitem))

/-- Some shuffle puts a candidate of the pool first. -/
theorem exists_shuffle_first {cs : List PoolCandidate} {c : PoolCandidate} (h : c ∈ keptOf cs) :
    ∃ shuffle, ∀ tokenHex seed r,
      buildQualifiedRandomActiveSelection shuffle tokenHex cs 1 seed = .ok r →
        c.identity ∈ r.selectedCandidates.map Bucketed.identity := by
  rw [← candidates_eligible] at h
  obtain ⟨item, hitem, rfl⟩ := List.mem_map.mp h
  obtain ⟨i, hi, rfl⟩ := List.getElem_of_mem ((sortBy_perm sortKey _).symm.subset hitem)
  refine ⟨bringFront i, fun tokenHex seed r hr => ?_⟩
  obtain ⟨_, _, hselected, _⟩ := build_ok hr
  have hfirst : r.selectedCandidates = [(sortBy sortKey (activePool cs).eligible)[i]] :=
    hselected.trans (take_bringFront hi)
  rw [hfirst]
  exact List.mem_singleton.mpr rfl

theorem agree_of_sameSelection {cs : List PoolCandidate} (h : SameSelection cs) :
    AgreeOnClash cs := by
  intro a ha b hb hqa hqb hclash
  by_contra hne
  -- of the two, the one that comes first is kept
  have hpermA : (a :: cs.erase a).Perm cs := (List.perm_cons_erase ha).symm
  have hpermB : (b :: cs.erase b).Perm cs := (List.perm_cons_erase hb).symm
  obtain ⟨shuffle, hfirst⟩ := exists_shuffle_first (mem_keptOf_cons hqa (cs.erase a))
  have habsent := identity_not_mem (mem_keptOf_cons hqb (cs.erase b)) hclash hne
  obtain ⟨r, hr⟩ := build_returns shuffle "" cs (some (.int 0)) le_rfl (by omega : (1 : ℤ) ≤ 50)
  obtain ⟨rA, hrA⟩ :=
    build_returns shuffle "" (a :: cs.erase a) (some (.int 0)) le_rfl (by omega : (1 : ℤ) ≤ 50)
  obtain ⟨rB, hrB⟩ :=
    build_returns shuffle "" (b :: cs.erase b) (some (.int 0)) le_rfl (by omega : (1 : ℤ) ≤ 50)
  have hmemA : a.identity ∈ rA.selectedCandidates.map Bucketed.identity := hfirst _ _ _ hrA
  have hmem : a.identity ∈ r.selectedCandidates.map Bucketed.identity :=
    (h _ _ _ _ _ _ _ _ hpermA hr hrA _).mpr hmemA
  have hmemB : a.identity ∈ rB.selectedCandidates.map Bucketed.identity :=
    (h _ _ _ _ _ _ _ _ hpermB hr hrB _).mp hmem
  exact habsent (mem_selected hrB hmemB)

/-- A qualified random selection takes what it should from any candidates. It takes the same from
them in any order exactly when qualified candidates that share a mint or a pair share both. -/
theorem qualifiedRandom_iff (candidates : List PoolCandidate) :
    QualifiedRandom candidates ↔ AgreeOnClash candidates := by
  constructor
  · intro h
    exact agree_of_sameSelection h.same
  · intro h
    exact
      { returns := fun shuffle tokenHex target seed h₁ h₂ =>
          build_returns shuffle tokenHex candidates (some seed) h₁ h₂
        selected := fun _ _ _ _ _ hr => wellSelected_of_ok hr
        same := sameSelection_of_agree h }

/-- A qualified candidate. -/
def freshCandidate (mint pair : String) : PoolCandidate :=
  { tokenMint := some mint
    pairAddress := some pair
    sourceResponseId := some 1
    sourceStatus := some "COMPLETE"
    dataQualityLabel := some "CLEAN_DATA"
    trackingLane := some "TRACK_NORMAL" }

/-- Two pairs of one mint: the first of them is the one that can be selected. -/
theorem not_sameSelection_sharedMint :
    ¬QualifiedRandom [freshCandidate "Mint01" "Pair01", freshCandidate "Mint01" "Pair05"] := by
  intro h
  have hagree := agree_of_sameSelection h.same
  revert hagree
  decide

end PrinterV1.Discovery
