import PrinterV1.Discovery.QuotaReach

/-!
# Best effort

The passes meet the quota wherever a batch of their make meets it: one without audit-only
members below six, and with one dead token among them from six on. A batch of another
make they may miss.
-/

namespace PrinterV1.Discovery

open Python

attribute [local instance] lawfulTextPair

/-! ## The quota -/

/-- What the rules ask of a batch. -/
structure MeetsQuota (batch : List QuotaEntry) : Prop where
  mints : (batch.map fun e => e.identity.1).Nodup
  pairs : (batch.map fun e => e.identity.2).Nodup
  winners : batch.countP (fun e => e.primaryBucket = .a1) ≤ 2
  someGroupA : 5 ≤ batch.length → batch.countP (fun e => e.primaryBucket.groupA) ≠ 0
  cap : batch.countP (fun e => e.primaryBucket.groupA) ≤ 4
  share : batch.countP (fun e => e.primaryBucket.groupA) * 100 ≤ batch.length * 40
  trap : (∃ e ∈ batch, e.primaryBucket.groupA = true) →
    ∃ e ∈ batch, e.primaryBucket.trapFailure = true
  dead : 6 ≤ batch.length → ∃ e ∈ batch, e.primaryBucket = .d1
  watched : 6 ≤ batch.length → ∃ e ∈ batch, e.candidate.trackingLane = some "WATCH_ONLY"
  groupB : 6 ≤ batch.length →
    batch.length * 30 ≤ batch.countP (fun e => e.primaryBucket.groupB) * 100
  decay : 6 ≤ batch.length → ∃ e ∈ batch, e.primaryBucket.groupBDecay = true
  groupF : ∀ e ∈ batch, e.primaryBucket.groupF = false

theorem validateBatchQuota_iff (batch : List QuotaEntry) :
    validateBatchQuota (batch.map QuotaEntry.quotaItem) = [] ↔ MeetsQuota batch := by
  have hcountP : ∀ p : Bucket → Bool,
      ((batch.map QuotaEntry.quotaItem).map QuotaItem.primaryBucket).countP p =
        batch.countP fun e => p e.primaryBucket := by
    intro p
    rw [List.map_map, List.countP_map]
    rfl
  have hany : ∀ p : Bucket → Bool,
      ((batch.map QuotaEntry.quotaItem).map QuotaItem.primaryBucket).any p = true ↔
        ∃ e ∈ batch, p e.primaryBucket = true := by
    intro p
    rw [List.map_map, List.any_map, List.any_eq_true]
    rfl
  have hwinners : ((batch.map QuotaEntry.quotaItem).map QuotaItem.primaryBucket).count .a1 =
      batch.countP fun e => e.primaryBucket = .a1 := hcountP (· == .a1)
  have hmints : (batch.map QuotaEntry.quotaItem).map QuotaItem.tokenMint =
      batch.map fun e => e.identity.1 := List.map_map
  have hpairs : (batch.map QuotaEntry.quotaItem).map QuotaItem.pairAddress =
      batch.map fun e => e.identity.2 := List.map_map
  have hdead : Bucket.d1 ∈ (batch.map QuotaEntry.quotaItem).map QuotaItem.primaryBucket ↔
      ∃ e ∈ batch, e.primaryBucket = .d1 := by
    rw [List.map_map, List.mem_map]
    rfl
  have hwatched : some "WATCH_ONLY" ∈ (batch.map QuotaEntry.quotaItem).map QuotaItem.trackingLane ↔
      ∃ e ∈ batch, e.candidate.trackingLane = some "WATCH_ONLY" := by
    rw [List.map_map, List.mem_map]
    rfl
  unfold validateBatchQuota
  simp only [List.append_eq_nil_iff, ite_eq_right_iff, List.cons_ne_nil, imp_false,
    List.length_map, hcountP, hany, hwinners, hmints, hpairs, hdead, hwatched, not_not]
  constructor
  · rintro ⟨⟨⟨⟨⟨⟨⟨⟨hmint, hpair⟩, hwin⟩, hfive⟩, hcap⟩, hshare⟩, htrap⟩, hsix⟩, hF⟩
    have hgroupA : batch.countP (fun e => e.primaryBucket.groupA) ≤ batch.length :=
      List.countP_le_length
    exact
      { mints := hmint
        pairs := hpair
        winners := Nat.not_lt.mp hwin
        someGroupA := fun h hnone => hfive ⟨h, hnone⟩
        cap := Nat.not_lt.mp hcap
        share := by omega
        trap := fun h => not_not.mp fun hnone => htrap ⟨h, hnone⟩
        dead := fun h => (hsix h).1.1.1.1.1
        watched := fun h => (hsix h).1.1.1.1.2
        groupB := fun h => Nat.not_lt.mp (hsix h).1.2
        decay := fun h => (hsix h).2
        groupF := fun e he => by
          by_contra hf
          exact hF ⟨⟨e, he, by simpa using hf⟩, by decide⟩ }
  · intro h
    refine ⟨⟨⟨⟨⟨⟨⟨⟨h.mints, h.pairs⟩, Nat.not_lt.mpr h.winners⟩, ?_⟩, Nat.not_lt.mpr h.cap⟩, ?_⟩,
      ?_⟩, ?_⟩, ?_⟩
    · rintro ⟨hfive, hnone⟩
      exact h.someGroupA hfive hnone
    · rintro ⟨-, hover⟩
      exact absurd h.share (Nat.not_le.mpr hover)
    · rintro ⟨hsome, hnone⟩
      exact hnone (h.trap hsome)
    · intro hsix
      obtain ⟨e, he, hbucket⟩ := h.dead hsix
      have hB : 0 < batch.countP fun e => e.primaryBucket.groupB := by
        have := h.groupB hsix
        omega
      refine ⟨⟨⟨⟨⟨h.dead hsix, h.watched hsix⟩, ⟨e, he, ?_⟩⟩, List.countP_pos_iff.mp hB⟩,
        Nat.not_lt.mpr (h.groupB hsix)⟩, h.decay hsix⟩
      rw [hbucket]
      rfl
    · rintro ⟨⟨e, he, hf⟩, -⟩
      rw [h.groupF e he] at hf
      cases hf

/-! ## The effort -/

/-- The audit-only members the passes take: none below six, one dead token from six on. -/
def Composable (targetSize : ℕ) (batch : List QuotaEntry) : Prop :=
  (batch.filter fun e => !e.isActive).map QuotaEntry.primaryBucket =
    if targetSize < 6 then [] else [.d1]

instance (targetSize : ℕ) (batch : List QuotaEntry) : Decidable (Composable targetSize batch) :=
  inferInstanceAs (Decidable (_ = _))

/-- An eligible candidate as it was prepared. -/
structure QuotaEntry.Prepared (e : QuotaEntry) : Prop where
  bucket : e.primaryBucket = assignBucket e.candidate
  lane : e.isActive = false → e.candidate.trackingLane = some "WATCH_ONLY"

theorem groupF_assignBucket (c : PoolCandidate) : (assignBucket c).groupF = false := by
  have hfast : c.market.fastBucket.groupF = false := by
    unfold Market.fastBucket
    split_ifs <;> rfl
  have hnormal : c.market.normalBucket.groupF = false := by
    unfold Market.normalBucket
    extract_lets liquidity priceChange1h
    split_ifs <;> rfl
  unfold assignBucket
  split_ifs
  all_goals first | rfl | exact hfast | exact hnormal

theorem QuotaPool.lane_of_reason {s : QuotaPool} {c : PoolCandidate}
    (h : s.reason c .auditOnly = none) : c.trackingLane = some "WATCH_ONLY" := by
  unfold reason at h
  split_ifs at h with _ _ _ _ hcontract
  by_contra hlane
  exact hcontract ⟨rfl, .inr hlane⟩

theorem QuotaPool.prepared_prepare {s : QuotaPool} (h : ∀ e ∈ s.eligible, e.Prepared)
    (c : PoolCandidate) (kind : CandidateKind) :
    ∀ e ∈ (s.prepare c kind).eligible, e.Prepared := by
  cases hreason : s.reason c.clean kind with
  | some reason =>
    rw [prepare_of_some hreason]
    exact h
  | none =>
    rw [prepare_of_none hreason]
    intro e he
    rcases List.mem_append.mp he with he | he
    · exact h e he
    · rw [List.mem_singleton.mp he]
      refine ⟨rfl, fun hkind => ?_⟩
      cases kind with
      | activeTracking => cases hkind
      | auditOnly => exact lane_of_reason hreason

theorem prepared_quotaPool (active audit : List PoolCandidate) :
    ∀ e ∈ (quotaPool active audit).eligible, e.Prepared := by
  refine Runs.invariant (I := fun s : QuotaPool => ∀ e ∈ s.eligible, e.Prepared)
    (fun s input h => ?_) (by simp) (quotaInputs active audit)
  unfold QuotaPool.step
  cases input.2 with
  | activeTracking =>
    dsimp only
    split_ifs
    · exact h
    · exact QuotaPool.prepared_prepare h input.1 .activeTracking
  | auditOnly => exact QuotaPool.prepared_prepare h input.1 .auditOnly

theorem length_classes (batch : List QuotaEntry) :
    batch.length = batch.countP (fun e => e.primaryBucket.groupA) +
      batch.countP (fun e => e.isActive && !e.primaryBucket.groupA) +
      batch.countP fun e => !e.isActive && !e.primaryBucket.groupA := by
  induction batch with
  | nil => rfl
  | cons e batch ih =>
    simp only [List.length_cons, List.countP_cons, ih]
    cases e.isActive <;> cases e.primaryBucket.groupA <;> simp <;> omega

theorem countP_groupA (batch : List QuotaEntry) :
    batch.countP (fun e => e.primaryBucket.groupA) =
      batch.countP (fun e => e.primaryBucket.trapFailure) +
        batch.countP fun e => e.primaryBucket = .a1 := by
  induction batch with
  | nil => rfl
  | cons e batch ih =>
    simp only [List.countP_cons, ih]
    cases e.primaryBucket <;> simp [Bucket.groupA, Bucket.trapFailure] <;> omega

section Effort

variable {eligible batch : List QuotaEntry} {targetSize : ℕ}

theorem Composable.active (h : Composable targetSize batch) {e : QuotaEntry} (he : e ∈ batch)
    (hbucket : e.primaryBucket ≠ .d1) : e.isActive = true := by
  by_contra hactive
  have hmem : e.primaryBucket ∈
      (batch.filter fun e => !e.isActive).map QuotaEntry.primaryBucket :=
    List.mem_map_of_mem (List.mem_filter.mpr ⟨he, by simpa using hactive⟩)
  rw [h] at hmem
  split_ifs at hmem
  · cases hmem
  · exact hbucket (List.mem_singleton.mp hmem)

theorem Composable.mem_nonAOf (h : Composable targetSize batch) (hsub : batch ⊆ eligible)
    {e : QuotaEntry} (he : e ∈ batch) (hbucket : e.primaryBucket ≠ .d1)
    (hA : e.primaryBucket.groupA = false) : e ∈ nonAOf eligible := by
  refine List.mem_filter.mpr ⟨List.mem_filter.mpr ⟨hsub he, h.active he hbucket⟩, ?_⟩
  rw [hA]
  rfl

theorem Composable.mem_trapsOf (h : Composable targetSize batch) (hsub : batch ⊆ eligible)
    {e : QuotaEntry} (he : e ∈ batch) (htrap : e.primaryBucket.trapFailure = true) :
    e ∈ trapsOf eligible := by
  refine List.mem_filter.mpr ⟨List.mem_filter.mpr ⟨hsub he, h.active he ?_⟩, htrap⟩
  intro hbucket
  rw [hbucket] at htrap
  cases htrap

theorem Composable.mem_winnersOf (h : Composable targetSize batch) (hsub : batch ⊆ eligible)
    {e : QuotaEntry} (he : e ∈ batch) (hbucket : e.primaryBucket = .a1) :
    e ∈ winnersOf eligible := by
  refine List.mem_filter.mpr ⟨List.mem_filter.mpr ⟨hsub he, h.active he ?_⟩,
    decide_eq_true hbucket⟩
  rw [hbucket]
  decide

/-- The passes reach as many of group A as the batch has. -/
theorem groupA_le_composeBatch (hnodup : eligible.Nodup) (hsub : batch.Sublist eligible)
    (hlength : batch.length = targetSize) (hmeets : MeetsQuota batch)
    (hcomp : Composable targetSize batch) :
    targetSize ≤ (composeBatch eligible targetSize).length ∨
      batch.countP (fun e => e.primaryBucket.groupA) ≤
        (composeBatch eligible targetSize).countP fun e => e.primaryBucket.groupA := by
  have hlimit : batch.countP (fun e => e.primaryBucket.groupA) ≤ groupALimit targetSize := by
    have hcap := hmeets.cap
    have hshare := hmeets.share
    unfold groupALimit
    omega
  by_cases hnone : batch.countP (fun e => e.primaryBucket.groupA) = 0
  · right
    omega
  have hsome : ∃ e ∈ batch, e.primaryBucket.groupA = true :=
    List.countP_pos_iff.mp (Nat.pos_of_ne_zero hnone)
  obtain ⟨trap, htrap, hbucket⟩ := hmeets.trap hsome
  have htraps : trapsOf eligible ≠ [] :=
    List.ne_nil_of_mem (hcomp.mem_trapsOf hsub.subset htrap hbucket)
  have hthree : 3 ≤ targetSize := by
    by_contra hsmall
    have hzero : groupALimit targetSize = 0 := by
      unfold groupALimit
      omega
    omega
  rcases groupA_reached hthree htraps with hfull | hreached | ⟨htrapped, hwon⟩
  · exact .inl hfull
  · exact .inr (hlimit.trans hreached)
  right
  rw [countP_groupA, countP_groupA]
  apply Nat.add_le_add
  · apply countP_le_of_mem (hnodup.sublist hsub)
    intro e he htrap
    exact htrapped (hcomp.mem_trapsOf hsub.subset he htrap)
  · -- two winners at most, which are among the first two
    have hnodup' : (winnersOf eligible).Nodup := (hnodup.filter _).filter _
    have hthere : batch.countP (fun e => e.primaryBucket = .a1) ≤ (winnersOf eligible).length := by
      have hmem : ∀ e ∈ batch, decide (e.primaryBucket = .a1) = true → e ∈ winnersOf eligible :=
        fun e he hwinner => hcomp.mem_winnersOf hsub.subset he (of_decide_eq_true hwinner)
      exact (countP_le_of_mem (hnodup.sublist hsub) hmem).trans List.countP_le_length
    have htwo : batch.countP (fun e => e.primaryBucket = .a1) ≤
        ((winnersOf eligible).take 2).length := by
      rw [List.length_take]
      exact le_min hmeets.winners hthere
    have hall : ((winnersOf eligible).take 2).countP (fun e => e.primaryBucket = .a1) =
        ((winnersOf eligible).take 2).length := by
      apply List.countP_eq_length.mpr
      intro e he
      exact (List.mem_filter.mp (List.mem_of_mem_take he)).2
    rw [← hall] at htwo
    apply htwo.trans
    apply countP_le_of_mem (hnodup'.sublist (List.take_sublist _ _))
    intro e he _
    exact hwon he

/-- From six on the passes begin with a dead token of the audit. -/
theorem Composable.first (h : Composable targetSize batch) (hsub : batch ⊆ eligible)
    (hsix : 6 ≤ targetSize) : ∃ e ∈ eligible, e.isActive = false ∧ e.primaryBucket = .d1 ∧
      auditedFirst eligible targetSize = [e] := by
  apply auditedFirst_dead hsix
  have hdead : Bucket.d1 ∈ (batch.filter fun e => !e.isActive).map QuotaEntry.primaryBucket := by
    rw [h, if_neg (Nat.not_lt.mpr hsix)]
    exact List.mem_singleton_self _
  obtain ⟨e, he, hbucket⟩ := List.mem_map.mp hdead
  obtain ⟨hmem, hkind⟩ := List.mem_filter.mp he
  exact ⟨e, hsub hmem, by simpa using hkind, hbucket⟩

/-- The first pass takes none of group A. -/
theorem Composable.first_groupA (h : Composable targetSize batch) (hsub : batch ⊆ eligible) :
    (auditedFirst eligible targetSize).countP (fun e => e.primaryBucket.groupA) = 0 := by
  by_cases hsix : 6 ≤ targetSize
  · obtain ⟨e, -, -, hbucket, hfirst⟩ := h.first hsub hsix
    rw [hfirst, List.countP_singleton, hbucket]
    rfl
  · rw [auditedFirst_small (Nat.not_le.mp hsix)]
    rfl

theorem Composable.audited_le (h : Composable targetSize batch) (hsub : batch ⊆ eligible) :
    batch.countP (fun e => !e.isActive && !e.primaryBucket.groupA) ≤
      (composeBatch eligible targetSize).countP
        fun e => !e.isActive && !e.primaryBucket.groupA := by
  have haudited : batch.countP (fun e => !e.isActive && !e.primaryBucket.groupA) ≤
      ((batch.filter fun e => !e.isActive).map QuotaEntry.primaryBucket).length := by
    rw [List.length_map, ← List.countP_eq_length_filter]
    exact List.countP_mono_left fun e _ he => (Bool.and_eq_true_iff.mp he).1
  rw [h] at haudited
  split_ifs at haudited with hsmall
  · exact haudited.trans (Nat.zero_le _)
  · obtain ⟨e, -, hkind, hbucket, hfirst⟩ := h.first hsub (Nat.not_lt.mp hsmall)
    have hmem : e ∈ composeBatch eligible targetSize := by
      apply subset_composeBatch
      apply prefix_groupBPicks.subset
      rw [hfirst]
      exact List.mem_singleton_self e
    apply haudited.trans
    apply List.countP_pos_iff.mpr
    refine ⟨e, hmem, ?_⟩
    rw [hkind, hbucket]
    rfl

/-- The passes fill the batch wherever a batch of their make meets the quota. -/
theorem length_composeBatch (hnodup : eligible.Nodup) (hsub : batch.Sublist eligible)
    (hlength : batch.length = targetSize) (hmeets : MeetsQuota batch)
    (hcomp : Composable targetSize batch) :
    (composeBatch eligible targetSize).length = targetSize := by
  apply Nat.le_antisymm (batch_composeBatch eligible targetSize).size
  rcases nonA_reached eligible targetSize with hfull | hnonA
  · exact hfull
  rcases groupA_le_composeBatch hnodup hsub hlength hmeets hcomp with hfull | hgroupA
  · exact hfull
  have hothers : batch.countP (fun e => e.isActive && !e.primaryBucket.groupA) ≤
      (composeBatch eligible targetSize).countP
        fun e => e.isActive && !e.primaryBucket.groupA := by
    apply countP_le_of_mem (hnodup.sublist hsub)
    intro e he hclass
    obtain ⟨hactive, hbucket⟩ := Bool.and_eq_true_iff.mp hclass
    exact hnonA (List.mem_filter.mpr
      ⟨List.mem_filter.mpr ⟨hsub.subset he, hactive⟩, hbucket⟩)
  have haudited := hcomp.audited_le hsub.subset
  have hbatch := length_classes batch
  have hcomposed := length_classes (composeBatch eligible targetSize)
  omega

/-- Without a trap among the candidates the batch has no group A: it is small, and the
candidates outside group A fill it. -/
theorem small_of_no_traps (hnodup : eligible.Nodup) (hsub : batch.Sublist eligible)
    (hlength : batch.length = targetSize) (hmeets : MeetsQuota batch)
    (hcomp : Composable targetSize batch) (hnil : trapsOf eligible = []) :
    targetSize < 5 ∧ targetSize ≤ (nonAOf eligible).length := by
  have hnone : ∀ e ∈ batch, e.primaryBucket.groupA = false := by
    intro e he
    by_contra hgroup
    obtain ⟨trap, htrap, hbucket⟩ := hmeets.trap ⟨e, he, by simpa using hgroup⟩
    have hmem := hcomp.mem_trapsOf hsub.subset htrap hbucket
    rw [hnil] at hmem
    cases hmem
  have hsmall : targetSize < 5 := by
    by_contra hfive
    apply hmeets.someGroupA (by omega)
    apply List.countP_eq_zero.mpr
    intro e he
    rw [hnone e he]
    decide
  have haudit : batch.filter (fun e => !e.isActive) = [] := by
    have hcomp' := hcomp
    unfold Composable at hcomp'
    rw [if_pos (by omega)] at hcomp'
    exact List.map_eq_nil_iff.mp hcomp'
  refine ⟨hsmall, ?_⟩
  rw [← hlength]
  apply (List.subperm_of_subset (hnodup.sublist hsub) _).length_le
  intro e he
  have hactive := List.filter_eq_nil_iff.mp haudit e he
  refine List.mem_filter.mpr ⟨List.mem_filter.mpr ⟨hsub.subset he, by simpa using hactive⟩, ?_⟩
  rw [hnone e he]
  rfl

/-- Where group A is there, a trap is. -/
theorem trap_composeBatch (hnodup : eligible.Nodup) (hsub : batch.Sublist eligible)
    (hlength : batch.length = targetSize) (hmeets : MeetsQuota batch)
    (hcomp : Composable targetSize batch)
    (hsome : 0 < (composeBatch eligible targetSize).countP fun e => e.primaryBucket.groupA) :
    ∃ e ∈ composeBatch eligible targetSize, e.primaryBucket.trapFailure = true := by
  cases hcs : trapsOf eligible with
  | nil =>
    obtain ⟨hsmall, hfull⟩ := small_of_no_traps hnodup hsub hlength hmeets hcomp hcs
    rw [groupA_composeBatch_eq_zero hsmall hcs hfull hnodup] at hsome
    cases hsome
  | cons trap traps =>
    have hthree : 3 ≤ targetSize := by
      have hle := countP_composeBatch_le (fun _ h => h) eligible targetSize
      rw [hcomp.first_groupA hsub.subset] at hle
      by_contra hsmall
      have hzero : groupALimit targetSize = 0 := by
        unfold groupALimit
        omega
      omega
    have hmem : trap ∈ trapsOf eligible := hcs ▸ List.mem_cons_self
    exact ⟨trap, prefix_composeBatch.subset (trap_reached hthree hcs), (List.mem_filter.mp hmem).2⟩

/-- From five on a trap of the batch is there for the passes to take. -/
theorem someGroupA_composeBatch (hsub : batch.Sublist eligible)
    (hlength : batch.length = targetSize) (hmeets : MeetsQuota batch)
    (hcomp : Composable targetSize batch) (hfive : 5 ≤ targetSize) :
    (composeBatch eligible targetSize).countP (fun e => e.primaryBucket.groupA) ≠ 0 := by
  have hsome := hmeets.someGroupA (hlength.symm ▸ hfive)
  obtain ⟨trap, htrap, hbucket⟩ :=
    hmeets.trap (List.countP_pos_iff.mp (Nat.pos_of_ne_zero hsome))
  have hmem := hcomp.mem_trapsOf hsub.subset htrap hbucket
  obtain ⟨c, cs, hcs⟩ := List.exists_cons_of_ne_nil (List.ne_nil_of_mem hmem)
  have hc : c ∈ composeBatch eligible targetSize :=
    prefix_composeBatch.subset (trap_reached (by omega) hcs)
  have hgroup : c.primaryBucket.groupA = true := groupA_of_trapsOf (hcs ▸ List.mem_cons_self)
  exact Nat.ne_of_gt (List.countP_pos_iff.mpr ⟨c, hc, hgroup⟩)

/-- A member of group B or of its decay is a candidate the passes look at outside group A. -/
theorem Composable.groupB_mem (h : Composable targetSize batch) (hsub : batch ⊆ eligible)
    {e : QuotaEntry} (he : e ∈ batch) (hbucket : e.primaryBucket.groupB = true) :
    e ∈ nonAOf eligible := by
  apply h.mem_nonAOf hsub he
  · intro hdead
    rw [hdead] at hbucket
    cases hbucket
  · revert hbucket
    cases e.primaryBucket <;> decide

/-- The share of group B that the batch has is reached before the other candidates. -/
theorem groupB_composeBatch (hnodup : eligible.Nodup) (hsub : batch.Sublist eligible)
    (hlength : batch.length = targetSize) (hmeets : MeetsQuota batch)
    (hcomp : Composable targetSize batch) (hsix : 6 ≤ targetSize) :
    targetSize * 30 ≤
      (composeBatch eligible targetSize).countP (fun e => e.primaryBucket.groupB) * 100 := by
  have hshare := hmeets.groupB (hlength.symm ▸ hsix)
  have hthere : batch.countP (fun e => e.primaryBucket.groupB) ≤
      (nonAOf eligible).countP fun e => e.primaryBucket.groupB :=
    countP_le_of_mem (hnodup.sublist hsub) fun e he hbucket =>
      hcomp.groupB_mem hsub.subset he hbucket
  have hminimum : groupBMinimum targetSize = (targetSize * 30 + 99) / 100 := if_pos hsix
  have hreached : groupBMinimum targetSize ≤
      (groupBPicks eligible targetSize).countP fun e => e.primaryBucket.groupB :=
    groupB_reached (by omega) hnodup (by omega)
  have hmore : (groupBPicks eligible targetSize).countP (fun e => e.primaryBucket.groupB) ≤
      (composeBatch eligible targetSize).countP fun e => e.primaryBucket.groupB :=
    (prefix_openingPicks.trans prefix_composeBatch).sublist.countP_le
  omega

theorem decay_composeBatch (hsub : batch.Sublist eligible) (hlength : batch.length = targetSize)
    (hmeets : MeetsQuota batch) (hcomp : Composable targetSize batch) (hsix : 6 ≤ targetSize) :
    ∃ e ∈ composeBatch eligible targetSize, e.primaryBucket.groupBDecay = true := by
  obtain ⟨e, he, hbucket⟩ := hmeets.decay (hlength.symm ▸ hsix)
  have hgroupB : e.primaryBucket.groupB = true := by
    revert hbucket
    cases e.primaryBucket <;> decide
  have htwo : 2 ≤ targetSize := by omega
  obtain ⟨c, hc, hdecay⟩ :=
    decay_reached htwo ⟨e, hcomp.groupB_mem hsub.subset he hgroupB, hbucket⟩
  exact ⟨c, subset_composeBatch hc, hdecay⟩

/-- The passes meet the quota wherever a batch of their make does. -/
theorem meetsQuota_composeBatch (hprepared : ∀ e ∈ eligible, e.Prepared)
    (hmints : (eligible.map fun e => e.identity.1).Nodup)
    (hpairs : (eligible.map fun e => e.identity.2).Nodup) (hsub : batch.Sublist eligible)
    (hlength : batch.length = targetSize) (hmeets : MeetsQuota batch)
    (hcomp : Composable targetSize batch) : MeetsQuota (composeBatch eligible targetSize) := by
  have hnodup : eligible.Nodup := hmints.of_map
  have hbatch := batch_composeBatch eligible targetSize
  have hfilled := length_composeBatch hnodup hsub hlength hmeets hcomp
  have hfirst := hcomp.first_groupA hsub.subset
  have hgroupA := countP_composeBatch_le (fun _ h => h) eligible targetSize
  rw [hfirst] at hgroupA
  have hlimit : groupALimit targetSize ≤ 4 ∧ groupALimit targetSize * 100 ≤ targetSize * 40 := by
    unfold groupALimit
    omega
  have hdead : 6 ≤ targetSize → ∃ e ∈ composeBatch eligible targetSize,
      e.isActive = false ∧ e.primaryBucket = .d1 := by
    intro hsix
    obtain ⟨e, -, hkind, hbucket, hfirst⟩ := hcomp.first hsub.subset hsix
    refine ⟨e, subset_composeBatch (prefix_groupBPicks.subset ?_), hkind, hbucket⟩
    rw [hfirst]
    exact List.mem_singleton_self e
  exact
    { mints := hbatch.nodup.map_on fun a ha b hb =>
        List.inj_on_of_nodup_map hmints (hbatch.sub ha) (hbatch.sub hb)
      pairs := hbatch.nodup.map_on fun a ha b hb =>
        List.inj_on_of_nodup_map hpairs (hbatch.sub ha) (hbatch.sub hb)
      winners := by
        have hwinners := winners_composeBatch_le eligible targetSize
        have hnone : (auditedFirst eligible targetSize).countP (fun e => e.primaryBucket = .a1) ≤
            (auditedFirst eligible targetSize).countP fun e => e.primaryBucket.groupA := by
          apply List.countP_mono_left
          intro e _ he
          rw [of_decide_eq_true he]
          rfl
        omega
      someGroupA := by
        rw [hfilled]
        exact someGroupA_composeBatch hsub hlength hmeets hcomp
      cap := by omega
      share := by
        rw [hfilled]
        omega
      trap := fun hsome => trap_composeBatch hnodup hsub hlength hmeets hcomp
        (List.countP_pos_iff.mpr hsome)
      dead := by
        rw [hfilled]
        intro hsix
        obtain ⟨e, he, -, hbucket⟩ := hdead hsix
        exact ⟨e, he, hbucket⟩
      watched := by
        rw [hfilled]
        intro hsix
        obtain ⟨e, he, hkind, -⟩ := hdead hsix
        exact ⟨e, he, (hprepared e (hbatch.sub he)).lane hkind⟩
      groupB := by
        rw [hfilled]
        exact groupB_composeBatch hnodup hsub hlength hmeets hcomp
      decay := by
        rw [hfilled]
        exact decay_composeBatch hsub hlength hmeets hcomp
      groupF := by
        intro e he
        rw [(hprepared e (hbatch.sub he)).bucket]
        exact groupF_assignBucket _ }

end Effort

/-! ## What is claimed of a view -/

/-- The members of group A. -/
def groupACount (selected : List QuotaEntry) : ℕ :=
  selected.countP fun e => e.primaryBucket.groupA

/-- Those of them that are tracked. -/
def activeA (selected : List QuotaEntry) : ℕ :=
  selected.countP fun e => e.isActive && e.primaryBucket.groupA

/-- Group A has at most four members and 40 percent of the batch. -/
def GroupAWithinShare (selected : List QuotaEntry) : Prop :=
  groupACount selected ≤ 4 ∧ groupACount selected * 100 ≤ selected.length * 40

instance (selected : List QuotaEntry) : Decidable (GroupAWithinShare selected) :=
  inferInstanceAs (Decidable (_ ∧ _))

def quotaTarget (active audit : List PoolCandidate) (maxItems : ℤ) : ℕ :=
  min maxItems.toNat (quotaPool active audit).eligible.length

/-- The quota is met whenever some batch of the target size meets it. -/
def BestEffort (active audit : List PoolCandidate) (maxItems : ℤ) (view : QuotaView) : Prop :=
  (∃ batch : List QuotaEntry, batch.Sublist (quotaPool active audit).eligible ∧
    batch.length = quotaTarget active audit maxItems ∧
    validateBatchQuota (batch.map QuotaEntry.quotaItem) = []) → view.quotaOk = true

/-- What a view keeps for any candidates. -/
structure QuotaKept (active audit : List PoolCandidate) (maxItems : ℤ) (view : QuotaView) :
    Prop where
  conserved : ((view.selectedCandidates.map QuotaEntry.candidate ++
    view.rejectedCandidates.map QuotaRejection.candidate).map PoolCandidate.clean).Perm
      ((active ++ audit).map PoolCandidate.clean)
  mints : (view.selectedCandidates.map fun e => e.candidate.mint).Nodup
  pairs : (view.selectedCandidates.map fun e => e.candidate.pair).Nodup
  size : (view.selectedCandidates.length : ℤ) ≤ maxItems
  groupACap : groupACount view.selectedCandidates ≤ 4
  activeGroupA : activeA view.selectedCandidates ≤ 4 ∧
    activeA view.selectedCandidates * 100 ≤ quotaTarget active audit maxItems * 40
  quotaOk_iff : view.quotaOk = true ↔
    view.selectedCandidates.length = quotaTarget active audit maxItems ∧
      validateBatchQuota (view.selectedCandidates.map QuotaEntry.quotaItem) = []
  groupA : view.quotaOk = true → GroupAWithinShare view.selectedCandidates
  bestEffort : (∃ batch : List QuotaEntry, batch.Sublist (quotaPool active audit).eligible ∧
    batch.length = quotaTarget active audit maxItems ∧
    Composable (quotaTarget active audit maxItems) batch ∧
    validateBatchQuota (batch.map QuotaEntry.quotaItem) = []) → view.quotaOk = true

theorem view_ok {active audit : List PoolCandidate} {maxItems : ℤ} {view : QuotaView}
    (h : buildClassifierQuotaView active audit maxItems = .ok view) :
    view.selectedCandidates =
        composeBatch (quotaPool active audit).eligible (quotaTarget active audit maxItems) ∧
      view.rejectedCandidates = (quotaPool active audit).rejected ++
        ((quotaPool active audit).eligible.filter fun e =>
          e.identity ∉ view.selectedCandidates.map QuotaEntry.identity).map QuotaEntry.rejected ∧
      (view.quotaOk = true ↔
        view.selectedCandidates.length = quotaTarget active audit maxItems ∧
          validateBatchQuota (view.selectedCandidates.map QuotaEntry.quotaItem) = []) := by
  unfold buildClassifierQuotaView at h
  split_ifs at h
  obtain rfl := Except.ok.inj h
  refine ⟨rfl, rfl, ?_⟩
  rw [decide_eq_true_iff]
  change _ ↔ (composeBatch _ _).length = _ ∧ _
  split_ifs with hfilled
  · simp only [List.append_eq_nil_iff, List.cons_ne_nil, and_false, false_iff, not_and]
    intro h
    exact absurd h hfilled
  · exact ⟨fun h => ⟨not_not.mp hfilled, h⟩, And.right⟩

theorem groupACount_composeBatch_le (eligible : List QuotaEntry) (targetSize : ℕ) :
    groupACount (composeBatch eligible targetSize) ≤ 4 := by
  have hle := countP_composeBatch_le (fun _ h => h) eligible targetSize
  have haudited : (auditedFirst eligible targetSize).countP (fun e => e.primaryBucket.groupA) ≤
      (auditedFirst eligible targetSize).length := List.countP_le_length
  have hone := length_auditedFirst_le eligible targetSize
  unfold groupALimit at hle
  unfold groupACount
  omega

/-- The first pass takes none that is tracked. -/
theorem activeA_composeBatch_le (eligible : List QuotaEntry) (targetSize : ℕ) :
    activeA (composeBatch eligible targetSize) ≤ groupALimit targetSize := by
  have hle := countP_composeBatch_le (p := fun e => e.isActive && e.primaryBucket.groupA)
    (fun e he => (Bool.and_eq_true_iff.mp he).2) eligible targetSize
  have hnone : (auditedFirst eligible targetSize).countP
      (fun e => e.isActive && e.primaryBucket.groupA) = 0 := by
    apply List.countP_eq_zero.mpr
    intro e he
    simp [inactive_auditedFirst e he]
  unfold activeA
  omega

/-- The selected candidates and what is left of the eligible ones. -/
theorem conserved_view {active audit : List PoolCandidate} {selected : List QuotaEntry} {n : ℕ}
    {left : QuotaEntry → Bool} (hbatch : Batch (quotaPool active audit).eligible n selected)
    (hleft : ∀ e, left e = true ↔ e.identity ∉ selected.map QuotaEntry.identity) :
    ((selected.map QuotaEntry.candidate ++ ((quotaPool active audit).rejected ++
        ((quotaPool active audit).eligible.filter left).map QuotaEntry.rejected).map
          QuotaRejection.candidate).map PoolCandidate.clean).Perm
      ((active ++ audit).map PoolCandidate.clean) := by
  have hidentity : ((quotaPool active audit).eligible.map QuotaEntry.identity).Nodup := by
    unfold List.Nodup
    rw [List.pairwise_map]
    exact (apart_quotaPool active audit).apart.imp fun hclash hsame =>
      hclash (PoolCandidate.clashes_of_identity hsame)
  have hsplit := FirstWins.perm_append_remainder hidentity hbatch.nodup hbatch.sub hleft
  have hrejected : ∀ es : List QuotaEntry, (es.map QuotaEntry.rejected).map
      QuotaRejection.candidate = es.map QuotaEntry.candidate := by
    intro es
    rw [List.map_map]
    rfl
  apply List.Perm.trans _ (held_quotaPool active audit)
  apply List.Perm.map
  rw [List.map_append, hrejected, QuotaPool.held]
  have hmoved := hsplit.map QuotaEntry.candidate
  rw [List.map_append] at hmoved
  apply List.Perm.trans _ (hmoved.append_right _)
  rw [List.append_assoc]
  exact List.perm_append_comm.append_left _

theorem identity_nodup (active audit : List PoolCandidate) :
    ((quotaPool active audit).eligible.map fun e => e.identity.1).Nodup ∧
      ((quotaPool active audit).eligible.map fun e => e.identity.2).Nodup := by
  have hapart := (apart_quotaPool active audit).apart
  constructor
  · exact List.pairwise_map.mpr (hapart.imp fun hclash hsame =>
      hclash (.inl (congrArg strip hsame)))
  · exact List.pairwise_map.mpr (hapart.imp fun hclash hsame =>
      hclash (.inr (congrArg strip hsame)))

/-- For every target the view accepts, it is made, and keeps its candidates, its size, the cap of
group A, the share of its active members, and the quota rules where it says so. It says so
wherever some batch of the target size and of the make of the passes meets them. -/
theorem quotaView_kept (active audit : List PoolCandidate) (maxItems : ℤ) (h₁ : 1 ≤ maxItems)
    (h₂ : maxItems ≤ 10) : ∃ view, buildClassifierQuotaView active audit maxItems = .ok view ∧
      QuotaKept active audit maxItems view := by
  have hreturns : ∃ view, buildClassifierQuotaView active audit maxItems = .ok view := by
    unfold buildClassifierQuotaView
    rw [if_neg (by omega)]
    exact ⟨_, rfl⟩
  obtain ⟨view, hview⟩ := hreturns
  refine ⟨view, hview, ?_⟩
  obtain ⟨hselected, hrejected, hok⟩ := view_ok hview
  set target := quotaTarget active audit maxItems with htarget
  have hbatch : Batch (quotaPool active audit).eligible target view.selectedCandidates := by
    rw [hselected]
    exact batch_composeBatch _ target
  have hlimit : activeA view.selectedCandidates ≤ groupALimit target := by
    rw [hselected]
    exact activeA_composeBatch_le _ target
  have hapart : view.selectedCandidates.Pairwise fun a b => ¬a.candidate.Clashes b.candidate := by
    have hsymm : Std.Symm fun a b : QuotaEntry => ¬a.candidate.Clashes b.candidate :=
      ⟨fun a b h hclash => h (PoolCandidate.clashes_symm hclash)⟩
    apply hbatch.nodup.pairwise_of_forall_ne
    intro a ha b hb hne
    exact (apart_quotaPool active audit).apart.forall (hbatch.sub ha) (hbatch.sub hb) hne
  have hsize : target ≤ maxItems.toNat := Nat.min_le_left _ _
  unfold groupALimit at hlimit
  exact
    { conserved := by
        rw [hrejected]
        exact conserved_view hbatch fun _ => decide_eq_true_iff
      mints := List.pairwise_map.mpr (hapart.imp fun hclash hsame => hclash (.inl hsame))
      pairs := List.pairwise_map.mpr (hapart.imp fun hclash hsame => hclash (.inr hsame))
      size := by
        have := hbatch.size
        omega
      groupACap := by
        rw [hselected]
        exact groupACount_composeBatch_le _ target
      activeGroupA := by
        rw [← htarget]
        omega
      quotaOk_iff := hok
      groupA := by
        intro h
        have hmeets := (validateBatchQuota_iff _).mp (hok.mp h).2
        exact ⟨hmeets.cap, hmeets.share⟩
      bestEffort := by
        rintro ⟨batch, hsub, hlength, hcomp, hvalid⟩
        obtain ⟨hmints, hpairs⟩ := identity_nodup active audit
        have hmeets := (validateBatchQuota_iff batch).mp hvalid
        rw [hok, hselected]
        exact ⟨length_composeBatch hmints.of_map hsub hlength hmeets hcomp,
          (validateBatchQuota_iff _).mpr (meetsQuota_composeBatch
            (prepared_quotaPool active audit) hmints hpairs hsub hlength hmeets hcomp)⟩ }

theorem quotaView_kept_single :
    ∃ view, buildClassifierQuotaView [freshCandidate "m1" "p1"] [] 1 = .ok view ∧
      QuotaKept [freshCandidate "m1" "p1"] [] 1 view :=
  quotaView_kept _ _ 1 (by decide) (by decide)

/-- A fresh candidate with market figures. -/
def marketCandidate (mint : String) (market : Market) : PoolCandidate :=
  { freshCandidate mint mint with market := market }

/-- Wick candidates. -/
def wickMarket : Market :=
  { liquidityUsd := some 5000, volume5m := some 1000, priceChange5m := some (-20) }

/-- A market of small volume with a change of price. -/
def quietMarket (priceChange1h : ℚ) : Market :=
  { volume1h := some 1, volume24h := some 100, priceChange1h := some priceChange1h }

def missedActive : List PoolCandidate :=
  [marketCandidate "decay" (quietMarket (-1)), marketCandidate "rise" (quietMarket 1),
    marketCandidate "wick" wickMarket, marketCandidate "liquidity1" (quietMarket 11),
    marketCandidate "liquidity2" (quietMarket 11), marketCandidate "dead" {}]

def missedAudit : List PoolCandidate :=
  [{ marketCandidate "watch" (quietMarket 0) with
      auditOnly := true, trackingLane := some "WATCH_ONLY" }]

/-- Five wick candidates leave a batch of two, all of group A. A dead candidate at the end of the
list is not reached, though the batch that has it in place of the one before meets the quota. -/
theorem not_bestEffort_missed :
    (∃ view, buildClassifierQuotaView
        (["m1", "m2", "m3", "m4", "m5"].map fun mint => marketCandidate mint wickMarket) [] 5 =
          .ok view ∧ ¬GroupAWithinShare view.selectedCandidates) ∧
      ∃ view, buildClassifierQuotaView missedActive missedAudit 6 = .ok view ∧
        ¬BestEffort missedActive missedAudit 6 view := by
  constructor
  · refine ⟨_, rfl, ?_⟩
    decide
  · refine ⟨_, rfl, ?_⟩
    intro h
    have hok := h ⟨_, List.eraseIdx_sublist _ 4, by decide, by decide⟩
    revert hok
    decide

end PrinterV1.Discovery
