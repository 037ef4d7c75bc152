import Mathlib.Data.List.Infix
import PrinterV1.Discovery.QualifiedSelection

/-!
# The quota view

`build_classifier_quota_view` prepares the candidates, fills a batch in eight
passes over sub-lists of what is eligible, and has the batch validated. The
passes keep the batch within its size and its members of group A within a
limit; whether the quota is met is only found out at the end.
-/

namespace PrinterV1.Discovery

open Python

attribute [local instance] lawfulTextPair

/-! ## The source -/

def rejectionBatchQuotaExceeded : String := "BATCH_QUOTA_EXCEEDED"
def rejectionWinnerCapExceeded : String := "WINNER_CAP_EXCEEDED"

inductive CandidateKind
  | activeTracking | auditOnly
  deriving DecidableEq, Repr

structure QuotaEntry where
  candidate : PoolCandidate
  candidateKind : CandidateKind
  primaryBucket : Bucket
  bucketName : String
  deriving DecidableEq

/-- A rejected candidate; a candidate the first loop blocks has no kind. -/
structure QuotaRejection where
  candidate : PoolCandidate
  candidateKind : Option CandidateKind
  bucket : Option Bucket
  rejectionReason : String
  deriving DecidableEq

/-- The variables of the preparation. -/
structure QuotaPool where
  eligible : List QuotaEntry := []
  rejected : List QuotaRejection := []
  seenMints : List String := []
  seenPairs : List String := []
  deriving DecidableEq

namespace QuotaPool

/-- Why `prepare` rejects a candidate. -/
def reason (s : QuotaPool) (clean : PoolCandidate) (kind : CandidateKind) : Option String :=
  if clean.untraced then some rejectionNoSourceTrace
  else if clean.mint ∈ s.seenMints then some rejectionMintDuplicate
  else if clean.pair ∈ s.seenPairs then some rejectionPairDuplicate
  else if !clean.freshSource then some rejectionStaleSourceData
  else if kind = .auditOnly ∧ (!clean.auditOnly ∨ clean.trackingLane ≠ some "WATCH_ONLY") then
    some "AUDIT_ONLY_CONTRACT_INVALID"
  else none

/-- `prepare` -/
def prepare (s : QuotaPool) (candidate : PoolCandidate) (kind : CandidateKind) : QuotaPool :=
  let clean := candidate.clean
  match s.reason clean kind with
  | some reason => { s with rejected := s.rejected ++ [⟨clean, some kind, none, reason⟩] }
  | none =>
    let bucket := assignBucket clean
    { s with
      seenMints := clean.mint :: s.seenMints
      seenPairs := clean.pair :: s.seenPairs
      eligible := s.eligible ++ [⟨clean, kind, bucket, bucket.bucketName⟩] }

/-- An active candidate that is marked for the audit is blocked. -/
def step (s : QuotaPool) (input : PoolCandidate × CandidateKind) : QuotaPool :=
  match input.2 with
  | .activeTracking =>
    if input.1.auditOnly then
      { s with rejected :=
          s.rejected ++ [⟨input.1, none, none, "AUDIT_ONLY_ACTIVE_TRACKING_BLOCKED"⟩] }
    else s.prepare input.1 .activeTracking
  | .auditOnly => s.prepare input.1 .auditOnly

end QuotaPool

def quotaInputs (activeCandidates auditOnlyCandidates : List PoolCandidate) :
    List (PoolCandidate × CandidateKind) :=
  activeCandidates.map (·, .activeTracking) ++ auditOnlyCandidates.map (·, .auditOnly)

def quotaPool (activeCandidates auditOnlyCandidates : List PoolCandidate) : QuotaPool :=
  Runs.run QuotaPool.step {} (quotaInputs activeCandidates auditOnlyCandidates)

section Passes

variable (targetSize : ℕ)

/-- `take` -/
def take (selected : List QuotaEntry) (c : QuotaEntry) : List QuotaEntry :=
  if c ∉ selected ∧ selected.length < targetSize then selected ++ [c] else selected

/-- `if candidates: take(candidates[0])` -/
def takeFirst (selected : List QuotaEntry) : List QuotaEntry → List QuotaEntry
  | [] => selected
  | c :: _ => take targetSize selected c

/-- A loop that takes candidates until the batch has enough. -/
def takeUntil (enough : List QuotaEntry → Bool) (selected : List QuotaEntry) :
    List QuotaEntry → List QuotaEntry
  | [] => selected
  | c :: cs =>
    if enough selected then selected else takeUntil enough (take targetSize selected c) cs

end Passes

def groupALimit (targetSize : ℕ) : ℕ := min 4 (targetSize * 40 / 100)

def groupBMinimum (targetSize : ℕ) : ℕ :=
  if targetSize ≥ 6 then (targetSize * 30 + 99) / 100 else 0

def QuotaEntry.isActive (e : QuotaEntry) : Bool := e.candidateKind = .activeTracking

/-- The first pass: `take(audit_d1[0])`, or else `take(audit_watch[0])`. -/
def auditedFirst (eligible : List QuotaEntry) (targetSize : ℕ) : List QuotaEntry :=
  let auditWatch := eligible.filter fun e => e.candidateKind = .auditOnly
  let auditD1 := auditWatch.filter fun e => e.primaryBucket = .d1
  if targetSize ≥ 6 then
    takeFirst targetSize [] (if auditD1 ≠ [] then auditD1 else auditWatch)
  else []

/-- `traps` -/
def trapsOf (eligible : List QuotaEntry) : List QuotaEntry :=
  (eligible.filter QuotaEntry.isActive).filter fun e => e.primaryBucket.trapFailure

/-- `winners` -/
def winnersOf (eligible : List QuotaEntry) : List QuotaEntry :=
  (eligible.filter QuotaEntry.isActive).filter fun e => e.primaryBucket = .a1

/-- `non_a` -/
def nonAOf (eligible : List QuotaEntry) : List QuotaEntry :=
  (eligible.filter QuotaEntry.isActive).filter fun e => !e.primaryBucket.groupA

/-- The passes up to the minimum of group B. -/
def groupBPicks (eligible : List QuotaEntry) (targetSize : ℕ) : List QuotaEntry :=
  let nonA := nonAOf eligible
  let groupBOrD := nonA.filter fun e => e.primaryBucket.groupB || e.primaryBucket.groupD
  let groupBDecay := nonA.filter fun e => e.primaryBucket.groupBDecay
  let enoughB := fun selected : List QuotaEntry =>
    decide (selected.countP (fun e => e.primaryBucket.groupB) ≥ groupBMinimum targetSize)
  let decayed :=
    takeFirst targetSize (auditedFirst eligible targetSize)
      (if groupBDecay ≠ [] then groupBDecay else groupBOrD)
  takeUntil targetSize enoughB decayed (nonA.filter fun e => e.primaryBucket.groupB)

/-- The passes up to the first winner. -/
def openingPicks (eligible : List QuotaEntry) (targetSize : ℕ) : List QuotaEntry :=
  let filledB := groupBPicks eligible targetSize
  let trapped :=
    if groupALimit targetSize > 0 then takeFirst targetSize filledB (trapsOf eligible) else filledB
  if groupALimit targetSize > 1 then takeFirst targetSize trapped (winnersOf eligible) else trapped

/-- The batch, pass after pass. -/
def composeBatch (eligible : List QuotaEntry) (targetSize : ℕ) : List QuotaEntry :=
  let enoughA := fun selected : List QuotaEntry =>
    decide (selected.countP (fun e => e.primaryBucket.groupA) ≥ groupALimit targetSize)
  let filled :=
    takeUntil targetSize (fun _ => false) (openingPicks eligible targetSize) (nonAOf eligible)
  let moreTraps := takeUntil targetSize enoughA filled (trapsOf eligible).tail
  takeUntil targetSize enoughA moreTraps ((winnersOf eligible).tail.take 1)

structure QuotaView where
  quotaOk : Bool
  quotaViolations : List String
  candidatePoolCount : ℕ
  eligibleCount : ℕ
  selectedCount : ℕ
  rejectedCount : ℕ
  selectedActiveTrackingCount : ℕ
  selectedAuditOnlyCount : ℕ
  selectedByBucket : List (Bucket × ℕ)
  selectedCandidates : List QuotaEntry
  rejectedCandidates : List QuotaRejection
  deriving DecidableEq

def QuotaEntry.identity (e : QuotaEntry) : String × String := e.candidate.identity

def QuotaEntry.quotaItem (e : QuotaEntry) : QuotaItem :=
  { tokenMint := e.identity.1
    pairAddress := e.identity.2
    primaryBucket := e.primaryBucket
    trackingLane := e.candidate.trackingLane }

/-- An eligible candidate that was not selected. -/
def QuotaEntry.rejected (e : QuotaEntry) : QuotaRejection :=
  { candidate := e.candidate
    candidateKind := some e.candidateKind
    bucket := some e.primaryBucket
    rejectionReason :=
      if e.primaryBucket = .a1 then rejectionWinnerCapExceeded else rejectionBatchQuotaExceeded }

/-- `build_classifier_quota_view` -/
def buildClassifierQuotaView (activeCandidates auditOnlyCandidates : List PoolCandidate)
    (maxItems : ℤ) : Except String QuotaView :=
  if maxItems < 1 ∨ maxItems > 10 then .error "max_items must be between 1 and 10"
  else
    let pool := quotaPool activeCandidates auditOnlyCandidates
    let targetSize := min maxItems.toNat pool.eligible.length
    let selected := composeBatch pool.eligible targetSize
    let selectedIds := selected.map QuotaEntry.identity
    let left := pool.eligible.filter fun e => e.identity ∉ selectedIds
    let rejected := pool.rejected ++ left.map QuotaEntry.rejected
    let validated := validateBatchQuota (selected.map QuotaEntry.quotaItem)
    let violations :=
      if selected.length ≠ targetSize then validated ++ ["SELECTION_TARGET_NOT_FILLED"]
      else validated
    let ofBucket := fun b => selected.countP fun e => e.primaryBucket = b
    .ok
      { quotaOk := violations = []
        quotaViolations := violations
        candidatePoolCount := activeCandidates.length + auditOnlyCandidates.length
        eligibleCount := pool.eligible.length
        selectedCount := selected.length
        rejectedCount := rejected.length
        selectedActiveTrackingCount := selected.countP QuotaEntry.isActive
        selectedAuditOnlyCount := selected.countP fun e => e.candidateKind = .auditOnly
        selectedByBucket :=
          (Bucket.all.filter fun b => ofBucket b ≠ 0).map fun b => (b, ofBucket b)
        selectedCandidates := selected
        rejectedCandidates := rejected }

/-! ## The preparation -/

theorem QuotaPool.prepare_of_some {s : QuotaPool} {c : PoolCandidate} {kind : CandidateKind}
    {reason : String} (h : s.reason c.clean kind = some reason) :
    s.prepare c kind = { s with rejected := s.rejected ++ [⟨c.clean, some kind, none, reason⟩] } := by
  simp only [prepare, h]

theorem QuotaPool.prepare_of_none {s : QuotaPool} {c : PoolCandidate} {kind : CandidateKind}
    (h : s.reason c.clean kind = none) :
    s.prepare c kind =
      { s with
        seenMints := c.clean.mint :: s.seenMints
        seenPairs := c.clean.pair :: s.seenPairs
        eligible := s.eligible ++
          [⟨c.clean, kind, assignBucket c.clean, (assignBucket c.clean).bucketName⟩] } := by
  simp only [prepare, h]

theorem QuotaPool.reason_eq_none {s : QuotaPool} {c : PoolCandidate} {kind : CandidateKind}
    (h : s.reason c kind = none) : c.mint ∉ s.seenMints ∧ c.pair ∉ s.seenPairs := by
  unfold reason at h
  split_ifs at h with _ hmint hpair
  exact ⟨hmint, hpair⟩

/-- The candidates a pool holds. -/
def QuotaPool.held (s : QuotaPool) : List PoolCandidate :=
  s.eligible.map QuotaEntry.candidate ++ s.rejected.map QuotaRejection.candidate

/-- The seen sets are those of the eligible candidates, no two of which clash. -/
structure QuotaPool.Apart (s : QuotaPool) : Prop where
  mints : ∀ e ∈ s.eligible, e.candidate.mint ∈ s.seenMints
  pairs : ∀ e ∈ s.eligible, e.candidate.pair ∈ s.seenPairs
  apart : s.eligible.Pairwise fun a b => ¬a.candidate.Clashes b.candidate

theorem QuotaPool.Apart.prepare {s : QuotaPool} (h : s.Apart) (c : PoolCandidate)
    (kind : CandidateKind) : (s.prepare c kind).Apart := by
  cases hreason : s.reason c.clean kind with
  | some reason =>
    rw [prepare_of_some hreason]
    exact ⟨h.mints, h.pairs, h.apart⟩
  | none =>
    obtain ⟨hmint, hpair⟩ := reason_eq_none hreason
    rw [prepare_of_none hreason]
    constructor
    · intro e he
      rcases List.mem_append.mp he with he | he
      · exact List.mem_cons_of_mem _ (h.mints e he)
      · rw [List.mem_singleton.mp he]
        exact List.mem_cons_self
    · intro e he
      rcases List.mem_append.mp he with he | he
      · exact List.mem_cons_of_mem _ (h.pairs e he)
      · rw [List.mem_singleton.mp he]
        exact List.mem_cons_self
    · refine List.pairwise_append.mpr ⟨h.apart, List.pairwise_singleton _ _, ?_⟩
      intro e he b hb hclash
      rw [List.mem_singleton.mp hb] at hclash
      rcases hclash with hsame | hsame
      · exact hmint (hsame ▸ h.mints e he)
      · exact hpair (hsame ▸ h.pairs e he)

theorem QuotaPool.held_prepare (s : QuotaPool) (c : PoolCandidate) (kind : CandidateKind) :
    (s.prepare c kind).held.Perm (s.held ++ [c.clean]) := by
  unfold held
  cases hreason : s.reason c.clean kind with
  | some reason =>
    rw [prepare_of_some hreason]
    simp
  | none =>
    rw [prepare_of_none hreason]
    simp only [List.map_append, List.map_cons, List.map_nil, List.append_assoc]
    apply List.Perm.append_left
    exact List.perm_append_comm

theorem QuotaPool.Apart.step {s : QuotaPool} (h : s.Apart)
    (input : PoolCandidate × CandidateKind) : (s.step input).Apart := by
  unfold QuotaPool.step
  cases input.2 with
  | activeTracking =>
    dsimp only
    split_ifs with hblocked
    · exact ⟨h.mints, h.pairs, h.apart⟩
    · exact h.prepare input.1 .activeTracking
  | auditOnly => exact h.prepare input.1 .auditOnly

/-- A candidate goes to one of the two lists, but for the bucket its caller supplied. -/
theorem QuotaPool.held_step (s : QuotaPool) (input : PoolCandidate × CandidateKind) :
    ((s.step input).held.map PoolCandidate.clean).Perm
      (s.held.map PoolCandidate.clean ++ [input.1.clean]) := by
  have hprepare : ∀ kind, ((s.prepare input.1 kind).held.map PoolCandidate.clean).Perm
      (s.held.map PoolCandidate.clean ++ [input.1.clean]) := by
    intro kind
    have h := (s.held_prepare input.1 kind).map PoolCandidate.clean
    rw [List.map_append] at h
    exact h
  unfold QuotaPool.step
  cases input.2 with
  | activeTracking =>
    dsimp only
    split_ifs with hblocked
    · simp [held]
    · exact hprepare .activeTracking
  | auditOnly => exact hprepare .auditOnly

theorem apart_quotaPool (active audit : List PoolCandidate) : (quotaPool active audit).Apart :=
  Runs.invariant (I := QuotaPool.Apart) (fun _ input h => h.step input)
    ⟨by simp, by simp, List.Pairwise.nil⟩ (quotaInputs active audit)

theorem held_run (inputs : List (PoolCandidate × CandidateKind)) : ∀ s : QuotaPool,
    ((Runs.run QuotaPool.step s inputs).held.map PoolCandidate.clean).Perm
      (s.held.map PoolCandidate.clean ++ inputs.map fun input => input.1.clean) := by
  induction inputs with
  | nil => intro s; simp
  | cons input inputs ih =>
    intro s
    apply (ih (s.step input)).trans
    rw [List.map_cons, ← List.singleton_append, ← List.append_assoc]
    exact (s.held_step input).append_right _

theorem held_quotaPool (active audit : List PoolCandidate) :
    ((quotaPool active audit).held.map PoolCandidate.clean).Perm
      ((active ++ audit).map PoolCandidate.clean) := by
  have hinputs : (quotaInputs active audit).map (fun input => input.1.clean) =
      (active ++ audit).map PoolCandidate.clean := by
    simp [quotaInputs, Function.comp_def]
  have h := held_run (quotaInputs active audit) {}
  rw [hinputs] at h
  exact h

/-! ## The passes -/

/-- What every pass keeps. -/
structure Batch (eligible : List QuotaEntry) (targetSize : ℕ) (selected : List QuotaEntry) :
    Prop where
  nodup : selected.Nodup
  sub : selected ⊆ eligible
  size : selected.length ≤ targetSize

section PassLemmas

variable {eligible selected cs : List QuotaEntry} {targetSize : ℕ} {c : QuotaEntry}

theorem Batch.take (h : Batch eligible targetSize selected) (hc : c ∈ eligible) :
    Batch eligible targetSize (take targetSize selected c) := by
  unfold Discovery.take
  split_ifs with hfits
  · constructor
    · exact List.Nodup.append h.nodup (List.nodup_singleton c) (by simpa using hfits.1)
    · exact List.append_subset.mpr ⟨h.sub, by simpa using hc⟩
    · rw [List.length_append, List.length_singleton]
      omega
  · exact h

theorem Batch.takeFirst (h : Batch eligible targetSize selected) (hcs : cs ⊆ eligible) :
    Batch eligible targetSize (takeFirst targetSize selected cs) := by
  cases cs with
  | nil => exact h
  | cons c cs => exact h.take (hcs List.mem_cons_self)

theorem Batch.takeUntil (enough : List QuotaEntry → Bool) (hcs : cs ⊆ eligible) :
    ∀ {selected}, Batch eligible targetSize selected →
      Batch eligible targetSize (takeUntil targetSize enough selected cs) := by
  induction cs with
  | nil => intro selected h; exact h
  | cons c cs ih =>
    intro selected h
    unfold Discovery.takeUntil
    split_ifs
    · exact h
    · exact ih (fun x hx => hcs (List.mem_cons_of_mem c hx)) (h.take (hcs List.mem_cons_self))

/-- A pass only adds to the batch. -/
theorem prefix_take (selected : List QuotaEntry) (c : QuotaEntry) :
    selected <+: Discovery.take targetSize selected c := by
  unfold Discovery.take
  split_ifs
  · exact List.prefix_append selected [c]
  · exact List.prefix_refl selected

theorem prefix_takeFirst (n : ℕ) (selected cs : List QuotaEntry) :
    selected <+: Discovery.takeFirst n selected cs := by
  cases cs with
  | nil => exact List.prefix_refl selected
  | cons c cs => exact prefix_take selected c

theorem prefix_takeUntil (n : ℕ) (enough : List QuotaEntry → Bool) (cs : List QuotaEntry) :
    ∀ selected, selected <+: Discovery.takeUntil n enough selected cs := by
  induction cs with
  | nil => intro selected; exact List.prefix_refl selected
  | cons c cs ih =>
    intro selected
    unfold Discovery.takeUntil
    split_ifs
    · exact List.prefix_refl selected
    · exact (prefix_take selected c).trans (ih _)

section Counts

variable {p : QuotaEntry → Bool}

theorem countP_take_le (n : ℕ) (selected : List QuotaEntry) (c : QuotaEntry) :
    (take n selected c).countP p ≤ selected.countP p + 1 := by
  unfold Discovery.take
  split_ifs
  · rw [List.countP_append]
    exact Nat.add_le_add_left List.countP_le_length _
  · omega

theorem countP_take_eq (hc : p c = false) :
    (take targetSize selected c).countP p = selected.countP p := by
  unfold Discovery.take
  split_ifs
  · rw [List.countP_append, List.countP_singleton, hc]
    rfl
  · rfl

theorem countP_takeFirst_le (n : ℕ) (selected cs : List QuotaEntry) :
    (takeFirst n selected cs).countP p ≤ selected.countP p + 1 := by
  cases cs with
  | nil => exact Nat.le_succ _
  | cons c cs => exact countP_take_le n selected c

theorem countP_takeFirst_eq (hcs : ∀ c ∈ cs, p c = false) :
    (takeFirst targetSize selected cs).countP p = selected.countP p := by
  cases cs with
  | nil => rfl
  | cons c cs => exact countP_take_eq (hcs c List.mem_cons_self)

theorem countP_takeUntil_eq (enough : List QuotaEntry → Bool) (hcs : ∀ c ∈ cs, p c = false) :
    ∀ selected, (takeUntil targetSize enough selected cs).countP p = selected.countP p := by
  induction cs with
  | nil => intro selected; rfl
  | cons c cs ih =>
    intro selected
    unfold Discovery.takeUntil
    split_ifs
    · rfl
    · rw [ih (fun x hx => hcs x (List.mem_cons_of_mem c hx)),
        countP_take_eq (hcs c List.mem_cons_self)]

/-- A loop that stops once there are enough does not pass the limit. -/
theorem countP_takeUntil_le {enough : List QuotaEntry → Bool} {limit : ℕ}
    (hstop : ∀ selected, enough selected = false → selected.countP p < limit)
    (cs : List QuotaEntry) :
    ∀ selected, selected.countP p ≤ limit →
      (takeUntil targetSize enough selected cs).countP p ≤ limit := by
  induction cs with
  | nil => intro selected h; exact h
  | cons c cs ih =>
    intro selected h
    unfold Discovery.takeUntil
    split_ifs with henough
    · exact h
    · apply ih
      have hroom := hstop selected (by simpa using henough)
      have hone := countP_take_le (p := p) targetSize selected c
      omega

end Counts

end PassLemmas

theorem length_auditedFirst_le (eligible : List QuotaEntry) (targetSize : ℕ) :
    (auditedFirst eligible targetSize).length ≤ 1 := by
  have hone : ∀ cs, (takeFirst targetSize [] cs).length ≤ 1 := by
    intro cs
    have h := countP_takeFirst_le (p := fun _ => true) targetSize [] cs
    simpa using h
  unfold auditedFirst
  dsimp only
  split_ifs
  · exact hone _
  · exact hone _
  · exact Nat.zero_le _

theorem batch_auditedFirst (eligible : List QuotaEntry) (targetSize : ℕ) :
    Batch eligible targetSize (auditedFirst eligible targetSize) := by
  have hempty : Batch eligible targetSize [] := ⟨List.nodup_nil, List.nil_subset _, Nat.zero_le _⟩
  unfold auditedFirst
  extract_lets auditWatch auditD1
  have hwatch : auditWatch ⊆ eligible := List.filter_subset_self _
  split_ifs
  · exact hempty.takeFirst (List.Subset.trans (List.filter_subset_self _) hwatch)
  · exact hempty.takeFirst hwatch
  · exact hempty

theorem nonAOf_subset (eligible : List QuotaEntry) : nonAOf eligible ⊆ eligible :=
  List.Subset.trans (List.filter_subset_self _) (List.filter_subset_self _)

theorem trapsOf_subset (eligible : List QuotaEntry) : trapsOf eligible ⊆ eligible :=
  List.Subset.trans (List.filter_subset_self _) (List.filter_subset_self _)

theorem winnersOf_subset (eligible : List QuotaEntry) : winnersOf eligible ⊆ eligible :=
  List.Subset.trans (List.filter_subset_self _) (List.filter_subset_self _)

theorem batch_groupBPicks (eligible : List QuotaEntry) (targetSize : ℕ) :
    Batch eligible targetSize (groupBPicks eligible targetSize) := by
  unfold groupBPicks
  extract_lets nonA groupBOrD groupBDecay enoughB decayed
  have hnonA : nonA ⊆ eligible := nonAOf_subset eligible
  have hdecayed : Batch eligible targetSize decayed := by
    apply (batch_auditedFirst eligible targetSize).takeFirst
    split_ifs
    · exact List.Subset.trans (List.filter_subset_self _) hnonA
    · exact List.Subset.trans (List.filter_subset_self _) hnonA
  exact hdecayed.takeUntil enoughB (List.Subset.trans (List.filter_subset_self _) hnonA)

theorem batch_openingPicks (eligible : List QuotaEntry) (targetSize : ℕ) :
    Batch eligible targetSize (openingPicks eligible targetSize) := by
  unfold openingPicks
  extract_lets filledB trapped
  have hfilledB : Batch eligible targetSize filledB := batch_groupBPicks eligible targetSize
  have htrapped : Batch eligible targetSize trapped := by
    unfold trapped
    split_ifs
    · exact hfilledB.takeFirst (trapsOf_subset eligible)
    · exact hfilledB
  split_ifs
  · exact htrapped.takeFirst (winnersOf_subset eligible)
  · exact htrapped

/-- The batch the passes fill. -/
theorem batch_composeBatch (eligible : List QuotaEntry) (targetSize : ℕ) :
    Batch eligible targetSize (composeBatch eligible targetSize) := by
  unfold composeBatch
  extract_lets enoughA filled moreTraps
  have hfilled : Batch eligible targetSize filled :=
    (batch_openingPicks eligible targetSize).takeUntil _ (nonAOf_subset eligible)
  have hmore : Batch eligible targetSize moreTraps :=
    hfilled.takeUntil enoughA (List.Subset.trans (List.tail_subset _) (trapsOf_subset eligible))
  exact hmore.takeUntil enoughA (List.Subset.trans (List.take_subset _ _)
    (List.Subset.trans (List.tail_subset _) (winnersOf_subset eligible)))

section GroupA

variable {p : QuotaEntry → Bool}

theorem nonAOf_eq_false (hp : ∀ e, p e = true → e.primaryBucket.groupA = true)
    {eligible : List QuotaEntry} : ∀ c ∈ nonAOf eligible, p c = false := by
  intro c hc
  have hbucket : c.primaryBucket.groupA = false := by simpa using (List.mem_filter.mp hc).2
  apply Bool.eq_false_iff.mpr
  intro hpc
  rw [hp c hpc] at hbucket
  cases hbucket

theorem countP_groupBPicks (hp : ∀ e, p e = true → e.primaryBucket.groupA = true)
    (eligible : List QuotaEntry) (targetSize : ℕ) :
    (groupBPicks eligible targetSize).countP p = (auditedFirst eligible targetSize).countP p := by
  unfold groupBPicks
  extract_lets nonA groupBOrD groupBDecay enoughB decayed
  have hnonA : ∀ c ∈ nonA, p c = false := nonAOf_eq_false hp
  have hdecayed : decayed.countP p = (auditedFirst eligible targetSize).countP p := by
    apply countP_takeFirst_eq
    intro c hc
    split_ifs at hc
    · exact hnonA c (List.mem_of_mem_filter hc)
    · exact hnonA c (List.mem_of_mem_filter hc)
  rw [countP_takeUntil_eq _ (fun c hc => hnonA c (List.mem_of_mem_filter hc)), hdecayed]

/-- Before the batch is filled it has one trap and one winner, where their limit is so high. -/
theorem countP_openingPicks_le (hp : ∀ e, p e = true → e.primaryBucket.groupA = true)
    (eligible : List QuotaEntry) (targetSize : ℕ) :
    (openingPicks eligible targetSize).countP p ≤
      (auditedFirst eligible targetSize).countP p + min 2 (groupALimit targetSize) := by
  unfold openingPicks
  extract_lets filledB trapped
  have hfilledB : filledB.countP p = (auditedFirst eligible targetSize).countP p :=
    countP_groupBPicks hp eligible targetSize
  have htrapped : trapped.countP p ≤ filledB.countP p + min 1 (groupALimit targetSize) := by
    have hone := countP_takeFirst_le (p := p) targetSize filledB (trapsOf eligible)
    unfold trapped
    split_ifs <;> omega
  have hone := countP_takeFirst_le (p := p) targetSize trapped (winnersOf eligible)
  split_ifs <;> omega

/-- Past the first pass no more members of group A are taken than their limit. -/
theorem countP_composeBatch_le (hp : ∀ e, p e = true → e.primaryBucket.groupA = true)
    (eligible : List QuotaEntry) (targetSize : ℕ) :
    (composeBatch eligible targetSize).countP p ≤ max (groupALimit targetSize)
      ((auditedFirst eligible targetSize).countP p + min 2 (groupALimit targetSize)) := by
  have hpicks := countP_openingPicks_le hp eligible targetSize
  unfold composeBatch
  extract_lets enoughA filled moreTraps
  have hfilled : filled.countP p = (openingPicks eligible targetSize).countP p :=
    countP_takeUntil_eq _ (nonAOf_eq_false hp) _
  have hstop : ∀ selected, enoughA selected = false → selected.countP p <
      max (groupALimit targetSize)
        ((auditedFirst eligible targetSize).countP p + min 2 (groupALimit targetSize)) := by
    intro selected h
    have hroom : selected.countP (fun e => e.primaryBucket.groupA) < groupALimit targetSize := by
      simpa [enoughA] using h
    have hmono : selected.countP p ≤ selected.countP fun e => e.primaryBucket.groupA :=
      List.countP_mono_left fun e _ he => hp e he
    omega
  exact countP_takeUntil_le hstop _ _ (countP_takeUntil_le hstop _ _ (by omega))

end GroupA

end PrinterV1.Discovery
