import Mathlib.Data.Prod.Lex
import PrinterV1.Discovery.MergedCandidates
import PrinterV1.Sources.OriginRegistry

/-!
# Origin and graduation of the merged candidates

Candidates whose origin was not observed directly are ranked by a digest of their
mint; the first eight of them are verified, by a proof of the cycle or by the
registry of origins. Graduation is confirmed by mint: of the mints with a proof
the first four are admitted, with all their candidates.
-/

namespace PrinterV1.Discovery.Combined

open Python
open Sources (Registry OriginRow)

def originVerifyAdmissions : ℕ := 8
def pumpswapAdmissions : ℕ := 4

/-- What is used of a proof of origin. -/
structure OriginProof where
  mint : String
  signature : String
  confirmed : Bool := true
  deriving DecidableEq, Repr

structure PumpswapProof where
  mint : String
  poolAddress : String
  programId : String := pumpswapProgramId
  confirmed : Bool := true
  ambiguous : Bool := false
  deriving DecidableEq, Repr

inductive AdmissionState
  | notRequired | admitted | notAdmittedCeiling
  deriving DecidableEq, Repr

inductive VerificationState
  | confirmed | failed | ambiguous | notAttempted
  deriving DecidableEq, Repr

inductive OriginSource
  | migrationGraduationLineage | directFinalizedCreate | cycleDirectCreate | durableOriginRegistry
  | none
  deriving DecidableEq, Repr

/-- A row of the origin verifications. -/
structure OriginVerification where
  mergedCandidate : String
  mintIdentity : String
  admissionState : AdmissionState
  verificationState : VerificationState
  transactionSignature : Option String := none
  source : OriginSource
  deriving DecidableEq, Repr

/-- A row of the graduation confirmations. -/
structure PumpswapConfirmation where
  mergedCandidate : String
  mintIdentity : String
  marketIdentity : String
  admissionState : AdmissionState
  confirmationState : VerificationState
  poolAddress : String
  programId : String
  deriving DecidableEq, Repr

/-- `lookup_confirmed_origin` -/
def lookupConfirmedOrigin (R : Registry) (mint : String) : Option OriginRow :=
  if mint = "" then none else R.find? mint

/-! ## Origin -/

/-- The row of a candidate whose origin was observed directly. -/
def alreadyConfirmed (c : Merged) : OriginVerification where
  mergedCandidate := c.key
  mintIdentity := c.mint
  admissionState := .notRequired
  verificationState := .confirmed
  source :=
    if c.originRoute = .graduationNative then .migrationGraduationLineage
    else .directFinalizedCreate

/-- The proof an admitted candidate is verified by, its source, and the proofs
resolved from then on. -/
def resolveOrigin (R : Registry) (resolved : String → Option OriginProof) (mint : String) :
    Option OriginProof × OriginSource × (String → Option OriginProof) :=
  if (resolved mint).any OriginProof.confirmed then (resolved mint, .cycleDirectCreate, resolved)
  else
    match lookupConfirmedOrigin R mint with
    | some row =>
      let proof := ⟨row.mintIdentity, row.transactionSignature, true⟩
      (some proof, .durableOriginRegistry, Function.update resolved mint (some proof))
    | none => (resolved mint, .cycleDirectCreate, resolved)

/-- The proof confirms the mint. -/
def confirms (mint : String) (proof : Option OriginProof) : Bool :=
  proof.any fun p => p.confirmed && p.mint = mint

/-- The signature of the proof of a mint, once it is confirmed. -/
def provenSignature (resolved : String → Option OriginProof) (mint : String) : Option String :=
  ((resolved mint).filter OriginProof.confirmed).map OriginProof.signature

def gapsOf : OriginState → List Gap
  | .failed => [.originVerificationFailed]
  | .notAdmittedCeiling => [.originNotAdmittedCeiling]
  | _ => []

/-- The candidate with the state its verification ends in. -/
def Merged.verified (c : Merged) (state : OriginState) : Merged :=
  { c with originState := state, gaps := c.gaps ++ gapsOf state }

/-- One turn of the loop over the candidates to verify. -/
def verifyOrigin (R : Registry) (admitted : List String) (resolved : String → Option OriginProof)
    (c : Merged) : Merged × OriginVerification × (String → Option OriginProof) :=
  if c.key ∈ admitted then
    let (proof, source, resolved) := resolveOrigin R resolved c.mint
    if confirms c.mint proof then
      (c.verified .confirmed,
        { mergedCandidate := c.key, mintIdentity := c.mint
          -- a registry hit consumes no admission
          admissionState := if source = .durableOriginRegistry then .notRequired else .admitted
          verificationState := .confirmed
          transactionSignature := provenSignature resolved c.mint
          source := source },
        resolved)
    else
      (c.verified .failed,
        { mergedCandidate := c.key, mintIdentity := c.mint, admissionState := .admitted
          verificationState := .failed
          transactionSignature := provenSignature resolved c.mint
          source := .none },
        resolved)
  else
    (c.verified .notAdmittedCeiling,
      { mergedCandidate := c.key, mintIdentity := c.mint, admissionState := .notAdmittedCeiling
        verificationState := .notAttempted
        transactionSignature := provenSignature resolved c.mint
        source := .none },
      resolved)

/-- The loop: the candidates as they are left, and their rows. -/
def verifyOrigins (R : Registry) (admitted : List String) :
    (String → Option OriginProof) → List Merged → List (Merged × OriginVerification)
  | _, [] => []
  | resolved, c :: rest =>
    let (verified, row, resolved') := verifyOrigin R admitted resolved c
    (verified, row) :: verifyOrigins R admitted resolved' rest

/-- The rank of a mint within a domain of verification. -/
def verificationRank (D : Digests) (cycleSeed domain mint : String) : String ×ₗ String :=
  toLex (verificationKey D cycleSeed domain (tokenIdentity mint), tokenIdentity mint)

/-- The candidates whose origin is to be verified. -/
def secondaryCandidates (merged : List Merged) : List Merged :=
  sortBy (fun c => tokenIdentity c.mint) (merged.filter fun c => c.originState ≠ .confirmed)

/-- Those of them that are admitted. -/
def admittedOrigins (D : Digests) (cycleSeed : String) (merged : List Merged) : List Merged :=
  (sortBy (fun c => verificationRank D cycleSeed "origin" c.mint)
    (secondaryCandidates merged)).take originVerifyAdmissions

/-- The candidate as the loop left it, where it took part. -/
def updated (results : List (Merged × OriginVerification)) (c : Merged) : Merged :=
  ((results.map Prod.fst).find? fun verified => verified.key = c.key).getD c

/-! ## Graduation -/

/-- The mints that have a proof, in the order of their admission. -/
def claimedMints (D : Digests) (cycleSeed : String) (proofs : String → Option PumpswapProof)
    (merged : List Merged) : List String :=
  sortBy (verificationRank D cycleSeed "pumpswap")
    (((merged.filter fun c => (proofs c.mint).isSome).map Merged.mint).dedup)

def admittedMints (D : Digests) (cycleSeed : String) (proofs : String → Option PumpswapProof)
    (merged : List Merged) : List String :=
  (claimedMints D cycleSeed proofs merged).take pumpswapAdmissions

/-- The exact proof of the mint's pool. -/
def graduates (proof : PumpswapProof) (mint : String) : Bool :=
  proof.confirmed && proof.programId = pumpswapProgramId && proof.mint = mint &&
    proof.poolAddress ≠ ""

/-- How the graduation of a mint is confirmed. -/
def pumpswapOutcome (admitted : Bool) (proof : PumpswapProof) (mint : String) : PumpswapState :=
  if ¬admitted then .notAdmittedCeiling
  else if proof.ambiguous then .ambiguous
  else if graduates proof mint then .confirmed
  else .failed

/-- The candidate after the confirmation; a graduated one is bound to the pool. -/
def Merged.graduated (c : Merged) (state : PumpswapState) (proof : PumpswapProof) : Merged :=
  if state = .confirmed then
    { c with
      pumpswapState := state
      lifecycle := graduatedLifecycle
      marketIdentity := Discovery.marketIdentity pumpswapVenue proof.poolAddress }
  else { c with pumpswapState := state }

def confirmationState : PumpswapState → VerificationState
  | .confirmed => .confirmed
  | .ambiguous => .ambiguous
  | .failed => .failed
  | _ => .notAttempted

/-- One turn of the loop over the claimed candidates. -/
def confirmPumpswap (admitted : List String) (proof : PumpswapProof) (c : Merged) :
    Merged × PumpswapConfirmation :=
  let state := pumpswapOutcome (c.mint ∈ admitted) proof c.mint
  let c := c.graduated state proof
  (c,
    { mergedCandidate := c.key, mintIdentity := c.mint, marketIdentity := c.marketIdentity
      admissionState := if state = .notAdmittedCeiling then .notAdmittedCeiling else .admitted
      confirmationState := confirmationState state
      poolAddress := proof.poolAddress, programId := proof.programId })

/-! ## Both -/

structure Facts where
  candidates : List Merged
  originVerifications : List OriginVerification
  pumpswapConfirmations : List PumpswapConfirmation

/-- `_origin_and_pumpswap` -/
def originAndPumpswap (D : Digests) (cycleSeed : String) (R : Registry)
    (originProofs : String → Option OriginProof) (pumpswapProofs : String → Option PumpswapProof)
    (merged : List Merged) : Facts :=
  let admitted := (admittedOrigins D cycleSeed merged).map Merged.key
  let results := verifyOrigins R admitted originProofs (secondaryCandidates merged)
  let verified := merged.map (updated results)
  let admittedMints := admittedMints D cycleSeed pumpswapProofs verified
  let confirm := fun c : Merged =>
    (pumpswapProofs c.mint).map fun proof => confirmPumpswap admittedMints proof c
  let claimed := verified.filter fun c => (pumpswapProofs c.mint).isSome
  { candidates := verified.map fun c => ((confirm c).map Prod.fst).getD c
    originVerifications :=
      (merged.filter fun c => c.originState = .confirmed).map alreadyConfirmed ++
        results.map Prod.snd
    pumpswapConfirmations :=
      (sortBy (fun c => tokenIdentity c.mint) claimed).filterMap fun c =>
        (confirm c).map Prod.snd }

/-! ## The loop over the candidates to verify -/

variable {D : Digests} {cycleSeed : String} {R : Registry} {proofs : String → Option OriginProof}
  {pumpswapProofs : String → Option PumpswapProof}

theorem mintIdentity_of_lookup {mint : String} {row : OriginRow}
    (h : lookupConfirmedOrigin R mint = some row) : row.mintIdentity = mint := by
  unfold lookupConfirmedOrigin at h
  split_ifs at h
  exact (Table.find?_eq_some_iff.mp h).2

/-- The verification of a mint, once it is admitted. -/
def originOutcome (R : Registry) (proofs : String → Option OriginProof) (mint : String) : Bool :=
  if (proofs mint).any OriginProof.confirmed then confirms mint (proofs mint)
  else (lookupConfirmedOrigin R mint).isSome

/-- The proofs resolved so far are those of the cycle, and those of the registry
for mints the cycle does not confirm. -/
def Resolves (R : Registry) (proofs resolved : String → Option OriginProof) : Prop :=
  ∀ mint, resolved mint = proofs mint ∨
    (¬(proofs mint).any OriginProof.confirmed = true ∧ ∃ row,
      lookupConfirmedOrigin R mint = some row ∧
        resolved mint = some ⟨row.mintIdentity, row.transactionSignature, true⟩)

theorem confirms_registered {mint : String} {row : OriginRow}
    (h : lookupConfirmedOrigin R mint = some row) :
    confirms mint (some ⟨row.mintIdentity, row.transactionSignature, true⟩) = true := by
  simp [confirms, mintIdentity_of_lookup h]

/-- A turn comes to the outcome of the mint, and keeps to the proofs. -/
theorem resolveOrigin_spec {resolved : String → Option OriginProof} (h : Resolves R proofs resolved)
    (mint : String) :
    confirms mint (resolveOrigin R resolved mint).1 = originOutcome R proofs mint ∧
      Resolves R proofs (resolveOrigin R resolved mint).2.2 := by
  unfold resolveOrigin originOutcome
  rcases h mint with hsame | ⟨hnone, row, hrow, hresolved⟩
  · rw [hsame]
    by_cases hany : (proofs mint).any OriginProof.confirmed = true
    · rw [if_pos hany, if_pos hany]
      exact ⟨rfl, h⟩
    · rw [if_neg hany, if_neg hany]
      cases hrow : lookupConfirmedOrigin R mint with
      | none =>
        refine ⟨?_, h⟩
        cases hproof : proofs mint with
        | none => rfl
        | some p =>
          rw [hproof, Option.any_some] at hany
          simp [confirms, hany]
      | some row =>
        refine ⟨confirms_registered hrow, ?_⟩
        intro other
        by_cases hother : other = mint
        · subst hother
          exact .inr ⟨hany, row, hrow, Function.update_self _ _ _⟩
        · simp only [Function.update_of_ne hother]
          exact h other
  · rw [hresolved, if_neg hnone, Option.any_some, if_pos rfl, hrow]
    exact ⟨confirms_registered hrow, h⟩

/-- The state the verification of a candidate ends in. -/
def verifiedState (R : Registry) (proofs : String → Option OriginProof) (admitted : List String)
    (c : Merged) : OriginState :=
  if c.key ∈ admitted then if originOutcome R proofs c.mint then .confirmed else .failed
  else .notAdmittedCeiling

theorem verifyOrigin_spec {resolved : String → Option OriginProof} (h : Resolves R proofs resolved)
    (admitted : List String) (c : Merged) :
    (verifyOrigin R admitted resolved c).1 = c.verified (verifiedState R proofs admitted c) ∧
      (verifyOrigin R admitted resolved c).2.1.mintIdentity = c.mint ∧
      ((verifyOrigin R admitted resolved c).2.1.admissionState = .admitted → c.key ∈ admitted) ∧
      Resolves R proofs (verifyOrigin R admitted resolved c).2.2 := by
  obtain ⟨hconfirms, hresolves⟩ := resolveOrigin_spec h c.mint
  unfold verifyOrigin verifiedState
  by_cases hadmitted : c.key ∈ admitted
  · rw [if_pos hadmitted, if_pos hadmitted]
    simp only [hconfirms]
    by_cases houtcome : originOutcome R proofs c.mint = true
    · rw [if_pos houtcome, if_pos houtcome]
      exact ⟨rfl, rfl, fun _ => hadmitted, hresolves⟩
    · rw [if_neg houtcome, if_neg houtcome]
      exact ⟨rfl, rfl, fun _ => hadmitted, hresolves⟩
  · rw [if_neg hadmitted, if_neg hadmitted]
    exact ⟨rfl, rfl, fun hstate => (by cases hstate), h⟩

theorem verifyOrigins_spec (admitted : List String) (cs : List Merged) :
    ∀ {resolved : String → Option OriginProof}, Resolves R proofs resolved →
      (verifyOrigins R admitted resolved cs).map Prod.fst =
          cs.map (fun c => c.verified (verifiedState R proofs admitted c)) ∧
        ∀ row ∈ (verifyOrigins R admitted resolved cs).map Prod.snd, ∃ c ∈ cs,
          row.mintIdentity = c.mint ∧ (row.admissionState = .admitted → c.key ∈ admitted) := by
  induction cs with
  | nil => intro resolved _; simp [verifyOrigins]
  | cons c rest ih =>
    intro resolved h
    obtain ⟨hverified, hmint, hadmitted, hresolves⟩ := verifyOrigin_spec h admitted c
    obtain ⟨hrest, hrows⟩ := ih hresolves
    constructor
    · rw [verifyOrigins, List.map_cons, List.map_cons, hrest, hverified]
    · intro row hrow
      rw [verifyOrigins, List.map_cons, List.mem_cons] at hrow
      rcases hrow with rfl | hrow
      · exact ⟨c, List.mem_cons_self, hmint, hadmitted⟩
      · obtain ⟨c', hc', hspec⟩ := hrows row hrow
        exact ⟨c', List.mem_cons_of_mem c hc', hspec⟩

/-! ## The candidates after the loop -/

variable {merged : List Merged} {c : Merged}

theorem mem_secondaryCandidates :
    c ∈ secondaryCandidates merged ↔ c ∈ merged ∧ c.originState ≠ .confirmed := by
  rw [secondaryCandidates, mem_sortBy, List.mem_filter, decide_eq_true_eq]

/-- The keys of the candidates that are admitted. -/
def admittedKeys (D : Digests) (cycleSeed : String) (merged : List Merged) : List String :=
  (admittedOrigins D cycleSeed merged).map Merged.key

/-- A candidate after its origin was verified, or was confirmed from the start. -/
def afterOrigin (D : Digests) (cycleSeed : String) (R : Registry)
    (proofs : String → Option OriginProof) (merged : List Merged) (c : Merged) : Merged :=
  if c.originState = .confirmed then c
  else c.verified (verifiedState R proofs (admittedKeys D cycleSeed merged) c)

@[simp] theorem key_afterOrigin : (afterOrigin D cycleSeed R proofs merged c).key = c.key := by
  unfold afterOrigin
  split_ifs <;> rfl

@[simp] theorem mint_afterOrigin : (afterOrigin D cycleSeed R proofs merged c).mint = c.mint := by
  unfold afterOrigin
  split_ifs <;> rfl

@[simp] theorem pumpswapState_afterOrigin :
    (afterOrigin D cycleSeed R proofs merged c).pumpswapState = c.pumpswapState := by
  unfold afterOrigin
  split_ifs <;> rfl

theorem originState_afterOrigin : (afterOrigin D cycleSeed R proofs merged c).originState =
    if c.originState = .confirmed then .confirmed
    else verifiedState R proofs (admittedKeys D cycleSeed merged) c := by
  unfold afterOrigin
  split_ifs with h
  · exact h
  · rfl

theorem updated_eq (hkeys : (merged.map Merged.key).Nodup) (hc : c ∈ merged) :
    updated (verifyOrigins R (admittedKeys D cycleSeed merged) proofs
      (secondaryCandidates merged)) c = afterOrigin D cycleSeed R proofs merged c := by
  have hself : Resolves R proofs proofs := fun _ => .inl rfl
  obtain ⟨hverified, _⟩ := verifyOrigins_spec (admittedKeys D cycleSeed merged)
    (secondaryCandidates merged) hself
  have hunique : ∀ c' ∈ merged, c'.key = c.key → c' = c := fun c' hc' hkey =>
    List.inj_on_of_nodup_map hkeys hc' hc hkey
  unfold updated afterOrigin
  rw [hverified]
  split_ifs with hstate
  · rw [List.find?_eq_none.mpr, Option.getD_none]
    intro x hx
    obtain ⟨c', hc', rfl⟩ := List.mem_map.mp hx
    obtain ⟨hmem, hpending⟩ := mem_secondaryCandidates.mp hc'
    intro hkey
    exact hpending (hunique c' hmem (of_decide_eq_true hkey) ▸ hstate)
  · have hmem := mem_secondaryCandidates.mpr ⟨hc, hstate⟩
    cases hfind : ((secondaryCandidates merged).map fun c =>
        c.verified (verifiedState R proofs (admittedKeys D cycleSeed merged) c)).find?
          fun verified => verified.key = c.key with
    | none =>
      have hnone := List.find?_eq_none.mp hfind _ (List.mem_map_of_mem hmem)
      exact absurd (decide_eq_true rfl) hnone
    | some x =>
      obtain ⟨c', hc', hx⟩ := List.mem_map.mp (List.mem_of_find?_eq_some hfind)
      have hkey : x.key = c.key := by simpa using List.find?_some hfind
      have hsame := hunique c' (mem_secondaryCandidates.mp hc').1 (by rw [← hkey, ← hx]; rfl)
      rw [Option.getD_some, ← hx, hsame]

/-! ## The candidates after both -/

/-- How the graduation of a mint ends. -/
def graduation (admitted : List String) (proofs : String → Option PumpswapProof) (mint : String) :
    PumpswapState :=
  (proofs mint).elim .notRequired fun proof => pumpswapOutcome (mint ∈ admitted) proof mint

/-- What both lead to for one candidate. -/
structure Ends (D : Digests) (cycleSeed : String) (R : Registry)
    (proofs : String → Option OriginProof) (pumpswapProofs : String → Option PumpswapProof)
    (merged : List Merged) (c final : Merged) : Prop where
  key : final.key = c.key
  mint : final.mint = c.mint
  origin : final.originState = (afterOrigin D cycleSeed R proofs merged c).originState
  pumpswap : c.pumpswapState = .notRequired → final.pumpswapState =
    graduation (admittedMints D cycleSeed pumpswapProofs merged) pumpswapProofs c.mint

theorem confirmPumpswap_spec (admitted : List String) (proof : PumpswapProof) (c : Merged) :
    (confirmPumpswap admitted proof c).1.key = c.key ∧
      (confirmPumpswap admitted proof c).1.mint = c.mint ∧
      (confirmPumpswap admitted proof c).1.originState = c.originState ∧
      (confirmPumpswap admitted proof c).1.pumpswapState =
        pumpswapOutcome (c.mint ∈ admitted) proof c.mint := by
  simp only [confirmPumpswap, Merged.graduated]
  split_ifs <;> exact ⟨rfl, rfl, rfl, rfl⟩

theorem admittedMints_congr {merged' : List Merged}
    (h : merged'.map Merged.mint = merged.map Merged.mint) :
    admittedMints D cycleSeed pumpswapProofs merged' =
      admittedMints D cycleSeed pumpswapProofs merged := by
  have hfilter : ∀ cs : List Merged, (cs.filter fun c => (pumpswapProofs c.mint).isSome).map
      Merged.mint = (cs.map Merged.mint).filter fun mint => (pumpswapProofs mint).isSome := by
    intro cs
    rw [List.filter_map]
    rfl
  rw [admittedMints, admittedMints, claimedMints, claimedMints, hfilter, hfilter, h]

/-- The candidate as both leave it. -/
def finalCandidate (D : Digests) (cycleSeed : String) (R : Registry)
    (proofs : String → Option OriginProof) (pumpswapProofs : String → Option PumpswapProof)
    (merged : List Merged) (c : Merged) : Merged :=
  match pumpswapProofs c.mint with
  | none => afterOrigin D cycleSeed R proofs merged c
  | some proof =>
    (confirmPumpswap (admittedMints D cycleSeed pumpswapProofs merged) proof
      (afterOrigin D cycleSeed R proofs merged c)).1

theorem ends_finalCandidate (c : Merged) : Ends D cycleSeed R proofs pumpswapProofs merged c
    (finalCandidate D cycleSeed R proofs pumpswapProofs merged c) := by
  unfold finalCandidate
  cases hproof : pumpswapProofs c.mint with
  | none =>
    refine ⟨key_afterOrigin, mint_afterOrigin, rfl, fun hstate => ?_⟩
    rw [graduation, hproof]
    exact pumpswapState_afterOrigin.trans hstate
  | some proof =>
    obtain ⟨hkey, hmint, horigin, hstate⟩ := confirmPumpswap_spec
      (admittedMints D cycleSeed pumpswapProofs merged) proof
      (afterOrigin D cycleSeed R proofs merged c)
    refine ⟨hkey.trans key_afterOrigin, hmint.trans mint_afterOrigin, horigin, fun _ => ?_⟩
    rw [mint_afterOrigin] at hstate
    rw [graduation, hproof]
    exact hstate

theorem candidates_eq (hkeys : (merged.map Merged.key).Nodup) :
    (originAndPumpswap D cycleSeed R proofs pumpswapProofs merged).candidates =
      merged.map (finalCandidate D cycleSeed R proofs pumpswapProofs merged) := by
  have hverified : merged.map (updated (verifyOrigins R (admittedKeys D cycleSeed merged) proofs
      (secondaryCandidates merged))) = merged.map (afterOrigin D cycleSeed R proofs merged) :=
    List.map_congr_left fun c hc => updated_eq hkeys hc
  have hmints : (merged.map (afterOrigin D cycleSeed R proofs merged)).map Merged.mint =
      merged.map Merged.mint := by
    rw [List.map_map]
    exact List.map_congr_left fun c _ => mint_afterOrigin
  have hadmitted : (admittedOrigins D cycleSeed merged).map Merged.key =
      admittedKeys D cycleSeed merged := rfl
  simp only [originAndPumpswap, hadmitted, hverified, admittedMints_congr hmints, List.map_map]
  apply List.map_congr_left
  intro c _
  simp only [Function.comp_apply, mint_afterOrigin, finalCandidate]
  cases pumpswapProofs c.mint <;> rfl

/-! ## The ceiling of origin -/

variable {observations : List Observation}

theorem tokenIdentity_of_rank {domain mint mint' : String}
    (h : verificationRank D cycleSeed domain mint = verificationRank D cycleSeed domain mint') :
    mint = mint' :=
  tokenIdentity_injective (congrArg (fun k => (ofLex k).2) h)

/-- How many markets of mints to verify rank before the mint. -/
def ahead (D : Digests) (cycleSeed : String) (observations : List Observation) (mint : String) :
    ℕ :=
  marketCount observations fun other => other ∉ confirmedMints observations ∧
    verificationRank D cycleSeed "origin" other < verificationRank D cycleSeed "origin" mint

/-- How many do before or with it. -/
def through (D : Digests) (cycleSeed : String) (observations : List Observation) (mint : String) :
    ℕ :=
  marketCount observations fun other => other ∉ confirmedMints observations ∧
    verificationRank D cycleSeed "origin" other ≤ verificationRank D cycleSeed "origin" mint

theorem pending_iff (h : KeysTellMints observations) (hc : c ∈ merge observations) :
    c.originState ≠ .confirmed ↔ c.mint ∉ confirmedMints observations := by
  rw [originState_merge h hc]
  split_ifs with hmint <;> simp [hmint]

/-- A count of the candidates to verify is a count of markets. -/
theorem countP_ranked (D : Digests) (cycleSeed : String) (h : KeysTellMints observations)
    (p : String → Bool) :
    ((sortBy (fun c => verificationRank D cycleSeed "origin" c.mint)
      (secondaryCandidates (merge observations))).countP fun c => p c.mint) =
        marketCount observations fun mint =>
          mint ∉ confirmedMints observations ∧ p mint = true := by
  rw [(sortBy_perm _ _).countP_eq, secondaryCandidates, (sortBy_perm _ _).countP_eq,
    List.countP_filter, ← countP_merge h]
  apply List.countP_congr
  intro c hc
  rw [Bool.and_eq_true, decide_eq_true_eq, decide_eq_true_eq, pending_iff h hc, and_comm]

theorem ranked_sorted (D : Digests) (cycleSeed : String) (merged : List Merged) :
    (sortBy (fun c => verificationRank D cycleSeed "origin" c.mint)
      (secondaryCandidates merged)).Pairwise fun a b =>
        verificationRank D cycleSeed "origin" a.mint ≤
          verificationRank D cycleSeed "origin" b.mint :=
  sortBy_sorted _ _

theorem mem_admittedKeys (hkeys : (merged.map Merged.key).Nodup) (hc : c ∈ merged) :
    c.key ∈ admittedKeys D cycleSeed merged ↔ c ∈ admittedOrigins D cycleSeed merged := by
  constructor
  · intro hmem
    obtain ⟨c', hc', hkey⟩ := List.mem_map.mp hmem
    have hmerged : c' ∈ merged :=
      (mem_secondaryCandidates.mp (mem_sortBy.mp (List.mem_of_mem_take hc'))).1
    exact List.inj_on_of_nodup_map hkeys hmerged hc hkey ▸ hc'
  · exact List.mem_map_of_mem

/-- Within the ceiling every market of a mint is admitted. -/
theorem admitted_of_through (h : KeysTellMints observations) (hc : c ∈ merge observations)
    (hmint : c.mint ∉ confirmedMints observations)
    (hle : through D cycleSeed observations c.mint ≤ originVerifyAdmissions) :
    c.key ∈ admittedKeys D cycleSeed (merge observations) := by
  rw [mem_admittedKeys nodup_keys_merge hc]
  have hcount := countP_ranked D cycleSeed h fun other =>
    verificationRank D cycleSeed "origin" other ≤ verificationRank D cycleSeed "origin" c.mint
  refine mem_take_of_countP_le (ranked_sorted D cycleSeed (merge observations)) ?_
    (mem_sortBy.mpr (mem_secondaryCandidates.mpr ⟨hc, (pending_iff h hc).mpr hmint⟩)) rfl
  rw [hcount]
  simpa [through] using hle

/-- Past it none is. -/
theorem not_admitted_of_ahead (h : KeysTellMints observations) (hc : c ∈ merge observations)
    (hle : originVerifyAdmissions ≤ ahead D cycleSeed observations c.mint) :
    c.key ∉ admittedKeys D cycleSeed (merge observations) := by
  rw [mem_admittedKeys nodup_keys_merge hc]
  have hcount := countP_ranked D cycleSeed h fun other =>
    verificationRank D cycleSeed "origin" other < verificationRank D cycleSeed "origin" c.mint
  refine not_mem_take_of_le_countP (ranked_sorted D cycleSeed (merge observations)) ?_ rfl
  rw [hcount]
  simpa [ahead] using hle

/-- A mint the ceiling cuts through has a market that is admitted and one that is
not. -/
theorem exists_of_straddle (h : KeysTellMints observations) {mint : String}
    (hahead : ahead D cycleSeed observations mint < originVerifyAdmissions)
    (hthrough : originVerifyAdmissions < through D cycleSeed observations mint) :
    ∃ c ∈ merge observations, ∃ c' ∈ merge observations, c.mint = mint ∧ c'.mint = mint ∧
      c.originState ≠ .confirmed ∧ c'.originState ≠ .confirmed ∧
      c.key ∈ admittedKeys D cycleSeed (merge observations) ∧
      c'.key ∉ admittedKeys D cycleSeed (merge observations) := by
  have hlt := countP_ranked D cycleSeed h fun other =>
    verificationRank D cycleSeed "origin" other < verificationRank D cycleSeed "origin" mint
  have hle := countP_ranked D cycleSeed h fun other =>
    verificationRank D cycleSeed "origin" other ≤ verificationRank D cycleSeed "origin" mint
  obtain ⟨⟨c, hc, hcrank⟩, c', hc', hcrank'⟩ := exists_take_and_drop
    (ranked_sorted D cycleSeed (merge observations)) (n := originVerifyAdmissions)
    (k := verificationRank D cycleSeed "origin" mint)
    (by rw [hlt]; simpa [ahead] using hahead) (by rw [hle]; simpa [through] using hthrough)
  obtain ⟨hmem, hpending⟩ := mem_secondaryCandidates.mp (mem_sortBy.mp (List.mem_of_mem_take hc))
  obtain ⟨hmem', hpending'⟩ := mem_secondaryCandidates.mp (mem_sortBy.mp (List.mem_of_mem_drop hc'))
  refine ⟨c, hmem, c', hmem', tokenIdentity_of_rank hcrank, tokenIdentity_of_rank hcrank',
    hpending, hpending', (mem_admittedKeys nodup_keys_merge hmem).mpr hc, ?_⟩
  rw [mem_admittedKeys nodup_keys_merge hmem']
  -- the list has no candidate twice, so one past the front is not in it
  intro htake
  have hnodup : (sortBy (fun c => verificationRank D cycleSeed "origin" c.mint)
      (secondaryCandidates (merge observations))).Nodup := by
    rw [(sortBy_perm _ _).nodup_iff, secondaryCandidates, (sortBy_perm _ _).nodup_iff]
    exact (List.Nodup.of_map _ nodup_keys_merge).filter _
  rw [← List.take_append_drop originVerifyAdmissions (sortBy _ _)] at hnodup
  exact (List.nodup_append.mp hnodup).2.2 c' htake c' hc' rfl

/-! ## Facts about the mint -/

/-- `_merge` and `_origin_and_pumpswap`. -/
def factsOf (D : Digests) (cycleSeed : String) (R : Registry)
    (proofs : String → Option OriginProof) (pumpswapProofs : String → Option PumpswapProof)
    (observations : List Observation) : Facts :=
  originAndPumpswap D cycleSeed R proofs pumpswapProofs (merge observations)

/-- The mints that consume an admission to the verification of their origin. -/
def originAdmissions (facts : Facts) : List String :=
  ((facts.originVerifications.filter fun row => row.admissionState = .admitted).map
    OriginVerification.mintIdentity).dedup

/-- The mints that consume an admission to the confirmation of their graduation. -/
def pumpswapAdmissionsOf (facts : Facts) : List String :=
  ((facts.pumpswapConfirmations.filter fun row => row.admissionState = .admitted).map
    PumpswapConfirmation.mintIdentity).dedup

/-- Origin and graduation are facts about the mint: its markets share them, the
registry confirms it, few mints are admitted, and the order of the observations
does not show. -/
structure FactsOfMints (D : Digests) (cycleSeed : String) (R : Registry)
    (proofs : String → Option OriginProof) (pumpswapProofs : String → Option PumpswapProof)
    (observations : List Observation) : Prop where
  shared : ∀ c ∈ (factsOf D cycleSeed R proofs pumpswapProofs observations).candidates,
    ∀ c' ∈ (factsOf D cycleSeed R proofs pumpswapProofs observations).candidates,
      c.mint = c'.mint →
        c.originState = c'.originState ∧ c.pumpswapState = c'.pumpswapState
  registered : ∀ c ∈ (factsOf D cycleSeed R proofs pumpswapProofs observations).candidates,
    (R.find? c.mint).isSome = true → c.originState = .confirmed
  origins : (originAdmissions
    (factsOf D cycleSeed R proofs pumpswapProofs observations)).length ≤ originVerifyAdmissions
  pumpswaps : (pumpswapAdmissionsOf
    (factsOf D cycleSeed R proofs pumpswapProofs observations)).length ≤ pumpswapAdmissions
  order : ∀ observations', observations'.Perm observations →
    ∀ c ∈ (factsOf D cycleSeed R proofs pumpswapProofs observations).candidates,
      ∃ c' ∈ (factsOf D cycleSeed R proofs pumpswapProofs observations').candidates,
        c'.key = c.key ∧ c'.mint = c.mint ∧ c'.originState = c.originState ∧
          c'.pumpswapState = c.pumpswapState

/-- Of the mints whose origin is to be verified, the ceiling cuts through none, and
those in the registry are within it and have no proof of another mint. -/
structure WithinCeiling (D : Digests) (cycleSeed : String) (R : Registry)
    (proofs : String → Option OriginProof) (observations : List Observation) : Prop where
  whole : ∀ obs ∈ observations, obs.mint ∉ confirmedMints observations →
    ¬(ahead D cycleSeed observations obs.mint < originVerifyAdmissions ∧
      originVerifyAdmissions < through D cycleSeed observations obs.mint)
  registered : ∀ obs ∈ observations, obs.mint ∉ confirmedMints observations →
    (R.find? obs.mint).isSome = true →
      through D cycleSeed observations obs.mint ≤ originVerifyAdmissions ∧
        ∀ proof, proofs obs.mint = some proof → proof.confirmed = true → proof.mint = obs.mint

/-- The origin of a mint, where the ceiling cuts through none. -/
def originOf (D : Digests) (cycleSeed : String) (R : Registry)
    (proofs : String → Option OriginProof) (observations : List Observation) (mint : String) :
    OriginState :=
  if mint ∈ confirmedMints observations then .confirmed
  else if through D cycleSeed observations mint ≤ originVerifyAdmissions then
    if originOutcome R proofs mint then .confirmed else .failed
  else .notAdmittedCeiling

theorem mem_facts {c : Merged} :
    c ∈ (factsOf D cycleSeed R proofs pumpswapProofs observations).candidates ↔
      ∃ m ∈ merge observations,
        finalCandidate D cycleSeed R proofs pumpswapProofs (merge observations) m = c := by
  rw [factsOf, candidates_eq nodup_keys_merge, List.mem_map]

theorem exists_observation {m : Merged} (hm : m ∈ merge observations) :
    ∃ obs ∈ observations, obs.key = m.key ∧ obs.mint = m.mint :=
  (merges_merge observations).observed m hm

theorem originState_final (h : KeysTellMints observations) {m : Merged}
    (hm : m ∈ merge observations) :
    (finalCandidate D cycleSeed R proofs pumpswapProofs (merge observations) m).originState =
      if m.mint ∈ confirmedMints observations then .confirmed
      else verifiedState R proofs (admittedKeys D cycleSeed (merge observations)) m := by
  rw [(ends_finalCandidate m).origin, originState_afterOrigin]
  congr 1
  exact propext (not_iff_not.mp (pending_iff h hm))

theorem originState_eq_originOf (h : KeysTellMints observations)
    (hwithin : WithinCeiling D cycleSeed R proofs observations) {m : Merged}
    (hm : m ∈ merge observations) :
    (finalCandidate D cycleSeed R proofs pumpswapProofs (merge observations) m).originState =
      originOf D cycleSeed R proofs observations m.mint := by
  rw [originState_final h hm, originOf]
  by_cases hmint : m.mint ∈ confirmedMints observations
  · rw [if_pos hmint, if_pos hmint]
  rw [if_neg hmint, if_neg hmint, verifiedState]
  by_cases hthrough : through D cycleSeed observations m.mint ≤ originVerifyAdmissions
  · rw [if_pos hthrough, if_pos (admitted_of_through h hm hmint hthrough)]
  · obtain ⟨obs, hobs, _, hobsMint⟩ := exists_observation hm
    have hwhole := hwithin.whole obs hobs (hobsMint ▸ hmint)
    rw [hobsMint] at hwhole
    have hahead : originVerifyAdmissions ≤ ahead D cycleSeed observations m.mint :=
      not_lt.mp fun hlt => hwhole ⟨hlt, not_le.mp hthrough⟩
    rw [if_neg hthrough, if_neg (not_admitted_of_ahead h hm hahead)]

/-- The mints that may consume an admission are those of the eight admitted
candidates. -/
theorem originAdmissions_le :
    (originAdmissions (factsOf D cycleSeed R proofs pumpswapProofs observations)).length ≤
      originVerifyAdmissions := by
  have hself : Resolves R proofs proofs := fun _ => .inl rfl
  obtain ⟨_, hrows⟩ := verifyOrigins_spec (admittedKeys D cycleSeed (merge observations))
    (secondaryCandidates (merge observations)) hself
  have hsubset : originAdmissions (factsOf D cycleSeed R proofs pumpswapProofs observations) ⊆
      (admittedOrigins D cycleSeed (merge observations)).map Merged.mint := by
    intro mint hmint
    rw [originAdmissions, List.mem_dedup] at hmint
    obtain ⟨row, hrow, rfl⟩ := List.mem_map.mp hmint
    obtain ⟨hmem, hadmitted⟩ := List.mem_filter.mp hrow
    rcases List.mem_append.mp hmem with hconfirmed | hverified
    · obtain ⟨c, _, rfl⟩ := List.mem_map.mp hconfirmed
      simp [alreadyConfirmed] at hadmitted
    · obtain ⟨c, hc, hrowMint, hkey⟩ := hrows row hverified
      rw [hrowMint]
      have hcMerged := (mem_secondaryCandidates.mp hc).1
      exact List.mem_map_of_mem ((mem_admittedKeys nodup_keys_merge hcMerged).mp
        (hkey (of_decide_eq_true hadmitted)))
  calc (originAdmissions (factsOf D cycleSeed R proofs pumpswapProofs observations)).length
      ≤ ((admittedOrigins D cycleSeed (merge observations)).map Merged.mint).length :=
        ((List.nodup_dedup _).subperm hsubset).length_le
    _ ≤ originVerifyAdmissions := by
        rw [List.length_map]
        exact List.length_take_le _ _

/-- A confirmation that is admitted is one of an admitted mint. -/
theorem mem_of_confirmPumpswap {admitted : List String} {proof : PumpswapProof} {c : Merged}
    (h : (confirmPumpswap admitted proof c).2.admissionState = .admitted) :
    (confirmPumpswap admitted proof c).2.mintIdentity ∈ admitted := by
  have hmint : (confirmPumpswap admitted proof c).2.mintIdentity = c.mint :=
    (confirmPumpswap_spec admitted proof c).2.1
  rw [hmint]
  by_contra hout
  have hstate : pumpswapOutcome (c.mint ∈ admitted) proof c.mint = .notAdmittedCeiling := by
    rw [pumpswapOutcome, if_pos (by simpa using hout)]
  simp [confirmPumpswap, hstate] at h

theorem pumpswapAdmissions_le :
    (pumpswapAdmissionsOf (factsOf D cycleSeed R proofs pumpswapProofs observations)).length ≤
      pumpswapAdmissions := by
  have hsubset : ∃ verified, pumpswapAdmissionsOf
      (factsOf D cycleSeed R proofs pumpswapProofs observations) ⊆
        admittedMints D cycleSeed pumpswapProofs verified := by
    refine ⟨(merge observations).map (updated (verifyOrigins R
      (admittedKeys D cycleSeed (merge observations)) proofs
        (secondaryCandidates (merge observations)))), fun mint hmint => ?_⟩
    rw [pumpswapAdmissionsOf, List.mem_dedup] at hmint
    obtain ⟨row, hrow, rfl⟩ := List.mem_map.mp hmint
    obtain ⟨hmem, hadmitted⟩ := List.mem_filter.mp hrow
    obtain ⟨c, _, hc⟩ := List.mem_filterMap.mp hmem
    obtain ⟨result, hresult, rfl⟩ := Option.map_eq_some_iff.mp hc
    obtain ⟨proof, _, rfl⟩ := Option.map_eq_some_iff.mp hresult
    exact mem_of_confirmPumpswap (of_decide_eq_true hadmitted)
  obtain ⟨verified, hverified⟩ := hsubset
  exact ((List.nodup_dedup _).subperm hverified).length_le.trans (List.length_take_le _ _)

/-! ## The order of the observations -/

/-- A mint of the observations, in whatever order. -/
theorem mem_mints_of_perm {observations' : List Observation} (h : KeysTellMints observations)
    (hperm : observations'.Perm observations) {mint : String} :
    mint ∈ (merge observations').map Merged.mint ↔ mint ∈ (merge observations).map Merged.mint := by
  constructor
  · intro hmint
    obtain ⟨m, hm, rfl⟩ := List.mem_map.mp hmint
    obtain ⟨m', hm', _, hmint'⟩ := exists_counterpart (h.of_perm hperm) hperm.symm hm
    exact List.mem_map.mpr ⟨m', hm', hmint'⟩
  · intro hmint
    obtain ⟨m, hm, rfl⟩ := List.mem_map.mp hmint
    obtain ⟨m', hm', _, hmint'⟩ := exists_counterpart h hperm hm
    exact List.mem_map.mpr ⟨m', hm', hmint'⟩

theorem admittedMints_of_perm {observations' : List Observation} (h : KeysTellMints observations)
    (hperm : observations'.Perm observations) :
    admittedMints D cycleSeed pumpswapProofs (merge observations') =
      admittedMints D cycleSeed pumpswapProofs (merge observations) := by
  unfold admittedMints claimedMints
  congr 1
  apply sortBy_eq_of_perm
  · rw [List.perm_ext_iff_of_nodup (List.nodup_dedup _) (List.nodup_dedup _)]
    intro mint
    have hclaimed : ∀ merged : List Merged,
        mint ∈ ((merged.filter fun c => (pumpswapProofs c.mint).isSome).map Merged.mint).dedup ↔
          mint ∈ merged.map Merged.mint ∧ (pumpswapProofs mint).isSome = true := by
      intro merged
      simp only [List.mem_dedup, List.mem_map, List.mem_filter]
      constructor
      · rintro ⟨c, ⟨hc, hsome⟩, rfl⟩
        exact ⟨⟨c, hc, rfl⟩, hsome⟩
      · rintro ⟨⟨c, hc, rfl⟩, hsome⟩
        exact ⟨c, ⟨hc, hsome⟩, rfl⟩
    rw [hclaimed, hclaimed, mem_mints_of_perm h hperm]
  · intro a _ b _ hrank
    exact tokenIdentity_of_rank hrank

theorem pumpswapState_final {m : Merged} (hm : m ∈ merge observations) :
    (finalCandidate D cycleSeed R proofs pumpswapProofs (merge observations) m).pumpswapState =
      graduation (admittedMints D cycleSeed pumpswapProofs (merge observations)) pumpswapProofs
        m.mint :=
  (ends_finalCandidate m).pumpswap ((merges_merge observations).unasked m hm)

/-- What the ceiling counts does not depend on the order. -/
theorem ceiling_of_perm {observations' : List Observation}
    (hperm : observations'.Perm observations) (mint : String) :
    ahead D cycleSeed observations' mint = ahead D cycleSeed observations mint ∧
      through D cycleSeed observations' mint = through D cycleSeed observations mint := by
  have hconfirmed : ∀ other, (other ∉ confirmedMints observations') =
      (other ∉ confirmedMints observations) :=
    fun other => propext (not_congr (confirmedMints_of_perm hperm))
  simp only [ahead, through, hconfirmed, marketCount_of_perm hperm, and_self]

theorem WithinCeiling.of_perm {observations' : List Observation}
    (h : WithinCeiling D cycleSeed R proofs observations)
    (hperm : observations'.Perm observations) :
    WithinCeiling D cycleSeed R proofs observations' := by
  constructor
  · intro obs hobs hmint
    rw [(ceiling_of_perm hperm obs.mint).1, (ceiling_of_perm hperm obs.mint).2]
    exact h.whole obs (hperm.mem_iff.mp hobs) fun hin =>
      hmint ((confirmedMints_of_perm hperm).mpr hin)
  · intro obs hobs hmint hregistered
    rw [(ceiling_of_perm hperm obs.mint).2]
    exact h.registered obs (hperm.mem_iff.mp hobs)
      (fun hin => hmint ((confirmedMints_of_perm hperm).mpr hin)) hregistered

theorem originOf_of_perm {observations' : List Observation}
    (hperm : observations'.Perm observations) (mint : String) :
    originOf D cycleSeed R proofs observations' mint =
      originOf D cycleSeed R proofs observations mint := by
  have hconfirmed : (mint ∈ confirmedMints observations') =
      (mint ∈ confirmedMints observations) := propext (confirmedMints_of_perm hperm)
  simp only [originOf, hconfirmed, (ceiling_of_perm hperm mint).2]

/-! ## When origin is a fact about the mint -/

theorem find_eq_lookup {mint : String} (h : (R.find? mint).isSome = true) (hne : mint ≠ "") :
    (lookupConfirmedOrigin R mint).isSome = true := by
  rw [lookupConfirmedOrigin, if_neg hne]
  exact h

theorem observed_ne_empty (obs : Observation) : obs.mint ≠ "" := by
  intro hempty
  apply obs.filled
  rw [hempty]
  decide

/-- A registered mint without a proof of another is confirmed, once it is admitted,
and the other way about. -/
theorem originOutcome_iff {mint : String} (hregistered : (R.find? mint).isSome = true)
    (hne : mint ≠ "") : originOutcome R proofs mint = true ↔
      ∀ proof, proofs mint = some proof → proof.confirmed = true → proof.mint = mint := by
  unfold originOutcome
  cases hproof : proofs mint with
  | none => simp [find_eq_lookup hregistered hne]
  | some proof =>
    by_cases hconfirmed : proof.confirmed = true
    · simp [confirms, hconfirmed]
    · simp [hconfirmed, find_eq_lookup hregistered hne]

theorem withinCeiling_of_facts (h : KeysTellMints observations)
    (hfacts : FactsOfMints D cycleSeed R proofs pumpswapProofs observations) :
    WithinCeiling D cycleSeed R proofs observations := by
  have hwhole : ∀ obs ∈ observations, obs.mint ∉ confirmedMints observations →
      ¬(ahead D cycleSeed observations obs.mint < originVerifyAdmissions ∧
        originVerifyAdmissions < through D cycleSeed observations obs.mint) := by
    rintro obs - hmint ⟨hahead, hthrough⟩
    obtain ⟨c, hc, c', hc', hcMint, hcMint', -, -, hin, hout⟩ :=
      exists_of_straddle h hahead hthrough
    have hshared := (hfacts.shared _ (mem_facts.mpr ⟨c, hc, rfl⟩) _ (mem_facts.mpr ⟨c', hc', rfl⟩)
      (by rw [(ends_finalCandidate c).mint, (ends_finalCandidate c').mint, hcMint, hcMint'])).1
    rw [originState_final h hc, originState_final h hc', hcMint, hcMint', if_neg hmint,
      if_neg hmint, verifiedState, verifiedState, if_pos hin, if_neg hout] at hshared
    split_ifs at hshared
  refine ⟨hwhole, ?_⟩
  intro obs hobs hmint hregistered
  obtain ⟨m, hm, hkey⟩ := List.mem_map.mp
    (((merges_merge observations).keys obs.key).mpr (List.mem_map_of_mem hobs))
  have hmMint : m.mint = obs.mint := (mint_eq_of_key h hm hobs hkey.symm).symm
  have hconfirmed := hfacts.registered _ (mem_facts.mpr ⟨m, hm, rfl⟩)
    (by rw [(ends_finalCandidate m).mint, hmMint]; exact hregistered)
  rw [originState_final h hm, hmMint, if_neg hmint, verifiedState, hmMint] at hconfirmed
  split_ifs at hconfirmed with hadmitted houtcome
  constructor
  · by_contra hpast
    have hahead : originVerifyAdmissions ≤ ahead D cycleSeed observations m.mint := by
      rw [hmMint]
      exact not_lt.mp fun hlt => hwhole obs hobs hmint ⟨hlt, not_le.mp hpast⟩
    exact not_admitted_of_ahead h hm hahead hadmitted
  · exact (originOutcome_iff hregistered (observed_ne_empty obs)).mp houtcome

theorem facts_of_withinCeiling (h : KeysTellMints observations)
    (hwithin : WithinCeiling D cycleSeed R proofs observations) :
    FactsOfMints D cycleSeed R proofs pumpswapProofs observations := by
  constructor
  · intro c hc c' hc' hmint
    obtain ⟨m, hm, rfl⟩ := mem_facts.mp hc
    obtain ⟨m', hm', rfl⟩ := mem_facts.mp hc'
    rw [(ends_finalCandidate m).mint, (ends_finalCandidate m').mint] at hmint
    rw [originState_eq_originOf h hwithin hm, originState_eq_originOf h hwithin hm',
      pumpswapState_final hm, pumpswapState_final hm', hmint]
    exact ⟨rfl, rfl⟩
  · intro c hc hregistered
    obtain ⟨m, hm, rfl⟩ := mem_facts.mp hc
    rw [(ends_finalCandidate m).mint] at hregistered
    rw [originState_eq_originOf h hwithin hm, originOf]
    obtain ⟨obs, hobs, -, hobsMint⟩ := exists_observation hm
    by_cases hmint : m.mint ∈ confirmedMints observations
    · rw [if_pos hmint]
    · rw [← hobsMint] at hmint hregistered ⊢
      obtain ⟨hthrough, hproof⟩ := hwithin.registered obs hobs hmint hregistered
      rw [if_neg hmint, if_pos hthrough,
        if_pos ((originOutcome_iff hregistered (observed_ne_empty obs)).mpr hproof)]
  · exact originAdmissions_le
  · exact pumpswapAdmissions_le
  · intro observations' hperm c hc
    obtain ⟨m, hm, rfl⟩ := mem_facts.mp hc
    obtain ⟨m', hm', hkey, hmint⟩ := exists_counterpart h hperm hm
    refine ⟨_, mem_facts.mpr ⟨m', hm', rfl⟩, ?_, ?_, ?_, ?_⟩
    · rw [(ends_finalCandidate m').key, (ends_finalCandidate m).key, hkey]
    · rw [(ends_finalCandidate m').mint, (ends_finalCandidate m).mint, hmint]
    · rw [originState_eq_originOf (h.of_perm hperm) (hwithin.of_perm hperm) hm',
        originState_eq_originOf h hwithin hm, hmint, originOf_of_perm hperm]
    · rw [pumpswapState_final hm', pumpswapState_final hm, hmint, admittedMints_of_perm h hperm]

/-- Origin and graduation are facts about the mint exactly where the ceiling of
origin cuts through none, and leaves out none that is registered. -/
theorem factsOfMints_iff (D : Digests) (cycleSeed : String) (R : Registry)
    (proofs : String → Option OriginProof) (pumpswapProofs : String → Option PumpswapProof)
    {observations : List Observation} (h : KeysTellMints observations) :
    FactsOfMints D cycleSeed R proofs pumpswapProofs observations ↔
      WithinCeiling D cycleSeed R proofs observations :=
  ⟨withinCeiling_of_facts h, facts_of_withinCeiling h⟩

/-! ## Fixed observations -/

/-- An observation of the mint `M` in a pool. -/
def observedIn (pool : String) : Observation where
  observationId := pool
  channel := "ACTIVE_PUMPFUN"
  mint := "M"
  pool := pool
  venue := "pumpfun"
  filled := by decide

/-- One mint in as many pools. -/
def pools (names : List String) : List Observation := names.map observedIn

theorem plainMint_pools (names : List String) : ∀ o ∈ pools names, PlainMint o.mint := by
  intro o ho
  obtain ⟨name, _, rfl⟩ := List.mem_map.mp ho
  have hplain : PlainMint "M" := ⟨by decide +kernel, by decide⟩
  exact hplain

/-- One mint in two pools. -/
theorem factsOfMints_two_pools :
    FactsOfMints firstChoices "seed" Sources.Registry.empty (fun _ => none) (fun _ => none)
      (pools ["a", "b"]) := by
  apply (factsOfMints_iff _ _ _ _ _ (keysTellMints_of_plain (plainMint_pools _))).mpr
  constructor
  · decide +kernel
  · intro obs _ _ hregistered
    simp [Sources.Registry.empty, Table.find?, Table.empty] at hregistered

/-- One mint in nine pools: eight fail their verification, one is not admitted. -/
theorem not_factsOfMints_nine_pools :
    ¬FactsOfMints firstChoices "seed" Sources.Registry.empty (fun _ => none) (fun _ => none)
      (pools ["a", "b", "c", "d", "e", "f", "g", "h", "i"]) := by
  intro h
  have hsplit : ¬∀ c ∈ (factsOf firstChoices "seed" Sources.Registry.empty (fun _ => none)
      (fun _ => none) (pools ["a", "b", "c", "d", "e", "f", "g", "h", "i"])).candidates,
      ∀ c' ∈ (factsOf firstChoices "seed" Sources.Registry.empty (fun _ => none)
        (fun _ => none) (pools ["a", "b", "c", "d", "e", "f", "g", "h", "i"])).candidates,
        c.mint = c'.mint → c.originState = c'.originState := by
    decide +kernel
  exact hsplit fun c hc c' hc' hmint => (h.shared c hc c' hc' hmint).1

end PrinterV1.Discovery.Combined
