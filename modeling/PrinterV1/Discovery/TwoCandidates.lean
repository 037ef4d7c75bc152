import Mathlib.Data.Prod.Lex
import PrinterV1.Discovery.SeededOrder
import PrinterV1.Foundation.FirstWins
import PrinterV1.Sources.GraduatedRegistry

/-!
# Two candidates or none

The selection walks one seeded order of the candidates, each mint and pair once,
and keeps every accepted candidate that shares neither mint nor pair with one
kept before, up to two. The first accepted candidate is kept for good: two are
selected where another accepted candidate goes with it, and only there.
-/

namespace PrinterV1.Discovery

open Python FirstWins Sources.Graduated

def combinedTwoTokenDomain : String := "CANONICAL_COMBINED_TWO_TOKEN"
def persistedGraduatedChannel : String := "PERSISTED_GRADUATED"

inductive SelectionTerminal
  | twoReady | insufficient | capacity | holderSource | noneSelected
  deriving DecidableEq, Repr

def holderSourceUnavailablePrefixes : List String :=
  ["HOLDER_EVIDENCE_UNAVAILABLE", "HOLDER_EVIDENCE_FAILED", "HOLDER_EVIDENCE_STALE",
    "HOLDER_EVIDENCE_COLLECTION_FAILED", "MISSING_CRITICAL_DATA"]

inductive SelectionAuthorityError
  | missingSelectionSeed | invalidCandidateCap
  deriving DecidableEq, Repr

structure SelectionCandidate where
  mint : String
  pairAddress : String
  marketIdentity : String
  provenance : String
  lifecycleState : String := "GRADUATED"
  graduationBlockTime : Option ℤ := none
  liquidityUsd : Option ℚ := none
  attributes : Option Dict := none
  deriving DecidableEq, Repr

/-- `identity_key()`, compared from the left. -/
def SelectionCandidate.identityKey (c : SelectionCandidate) : String ×ₗ String ×ₗ String :=
  toLex (tokenIdentity c.mint, toLex (c.marketIdentity, c.lifecycleState))

/-- What the funnel records of an evaluation. -/
structure FunnelEntry where
  mint : String
  pairAddress : String
  provenance : String
  eligible : Bool
  reason : String
  operationOrdinal : ℤ
  deriving DecidableEq, Repr

structure TwoCandidateSelection where
  ready : Bool
  terminal : SelectionTerminal
  candidateA : Option SelectionCandidate
  candidateB : Option SelectionCandidate
  compositionLabel : String
  funnel : List FunnelEntry
  evaluatedCount : ℤ
  poolSize : ℕ
  deriving DecidableEq, Repr

/-- `selected`: both candidates or none. -/
def TwoCandidateSelection.selected (s : TwoCandidateSelection) : List SelectionCandidate :=
  match s.candidateA, s.candidateB with
  | some a, some b => [a, b]
  | _, _ => []

def compositionLabel (selected : List SelectionCandidate) : String :=
  if selected.length < 2 then if selected.isEmpty then "NONE" else "SINGLE"
  else
    let latest := selected.countP fun c => c.provenance = latestGraduatedChannel
    let persisted := selected.countP fun c => c.provenance = persistedGraduatedChannel
    if latest = 2 then "LATEST+LATEST"
    else if persisted = 2 then "PERSISTED+PERSISTED"
    else if latest = 1 ∧ persisted = 1 then "LATEST+PERSISTED"
    else "MIXED_OTHER"

def deterministicCandidateOrder (D : Digests) (candidates : List SelectionCandidate)
    (cycleSeed : String) (domain : String := combinedTwoTokenDomain) :
    Except SelectionAuthorityError (List SelectionCandidate) :=
  if strip cycleSeed = "" then .error .missingSelectionSeed
  else
    .ok (fisherYates D (sortBy SelectionCandidate.identityKey candidates)
      (cycleSeed ++ "|" ++ domain))

/-- The mint and the pair, without the blanks around them. -/
def mintPair (c : SelectionCandidate) : String × String := (strip c.mint, strip c.pairAddress)

/-- The candidates with a mint and a pair, each such identity once. -/
def uniqueCandidates (candidates : List SelectionCandidate) : List SelectionCandidate :=
  firsts mintPair [] (candidates.filter fun c => (mintPair c).1 ≠ "" ∧ (mintPair c).2 ≠ "")

/-- What the walk has done so far. -/
structure SelectionWalk where
  selected : List SelectionCandidate
  funnel : List FunnelEntry
  ops : ℤ
  sawSourceOutage : Bool
  deriving DecidableEq, Repr

/-- `Callable[[SelectionCandidate], tuple[bool, str]]` -/
abbrev Evaluator := SelectionCandidate → Bool × String

section Walk

variable (evaluator : Option Evaluator) (prefixes : List String) (cap : ℤ)

/-- What the evaluator says of a candidate, if there is one. -/
def evaluation (c : SelectionCandidate) : Bool × String :=
  match evaluator with
  | none => (true, "ELIGIBLE")
  | some evaluate => evaluate c

/-- The candidate shares its mint or its pair with one that was selected. -/
def duplicatesSelected (selected : List SelectionCandidate) (c : SelectionCandidate) : Bool :=
  selected.any fun item => item.mint = c.mint || item.pairAddress = c.pairAddress

/-- One pass of the loop of `select_two_candidates`. -/
def evaluateCandidate (w : SelectionWalk) (c : SelectionCandidate) : SelectionWalk :=
  let (ok, reason) := evaluation evaluator c
  let duplicate := ok && duplicatesSelected w.selected c
  { selected := if ok && !duplicate then w.selected ++ [c] else w.selected
    funnel := w.funnel ++
      [{ mint := c.mint, pairAddress := c.pairAddress, provenance := c.provenance
         eligible := ok && !duplicate
         reason := if duplicate then "DUPLICATE_MINT_OR_PAIR" else reason
         operationOrdinal := w.ops + 1 }]
    ops := w.ops + 1
    sawSourceOutage := w.sawSourceOutage ||
      (!ok && prefixes.any fun p => reason.startsWith p) }

def walk : SelectionWalk → List SelectionCandidate → SelectionWalk
  | w, [] => w
  | w, c :: rest =>
    if 2 ≤ w.selected.length then w
    else if cap ≤ w.ops then w
    else walk (evaluateCandidate evaluator prefixes w c) rest

end Walk

/-- The selection the walk over an order comes to. -/
def walkedSelection (order : List SelectionCandidate) (evaluator : Option Evaluator)
    (candidateCap : Option ℤ) (prefixes : List String) : TwoCandidateSelection :=
  let cap : ℤ := candidateCap.getD order.length
  let w := walk evaluator prefixes cap ⟨[], [], 0, false⟩ order
  let capReached := cap ≤ w.ops ∧ w.selected.length < 2 ∧ w.ops < order.length
  { ready := w.selected.length = 2
    terminal :=
      if w.selected.length = 2 then .twoReady
      else if w.sawSourceOutage then .holderSource
      else if capReached then .capacity
      else if w.selected.isEmpty then if order.isEmpty then .noneSelected else .insufficient
      else .insufficient
    candidateA := w.selected[0]?
    candidateB := w.selected[1]?
    compositionLabel := compositionLabel w.selected
    funnel := w.funnel
    evaluatedCount := w.ops
    poolSize := order.length }

def selectTwoCandidates (D : Digests) (candidates : List SelectionCandidate) (cycleSeed : String)
    (evaluator : Option Evaluator := none) (candidateCap : Option ℤ := none)
    (sourceUnavailablePrefixes : List String := holderSourceUnavailablePrefixes) :
    Except SelectionAuthorityError TwoCandidateSelection := do
  if candidateCap.any fun cap => cap < 0 then throw .invalidCandidateCap
  let order ← deterministicCandidateOrder D (uniqueCandidates candidates) cycleSeed
  return walkedSelection order evaluator candidateCap sourceUnavailablePrefixes

/-! ## The walk -/

section Walk

variable (evaluator : Option Evaluator) (prefixes : List String) (cap : ℤ)

/-- The evaluator takes the candidate. -/
def accepts (c : SelectionCandidate) : Bool := (evaluation evaluator c).1

/-- The candidates share their mint or their pair, as they are spelled. -/
def SharesIdentity (a b : SelectionCandidate) : Prop :=
  a.mint = b.mint ∨ a.pairAddress = b.pairAddress

instance : DecidableRel SharesIdentity := fun a b =>
  inferInstanceAs (Decidable (a.mint = b.mint ∨ a.pairAddress = b.pairAddress))

theorem duplicatesSelected_iff (selected : List SelectionCandidate) (c : SelectionCandidate) :
    duplicatesSelected selected c = true ↔ ∃ k ∈ selected, SharesIdentity k c := by
  simp [duplicatesSelected, SharesIdentity]

theorem evaluateCandidate_selected (w : SelectionWalk) (c : SelectionCandidate) :
    (evaluateCandidate evaluator prefixes w c).selected =
      w.selected ++ kept SharesIdentity w.selected ([c].filter (accepts evaluator)) := by
  have hdup := duplicatesSelected_iff w.selected c
  rcases hsaid : evaluation evaluator c with ⟨ok, reason⟩
  have haccepts : accepts evaluator c = ok := by rw [accepts, hsaid]
  rw [evaluateCandidate, hsaid, List.filter_singleton, haccepts]
  cases ok with
  | false => simp
  | true =>
    rw [cond_true, kept_singleton]
    by_cases htouch : ∃ k ∈ w.selected, SharesIdentity k c
    · simp [hdup.mpr htouch, htouch]
    · have hfresh : duplicatesSelected w.selected c = false := by
        simpa using mt hdup.mp htouch
      simp [hfresh, htouch]

/-- The walk selects the first two of the accepted candidates that share nothing
with one kept before, among those the cap lets it evaluate. -/
theorem walk_selected (order : List SelectionCandidate) : ∀ w : SelectionWalk,
    w.selected.length ≤ 2 → (walk evaluator prefixes cap w order).selected =
      (w.selected ++ kept SharesIdentity w.selected
        ((order.take (cap - w.ops).toNat).filter (accepts evaluator))).take 2 := by
  induction order with
  | nil =>
    intro w hlength
    simp [walk, List.take_of_length_le hlength]
  | cons c rest ih =>
    intro w hlength
    unfold walk
    split_ifs with hfull hcap
    · rw [List.take_append_of_le_length hfull, List.take_of_length_le hlength]
    · have hnone : (cap - w.ops).toNat = 0 := by omega
      simp [hnone, List.take_of_length_le hlength]
    · have hstep := evaluateCandidate_selected evaluator prefixes w c
      have hops : (evaluateCandidate evaluator prefixes w c).ops = w.ops + 1 := rfl
      have hsome : (cap - w.ops).toNat = (cap - (w.ops + 1)).toNat + 1 := by omega
      have hshort : (kept SharesIdentity w.selected ([c].filter (accepts evaluator))).length ≤ 1 :=
        ((kept_sublist _ _).trans List.filter_sublist).length_le
      have hfirst : ∀ xs : List SelectionCandidate, (c :: xs).filter (accepts evaluator) =
          [c].filter (accepts evaluator) ++ xs.filter (accepts evaluator) :=
        fun xs => List.filter_append [c] xs
      rw [ih _ (by rw [hstep, List.length_append]; omega), hstep, hops, hsome, List.take_succ_cons,
        hfirst (rest.take (cap - (w.ops + 1)).toNat), kept_append _ _ w.selected, List.append_assoc]

/-- What the walk evaluated: a front of the order, within the cap, that ends
where two are selected, the cap is reached or nothing is left. -/
theorem walk_evaluated (order : List SelectionCandidate) : ∀ w : SelectionWalk,
    ∃ k ≤ order.length,
      (walk evaluator prefixes cap w order).ops = w.ops + k ∧
      (walk evaluator prefixes cap w order).funnel.map (fun e => (e.mint, e.pairAddress)) =
        w.funnel.map (fun e => (e.mint, e.pairAddress)) ++
          (order.take k).map (fun c => (c.mint, c.pairAddress)) ∧
      (w.ops ≤ cap → (walk evaluator prefixes cap w order).ops ≤ cap) := by
  induction order with
  | nil => intro w; exact ⟨0, le_rfl, by simp [walk], by simp [walk], by simp [walk]⟩
  | cons c rest ih =>
    intro w
    unfold walk
    split_ifs with hfull hcap
    · exact ⟨0, by omega, by simp, by simp, id⟩
    · exact ⟨0, by omega, by simp, by simp, id⟩
    · obtain ⟨k, hk, hops, hfunnel, hle⟩ := ih (evaluateCandidate evaluator prefixes w c)
      have hone : (evaluateCandidate evaluator prefixes w c).ops = w.ops + 1 := rfl
      refine ⟨k + 1, by simpa using hk, by omega, ?_, fun _ => hle (by omega)⟩
      rw [hfunnel, List.take_succ_cons]
      simp [evaluateCandidate]

end Walk

/-! ## Order -/

section Order

variable (evaluator : Option Evaluator) (prefixes : List String) (cap : ℤ)

/-- What the selection reads of a candidate. -/
def candidateView (c : SelectionCandidate) :
    (String × String) × (String ×ₗ String ×ₗ String) × Bool × String :=
  ((c.mint, c.pairAddress), c.identityKey, evaluation evaluator c)

/-- The walks have selected candidates of the same views, with the same effort. -/
structure SameWalk (w w' : SelectionWalk) : Prop where
  selected : w'.selected.map (candidateView evaluator) = w.selected.map (candidateView evaluator)
  ops : w'.ops = w.ops
  sawSourceOutage : w'.sawSourceOutage = w.sawSourceOutage

variable {evaluator}

theorem duplicatesSelected_congr {selected selected' : List SelectionCandidate}
    {c c' : SelectionCandidate}
    (hselected : selected'.map (candidateView evaluator) = selected.map (candidateView evaluator))
    (hview : candidateView evaluator c' = candidateView evaluator c) :
    duplicatesSelected selected' c' = duplicatesSelected selected c := by
  have hspelled : ∀ selected : List SelectionCandidate, ∀ c, duplicatesSelected selected c =
      (selected.map (candidateView evaluator)).any fun v =>
        v.1.1 = (candidateView evaluator c).1.1 || v.1.2 = (candidateView evaluator c).1.2 := by
    intro selected c
    rw [duplicatesSelected, List.any_map]
    rfl
  rw [hspelled, hspelled, hselected, hview]

theorem SameWalk.evaluateCandidate {w w' : SelectionWalk} (h : SameWalk evaluator w w')
    {c c' : SelectionCandidate}
    (hview : candidateView evaluator c' = candidateView evaluator c) :
    SameWalk evaluator (evaluateCandidate evaluator prefixes w c)
      (Discovery.evaluateCandidate evaluator prefixes w' c') := by
  have hsaid : evaluation evaluator c' = evaluation evaluator c :=
    congrArg (fun v => v.2.2) hview
  have hdup := duplicatesSelected_congr h.selected hview
  constructor
  · simp only [Discovery.evaluateCandidate, hsaid, hdup]
    split_ifs
    · rw [List.map_append, List.map_append, h.selected, List.map_singleton, List.map_singleton,
        hview]
    · exact h.selected
  · simp [Discovery.evaluateCandidate, h.ops]
  · simp [Discovery.evaluateCandidate, hsaid, h.sawSourceOutage]

theorem SameWalk.walk {order : List SelectionCandidate} : ∀ {order' : List SelectionCandidate}
    {w w' : SelectionWalk}, SameWalk evaluator w w' →
      order'.map (candidateView evaluator) = order.map (candidateView evaluator) →
        SameWalk evaluator (walk evaluator prefixes cap w order)
          (Discovery.walk evaluator prefixes cap w' order') := by
  induction order with
  | nil =>
    intro order' w w' h horder
    obtain rfl := List.map_eq_nil_iff.mp horder
    exact h
  | cons c rest ih =>
    intro order' w w' h horder
    obtain ⟨c', rest', rfl, hview, hrest⟩ := List.map_eq_cons_iff.mp horder
    have hlength : w'.selected.length = w.selected.length := by
      simpa using congrArg List.length h.selected
    unfold Discovery.walk
    rw [hlength, h.ops]
    split_ifs
    · exact h
    · exact h
    · exact ih (h.evaluateCandidate prefixes hview) hrest

end Order

/-! ## The selection -/

section Selection

variable {D : Digests} {candidates : List SelectionCandidate} {cycleSeed : String}
variable {evaluator : Option Evaluator} {candidateCap : Option ℤ} {prefixes : List String}

/-- The seeded order of the candidates, each mint and pair once. -/
def seededOrder (D : Digests) (candidates : List SelectionCandidate) (cycleSeed : String) :
    List SelectionCandidate :=
  fisherYates D (sortBy SelectionCandidate.identityKey (uniqueCandidates candidates))
    (cycleSeed ++ "|" ++ combinedTwoTokenDomain)

theorem deterministicCandidateOrder_unique (hseed : strip cycleSeed ≠ "") :
    deterministicCandidateOrder D (uniqueCandidates candidates) cycleSeed =
      .ok (seededOrder D candidates cycleSeed) := by
  rw [deterministicCandidateOrder, if_neg hseed, seededOrder]

theorem selectTwoCandidates_ok (hseed : strip cycleSeed ≠ "")
    (hcap : ∀ cap, candidateCap = some cap → 0 ≤ cap) :
    selectTwoCandidates D candidates cycleSeed evaluator candidateCap prefixes =
      .ok (walkedSelection (seededOrder D candidates cycleSeed) evaluator candidateCap
        prefixes) := by
  have hvalid : (candidateCap.any fun cap => cap < 0) = false := by
    cases candidateCap with
    | none => rfl
    | some cap => simpa using hcap cap rfl
  rw [selectTwoCandidates, hvalid, deterministicCandidateOrder_unique hseed]
  rfl

theorem seededOrder_perm (D : Digests) (candidates : List SelectionCandidate)
    (cycleSeed : String) : (seededOrder D candidates cycleSeed).Perm (uniqueCandidates candidates) :=
  (fisherYates_perm D _ _).trans (sortBy_perm _ _)

theorem mem_of_mem_uniqueCandidates {c : SelectionCandidate} (h : c ∈ uniqueCandidates candidates) :
    c ∈ candidates :=
  List.mem_of_mem_filter ((firsts_sublist _ []).subset h)

/-- No mint and pair comes twice in the order. -/
theorem nodup_seededOrder : ((seededOrder D candidates cycleSeed).map mintPair).Nodup :=
  ((seededOrder_perm D candidates cycleSeed).map mintPair).nodup_iff.mpr (nodup_firsts _ [])

/-- The first candidate of an order that the evaluator takes. -/
def firstAccepted (evaluator : Option Evaluator) (order : List SelectionCandidate) :
    Option SelectionCandidate :=
  order.find? (accepts evaluator)

/-- What a selection over an order is: two accepted candidates with nothing in
common or none, found wherever one goes with the first accepted candidate; each
mint and pair evaluated once at most, within the cap; and out of capacity only
where a candidate was left. -/
structure CanonicalSelection (order : List SelectionCandidate) (evaluator : Option Evaluator)
    (candidateCap : Option ℤ) (s : TwoCandidateSelection) : Prop where
  sound : s.ready = true → ∃ a b, s.candidateA = some a ∧ s.candidateB = some b ∧ a ∈ order ∧
    b ∈ order ∧ accepts evaluator a = true ∧ accepts evaluator b = true ∧ a.mint ≠ b.mint ∧
      a.pairAddress ≠ b.pairAddress
  complete : (∀ cap, candidateCap = some cap → order.length ≤ cap) → (s.ready = true ↔
    ∃ a b, firstAccepted evaluator order = some a ∧ b ∈ order ∧ accepts evaluator b = true ∧
      a.mint ≠ b.mint ∧ a.pairAddress ≠ b.pairAddress)
  none : s.ready = false → s.candidateB = none ∧ s.selected = []
  once : (s.funnel.map fun e => (strip e.mint, strip e.pairAddress)).Nodup
  count : s.evaluatedCount = s.funnel.length ∧ s.evaluatedCount ≤ s.poolSize
  capped : ∀ cap, candidateCap = some cap → s.evaluatedCount ≤ cap
  capacity : s.terminal = .capacity → s.evaluatedCount < s.poolSize

theorem not_sharesIdentity {a b : SelectionCandidate} :
    ¬SharesIdentity a b ↔ a.mint ≠ b.mint ∧ a.pairAddress ≠ b.pairAddress := not_or

/-- The accepted candidates among those the cap lets the walk evaluate. -/
def acceptedWithin (evaluator : Option Evaluator) (cap : ℤ) (order : List SelectionCandidate) :
    List SelectionCandidate :=
  (order.take cap.toNat).filter (accepts evaluator)

theorem walk_selected_start (evaluator : Option Evaluator) (prefixes : List String)
    (order : List SelectionCandidate) (cap : ℤ) :
    (walk evaluator prefixes cap ⟨[], [], 0, false⟩ order).selected =
      (kept SharesIdentity [] (acceptedWithin evaluator cap order)).take 2 := by
  rw [walk_selected evaluator prefixes cap order _ (by simp)]
  simp [acceptedWithin]

/-- Two candidates that were selected share nothing. -/
theorem selected_pair {xs selected : List SelectionCandidate}
    (hselected : selected = (kept SharesIdentity [] xs).take 2) (htwo : selected.length = 2) :
    ∃ a b, selected = [a, b] ∧ a ∈ xs ∧ b ∈ xs ∧ a.mint ≠ b.mint ∧
      a.pairAddress ≠ b.pairAddress := by
  obtain ⟨a, b, hpair⟩ := List.length_eq_two.mp htwo
  have hsub : selected.Sublist (kept SharesIdentity [] xs) := hselected ▸ List.take_sublist 2 _
  have hmem : ∀ c ∈ selected, c ∈ xs := fun c hc => (kept_sublist xs []).mem (hsub.mem hc)
  have hkept : (kept SharesIdentity [] xs).Pairwise fun a b => ¬SharesIdentity a b :=
    pairwise_kept xs []
  have hapart := hkept.sublist hsub
  rw [hpair] at hmem hapart
  have hab : ¬SharesIdentity a b := by simpa using hapart
  exact ⟨a, b, hpair, hmem a (by simp), hmem b (by simp), not_sharesIdentity.mp hab⟩

/-- Two candidates are selected where one goes with the first accepted. -/
theorem two_selected_iff {order : List SelectionCandidate} {cap : ℤ} (hcap : order.length ≤ cap) :
    ((kept SharesIdentity [] (acceptedWithin evaluator cap order)).take 2).length = 2 ↔
      ∃ a b, firstAccepted evaluator order = some a ∧ b ∈ order ∧ accepts evaluator b = true ∧
        a.mint ≠ b.mint ∧ a.pairAddress ≠ b.pairAddress := by
  have hall : acceptedWithin evaluator cap order = order.filter (accepts evaluator) := by
    rw [acceptedWithin, List.take_of_length_le (by omega)]
  have hrefl : ∀ a, SharesIdentity a a := fun a => Or.inl rfl
  rw [hall, List.length_take, firstAccepted, ← List.head?_filter]
  rw [show min 2 (kept SharesIdentity [] (order.filter (accepts evaluator))).length = 2 ↔
    2 ≤ (kept SharesIdentity [] (order.filter (accepts evaluator))).length by omega,
    two_le_length_kept_iff hrefl]
  constructor
  · rintro ⟨a, ha, b, hb, hab⟩
    obtain ⟨hmem, haccepts⟩ := List.mem_filter.mp hb
    exact ⟨a, b, ha, hmem, haccepts, not_sharesIdentity.mp hab⟩
  · rintro ⟨a, b, ha, hmem, haccepts, hab⟩
    exact ⟨a, ha, b, List.mem_filter.mpr ⟨hmem, haccepts⟩, not_sharesIdentity.mpr hab⟩

theorem walkedSelection_canonical {order : List SelectionCandidate}
    (hnodup : (order.map mintPair).Nodup) (hcap : ∀ cap, candidateCap = some cap → 0 ≤ cap) :
    CanonicalSelection order evaluator candidateCap
      (walkedSelection order evaluator candidateCap prefixes) := by
  have hselected := walk_selected_start evaluator prefixes order (candidateCap.getD order.length)
  obtain ⟨k, hk, hops, hfunnel, hwithin⟩ := walk_evaluated evaluator prefixes
    (candidateCap.getD order.length) order ⟨[], [], 0, false⟩
  have hlimit : (0 : ℤ) ≤ candidateCap.getD order.length := by
    cases candidateCap with
    | none => exact Int.natCast_nonneg _
    | some cap => exact hcap cap rfl
  have hmem : ∀ c ∈ acceptedWithin evaluator (candidateCap.getD order.length) order,
      c ∈ order ∧ accepts evaluator c = true := by
    intro c hc
    obtain ⟨htaken, haccepts⟩ := List.mem_filter.mp hc
    exact ⟨List.mem_of_mem_take htaken, haccepts⟩
  constructor
  · intro hready
    obtain ⟨a, b, hpair, ha, hb, hapart⟩ := selected_pair hselected (of_decide_eq_true hready)
    refine ⟨a, b, ?_, ?_, (hmem a ha).1, (hmem b hb).1, (hmem a ha).2, (hmem b hb).2, hapart⟩
    · exact congrArg (fun selected => selected[0]?) hpair
    · exact congrArg (fun selected => selected[1]?) hpair
  · intro hroom
    have hall : (order.length : ℤ) ≤ candidateCap.getD order.length := by
      cases candidateCap with
      | none => exact le_rfl
      | some cap => exact hroom cap rfl
    rw [← two_selected_iff hall, ← hselected]
    exact decide_eq_true_iff
  · intro hready
    have hshort : (walk evaluator prefixes (candidateCap.getD order.length) ⟨[], [], 0, false⟩
        order).selected.length < 2 := by
      have hne := of_decide_eq_false hready
      rw [hselected, List.length_take] at hne ⊢
      omega
    have hnone : (walkedSelection order evaluator candidateCap prefixes).candidateB = none :=
      List.getElem?_eq_none (by omega)
    refine ⟨hnone, ?_⟩
    rw [TwoCandidateSelection.selected, hnone]
    split <;> simp_all
  · have hidentities : (walkedSelection order evaluator candidateCap prefixes).funnel.map
        (fun e => (strip e.mint, strip e.pairAddress)) = (order.take k).map mintPair := by
      have hstripped := congrArg (List.map fun p : String × String => (strip p.1, strip p.2)) hfunnel
      simp only [List.map_nil, List.nil_append, List.map_map] at hstripped
      exact hstripped
    rw [hidentities]
    exact hnodup.sublist ((List.take_sublist k order).map mintPair)
  · have hlength := congrArg List.length hfunnel
    simp only [List.map_nil, List.nil_append, List.length_map, List.length_take] at hlength
    have hcount : (walkedSelection order evaluator candidateCap prefixes).evaluatedCount = k :=
      hops.trans (zero_add _)
    have hfunnelLength : (walkedSelection order evaluator candidateCap prefixes).funnel.length =
        k := by
      rw [← min_eq_left hk]
      exact hlength
    have hpool : (walkedSelection order evaluator candidateCap prefixes).poolSize =
        order.length := rfl
    omega
  · rintro cap rfl
    exact hwithin hlimit
  · intro hterminal
    simp only [walkedSelection] at hterminal ⊢
    split_ifs at hterminal with h2 hout hreached
    exact hreached.2.2

/-- Copies of one mint and pair are read alike, and an identity key belongs to
one mint and pair. -/
structure Distinguished (evaluator : Option Evaluator) (candidates : List SelectionCandidate) :
    Prop where
  copies : ∀ a ∈ candidates, ∀ b ∈ candidates, mintPair a = mintPair b →
    candidateView evaluator a = candidateView evaluator b
  keys : ∀ a ∈ candidates, ∀ b ∈ candidates, a.identityKey = b.identityKey → mintPair a = mintPair b

/-- What the order of the candidates leaves alone. -/
structure SameTwoCandidates (evaluator : Option Evaluator) (s s' : TwoCandidateSelection) : Prop where
  ready : s'.ready = s.ready
  terminal : s'.terminal = s.terminal
  candidateA : s'.candidateA.map (candidateView evaluator) =
    s.candidateA.map (candidateView evaluator)
  candidateB : s'.candidateB.map (candidateView evaluator) =
    s.candidateB.map (candidateView evaluator)
  evaluatedCount : s'.evaluatedCount = s.evaluatedCount
  poolSize : s'.poolSize = s.poolSize

theorem walkedSelection_congr {order order' : List SelectionCandidate}
    (h : order'.map (candidateView evaluator) = order.map (candidateView evaluator)) :
    SameTwoCandidates evaluator (walkedSelection order evaluator candidateCap prefixes)
      (walkedSelection order' evaluator candidateCap prefixes) := by
  have hlength : order'.length = order.length := by simpa using congrArg List.length h
  have hempty : order'.isEmpty = order.isEmpty := by
    rw [Bool.eq_iff_iff, List.isEmpty_iff_length_eq_zero, List.isEmpty_iff_length_eq_zero, hlength]
  have hstart : SameWalk evaluator ⟨[], [], 0, false⟩ ⟨[], [], 0, false⟩ := ⟨rfl, rfl, rfl⟩
  have hwalk := hstart.walk prefixes (candidateCap.getD order.length) h
  have hcount := congrArg List.length hwalk.selected
  rw [List.length_map, List.length_map] at hcount
  have hnone := congrArg List.isEmpty hwalk.selected
  rw [List.isEmpty_map, List.isEmpty_map] at hnone
  constructor
  · simp only [walkedSelection, hlength, hcount]
  · simp only [walkedSelection, hlength, hcount, hwalk.ops, hwalk.sawSourceOutage, hnone, hempty]
  · simp only [walkedSelection, hlength]
    rw [← List.getElem?_map, hwalk.selected, List.getElem?_map]
  · simp only [walkedSelection, hlength]
    rw [← List.getElem?_map, hwalk.selected, List.getElem?_map]
  · simp only [walkedSelection, hlength, hwalk.ops]
  · exact hlength

/-- The views of the seeded order do not show the order of the input. -/
theorem seededOrder_view_eq_of_perm {candidates' : List SelectionCandidate}
    (h : Distinguished evaluator candidates) (hperm : candidates'.Perm candidates) :
    (seededOrder D candidates' cycleSeed).map (candidateView evaluator) =
      (seededOrder D candidates cycleSeed).map (candidateView evaluator) := by
  have hview : ∀ candidates : List SelectionCandidate,
      (seededOrder D candidates cycleSeed).map (candidateView evaluator) =
        fisherYates D (sortBy (fun v => v.2.1)
          ((uniqueCandidates candidates).map (candidateView evaluator)))
          (cycleSeed ++ "|" ++ combinedTwoTokenDomain) := by
    intro candidates
    rw [seededOrder, fisherYates, fisherYates, ← Shuffles.shuffle_map]
    congr 1
    exact List.map_insertionSort _ _ _ _ fun a _ b _ => Iff.rfl
  have hunique : ∀ candidates : List SelectionCandidate, Distinguished evaluator candidates →
      ((uniqueCandidates candidates).map (candidateView evaluator)).Perm
        ((candidates.filter fun c => (mintPair c).1 ≠ "" ∧ (mintPair c).2 ≠ "").map
          (candidateView evaluator)).dedup := by
    intro candidates hdistinguished
    apply map_firsts_perm
    · intro a ha b hb
      exact hdistinguished.copies a (List.mem_of_mem_filter ha) b (List.mem_of_mem_filter hb)
    · intro a b hsame
      have hspelled := congrArg Prod.fst hsame
      simp only [candidateView, Prod.mk.injEq] at hspelled
      rw [mintPair, mintPair, hspelled.1, hspelled.2]
  have h' : Distinguished evaluator candidates' := by
    constructor
    · exact fun a ha b hb => h.copies a (hperm.mem_iff.mp ha) b (hperm.mem_iff.mp hb)
    · exact fun a ha b hb => h.keys a (hperm.mem_iff.mp ha) b (hperm.mem_iff.mp hb)
  rw [hview, hview]
  congr 1
  have hsame := ((hunique candidates' h').trans
    ((hperm.filter _).map (candidateView evaluator)).dedup).trans (hunique candidates h).symm
  apply sortBy_eq_of_perm hsame
  intro v hv v' hv' hkey
  obtain ⟨a, ha, rfl⟩ := List.mem_map.mp hv
  obtain ⟨b, hb, rfl⟩ := List.mem_map.mp hv'
  have ha' := hperm.mem_iff.mp (mem_of_mem_uniqueCandidates ha)
  have hb' := hperm.mem_iff.mp (mem_of_mem_uniqueCandidates hb)
  exact h.copies a ha' b hb' (h.keys a ha' b hb' hkey)

/-- The selection is canonical over the seeded order of the candidates, and the
order they come in does not show where they are distinguished. -/
theorem selectTwoCandidates_canonical (D : Digests) (candidates : List SelectionCandidate)
    (evaluator : Option Evaluator) (prefixes : List String) (hseed : strip cycleSeed ≠ "")
    (hcap : ∀ cap, candidateCap = some cap → 0 ≤ cap) :
    ∃ order s, deterministicCandidateOrder D (uniqueCandidates candidates) cycleSeed = .ok order ∧
      order.Perm (uniqueCandidates candidates) ∧
      selectTwoCandidates D candidates cycleSeed evaluator candidateCap prefixes = .ok s ∧
      CanonicalSelection order evaluator candidateCap s ∧
      (Distinguished evaluator candidates → ∀ candidates', candidates'.Perm candidates →
        ∃ s', selectTwoCandidates D candidates' cycleSeed evaluator candidateCap prefixes = .ok s' ∧
          SameTwoCandidates evaluator s s') := by
  refine ⟨seededOrder D candidates cycleSeed, _, deterministicCandidateOrder_unique hseed,
    seededOrder_perm D candidates cycleSeed, selectTwoCandidates_ok hseed hcap,
    walkedSelection_canonical nodup_seededOrder hcap, ?_⟩
  intro hdistinguished candidates' hperm
  exact ⟨_, selectTwoCandidates_ok hseed hcap,
    walkedSelection_congr (seededOrder_view_eq_of_perm hdistinguished hperm)⟩

end Selection

/-- Three candidates: the second shares its mint with the first and its pair
with the third. -/
def overlappingCandidates : List SelectionCandidate :=
  [⟨"M1", "P2", "1", "LATEST_GRADUATED", "GRADUATED", none, none, none⟩,
    ⟨"M1", "P1", "2", "LATEST_GRADUATED", "GRADUATED", none, none, none⟩,
    ⟨"M2", "P1", "3", "PERSISTED_GRADUATED", "GRADUATED", none, none, none⟩]

theorem distinguished_overlapping : Distinguished none overlappingCandidates := by
  constructor <;> decide

theorem selectTwoCandidates_canonical_overlapping :
    ∃ order s, deterministicCandidateOrder firstChoices (uniqueCandidates overlappingCandidates)
        "seed" = .ok order ∧
      selectTwoCandidates firstChoices overlappingCandidates "seed" = .ok s ∧
      CanonicalSelection order none none s ∧
      ∀ candidates', candidates'.Perm overlappingCandidates →
        ∃ s', selectTwoCandidates firstChoices candidates' "seed" = .ok s' ∧
          SameTwoCandidates none s s' := by
  have hcap : ∀ cap : ℤ, (none : Option ℤ) = some cap → 0 ≤ cap := fun cap h => by cases h
  have hseed : strip "seed" ≠ "" := by decide
  obtain ⟨order, s, horder, _, hs, hcanonical, hsame⟩ := selectTwoCandidates_canonical firstChoices
    overlappingCandidates none holderSourceUnavailablePrefixes hseed hcap
  exact ⟨order, s, horder, hs, hcanonical, hsame distinguished_overlapping⟩

/-- The walk meets the second candidate first, which goes with neither of the
others; they would be a pair of their own. -/
theorem selectTwoCandidates_misses_pair :
    ¬∀ s, selectTwoCandidates firstChoices overlappingCandidates "seed" = .ok s →
      (s.ready = true ↔ ∃ a ∈ overlappingCandidates, ∃ b ∈ overlappingCandidates,
        accepts none a = true ∧ accepts none b = true ∧ (mintPair a).1 ≠ (mintPair b).1 ∧
          (mintPair a).2 ≠ (mintPair b).2) := by
  intro hall
  have hcap : ∀ cap : ℤ, (none : Option ℤ) = some cap → 0 ≤ cap := fun cap h => by cases h
  have hseed : strip "seed" ≠ "" := by decide
  have hready : (walkedSelection (seededOrder firstChoices overlappingCandidates "seed") none none
      holderSourceUnavailablePrefixes).ready = false := by
    decide
  have hpair : ∃ a ∈ overlappingCandidates, ∃ b ∈ overlappingCandidates,
      accepts none a = true ∧ accepts none b = true ∧ (mintPair a).1 ≠ (mintPair b).1 ∧
        (mintPair a).2 ≠ (mintPair b).2 := by
    decide
  have hfound := (hall _ (selectTwoCandidates_ok hseed hcap)).mpr hpair
  rw [hready] at hfound
  exact absurd hfound (by decide)

end PrinterV1.Discovery
