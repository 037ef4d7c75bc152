import Mathlib.Data.List.Perm.Basic
import PrinterV1.Discovery.AcquisitionRun
import PrinterV1.Foundation.Faults

/-!
# The order of the observations

The loop over the observations accepts them exactly when each can be read and
the observations of one round agree pairwise. Neither depends on the order, and
the sort makes one list of the result, where the digest tells the observations
apart. Everything behind it is a function of that list.
-/

namespace PrinterV1.Discovery

open Python Faults

/-- Two observations of one round agree on it. -/
def SameRound (a b : RoundIdentity) : Prop := a.ordinal = b.ordinal → a.agrees b = true

theorem agrees_iff {a b : RoundIdentity} :
    a.agrees b = true ↔ a.source = b.source ∧ a.requestKind = b.requestKind ∧
      a.roundMode = b.roundMode ∧ a.sourceStatus = b.sourceStatus ∧
      Value.pyEq a.failureReason b.failureReason = true ∧
      a.governedRequests = b.governedRequests ∧ a.transportOperations = b.transportOperations ∧
      a.bytesUsed = b.bytesUsed ∧ a.rowsUsed = b.rowsUsed ∧
      a.durationMilliseconds = b.durationMilliseconds := by
  simp [RoundIdentity.agrees, and_assoc]

theorem agrees_symm {a b : RoundIdentity} (h : a.agrees b = true) : b.agrees a = true := by
  obtain ⟨h1, h2, h3, h4, h5, h6, h7, h8, h9, h10⟩ := agrees_iff.mp h
  exact agrees_iff.mpr ⟨h1.symm, h2.symm, h3.symm, h4.symm, Value.pyEq_symm h5, h6.symm, h7.symm,
    h8.symm, h9.symm, h10.symm⟩

theorem agrees_trans {a b c : RoundIdentity} (hab : a.agrees b = true) (hbc : b.agrees c = true) :
    a.agrees c = true := by
  obtain ⟨h1, h2, h3, h4, h5, h6, h7, h8, h9, h10⟩ := agrees_iff.mp hab
  obtain ⟨k1, k2, k3, k4, k5, k6, k7, k8, k9, k10⟩ := agrees_iff.mp hbc
  exact agrees_iff.mpr ⟨h1.trans k1, h2.trans k2, h3.trans k3, h4.trans k4, Value.pyEq_trans h5 k5,
    h6.trans k6, h7.trans k7, h8.trans k8, h9.trans k9, h10.trans k10⟩

theorem SameRound.symm {a b : RoundIdentity} (h : SameRound a b) : SameRound b a :=
  fun hord => agrees_symm (h hord.symm)

/-- It is enough to compare with the last identity of the round, since it agrees
with those before it. -/
theorem lastSeen_agrees_iff {seen : List RoundIdentity} {round : RoundIdentity}
    (hseen : seen.Pairwise SameRound) :
    ((lastSeen seen round.ordinal).any fun last => !last.agrees round) = false ↔
      ∀ s ∈ seen, SameRound s round := by
  induction seen with
  | nil => simp [lastSeen]
  | cons last rest ih =>
    obtain ⟨hlast, hrest⟩ := List.pairwise_cons.mp hseen
    by_cases hord : last.ordinal = round.ordinal
    · have hfind : lastSeen (last :: rest) round.ordinal = some last := by
        simp [lastSeen, hord]
      rw [hfind]
      constructor
      · intro h
        have hagrees : last.agrees round = true := by simpa using h
        intro s hs
        rcases List.mem_cons.mp hs with rfl | hs
        · exact fun _ => hagrees
        · intro hsord
          exact agrees_trans (agrees_symm (hlast s hs (hord.trans hsord.symm))) hagrees
      · intro h
        simp [h last List.mem_cons_self hord]
    · have hfind : lastSeen (last :: rest) round.ordinal = lastSeen rest round.ordinal := by
        simp [lastSeen, hord]
      rw [hfind, ih hrest]
      constructor
      · intro h s hs
        rcases List.mem_cons.mp hs with rfl | hs
        · exact fun hsord => absurd hsord hord
        · exact h s hs
      · intro h s hs
        exact h s (List.mem_cons_of_mem _ hs)

variable (L : Library) (plan : Plan)

/-- The observation is read as the round and the item, whatever stands beside it. -/
def Reads (raw : Dict) (r : RoundIdentity × Item) : Prop :=
  readRound L plan raw = .ok r.1 ∧
    ∃ content, readContent L raw r.1 = .ok content ∧ r.2 = content.seal L plan.executionId

variable {L plan}

theorem normalizeOne_ok_iff {raw : Dict} {seen : List RoundIdentity} {r : RoundIdentity × Item}
    (hseen : seen.Pairwise SameRound) :
    normalizeOne L plan raw seen = .ok r ↔
      Reads L plan raw r ∧ ∀ s ∈ seen, SameRound s r.1 := by
  unfold normalizeOne
  constructor
  · intro h
    obtain ⟨round, hround, h⟩ := bind_ok h
    split_ifs at h with hconflict
    · cases h
    · obtain ⟨content, hcontent, h⟩ := bind_ok h
      obtain rfl := Except.ok.inj h
      refine ⟨⟨hround, content, hcontent, rfl⟩, ?_⟩
      rw [← lastSeen_agrees_iff hseen]
      simpa using hconflict
  · rintro ⟨⟨hround, content, hcontent, hitem⟩, hagrees⟩
    have hno := (lastSeen_agrees_iff hseen).mpr hagrees
    simp [hround, hcontent, hno, bind, Except.bind, pure, Except.pure, ← hitem]

theorem normalizeAll_ok_iff {observations : List Dict} : ∀ {seen : List RoundIdentity}
    {items : List Item}, seen.Pairwise SameRound →
      (normalizeAll L plan seen observations = .ok items ↔
        ∃ rs, List.Forall₂ (Reads L plan) observations rs ∧ rs.map Prod.snd = items ∧
          ((rs.map Prod.fst).reverse ++ seen).Pairwise SameRound) := by
  induction observations with
  | nil =>
    intro seen items hseen
    constructor
    · intro h
      obtain rfl := Except.ok.inj h
      exact ⟨[], List.Forall₂.nil, rfl, hseen⟩
    · rintro ⟨rs, hreads, hitems, _⟩
      cases hreads
      rw [← hitems]
      rfl
  | cons raw rest ih =>
    intro seen items hseen
    constructor
    · intro h
      simp only [normalizeAll] at h
      obtain ⟨r, hone, h⟩ := bind_ok h
      obtain ⟨more, hmore, h⟩ := bind_ok h
      obtain rfl := Except.ok.inj h
      obtain ⟨hread, hagrees⟩ := (normalizeOne_ok_iff hseen).mp hone
      have hcons : (r.1 :: seen).Pairwise SameRound :=
        List.pairwise_cons.mpr ⟨fun s hs => (hagrees s hs).symm, hseen⟩
      obtain ⟨rs, hreads, hitems, hpair⟩ := (ih hcons).mp hmore
      refine ⟨r :: rs, List.Forall₂.cons hread hreads, by rw [List.map_cons, hitems], ?_⟩
      simpa using hpair
    · rintro ⟨rs, hreads, hitems, hpair⟩
      cases hreads with
      | cons hread hreads =>
        rename_i r rs
        have hpair' : ((rs.map Prod.fst).reverse ++ r.1 :: seen).Pairwise SameRound := by
          simpa using hpair
        have hcons : (r.1 :: seen).Pairwise SameRound := (List.pairwise_append.mp hpair').2.1
        have hagrees : ∀ s ∈ seen, SameRound s r.1 :=
          fun s hs => ((List.pairwise_cons.mp hcons).1 s hs).symm
        have hone := (normalizeOne_ok_iff hseen).mpr ⟨hread, hagrees⟩
        have hmore := (ih hcons).mpr ⟨rs, hreads, rfl, hpair'⟩
        rw [← hitems]
        simp [normalizeAll, hone, hmore, bind, Except.bind, pure, Except.pure]

/-- The loop reads a permutation of the observations as a permutation of the items. -/
theorem normalizeAll_perm {observations permuted : List Dict} {items : List Item}
    (hperm : observations.Perm permuted) (hok : normalizeAll L plan [] observations = .ok items) :
    ∃ items', normalizeAll L plan [] permuted = .ok items' ∧ items.Perm items' := by
  obtain ⟨rs, hreads, rfl, hpair⟩ := (normalizeAll_ok_iff List.Pairwise.nil).mp hok
  obtain ⟨rs', hreads', hrs⟩ := List.perm_comp_forall₂ hperm.symm hreads
  have hpair' : (rs'.map Prod.fst).reverse.Pairwise SameRound := by
    have hrounds : (rs.map Prod.fst).reverse.Perm (rs'.map Prod.fst).reverse :=
      ((List.reverse_perm _).trans (hrs.symm.map Prod.fst)).trans (List.reverse_perm _).symm
    rw [List.append_nil] at hpair
    exact (hrounds.pairwise_iff SameRound.symm).mp hpair
  refine ⟨rs'.map Prod.snd, ?_, hrs.symm.map Prod.snd⟩
  rw [normalizeAll_ok_iff List.Pairwise.nil]
  exact ⟨rs', hreads', rfl, by simpa using hpair'⟩

/-- The payload tells everything an observation holds. -/
theorem content_eq_of_payload {a b : Content} (h : a.payload = b.payload) : a = b := by
  simp only [Content.payload, Value.dict.injEq, List.cons.injEq, Prod.mk.injEq, true_and, and_true,
    optionalText_inj, optionalDict_inj, Value.int.injEq, Value.str.injEq] at h
  cases a
  cases b
  simp only [Content.mk.injEq]
  simp only at h
  tauto

/-- The hashes of the items tell their payloads apart. -/
def DigestsDistinguish (items : List Item) : Prop :=
  ∀ a ∈ items, ∀ b ∈ items, a.contentHash = b.contentHash →
    a.toContent.payload = b.toContent.payload

theorem mem_normalizeAll {observations : List Dict} {items : List Item}
    (hok : normalizeAll L plan [] observations = .ok items) :
    ∀ item ∈ items, ∃ content : Content, item = content.seal L plan.executionId := by
  obtain ⟨rs, hreads, rfl, -⟩ := (normalizeAll_ok_iff List.Pairwise.nil).mp hok
  clear hok
  induction hreads with
  | nil => simp
  | cons hread _ ih =>
    rename_i pair
    obtain ⟨_, content, _, hitem⟩ := hread
    intro item hmem
    rcases List.mem_cons.mp hmem with rfl | hmem
    · exact ⟨content, hitem⟩
    · exact ih item hmem

/-- Any order of the observations is accepted alike and gives one list. -/
theorem normalizeObservations_perm {observations permuted : List Dict} {items : List Item}
    (hperm : observations.Perm permuted)
    (hok : normalizeObservations L plan observations = .ok items)
    (hdigest : DigestsDistinguish items) :
    normalizeObservations L plan permuted = .ok items := by
  unfold normalizeObservations at hok ⊢
  obtain ⟨read, hread, hok⟩ := bind_ok hok
  obtain ⟨_, hbudgets, hok⟩ := bind_ok hok
  obtain rfl := Except.ok.inj hok
  obtain ⟨read', hread', hsame⟩ := normalizeAll_perm hperm hread
  have hkey : ∀ a ∈ read, ∀ b ∈ read, a.sortKey = b.sortKey → a = b := by
    intro a ha b hb hab
    obtain ⟨ca, rfl⟩ := mem_normalizeAll hread a ha
    obtain ⟨cb, rfl⟩ := mem_normalizeAll hread b hb
    have hhash : (ca.seal L plan.executionId).contentHash =
        (cb.seal L plan.executionId).contentHash := by
      have := congrArg (fun k => (ofLex (ofLex k).2).2) hab
      exact this
    have hpayload := hdigest _ (mem_sortBy.mpr ha) _ (mem_sortBy.mpr hb) hhash
    have hcontent : ca = cb := content_eq_of_payload hpayload
    rw [hcontent]
  have hsort : sortBy Item.sortKey read = sortBy Item.sortKey read' := sortBy_eq_of_perm hsame hkey
  rw [hread']
  simp only [bind, Except.bind, ← hsort, hbudgets]
  rfl

/-- Every order of the observations gives one normalized list, one acquisition
(input hash, candidates, selection, manifest hash and failure) and, on every
database, one report and one state after the run. -/
theorem acquisition_orderIndependent {observations permuted : List Dict} {items : List Item}
    (hperm : observations.Perm permuted)
    (hok : normalizeObservations L plan observations = .ok items)
    (hdigest : DigestsDistinguish items) :
    normalizeObservations L plan permuted = normalizeObservations L plan observations ∧
      (∀ s, frozenAcquisition L s plan permuted = frozenAcquisition L s plan observations) ∧
      ∀ db, runCandidateAcquisition L db plan permuted =
        runCandidateAcquisition L db plan observations := by
  have hsame : normalizeObservations L plan permuted = normalizeObservations L plan observations :=
    (normalizeObservations_perm hperm hok hdigest).trans hok.symm
  refine ⟨hsame, fun s => ?_, fun db => ?_⟩
  · unfold frozenAcquisition
    rw [hsame]
  · unfold runCandidateAcquisition
    cases hplan : validatePlan L plan with
    | error fault => rfl
    | ok frozenPlan =>
      obtain rfl := validatePlan_ok hplan
      simp only [bind, Except.bind, hsame]

/-- An observation of the chain for a mint, with one fact. -/
def chainObservation (mint factKey fact : String) : Dict :=
  [("expires_at", .str "2026-07-29T13:00:00+00:00"), ("facts", .dict [(factKey, .str fact)]),
    ("mint", .str mint), ("observed_at", .str "2026-07-29T12:00:00+00:00"),
    ("request_kind", .str "onchain_reference"), ("round_ordinal", .int 1),
    ("source_name", .str "solana_rpc")]

/-- The normalized list of two such observations. -/
def chainItems : List Item :=
  ((normalizeObservations checksumLibrary (samplePlan "e1")
    [chainObservation "A" "mint_status" "PASS", chainObservation "B" "mint_status" "FAIL"]).toOption
      ).getD []

theorem acquisition_orderIndependent_pair :
    normalizeObservations checksumLibrary (samplePlan "e1")
        [chainObservation "B" "mint_status" "FAIL", chainObservation "A" "mint_status" "PASS"] =
      normalizeObservations checksumLibrary (samplePlan "e1")
        [chainObservation "A" "mint_status" "PASS", chainObservation "B" "mint_status" "FAIL"] := by
  have hok : normalizeObservations checksumLibrary (samplePlan "e1")
      [chainObservation "A" "mint_status" "PASS", chainObservation "B" "mint_status" "FAIL"] =
        .ok chainItems := by
    decide +kernel
  have hdigest : DigestsDistinguish chainItems := by
    unfold DigestsDistinguish
    decide +kernel
  exact (acquisition_orderIndependent (List.Perm.swap _ _ _) hok hdigest).1

end PrinterV1.Discovery
