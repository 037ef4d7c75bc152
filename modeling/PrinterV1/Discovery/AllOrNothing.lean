import PrinterV1.Discovery.AcquisitionScript
import PrinterV1.Discovery.CommittedRows
import PrinterV1.Discovery.FailureReasons
import PrinterV1.Discovery.Replay

/-!
# Acquisition is all or nothing

Whatever statement of its transaction fails, a call raises and leaves the
database, replays the report of its execution, or commits the execution with
every row that belongs to it.
-/

namespace PrinterV1.Discovery

open Python Faults Transactions

/-! ## What a committed execution has stored -/

/-- The hash of every row that is new is the one of the payload beside it: of its own columns,
of the plan, of the cursor that its range is the row of, or of the items of the execution. -/
structure Hashed (L : Library) (plan : Plan) (items : List Item) (before after : Store) : Prop where
  policies : ∀ r ∈ after.policies, r ∈ before.policies ∨ r.policyHash = sha L plan.policyPayload
  executions : ∀ r ∈ after.executions, r ∈ before.executions ∨
    r.inputHash = inputHash L plan items ∧ r.replayIdentity = replayIdentity L plan r.inputHash
  rounds : ∀ r ∈ after.rounds, r ∈ before.rounds ∨ r.contentHash = sha L
    (.dict [("execution_id", .str r.executionId), ("kind", .str r.requestKind),
      ("ordinal", .int r.roundOrdinal), ("source", .str r.sourceName)])
  observations : ∀ r ∈ after.observations, r ∈ before.observations ∨
    r.item.contentHash = sha L r.item.toContent.payload
  ranges : ∀ r ∈ after.ranges, r ∈ before.ranges ∨ ∃ item ∈ items, ∃ cursor,
    item.cursorRange = some cursor ∧ r = rangeRow L plan item.roundOrdinal cursor ∧
      r.rangeHash = sha L (.dict (cursorPayload plan item.roundOrdinal cursor))
  identities : ∀ r ∈ after.identities, r ∈ before.identities ∨
    r.identityHash = sha L (r.identity.payload plan)
  evidence : ∀ r ∈ after.evidence, r ∈ before.evidence ∨ r.evidenceHash = sha L r.evidenceJson
  certificates : ∀ r ∈ after.certificates, r ∈ before.certificates ∨ ∃ payload : Dict,
    r.policyHash = sha L plan.policyPayload ∧ payload.has "certificate_hash" = false ∧
      r.certificateHash = sha L (.dict payload) ∧
      r.certificateJson = .dict (payload.set "certificate_hash" (.str r.certificateHash))
  manifests : ∀ r ∈ after.manifests, r ∈ before.manifests ∨ r.manifestHash = sha L
    (.dict [("approved_active_memory_capacity", .int 2), ("execution_id", .str r.executionId),
      ("item_count", .int r.selectionCapacity),
      ("ordered_item_hashes", .list (r.orderedItemHashes.map .str)),
      ("policy_id", .str r.policyId), ("readiness_status", .str r.readiness.value),
      ("runtime_neutral", .bool true), ("selection_capacity", .int r.selectionCapacity),
      ("selection_seed", .str r.selectionSeed)])
  manifestItems : ∀ r ∈ after.manifestItems, r ∈ before.manifestItems ∨ r.item.itemHash = sha L
    (.dict [("certificate_hash", .str r.item.certificateHash),
      ("certificate_id", .str r.item.certificateId), ("item_ordinal", .int r.item.itemOrdinal),
      ("mint", .str r.item.mint), ("pool", optionalText r.item.pool)])
  failures : ∀ r ∈ after.failures, r ∈ before.failures ∨ r.failureHash = sha L r.failureJson
  reports : ∀ r ∈ after.reports, r ∈ before.reports ∨ r.reportHash = sha L r.reportJson ∧
    r.policyHash = sha L plan.policyPayload ∧ r.inputHash = inputHash L plan items ∧
      r.replayIdentity = replayIdentity L plan r.inputHash

/-- An observation has one row, in the one round that its row names; its links are one to the
candidate of its mint where the mint is among those of the run, and none where it is not. -/
structure Recorded (plan : Plan) (mints : List String) (store : Store)
    (identities : List IdentityRow) (links : List LinkRow) (item : Item) : Prop where
  once : ∃ roundId round,
    store.observations.filter (fun o => o.item.observationId = item.observationId) =
      [⟨item, plan.executionId, roundId⟩] ∧
    store.rounds.filter (fun r => r.roundId = roundId) = [round] ∧
    round.executionId = plan.executionId ∧ round.roundOrdinal = item.roundOrdinal
  linked : ∀ mint ∈ mints, item.mint = some mint → ∃ identity,
    identities.filter (fun i => i.identity.mint = mint) = [identity] ∧
      links.filter (fun l => l.observationId = item.observationId) =
        [⟨identity.candidateId, item.observationId⟩]
  unlinked : (∀ mint ∈ mints, item.mint ≠ some mint) →
    links.filter (fun l => l.observationId = item.observationId) = []

/-- The rows that an execution adds to the tables of its results. -/
structure Committed (L : Library) (plan : Plan) (a : Acquisition) (report : Value)
    (before after : Store) : Prop where
  execution : after.executions = before.executions ++ [executionRow L plan a] ∧
    ∀ old ∈ before.executions, old.executionId ≠ plan.executionId
  reports : after.reports = before.reports ++ [reportRow L plan a report] ∧
    ∀ old ∈ before.reports, old.executionId ≠ plan.executionId
  observations : ∃ identities links observations,
    after.identities = before.identities ++ identities ∧ after.links = before.links ++ links ∧
    after.observations = before.observations ++ observations ∧
    observations.map ObservationRow.item = a.observations ∧
    ∀ item ∈ a.observations,
      Recorded plan (candidateMints plan a.observations) after identities links item
  outcome :
    (∃ manifest items, after.manifests = before.manifests ++ [manifest] ∧
      manifest.executionId = plan.executionId ∧
      (∀ old ∈ before.manifests, old.executionId ≠ plan.executionId) ∧
      after.manifestItems = before.manifestItems ++ items ∧
      (∀ item ∈ items, item.manifestId = manifest.manifestId) ∧
      (items.length : ℤ) = plan.selectionCapacity ∧ after.failures = before.failures) ∨
    (∃ failure, after.failures = before.failures ++ [failure] ∧
      failure.executionId = plan.executionId ∧ after.manifests = before.manifests ∧
      after.manifestItems = before.manifestItems)
  hashed : Hashed L plan a.observations before after

/-! ## What the execution worked out -/

section Worked

variable {L : Library} {plan : Plan}

theorem mapM_map_eq {α β κ ε : Type} {f : α → Except ε β} {key : β → κ} {key' : α → κ}
    (hkey : ∀ x y, f x = .ok y → key y = key' x) (xs : List α) : ∀ {ys : List β},
    xs.mapM f = .ok ys → ys.map key = xs.map key' := by
  induction xs with
  | nil =>
    intro ys h
    obtain rfl := Except.ok.inj h
    rfl
  | cons x xs ih =>
    intro ys h
    rw [List.mapM_cons] at h
    obtain ⟨y, hfirst, h⟩ := bind_ok h
    obtain ⟨rest, hrest, h⟩ := bind_ok h
    obtain rfl := Except.ok.inj h
    rw [List.map_cons, List.map_cons, hkey x y hfirst, ih hrest]

/-- A candidate that was built: its observations, its hashes and its certificate. -/
structure Built (L : Library) (plan : Plan) (items : List Item) (c : Candidate) : Prop where
  observations : c.observations = groupOf items c.mint
  identityHash : c.identityHash = sha L (c.toIdentity.payload plan)
  stages : ∃ stale, c.stages = evaluateStages
    (stageVerdict L c.toIdentity (c.observations.map fun item => item.facts) stale) 1 none stageNames
  certificate : ∃ payload : Dict, payload.has "certificate_hash" = false ∧
    c.certificateHash = sha L (.dict payload) ∧
    c.certificateJson = .dict (payload.set "certificate_hash" (.str c.certificateHash))

theorem buildCandidate_built {items : List Item} {cutoff : Instant} {mint : String} {c : Candidate}
    (h : buildCandidate L plan items cutoff mint = .ok c) : c.mint = mint ∧ Built L plan items c := by
  unfold buildCandidate at h
  dsimp only at h
  obtain ⟨stale, _, h⟩ := bind_ok h
  split at h
  · cases h
  · obtain rfl := Except.ok.inj h
    exact ⟨rfl, rfl, rfl, ⟨stale, rfl⟩, _, rfl, rfl, rfl⟩

/-- The candidates of a run, one for each of its mints. -/
theorem buildCandidates_built {items : List Item} {candidates : List Candidate}
    (h : buildCandidates L plan items = .ok candidates) :
    candidates.map (fun c => c.mint) = candidateMints plan items ∧
      ∀ c ∈ candidates, Built L plan items c := by
  unfold buildCandidates at h
  obtain ⟨cutoff, _, h⟩ := bind_ok h
  constructor
  · have hkeys : ∀ mint c, buildCandidate L plan items cutoff mint = .ok c → c.mint = id mint :=
      fun mint c hc => (buildCandidate_built hc).1
    rw [mapM_map_eq hkeys _ h, List.map_id]
  · intro c hc
    obtain ⟨mint, _, hbuilt⟩ := mem_mapM_ok h c hc
    exact (buildCandidate_built hbuilt).2

/-- What an execution works out: as many items as the capacity, or a failure with a reason. -/
theorem acquire_parts (hR : ∀ v, L.rendering.str v ≠ "") {items : List Item} {a : Acquisition}
    (h : acquire L plan items = .ok a) :
    a.observations = items ∧ buildCandidates L plan items = .ok a.candidates ∧
      (a.selected, a.manifest) = selection L plan a.admitted ∧
      ((a.failure = none ∧ (a.selected.length : ℤ) = plan.selectionCapacity) ∨
        ∃ failure, a.failure = some failure ∧ failure.reason ≠ "") := by
  unfold acquire at h
  obtain ⟨candidates, hcandidates, h⟩ := bind_ok h
  have hreasons : ∀ c ∈ candidates, ∀ stage ∈ c.stages, stage.reasonCode ≠ "" := by
    intro c hc stage hstage
    obtain ⟨stale, hstages⟩ := ((buildCandidates_built hcandidates).2 c hc).stages
    rw [hstages] at hstage
    exact evaluateStages_reason (stageVerdict_reason hR _ _) _ hstage
  cases hselection : selection L plan (candidates.filter fun c => c.admitted) with
  | mk selected manifest =>
    simp only [hselection] at h
    obtain rfl := Except.ok.inj h
    refine ⟨rfl, hcandidates, hselection.symm, ?_⟩
    by_cases hsuccess : (selected.length : ℤ) = plan.selectionCapacity
    · exact Or.inl ⟨if_pos hsuccess, hsuccess⟩
    · exact Or.inr ⟨_, if_neg hsuccess, failureFamily_reason hreasons⟩

theorem acquire_hashes {items : List Item} {a : Acquisition} (h : acquire L plan items = .ok a) :
    a.inputHash = inputHash L plan a.observations ∧
      a.replayIdentity = replayIdentity L plan a.inputHash := by
  unfold acquire at h
  obtain ⟨candidates, _, h⟩ := bind_ok h
  obtain rfl := Except.ok.inj h
  exact ⟨rfl, rfl⟩

/-- A selection that takes as many as the capacity has a manifest, and each of them is hashed. -/
theorem selection_parts {admitted : List Candidate} {selected : List SelectedItem}
    {manifest : Option Manifest} (h : (selected, manifest) = selection L plan admitted) :
    (∀ m, manifest = some m → m.manifestHash = sha L (manifestPayload plan m.readiness selected)) ∧
      (manifest = none → selected = [] ∧ (admitted.length : ℤ) < plan.selectionCapacity) ∧
      ∀ item ∈ selected, item.itemHash = sha L
        (.dict [("certificate_hash", .str item.certificateHash),
          ("certificate_id", .str item.certificateId), ("item_ordinal", .int item.itemOrdinal),
          ("mint", .str item.mint), ("pool", optionalText item.pool)]) := by
  unfold selection at h
  by_cases hshort : (admitted.length : ℤ) < plan.selectionCapacity
  · rw [if_pos hshort] at h
    obtain ⟨rfl, rfl⟩ := Prod.mk.inj h
    exact ⟨by simp, fun _ => ⟨rfl, hshort⟩, by simp⟩
  · rw [if_neg hshort] at h
    obtain ⟨rfl, rfl⟩ := Prod.mk.inj h
    refine ⟨fun m hm => ?_, by simp, fun item hitem => ?_⟩
    · obtain rfl := Option.some.inj hm
      rfl
    · obtain ⟨entry, _, rfl⟩ := List.mem_map.mp hitem
      rfl

end Worked

/-! ## What the transaction leaves -/

section Transaction

variable {L : Library} {plan : Plan} {a : Acquisition} {report : Value}

/-- The rounds and the observations of a first part that got through are new. -/
theorem persistSources_fresh {cursorTable : Bool} {store store' : Store}
    (h : persistSources L cursorTable plan a store = .ok store') :
    (((roundRows L plan [] a.observations).map RoundRow.roundId).Nodup ∧
        ∀ r ∈ roundRows L plan [] a.observations, ∀ old ∈ store.rounds, old.roundId ≠ r.roundId) ∧
      (a.observations.map Item.observationId).Nodup ∧
        ∀ item ∈ a.observations, ∀ old ∈ store.observations,
          old.item.observationId ≠ item.observationId := by
  unfold persistSources at h
  dsimp only at h
  obtain ⟨policies, hpolicies, _⟩ := insertPolicy_writes plan store
  rw [hpolicies] at h
  obtain ⟨start, hexecution, h⟩ := bind_ok h
  obtain ⟨_, hinserted, _⟩ := bind_ok h
  obtain ⟨hstart, _⟩ := insertExecution_writes hexecution
  have hrounds : start.rounds = store.rounds := by rw [hstart]
  have hobservations : start.observations = store.observations := by rw [hstart]
  have hfresh := insertRounds_fresh a.observations hinserted
  rw [hrounds, hobservations] at hfresh
  exact hfresh

/-- The rows that a transaction that got through adds, table by table. -/
structure Written (L : Library) (plan : Plan) (a : Acquisition) (report : Value)
    (before after : Store) : Prop where
  policies : ∃ policies, after.policies = before.policies ++ policies ∧
    ∀ r ∈ policies, r.policyHash = plan.policyHash
  executions : after.executions = before.executions ++ [executionRow L plan a]
  rounds : after.rounds = before.rounds ++ roundRows L plan [] a.observations
  observations : after.observations = before.observations ++ observationRows L plan [] a.observations
  ranges : ∃ ranges, after.ranges = before.ranges ++ ranges ∧
    ∀ r ∈ ranges, r.isOf L plan a.observations
  identities : after.identities = before.identities ++ a.candidates.map (identityRow plan)
  links : after.links = before.links ++ a.candidates.flatMap linkRows
  evidence : after.evidence =
    before.evidence ++ a.candidates.flatMap fun c => c.stages.map (evidenceRow L c)
  certificates : after.certificates = before.certificates ++ a.candidates.map (certificateRow plan)
  manifest :
    (∃ m, a.failure = none ∧ a.manifest = some m ∧
      after.manifests = before.manifests ++ [manifestRow plan (manifestId L m) m a.selected] ∧
      after.manifestItems =
        before.manifestItems ++ (a.selected.map fun item => ⟨manifestId L m, item⟩) ∧
      ∀ old ∈ before.manifests, old.executionId ≠ plan.executionId) ∨
    (a.failure = none → a.manifest = none) ∧ after.manifests = before.manifests ∧
      after.manifestItems = before.manifestItems
  failure :
    (∃ failure, a.failure = some failure ∧ failure.reason ≠ "" ∧
      after.failures = before.failures ++ [failureRow L plan failure a.admitted.length]) ∨
    (∀ failure, a.failure = some failure → failure.reason = "") ∧ after.failures = before.failures
  reports : after.reports = before.reports ++ [reportRow L plan a report]
  unreported : ∀ old ∈ before.reports, old.executionId ≠ plan.executionId

theorem persist_writes {cursorTable : Bool} {store mid store' : Store}
    (hsources : persistSources L cursorTable plan a store = .ok mid)
    (hresults : persistResults L plan a report mid = .ok store') :
    Written L plan a report store store' := by
  obtain ⟨policies, ranges, cursors, rfl, hpolicies, hranges, _⟩ := persistSources_writes hsources
  unfold persistResults at hresults
  obtain ⟨store₁, hcandidates, hresults⟩ := bind_ok hresults
  obtain ⟨store₂, hmanifest, hresults⟩ := bind_ok hresults
  obtain ⟨store₃, hfailure, hresults⟩ := bind_ok hresults
  obtain ⟨rfl, hfree⟩ := insertReport_writes hresults
  obtain rfl := insertCandidates_writes _ hcandidates
  rcases persistManifest_writes hmanifest with ⟨m, hnone, hm, rfl, hnew⟩ | ⟨hnone, rfl⟩ <;>
    rcases persistFailure_writes hfailure with ⟨failure, hsome, hreason, rfl⟩ | ⟨hempty, rfl⟩
  · rw [hnone] at hsome
    cases hsome
  · exact ⟨⟨policies, rfl, hpolicies⟩, rfl, rfl, rfl, ⟨ranges, rfl, hranges⟩, rfl, rfl, rfl, rfl,
      Or.inl ⟨m, hnone, hm, rfl, rfl, fun old hold => (hnew old hold).2⟩, Or.inr ⟨hempty, rfl⟩, rfl,
      hfree⟩
  · exact ⟨⟨policies, rfl, hpolicies⟩, rfl, rfl, rfl, ⟨ranges, rfl, hranges⟩, rfl, rfl, rfl, rfl,
      Or.inr ⟨hnone, rfl, rfl⟩, Or.inl ⟨failure, hsome, hreason, rfl⟩, rfl, hfree⟩
  · exact ⟨⟨policies, rfl, hpolicies⟩, rfl, rfl, rfl, ⟨ranges, rfl, hranges⟩, rfl, rfl, rfl, rfl,
      Or.inr ⟨hnone, rfl, rfl⟩, Or.inr ⟨hempty, rfl⟩, rfl, hfree⟩

/-- Each observation of the execution is recorded once. -/
theorem recorded_of_writes {items : List Item} {store store' : Store}
    (hbuilt : ∀ c ∈ a.candidates, Built L plan items c)
    (hmints : a.candidates.map (fun c => c.mint) = candidateMints plan items)
    (hnodup : (a.candidates.map fun c => c.mint).Nodup)
    (hrounds : store'.rounds = store.rounds ++ roundRows L plan [] items)
    (hobservations : store'.observations = store.observations ++ observationRows L plan [] items)
    (hroundIds : ((roundRows L plan [] items).map RoundRow.roundId).Nodup ∧
      ∀ r ∈ roundRows L plan [] items, ∀ old ∈ store.rounds, old.roundId ≠ r.roundId)
    (hids : (items.map Item.observationId).Nodup ∧ ∀ item ∈ items, ∀ old ∈ store.observations,
      old.item.observationId ≠ item.observationId) {item : Item} (hitem : item ∈ items) :
    Recorded plan (candidateMints plan items) store' (a.candidates.map (identityRow plan))
      (a.candidates.flatMap linkRows) item := by
  have hlinks := filter_linkRows hids.1 hitem a.candidates fun c hc => (hbuilt c hc).observations
  constructor
  · -- the row of the item, and the round that it names
    have hrow : item ∈ (observationRows L plan [] items).map ObservationRow.item := by
      rw [observationRows_items]
      exact hitem
    obtain ⟨⟨own, execution, roundId⟩, ho, rfl⟩ := List.mem_map.mp hrow
    obtain ⟨rfl, hopened | ⟨round, hround, rfl, hordinal⟩⟩ := observationRows_round items ho
    · cases hopened
    · refine ⟨round.roundId, round, ?_, ?_, ?_, hordinal⟩
      · rw [hobservations]
        refine filter_key_append (fun o : ObservationRow => o.item.observationId) ?_ ?_ ho
        · have hkeys := hids.1
          rw [← observationRows_items L plan items [], List.map_map] at hkeys
          exact hkeys
        · intro r hr old hold
          refine hids.2 r.item ?_ old hold
          rw [← observationRows_items L plan items []]
          exact List.mem_map_of_mem hr
      · rw [hrounds]
        exact filter_key_append RoundRow.roundId hroundIds.1 hroundIds.2 hround
      · obtain ⟨_, _, rfl⟩ := mem_roundRows items hround
        rfl
  · intro mint hmint hof
    rw [← hmints] at hmint
    obtain ⟨c, hc, rfl⟩ := List.mem_map.mp hmint
    have hone := filter_key (fun x : Candidate => x.mint) hnodup hc
    refine ⟨identityRow plan c, ?_, ?_⟩
    · rw [List.filter_map]
      exact congrArg (List.map (identityRow plan)) hone
    · have hsame : (a.candidates.filter fun c => item.mint = some c.mint) =
          a.candidates.filter fun x => x.mint = c.mint := by
        refine List.filter_congr fun x _ => ?_
        rw [hof, decide_eq_decide, Option.some.injEq, eq_comm]
      rw [hlinks, hsame, hone]
      rfl
  · intro hnone
    rw [hlinks, List.map_eq_nil_iff, List.filter_eq_nil_iff]
    intro c hc hof
    refine hnone c.mint ?_ (of_decide_eq_true hof)
    rw [← hmints]
    exact List.mem_map_of_mem hc

/-- Appended rows that are all hashed. -/
theorem hashed_append {ρ : Type} {p : ρ → Prop} {before added after : List ρ}
    (hafter : after = before ++ added) (hadded : ∀ r ∈ added, p r) :
    ∀ r ∈ after, r ∈ before ∨ p r := by
  intro r hr
  rw [hafter] at hr
  exact (List.mem_append.mp hr).imp id (hadded r)

namespace Written

variable {before after : Store}

/-- A manifest with as many items as the capacity, or a failure. -/
theorem outcome (h : Written L plan a report before after)
    (houtcome : (a.failure = none ∧ (a.selected.length : ℤ) = plan.selectionCapacity) ∨
      ∃ failure, a.failure = some failure ∧ failure.reason ≠ "")
    (hshort : a.manifest = none →
      a.selected = [] ∧ (a.admitted.length : ℤ) < plan.selectionCapacity) :
    (∃ manifest items, after.manifests = before.manifests ++ [manifest] ∧
      manifest.executionId = plan.executionId ∧
      (∀ old ∈ before.manifests, old.executionId ≠ plan.executionId) ∧
      after.manifestItems = before.manifestItems ++ items ∧
      (∀ item ∈ items, item.manifestId = manifest.manifestId) ∧
      (items.length : ℤ) = plan.selectionCapacity ∧ after.failures = before.failures) ∨
    (∃ failure, after.failures = before.failures ++ [failure] ∧
      failure.executionId = plan.executionId ∧ after.manifests = before.manifests ∧
      after.manifestItems = before.manifestItems) := by
  rcases houtcome with ⟨hnone, hlength⟩ | ⟨failure, hsome, hreason⟩
  · left
    have hfailures : after.failures = before.failures := by
      rcases h.failure with ⟨failure, hsome, _, _⟩ | ⟨_, hsame⟩
      · rw [hnone] at hsome
        cases hsome
      · exact hsame
    rcases h.manifest with ⟨m, _, _, hmanifests, hitems, hfree⟩ | ⟨hno, _, _⟩
    · refine ⟨_, _, hmanifests, rfl, hfree, hitems, ?_, ?_, hfailures⟩
      · intro row hrow
        obtain ⟨_, _, rfl⟩ := List.mem_map.mp hrow
        rfl
      · rw [List.length_map]
        exact hlength
    · -- no manifest: nothing was selected, though fewer were admitted than the capacity
      obtain ⟨hselected, hfew⟩ := hshort (hno hnone)
      rw [hselected, List.length_nil] at hlength
      omega
  · right
    rcases h.manifest with ⟨_, hnone, _⟩ | ⟨_, hmanifests, hitems⟩
    · rw [hsome] at hnone
      cases hnone
    · rcases h.failure with ⟨_, _, _, hfailures⟩ | ⟨hempty, _⟩
      · exact ⟨_, hfailures, rfl, hmanifests, hitems⟩
      · exact absurd (hempty failure hsome) hreason

theorem ranges_hashed (h : Written L plan a report before after) : ∀ r ∈ after.ranges,
    r ∈ before.ranges ∨ ∃ item ∈ a.observations, ∃ cursor, item.cursorRange = some cursor ∧
      r = rangeRow L plan item.roundOrdinal cursor ∧
        r.rangeHash = sha L (.dict (cursorPayload plan item.roundOrdinal cursor)) := by
  obtain ⟨ranges, hranges, hof⟩ := h.ranges
  refine hashed_append hranges fun r hr => ?_
  obtain ⟨item, hitem, cursor, hcursor, rfl⟩ := hof r hr
  exact ⟨item, hitem, cursor, hcursor, rfl, rfl⟩

theorem manifests_hashed (h : Written L plan a report before after)
    (hhash : ∀ m, a.manifest = some m →
      m.manifestHash = sha L (manifestPayload plan m.readiness a.selected)) :
    ∀ r ∈ after.manifests, r ∈ before.manifests ∨ r.manifestHash = sha L
      (.dict [("approved_active_memory_capacity", .int 2), ("execution_id", .str r.executionId),
        ("item_count", .int r.selectionCapacity),
        ("ordered_item_hashes", .list (r.orderedItemHashes.map .str)),
        ("policy_id", .str r.policyId), ("readiness_status", .str r.readiness.value),
        ("runtime_neutral", .bool true), ("selection_capacity", .int r.selectionCapacity),
        ("selection_seed", .str r.selectionSeed)]) := by
  rcases h.manifest with ⟨m, _, hm, hmanifests, _⟩ | ⟨_, hmanifests, _⟩
  · refine hashed_append hmanifests fun r hr => ?_
    obtain rfl := List.mem_singleton.mp hr
    have hpayload := hhash m hm
    rw [manifestPayload] at hpayload
    simpa [manifestRow, List.map_map, Function.comp_def] using hpayload
  · exact fun r hr => Or.inl (hmanifests ▸ hr)

theorem manifestItems_hashed (h : Written L plan a report before after) {p : SelectedItem → Prop}
    (hitem : ∀ item ∈ a.selected, p item) :
    ∀ r ∈ after.manifestItems, r ∈ before.manifestItems ∨ p r.item := by
  rcases h.manifest with ⟨m, _, _, _, hitems, _⟩ | ⟨_, _, hitems⟩
  · refine hashed_append hitems fun r hr => ?_
    obtain ⟨item, hselected, rfl⟩ := List.mem_map.mp hr
    exact hitem item hselected
  · exact fun r hr => Or.inl (hitems ▸ hr)

theorem failures_hashed (h : Written L plan a report before after) :
    ∀ r ∈ after.failures, r ∈ before.failures ∨ r.failureHash = sha L r.failureJson := by
  rcases h.failure with ⟨failure, _, _, hfailures⟩ | ⟨_, hfailures⟩
  · refine hashed_append hfailures fun r hr => ?_
    obtain rfl := List.mem_singleton.mp hr
    rfl
  · exact fun r hr => Or.inl (hfailures ▸ hr)

/-- The observations were sealed and the candidates built with their hashes; the rows copy them. -/
theorem hashed (h : Written L plan a report before after) {items : List Item}
    (ha : acquire L plan items = .ok a) (hpolicy : plan.policyHash = sha L plan.policyPayload)
    (hsealed : ∀ item ∈ a.observations, item.contentHash = sha L item.toContent.payload)
    (hbuilt : ∀ c ∈ a.candidates, Built L plan a.observations c)
    (hselection : (a.selected, a.manifest) = selection L plan a.admitted) :
    Hashed L plan a.observations before after := by
  obtain ⟨hinput, hreplay⟩ := acquire_hashes ha
  obtain ⟨hmanifest, _, hitem⟩ := selection_parts hselection
  exact {
    policies := by
      obtain ⟨policies, hpolicies, hof⟩ := h.policies
      exact hashed_append hpolicies fun r hr => (hof r hr).trans hpolicy
    executions := by
      refine hashed_append h.executions fun r hr => ?_
      obtain rfl := List.mem_singleton.mp hr
      exact ⟨hinput, hreplay⟩
    rounds := by
      refine hashed_append h.rounds fun r hr => ?_
      obtain ⟨_, _, rfl⟩ := mem_roundRows _ hr
      rfl
    observations := by
      refine hashed_append h.observations fun r hr => hsealed r.item ?_
      have hmem := List.mem_map_of_mem (f := ObservationRow.item) hr
      rwa [observationRows_items] at hmem
    ranges := h.ranges_hashed
    identities := by
      refine hashed_append h.identities fun r hr => ?_
      obtain ⟨c, hc, rfl⟩ := List.mem_map.mp hr
      exact (hbuilt c hc).identityHash
    evidence := by
      refine hashed_append h.evidence fun r hr => ?_
      obtain ⟨c, _, hr⟩ := List.mem_flatMap.mp hr
      obtain ⟨stage, _, rfl⟩ := List.mem_map.mp hr
      rfl
    certificates := by
      refine hashed_append h.certificates fun r hr => ?_
      obtain ⟨c, hc, rfl⟩ := List.mem_map.mp hr
      obtain ⟨payload, hcertificate⟩ := (hbuilt c hc).certificate
      exact ⟨payload, hpolicy, hcertificate⟩
    manifests := h.manifests_hashed hmanifest
    manifestItems := h.manifestItems_hashed hitem
    failures := h.failures_hashed
    reports := by
      refine hashed_append h.reports fun r hr => ?_
      obtain rfl := List.mem_singleton.mp hr
      exact ⟨rfl, hpolicy, hinput, hreplay⟩ }

end Written

/-- A transaction that got through has committed its execution. -/
theorem committed_of_persist (hR : ∀ v, L.rendering.str v ≠ "") {items : List Item}
    (ha : acquire L plan items = .ok a) (hpolicy : plan.policyHash = sha L plan.policyPayload)
    (hsealed : ∀ item ∈ items, item.contentHash = sha L item.toContent.payload)
    {cursorTable : Bool} {store mid store' : Store}
    (hsources : persistSources L cursorTable plan a store = .ok mid)
    (hresults : persistResults L plan a report mid = .ok store') :
    Committed L plan a report store store' := by
  obtain ⟨rfl, hcandidates, hselection, houtcome⟩ := acquire_parts hR ha
  obtain ⟨hmints, hbuilt⟩ := buildCandidates_built hcandidates
  obtain ⟨_, _, _, _, _, _, hexecution⟩ := persistSources_writes hsources
  obtain ⟨hroundIds, hids⟩ := persistSources_fresh hsources
  have hnodup : (a.candidates.map fun c => c.mint).Nodup := by
    unfold persistResults at hresults
    obtain ⟨_, hinserted, _⟩ := bind_ok hresults
    exact (insertCandidates_mints _ hinserted).1
  have hwritten := persist_writes hsources hresults
  constructor
  · exact ⟨hwritten.executions, hexecution⟩
  · exact ⟨hwritten.reports, hwritten.unreported⟩
  · exact ⟨_, _, _, hwritten.identities, hwritten.links, hwritten.observations,
      observationRows_items _ _ _ _, fun item hitem => recorded_of_writes hbuilt hmints hnodup
        hwritten.rounds hwritten.observations hroundIds hids hitem⟩
  · exact hwritten.outcome houtcome (selection_parts hselection).2.1
  · exact hwritten.hashed ha hpolicy hsealed hbuilt hselection

end Transaction

/-! ## The call -/

section Call

variable {L : Library} {plan : Plan}

/-- Each observation gives one item, with the hash of its content. -/
theorem normalizeAll_sealed (observations : List Dict) : ∀ {seen : List RoundIdentity}
    {items : List Item}, normalizeAll L plan seen observations = .ok items →
      items.length = observations.length ∧
        ∀ item ∈ items, item.contentHash = sha L item.toContent.payload := by
  induction observations with
  | nil =>
    intro seen items h
    obtain rfl := Except.ok.inj h
    simp
  | cons raw rest ih =>
    intro seen items h
    unfold normalizeAll at h
    obtain ⟨⟨round, item⟩, hone, h⟩ := bind_ok h
    obtain ⟨others, hothers, h⟩ := bind_ok h
    obtain rfl := Except.ok.inj h
    obtain ⟨hlength, hsealed⟩ := ih hothers
    refine ⟨by simp [hlength], List.forall_mem_cons.mpr ⟨?_, hsealed⟩⟩
    unfold normalizeOne at hone
    obtain ⟨_, _, hone⟩ := bind_ok hone
    obtain ⟨_, hone⟩ := check_ok hone
    obtain ⟨content, _, hone⟩ := bind_ok hone
    obtain ⟨_, rfl⟩ := Prod.mk.inj (Except.ok.inj hone)
    rfl

theorem frozenItems_sealed {s : Surroundings} {observations : List Dict} {items : List Item}
    (h : frozenItems L s plan observations = .ok items) :
    items.length = observations.length ∧
      ∀ item ∈ items, item.contentHash = sha L item.toContent.payload := by
  obtain ⟨normalized, instant, hnormalized, _, rfl⟩ := frozenItems_ok_iff.mp h
  unfold normalizeObservations at hnormalized
  obtain ⟨all, hall, hnormalized⟩ := bind_ok hnormalized
  obtain ⟨_, _, hnormalized⟩ := bind_ok hnormalized
  obtain rfl := Except.ok.inj hnormalized
  obtain ⟨hlength, hsealed⟩ := normalizeAll_sealed observations hall
  constructor
  · rw [(sortBy_perm _ _).length_eq, List.length_map, (sortBy_perm _ _).length_eq, hlength]
  · intro item hitem
    obtain ⟨old, hold, rfl⟩ := List.mem_map.mp (mem_sortBy.mp hitem)
    unfold recheckItem
    split
    · rfl
    · exact hsealed old (mem_sortBy.mp hold)

/-- What a call found out before it wrote. -/
theorem prepareRun_ok {db : Database} {observations : List Dict}
    {found : Value ⊕ Acquisition × Value} (h : prepareRun L db plan observations = .ok found) :
    plan.policyHash = sha L plan.policyPayload ∧
      ∃ items, frozenItems L db.surroundings plan observations = .ok items ∧
      ((∃ row, db.store.reportOf plan.executionId = some row ∧
          replay L (inputHash L plan items) row = .ok row.reportJson ∧ found = .inl row.reportJson) ∨
        ∃ a, db.store.reportOf plan.executionId = none ∧ acquire L plan items = .ok a ∧
          found = .inr (a, buildReport L plan a
            (capabilityDeltas db.surroundings db.surroundings))) := by
  unfold prepareRun at h
  obtain ⟨frozenPlan, hplan, h⟩ := bind_ok h
  rw [validatePlan_ok hplan] at h
  obtain ⟨normalized, hnormalized, h⟩ := bind_ok h
  obtain ⟨items, hitems, h⟩ := bind_ok h
  refine ⟨(validatePlan_valid hplan).policyHash, items, ?_, ?_⟩
  · unfold frozenItems
    rw [hnormalized, ok_bind]
    exact hitems
  · cases hprior : db.store.reportOf plan.executionId with
    | some row =>
      rw [hprior] at h
      obtain ⟨report, hreport, h⟩ := bind_ok h
      obtain rfl := Except.ok.inj h
      have hjson : report = row.reportJson := (replay_ok_iff.mp hreport).2.2.symm
      exact Or.inl ⟨row, rfl, hjson ▸ hreport, congrArg Sum.inl hjson⟩
    | none =>
      rw [hprior] at h
      replace h : (do
          let a ← acquire L plan items
          return (.inr (a, buildReport L plan a
            (capabilityDeltas db.surroundings db.surroundings)) : Value ⊕ Acquisition × Value)) =
          Except.ok found := by
        dsimp only at h
        split_ifs at h
        · obtain ⟨_, _, hrest⟩ := bind_ok h
          exact hrest
        · exact h
      obtain ⟨a, ha, h⟩ := bind_ok h
      exact Or.inr ⟨a, rfl, ha, (Except.ok.inj h).symm⟩

/-- A call raises and leaves the database, returns the report that its execution has already, or
commits the execution with one row for each observation. -/
theorem acquisition_all_or_nothing (L : Library) (hR : ∀ v, L.rendering.str v ≠ "")
    (fails : ℕ → Option Fault) (db : Database) (plan : Plan) (observations : List Dict) :
    (∃ fault, attemptAcquisition L fails db plan observations = (db, .error fault)) ∨
    (∃ row, db.store.reportOf plan.executionId = some row ∧
      attemptAcquisition L fails db plan observations = (db, .ok row.reportJson)) ∨
    ∃ a report store, db.store.reportOf plan.executionId = none ∧
      frozenAcquisition L db.surroundings plan observations = .ok a ∧
      a.observations.length = observations.length ∧
      attemptAcquisition L fails db plan observations = ({ db with store }, .ok report) ∧
      Committed L plan a report db.store store := by
  unfold attemptAcquisition
  cases hprepare : prepareRun L db plan observations with
  | error fault => exact Or.inl ⟨fault, rfl⟩
  | ok found =>
    obtain ⟨hpolicy, items, hitems, ⟨row, hprior, _, rfl⟩ | ⟨a, hprior, ha, rfl⟩⟩ :=
      prepareRun_ok hprepare
    · exact Or.inr (Or.inl ⟨row, hprior, rfl⟩)
    · dsimp only
      obtain ⟨hlength, hsealed⟩ := frozenItems_sealed hitems
      rcases transact_cases fails (acquisitionStatements L db.cursorTable plan a
        (buildReport L plan a (capabilityDeltas db.surroundings db.surroundings))) db.store with
        ⟨fault, hraised⟩ | ⟨store, hdone, hall⟩
      · rw [hraised]
        exact Or.inl ⟨fault, rfl⟩
      · rw [hdone]
        rw [performAll_acquisitionStatements] at hall
        obtain ⟨mid, hsources, hresults⟩ := bind_ok hall
        have hfrozen : frozenAcquisition L db.surroundings plan observations = .ok a := by
          have hjoined : frozenAcquisition L db.surroundings plan observations =
              frozenItems L db.surroundings plan observations >>= acquire L plan := by
            unfold frozenAcquisition frozenItems
            rw [bind_assoc]
          rw [hjoined, hitems, ok_bind]
          exact ha
        refine Or.inr (Or.inr ⟨a, _, store, hprior, hfrozen, ?_, rfl,
          committed_of_persist hR ha hpolicy hsealed hsources hresults⟩)
        rw [(acquire_parts hR ha).1, hlength]

end Call

/-- The checksum library, with texts for the values that Python renders. -/
def renderedLibrary : Library :=
  { checksumLibrary with rendering := ⟨fun _ => "value", fun _ => "value"⟩ }

theorem acquisition_all_or_nothing_pair :
    (∃ fault, attemptAcquisition renderedLibrary (fun _ => none) emptyDatabase (samplePlan "e1")
      [pairObservation] = (emptyDatabase, .error fault)) ∨
    (∃ row, emptyDatabase.store.reportOf (samplePlan "e1").executionId = some row ∧
      attemptAcquisition renderedLibrary (fun _ => none) emptyDatabase (samplePlan "e1")
        [pairObservation] = (emptyDatabase, .ok row.reportJson)) ∨
    ∃ a report store, emptyDatabase.store.reportOf (samplePlan "e1").executionId = none ∧
      frozenAcquisition renderedLibrary emptyDatabase.surroundings (samplePlan "e1")
        [pairObservation] = .ok a ∧
      a.observations.length = 1 ∧
      attemptAcquisition renderedLibrary (fun _ => none) emptyDatabase (samplePlan "e1")
        [pairObservation] = ({ emptyDatabase with store }, .ok report) ∧
      Committed renderedLibrary (samplePlan "e1") a report emptyDatabase.store store :=
  acquisition_all_or_nothing renderedLibrary (fun _ => by simp [renderedLibrary])
    (fun _ => none) emptyDatabase
    (samplePlan "e1") [pairObservation]

/-! ## Observations without a link -/

/-- The observation has a link to a candidate of its mint, where it carries one. -/
def Store.isLinked (store : Store) (o : ObservationRow) : Bool :=
  o.item.mint.all fun mint => store.identities.any fun i => i.identity.mint = mint &&
    store.links.any fun l => l.candidateId = i.candidateId &&
      l.observationId = o.item.observationId

/-- An observation of the chain for a mint without a pool. -/
def mintObservation (mint : String) : Dict :=
  [("expires_at", .str "2026-07-29T13:00:00+00:00"), ("mint", .str mint),
    ("observed_at", .str "2026-07-29T12:00:00+00:00"), ("request_kind", .str "onchain_reference"),
    ("round_ordinal", .int 1), ("source_name", .str "solana_rpc")]

/-- A run on more mints than its capacity leaves an observation without a link, and a certificate
is stored with a hash that is not the one of its text. -/
theorem not_linked_past_capacity :
    ∃ report db', runCandidateAcquisition checksumLibrary emptyDatabase (samplePlan "e1")
        (["A", "B", "C"].map mintObservation) = .ok (report, db') ∧
      (¬ ∀ o ∈ db'.store.observations, db'.store.isLinked o = true) ∧
      ¬ ∀ r ∈ db'.store.certificates, r.certificateHash = sha checksumLibrary r.certificateJson := by
  have hrun : ((runCandidateAcquisition checksumLibrary emptyDatabase (samplePlan "e1")
      (["A", "B", "C"].map mintObservation)).toOption.any fun r =>
        (r.2.store.observations.any fun o => !r.2.store.isLinked o) &&
          r.2.store.certificates.any fun c =>
            c.certificateHash ≠ sha checksumLibrary c.certificateJson) = true := by
    decide +kernel
  obtain ⟨⟨report, db'⟩, hok, hrows⟩ := ok_of_any hrun
  obtain ⟨hlinks, hhashes⟩ := Bool.and_eq_true_iff.mp hrows
  obtain ⟨o, ho, hunlinked⟩ := List.any_eq_true.mp hlinks
  obtain ⟨r, hr, hhash⟩ := List.any_eq_true.mp hhashes
  refine ⟨report, db', hok, fun h => ?_, fun h => ?_⟩
  · rw [h o ho] at hunlinked
    cases hunlinked
  · exact of_decide_eq_true hhash (h r hr)

end PrinterV1.Discovery
