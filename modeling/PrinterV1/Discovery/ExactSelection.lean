import PrinterV1.Discovery.Admission
import PrinterV1.Discovery.AllOrNothing

/-!
# The exact selection

A selection takes as many candidates as the plan asks for, the least of the
admitted in the seeded order, or none. Their mints differ because the candidates
are built one for each mint, and their pools because a pool that two mints claim
is taken from both before anything is admitted. Of the manifest and the failure
an execution leaves exactly one.
-/

namespace PrinterV1.Discovery

open Python Faults Runs

variable {L : Library} {plan : Plan}

/-- What `_selection` returns for the admitted candidates of a plan. -/
structure ExactSelection (L : Library) (plan : Plan) (admitted : List Candidate)
    (selected : List SelectedItem) (manifest : Option Manifest) : Prop where
  none_iff : selected = [] ↔ (admitted.length : ℤ) < plan.selectionCapacity
  manifest_iff : manifest = none ↔ selected = []
  exact : selected ≠ [] → (selected.length : ℤ) = plan.selectionCapacity
  ordinals : selected.map SelectedItem.itemOrdinal = (List.range selected.length).map (· + 1)
  mints : (selected.map SelectedItem.mint).Nodup
  pools : (selected.map SelectedItem.pool).Nodup ∧ ∀ item ∈ selected, item.pool.isSome
  least : selected ≠ [] → ∃ chosen rest : List Candidate, (chosen ++ rest).Perm admitted ∧
    selected = chosen.zipIdx.map (selectItem L) ∧
    chosen.Pairwise (fun c d => selectionKey L plan c ≤ selectionKey L plan d) ∧
    ∀ c ∈ chosen, ∀ d ∈ rest, selectionKey L plan c ≤ selectionKey L plan d
  readiness : ∀ m, manifest = some m → (m.readiness = .withReserve ↔
    plan.selectionCapacity + (plan.selectionCapacity + 1) / 2 ≤ admitted.length)
  target : plan.selectionCapacity + (plan.selectionCapacity + 1) / 2 ≤
    plan.candidateAcquisitionCapacity

theorem nodup_candidateMints (plan : Plan) (items : List Item) :
    (candidateMints plan items).Nodup := by
  unfold candidateMints
  dsimp only
  split_ifs
  · exact (nodup_sortedSet _).sublist (List.take_sublist _ _)
  · exact nodup_sortedSet _

/-- An admitted candidate has the pool that its observations claim, and no other mint claims it. -/
theorem admitted_pool {items : List Item} {candidates : List Candidate}
    (hbuild : buildCandidates L plan items = .ok candidates) {c : Candidate} (hc : c ∈ candidates)
    (hadmitted : c.admitted = true) :
    ∃ pool, c.pool = some pool ∧ (∃ item ∈ items, item.mint = some c.mint ∧ item.pool = some pool) ∧
      ∀ item ∈ items, item.pool = some pool → ∀ other, item.mint = some other → other = c.mint := by
  obtain ⟨pool, ⟨⟨item, hitem, hpool⟩, honly⟩, hother⟩ :=
    (admitted_evidenced hbuild c hc hadmitted).identity.pool
  unfold buildCandidates at hbuild
  obtain ⟨cutoff, _, hbuild⟩ := bind_ok hbuild
  obtain ⟨mint, _, hcandidate⟩ := mem_mapM_ok hbuild c hc
  obtain ⟨stale, _, hidentity, hstages⟩ := buildCandidate_ok hcandidate
  have hpass := evaluateStages_noFailure (hstages hadmitted)
  have hcomplete := (poolQuoteVerdict_pass (hpass .poolQuoteValid (by decide))).1
  rw [← hidentity] at hcomplete
  simp only [Identity.poolQuoteComplete, identityAvailable, Bool.and_eq_true,
    Option.isSome_iff_exists] at hcomplete
  obtain ⟨⟨⟨⟨⟨⟨own, hown⟩, -⟩, -⟩, -⟩, -⟩, -⟩ := hcomplete
  obtain ⟨hmember, hmint⟩ := List.mem_filter.mp hitem
  have hclaimed : own ∈ Discovery.pools (groupOf items c.mint) := by
    have hmintc : c.mint = mint := by rw [hidentity]; rfl
    have hhead : (mergeIdentity L items mint).pool = some own := by rw [← hidentity]; exact hown
    simp only [mergeIdentity] at hhead
    split_ifs at hhead
    rw [hmintc]
    exact List.mem_of_head? hhead
  have hsame : own = pool := by
    obtain ⟨claim, hclaim, hclaimPool⟩ := List.mem_filterMap.mp (mem_sortedSet.mp hclaimed)
    exact honly claim hclaim own hclaimPool
  exact ⟨pool, by rw [hown, hsame], ⟨item, hmember, of_decide_eq_true hmint, hpool⟩, hother⟩

/-- The admitted candidates differ in their mints and in their pools. -/
theorem admitted_distinct {items : List Item} {candidates : List Candidate}
    (hbuild : buildCandidates L plan items = .ok candidates) :
    ((candidates.filter fun c => c.admitted).map fun c => c.mint).Nodup ∧
      ((candidates.filter fun c => c.admitted).map fun c => c.pool).Nodup := by
  have hmints : (candidates.map fun c => c.mint).Nodup := by
    rw [(buildCandidates_built hbuild).1]
    exact nodup_candidateMints plan items
  have hadmitted : ((candidates.filter fun c => c.admitted).map fun c => c.mint).Nodup :=
    hmints.sublist (List.filter_sublist.map _)
  refine ⟨hadmitted, List.Nodup.map_on ?_ hadmitted.of_map⟩
  intro a ha b hb hsame
  obtain ⟨hac, hyes⟩ := List.mem_filter.mp ha
  obtain ⟨hbc, hyes'⟩ := List.mem_filter.mp hb
  obtain ⟨pool, hpool, ⟨item, hitem, hmint, hclaim⟩, -⟩ := admitted_pool hbuild hac hyes
  obtain ⟨pool', hpool', -, hother⟩ := admitted_pool hbuild hbc hyes'
  have heq : pool = pool' := by
    rw [hpool, hpool'] at hsame
    exact Option.some.inj hsame
  have hsameMint : a.mint = b.mint := hother item hitem (heq ▸ hclaim) a.mint hmint
  exact List.inj_on_of_nodup_map hadmitted ha hb hsameMint

theorem map_selectItem {β : Type} (f : SelectedItem → β) (g : Candidate → β)
    (h : ∀ entry, f (selectItem L entry) = g entry.1) (chosen : List Candidate) :
    (chosen.zipIdx.map (selectItem L)).map f = chosen.map g := by
  rw [List.map_map]
  have hcomp : f ∘ selectItem L = g ∘ Prod.fst := funext h
  rw [hcomp, ← List.map_map, List.zipIdx_map_fst]

/-- The selection among admitted candidates that differ in mint and pool. -/
theorem selection_exact (hplan : validatePlan L plan = .ok plan) {admitted : List Candidate}
    (hmints : (admitted.map fun c => c.mint).Nodup) (hpools : (admitted.map fun c => c.pool).Nodup)
    (hsome : ∀ c ∈ admitted, c.pool.isSome) :
    ExactSelection L plan admitted (selection L plan admitted).1 (selection L plan admitted).2 := by
  obtain ⟨hcapacity, hacquisition, htarget, _, _⟩ := validatePlan_valid hplan
  have hwithin : plan.selectionCapacity + (plan.selectionCapacity + 1) / 2 ≤
      plan.candidateAcquisitionCapacity := by omega
  unfold selection
  by_cases hfew : (admitted.length : ℤ) < plan.selectionCapacity
  · rw [if_pos hfew]
    exact ⟨by simp [hfew], by simp, by simp, rfl, List.nodup_nil, ⟨List.nodup_nil, by simp⟩, by simp,
      by simp, hwithin⟩
  · rw [if_neg hfew]
    dsimp only
    set ordered := sortBy (selectionKey L plan) admitted with hordered
    set chosen := ordered.take plan.selectionCapacity.toNat with hchosen
    have hperm : ordered.Perm admitted := sortBy_perm _ _
    have hlength : (chosen.length : ℤ) = plan.selectionCapacity := by
      rw [hchosen, List.length_take, hperm.length_eq]
      omega
    have hsub : chosen.Sublist ordered := List.take_sublist _ _
    have hmember : ∀ c ∈ chosen, c ∈ admitted := fun c hc => hperm.subset (hsub.subset hc)
    have hitems : (chosen.zipIdx.map (selectItem L)).length = chosen.length := by simp
    have hnonempty : chosen.zipIdx.map (selectItem L) ≠ [] := by
      rw [ne_eq, ← List.length_eq_zero_iff, hitems]
      omega
    refine ⟨⟨fun h => absurd h hnonempty, fun h => absurd h hfew⟩, by simp [hnonempty], fun _ => ?_,
      ?_, ?_, ⟨?_, ?_⟩, fun _ => ?_, fun m hm => ?_, hwithin⟩
    · rw [hitems]
      exact hlength
    · rw [hitems, List.map_map]
      apply List.ext_getElem
      · simp
      · intro i h₁ h₂
        simp [selectItem]
    · rw [map_selectItem SelectedItem.mint (fun c => c.mint) (fun _ => rfl)]
      exact ((hperm.map _).nodup_iff.mpr hmints).sublist (hsub.map _)
    · rw [map_selectItem SelectedItem.pool (fun c => c.pool) (fun _ => rfl)]
      exact ((hperm.map _).nodup_iff.mpr hpools).sublist (hsub.map _)
    · intro item hitem
      obtain ⟨⟨c, i⟩, hentry, rfl⟩ := List.mem_map.mp hitem
      exact hsome c (hmember c (List.fst_mem_of_mem_zipIdx hentry))
    · refine ⟨chosen, ordered.drop plan.selectionCapacity.toNat, ?_, rfl, ?_, ?_⟩
      · rw [hchosen, List.take_append_drop]
        exact hperm
      · exact (sortBy_sorted (selectionKey L plan) admitted).sublist hsub
      · intro c hc d hd
        exact take_sortBy_le _ hc hd
    · obtain rfl := Option.some.inj hm
      rw [← htarget]
      dsimp only
      by_cases hready : (admitted.length : ℤ) ≥ plan.candidateReserveTarget
      · simp [hready]
      · simp [hready]

/-- An execution has one manifest and no failure, or one failure and no manifest. -/
def OneOutcome (store : Store) (executionId : String) : Prop :=
  (∃ m, store.manifests.filter (fun r => r.executionId = executionId) = [m] ∧
    store.failures.filter (fun r => r.executionId = executionId) = []) ∨
  ∃ failure, store.failures.filter (fun r => r.executionId = executionId) = [failure] ∧
    store.manifests.filter (fun r => r.executionId = executionId) = []

/-- Every execution that reported has its outcome, and every record belongs to one that did. -/
structure Concluded (store : Store) : Prop where
  outcomes : ∀ row ∈ store.reports, OneOutcome store row.executionId
  manifests : ∀ m ∈ store.manifests, ∃ row ∈ store.reports, row.executionId = m.executionId
  failures : ∀ f ∈ store.failures, ∃ row ∈ store.reports, row.executionId = f.executionId

theorem filter_append_other {ρ : Type} {key : ρ → String} {old : List ρ} {new : ρ} {id : String}
    (h : key new ≠ id) :
    (old ++ [new]).filter (fun r => key r = id) = old.filter fun r => key r = id := by
  simp [List.filter_append, h]

theorem filter_append_own {ρ : Type} (key : ρ → String) {old : List ρ} {new : ρ}
    (h : ∀ r ∈ old, key r ≠ key new) :
    (old ++ [new]).filter (fun r => key r = key new) = [new] := by
  have hnone : old.filter (fun r => key r = key new) = [] := by
    rw [List.filter_eq_nil_iff]
    simpa using h
  rw [List.filter_append, hnone]
  simp

/-- A report with its one record concludes. -/
theorem concluded_append {store store' : Store} {row : ReportRow} (hstore : Concluded store)
    (hreports : store'.reports = store.reports ++ [row])
    (hfree : ∀ old ∈ store.reports, old.executionId ≠ row.executionId)
    (hrecord : (∃ m, m.executionId = row.executionId ∧ store'.manifests = store.manifests ++ [m] ∧
        store'.failures = store.failures) ∨
      ∃ f, f.executionId = row.executionId ∧ store'.failures = store.failures ++ [f] ∧
        store'.manifests = store.manifests) :
    Concluded store' ∧ OneOutcome store' row.executionId := by
  have hreported : ∀ x, x ∈ store'.reports ↔ x ∈ store.reports ∨ x = row := by
    intro x
    rw [hreports, List.mem_append, List.mem_singleton]
  have hmanifestIds : ∀ m ∈ store.manifests, m.executionId ≠ row.executionId := by
    intro m hm heq
    obtain ⟨x, hx, hid⟩ := hstore.manifests m hm
    exact hfree x hx (hid.trans heq)
  have hfailureIds : ∀ f ∈ store.failures, f.executionId ≠ row.executionId := by
    intro f hf heq
    obtain ⟨x, hx, hid⟩ := hstore.failures f hf
    exact hfree x hx (hid.trans heq)
  have hnoManifest : store.manifests.filter (fun m => m.executionId = row.executionId) = [] := by
    rw [List.filter_eq_nil_iff]
    simpa using hmanifestIds
  have hnoFailure : store.failures.filter (fun f => f.executionId = row.executionId) = [] := by
    rw [List.filter_eq_nil_iff]
    simpa using hfailureIds
  rcases hrecord with ⟨m, hm, hmanifests, hfailures⟩ | ⟨f, hf, hfailures, hmanifests⟩
  · have hown : OneOutcome store' row.executionId := by
      refine .inl ⟨m, ?_, by rw [hfailures, hnoFailure]⟩
      rw [hmanifests, ← hm]
      exact filter_append_own (fun m : ManifestRow => m.executionId)
        (by rw [hm]; exact hmanifestIds)
    refine ⟨⟨fun x hx => ?_, fun m' hm' => ?_, fun f hf => ?_⟩, hown⟩
    · rcases (hreported x).mp hx with hx | rfl
      · have hother : m.executionId ≠ x.executionId := by
          rw [hm]
          exact (hfree x hx).symm
        unfold OneOutcome
        rw [hmanifests, hfailures, filter_append_other hother]
        exact hstore.outcomes x hx
      · exact hown
    · rw [hmanifests, List.mem_append, List.mem_singleton] at hm'
      rcases hm' with hm' | rfl
      · obtain ⟨x, hx, hid⟩ := hstore.manifests m' hm'
        exact ⟨x, (hreported x).mpr (.inl hx), hid⟩
      · exact ⟨row, (hreported row).mpr (.inr rfl), hm.symm⟩
    · rw [hfailures] at hf
      obtain ⟨x, hx, hid⟩ := hstore.failures f hf
      exact ⟨x, (hreported x).mpr (.inl hx), hid⟩
  · have hown : OneOutcome store' row.executionId := by
      refine .inr ⟨f, ?_, by rw [hmanifests, hnoManifest]⟩
      rw [hfailures, ← hf]
      exact filter_append_own (fun f : FailureRow => f.executionId)
        (by rw [hf]; exact hfailureIds)
    refine ⟨⟨fun x hx => ?_, fun m hm => ?_, fun f' hf' => ?_⟩, hown⟩
    · rcases (hreported x).mp hx with hx | rfl
      · have hother : f.executionId ≠ x.executionId := by
          rw [hf]
          exact (hfree x hx).symm
        unfold OneOutcome
        rw [hmanifests, hfailures, filter_append_other hother]
        exact hstore.outcomes x hx
      · exact hown
    · rw [hmanifests] at hm
      obtain ⟨x, hx, hid⟩ := hstore.manifests m hm
      exact ⟨x, (hreported x).mpr (.inl hx), hid⟩
    · rw [hfailures, List.mem_append, List.mem_singleton] at hf'
      rcases hf' with hf' | rfl
      · obtain ⟨x, hx, hid⟩ := hstore.failures f' hf'
        exact ⟨x, (hreported x).mpr (.inl hx), hid⟩
      · exact ⟨row, (hreported row).mpr (.inr rfl), hf.symm⟩

theorem acquire_failure {items : List Item} {a : Acquisition} (h : acquire L plan items = .ok a)
    (hsuccess : (a.selected.length : ℤ) = plan.selectionCapacity) : a.failure = none := by
  unfold acquire at h
  obtain ⟨candidates, -, h⟩ := bind_ok h
  dsimp only at h
  obtain rfl := Except.ok.inj h
  exact if_pos hsuccess

/-- A first execution concludes: its manifest is there exactly when enough were admitted. -/
theorem executeFirst_concluded (hR : ∀ v, L.rendering.str v ≠ "") {db db' : Database}
    {items : List Item} {report : Value} (hplan : validatePlan L plan = .ok plan)
    (h : executeFirst L db plan items = .ok (report, db')) (hdb : Concluded db.store) :
    Concluded db'.store ∧ OneOutcome db'.store plan.executionId ∧
      ∃ candidates, buildCandidates L plan items = .ok candidates ∧
        (plan.selectionCapacity ≤ (candidates.filter fun c => c.admitted).length ↔
          ∃ m ∈ db'.store.manifests, m.executionId = plan.executionId) := by
  obtain ⟨a, mid, store', ha, hsources, hresults, rfl, rfl⟩ := executeFirst_parts h
  obtain ⟨-, hcandidates, hselection, houtcome⟩ := acquire_parts hR ha
  have hwritten := persist_writes hsources hresults
  obtain ⟨hmints, hpools⟩ := admitted_distinct hcandidates
  have hsome : ∀ c ∈ a.admitted, c.pool.isSome := by
    intro c hc
    obtain ⟨hmem, hyes⟩ := List.mem_filter.mp hc
    obtain ⟨pool, hpool, -⟩ := admitted_pool hcandidates hmem hyes
    simp [hpool]
  have hexact := selection_exact hplan hmints hpools hsome
  have hparts : selection L plan (a.candidates.filter fun c => c.admitted) =
      (a.selected, a.manifest) := hselection.symm
  rw [hparts] at hexact
  have hcapacity := (validatePlan_valid hplan).capacity
  have hfew : (plan.selectionCapacity : ℤ) ≤ (a.candidates.filter fun c => c.admitted).length ↔
      a.selected ≠ [] := by
    rw [ne_eq, hexact.none_iff, not_lt]
  have hold : ∀ m ∈ db.store.manifests, m.executionId ≠ plan.executionId := by
    intro m hm heq
    obtain ⟨row, hrow, hid⟩ := hdb.manifests m hm
    exact hwritten.unreported row hrow (hid.trans heq)
  rcases houtcome with ⟨hnone, hlength⟩ | ⟨failure, hsomeFailure, hreason⟩
  · have hselected : a.selected ≠ [] := by
      intro hempty
      rw [hempty, List.length_nil] at hlength
      omega
    have hfailures : store'.failures = db.store.failures := by
      rcases hwritten.failure with ⟨failure, hfail, -⟩ | ⟨-, hsame⟩
      · rw [hnone] at hfail
        cases hfail
      · exact hsame
    rcases hwritten.manifest with ⟨m, -, -, hmanifests, -, -⟩ | ⟨hno, -, -⟩
    · obtain ⟨hconcluded, hone⟩ := concluded_append hdb hwritten.reports hwritten.unreported
        (.inl ⟨_, rfl, hmanifests, hfailures⟩)
      refine ⟨hconcluded, hone, _, hcandidates, hfew.trans ⟨fun _ => ?_, fun _ => hselected⟩⟩
      exact ⟨_, by rw [hmanifests]; exact List.mem_append_right _ List.mem_cons_self, rfl⟩
    · exact absurd (hexact.manifest_iff.mp (hno hnone)) hselected
  · have hmanifests : store'.manifests = db.store.manifests := by
      rcases hwritten.manifest with ⟨_, hnone, _⟩ | ⟨_, hsame, _⟩
      · rw [hsomeFailure] at hnone
        cases hnone
      · exact hsame
    rcases hwritten.failure with ⟨failure', _, _, hfailures⟩ | ⟨hempty, _⟩
    · obtain ⟨hconcluded, hone⟩ := concluded_append hdb hwritten.reports hwritten.unreported
        (.inr ⟨_, rfl, hfailures, hmanifests⟩)
      have hunselected : a.selected = [] := by
        by_contra hselected
        have hsuccess := hexact.exact hselected
        rw [acquire_failure ha hsuccess] at hsomeFailure
        cases hsomeFailure
      refine ⟨hconcluded, hone, _, hcandidates, hfew.trans ⟨fun h => absurd hunselected h, ?_⟩⟩
      rintro ⟨m, hm, hid⟩
      rw [hmanifests] at hm
      exact absurd hid (hold m hm)
    · exact absurd (hempty failure hsomeFailure) hreason

/-- Every execution of a run has its one outcome. -/
theorem concluded_run (hR : ∀ v, L.rendering.str v ≠ "") {start : Database}
    (hstart : start.store = Store.empty) (events : List Event) :
    Concluded (run (Database.after L) start events).store := by
  have hstep : ∀ db event, Concluded db.store → Concluded (Database.after L db event).store := by
    intro db event hdb
    cases event with
    | outside surroundings => exact hdb
    | call plan observations =>
      simp only [Database.after, afterCall]
      cases hrun : runCandidateAcquisition L db plan observations with
      | error fault => exact hdb
      | ok r =>
        obtain ⟨report, db'⟩ := r
        obtain ⟨hplan, _, _, ⟨_, _, _, rfl⟩ | ⟨-, hfirst⟩⟩ := run_ok hrun
        · exact hdb
        · exact (executeFirst_concluded hR hplan hfirst hdb).1
  have hempty : Concluded start.store := by
    rw [hstart]
    exact ⟨fun row hrow => absurd hrow List.not_mem_nil, fun m hm => absurd hm List.not_mem_nil,
      fun f hf => absurd hf List.not_mem_nil⟩
  exact invariant (I := fun db : Database => Concluded db.store) hstep hempty events

/-- The selection of every valid plan is exact, whatever its observations; and every call that is
accepted, in every state that calls and other writers reach, leaves its execution with exactly one
of manifest and failure, the manifest where enough candidates were admitted. -/
theorem exactSelection (L : Library) (hR : ∀ v, L.rendering.str v ≠ "") :
    (∀ plan items candidates, validatePlan L plan = .ok plan →
      buildCandidates L plan items = .ok candidates →
        ExactSelection L plan (candidates.filter fun c => c.admitted)
            (selection L plan (candidates.filter fun c => c.admitted)).1
            (selection L plan (candidates.filter fun c => c.admitted)).2 ∧
          (∀ item ∈ (selection L plan (candidates.filter fun c => c.admitted)).1,
            ∃ c ∈ candidates, c.admitted = true ∧ c.mint = item.mint ∧ c.pool = item.pool)) ∧
    ∀ start events plan observations report db', start.store = Store.empty →
      runCandidateAcquisition L (run (Database.after L) start events) plan observations =
        .ok (report, db') →
        OneOutcome db'.store plan.executionId ∧
          ((run (Database.after L) start events).store.reportOf plan.executionId = none →
            ∃ items candidates, frozenItems L (run (Database.after L) start events).surroundings
                plan observations = .ok items ∧
              buildCandidates L plan items = .ok candidates ∧
              (plan.selectionCapacity ≤ (candidates.filter fun c => c.admitted).length ↔
                ∃ m ∈ db'.store.manifests, m.executionId = plan.executionId)) := by
  constructor
  · intro plan items candidates hplan hbuild
    obtain ⟨hmints, hpools⟩ := admitted_distinct hbuild
    have hsome : ∀ c ∈ candidates.filter fun c => c.admitted, c.pool.isSome := by
      intro c hc
      obtain ⟨hmem, hyes⟩ := List.mem_filter.mp hc
      obtain ⟨pool, hpool, -⟩ := admitted_pool hbuild hmem hyes
      simp [hpool]
    have hexact := selection_exact hplan hmints hpools hsome
    refine ⟨hexact, fun item hitem => ?_⟩
    obtain ⟨chosen, rest, hperm, hselected, -, -⟩ := hexact.least (List.ne_nil_of_mem hitem)
    rw [hselected] at hitem
    obtain ⟨⟨c, i⟩, hentry, rfl⟩ := List.mem_map.mp hitem
    have hc : c ∈ candidates.filter fun c => c.admitted :=
      hperm.subset (List.mem_append_left _ (List.fst_mem_of_mem_zipIdx hentry))
    obtain ⟨hmem, hyes⟩ := List.mem_filter.mp hc
    exact ⟨c, hmem, hyes, rfl, rfl⟩
  · intro start events plan observations report db' hstart hrun
    have hconcluded := concluded_run hR hstart events
    obtain ⟨hplan, items, hitems, ⟨row, hrow, _, rfl⟩ | ⟨-, hfirst⟩⟩ := run_ok hrun
    · have hmem := List.mem_of_find?_eq_some hrow
      have hid : row.executionId = plan.executionId := by simpa using List.find?_some hrow
      refine ⟨hid ▸ hconcluded.outcomes row hmem, fun hnone => ?_⟩
      rw [hrow] at hnone
      cases hnone
    · obtain ⟨-, hone, candidates, hbuild, hiff⟩ := executeFirst_concluded hR hplan hfirst hconcluded
      exact ⟨hone, fun _ => ⟨items, candidates, hitems, hbuild, hiff⟩⟩

/-- The candidates of one observed pool. -/
def observedCandidates : Except Fault (List Candidate) := do
  let items ← normalizeObservations renderedLibrary (samplePlan "e1") [poolObservation]
  buildCandidates renderedLibrary (samplePlan "e1") items

/-- The one candidate is selected. -/
theorem observed_selected : observedCandidates.toOption.any (fun candidates =>
    (selection renderedLibrary (samplePlan "e1") (candidates.filter fun c => c.admitted)).1 ≠ [])
      = true := by
  decide +kernel

theorem observed_accepted :
    (runCandidateAcquisition renderedLibrary emptyDatabase (samplePlan "e1")
      [poolObservation]).toOption.any
        (fun r => r.2.store.manifests.any fun m => m.executionId = "e1") = true := by
  decide +kernel

theorem exactSelection_observed :
    (∃ candidates, observedCandidates = .ok candidates ∧
      let admitted := candidates.filter fun c => c.admitted
      (selection renderedLibrary (samplePlan "e1") admitted).1 ≠ [] ∧
        ExactSelection renderedLibrary (samplePlan "e1") admitted
          (selection renderedLibrary (samplePlan "e1") admitted).1
          (selection renderedLibrary (samplePlan "e1") admitted).2) ∧
    ∃ report db', runCandidateAcquisition renderedLibrary emptyDatabase (samplePlan "e1")
        [poolObservation] = .ok (report, db') ∧ OneOutcome db'.store "e1" ∧
      ∃ m ∈ db'.store.manifests, m.executionId = "e1" := by
  constructor
  · obtain ⟨candidates, hcandidates, hselected⟩ := ok_of_any observed_selected
    obtain ⟨items, -, hbuild⟩ := bind_ok hcandidates
    have hplan : validatePlan renderedLibrary (samplePlan "e1") = .ok (samplePlan "e1") := by
      decide +kernel
    exact ⟨candidates, hcandidates, by simpa using hselected,
      ((exactSelection renderedLibrary (fun _ => by simp [renderedLibrary])).1
        (samplePlan "e1") items candidates hplan hbuild).1⟩
  · obtain ⟨⟨report, db'⟩, hrun, hmanifest⟩ := ok_of_any observed_accepted
    refine ⟨report, db', hrun, ?_, by simpa using hmanifest⟩
    exact ((exactSelection renderedLibrary (fun _ => by simp [renderedLibrary])).2
      emptyDatabase [] (samplePlan "e1") [poolObservation] report db' rfl hrun).1

end PrinterV1.Discovery
