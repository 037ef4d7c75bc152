import Mathlib.Data.List.Nodup
import Mathlib.Data.List.Sort
import PrinterV1.Foundation.Faults
import PrinterV1.OperatorCli.CursorRecovery

/-!
# The pages of a recovery

A page that an operation commits passes the check of the stored chain, and the
check makes of the state before it the state that the operation left. An
invariant that every committed page keeps therefore holds of the states an
execution loads, whatever stopped the executions before.
-/

namespace PrinterV1.OperatorCli.CursorRecovery

open Python Discovery Faults

variable {H : Hashes} {s after : State} {localPage : ℕ} {rpc : Rpc}

/-- Rows that pass the check: new, each once, and not going forward. -/
theorem checkRows_ok {rows : List SignatureRow} : ∀ {known : List String} {previous : Option ℤ},
    checkRows known previous rows = .ok () →
      (∀ r ∈ rows, r.signature ∉ known ∧ ∀ slot ∈ previous, r.slot ≤ slot) ∧
        (rows.map SignatureRow.signature).Nodup ∧ rows.Pairwise fun a b => b.slot ≤ a.slot := by
  induction rows with
  | nil =>
    intro known previous _
    simp
  | cons row rest ih =>
    intro known previous h
    simp only [checkRows] at h
    split_ifs at h with hidentity hknown hforward
    obtain ⟨hrest, hnodup, hslots⟩ := ih h
    have hprevious : ∀ slot ∈ previous, row.slot ≤ slot := by
      intro slot hslot
      by_contra hlt
      refine hforward ?_
      rw [Option.mem_def.mp hslot, Option.any_some]
      exact decide_eq_true (not_le.mp hlt)
    refine ⟨fun r hr => ?_, ?_, ?_⟩
    · rcases List.mem_cons.mp hr with rfl | hr
      · exact ⟨hknown, hprevious⟩
      · obtain ⟨hnew, hle⟩ := hrest r hr
        exact ⟨fun hmem => hnew (List.mem_cons_of_mem _ hmem),
          fun slot hslot => (hle row.slot rfl).trans (hprevious slot hslot)⟩
    · refine List.nodup_cons.mpr ⟨fun hmem => ?_, hnodup⟩
      obtain ⟨r, hr, heq⟩ := List.mem_map.mp hmem
      exact (hrest r hr).1 (heq ▸ List.mem_cons_self)
    · exact List.pairwise_cons.mpr ⟨fun r hr => (hrest r hr).2 row.slot rfl, hslots⟩

/-- What the loop over a response makes of its rows. -/
structure Scanned (start : Option Head) (known : List String) (previous : Option ℤ)
    (rows : List SignatureRow) (found : Bool) : Prop where
  checked : checkRows known previous rows = .ok ()
  boundary : ∀ head ∈ start, ∀ r ∈ rows, r.signature = head.boundarySignature →
    found = true ∧ rows.getLast? = some r
  found : found = true → ∃ head ∈ start, ∃ r ∈ rows, r.signature = head.boundarySignature
  inside : ∀ head ∈ start, ∀ r ∈ rows, r.signature = head.boundarySignature ∨
    head.boundarySlot ≤ r.slot

theorem identity?_eq_some {raw : Dict} {p : Position} (h : identity? raw = some p) :
    p.signature ≠ "" ∧ 0 ≤ p.slot := by
  unfold identity? at h
  split at h
  · split_ifs at h with hvalid
    obtain rfl := Option.some.inj h
    exact hvalid
  · cases h

theorem scanRows_ok {start : Option Head} {raw : List Dict} : ∀ {known : List String}
    {previous : Option ℤ} {rows : List SignatureRow} {found : Bool},
    scanRows start known previous raw = .ok (rows, found) →
      Scanned start known previous rows found ∧ (raw ≠ [] → rows ≠ []) := by
  induction raw with
  | nil =>
    intro known previous rows found h
    obtain ⟨rfl, rfl⟩ := Prod.mk.inj (Except.ok.inj h)
    exact ⟨⟨rfl, by simp, by simp, by simp⟩, fun h => absurd rfl h⟩
  | cons item rest ih =>
    intro known previous rows found h
    simp only [scanRows] at h
    cases hidentity : identity? item with
    | none =>
      rw [hidentity] at h
      cases h
    | some p =>
      obtain ⟨hsignature, hslot⟩ := identity?_eq_some hidentity
      simp only [hidentity] at h
      split_ifs at h with hknown hforward hskip hboundary
      · obtain ⟨rfl, rfl⟩ := Prod.mk.inj (Except.ok.inj h)
        obtain ⟨head, hhead, hsame⟩ := (Option.any_eq_true _ _).mp hboundary
        refine ⟨⟨?_, ?_, ?_, ?_⟩, fun _ => List.cons_ne_nil _ _⟩
        · simp only [checkRows]
          rw [if_neg (not_or.mpr ⟨hsignature, not_lt.mpr hslot⟩), if_neg hknown, if_neg hforward]
        · intro head' _ r hr _
          obtain rfl := List.mem_singleton.mp hr
          exact ⟨rfl, rfl⟩
        · intro _
          exact ⟨head, hhead, _, List.mem_singleton.mpr rfl, of_decide_eq_true hsame⟩
        · intro head' hhead' r hr
          obtain rfl := List.mem_singleton.mp hr
          rw [Option.mem_def.mp hhead] at hhead'
          obtain rfl := Option.some.inj hhead'
          exact Or.inl (of_decide_eq_true hsame)
      · obtain ⟨⟨rows', found'⟩, hscan, h⟩ := bind_ok h
        obtain ⟨rfl, rfl⟩ := Prod.mk.inj (Except.ok.inj h)
        obtain ⟨hrest, -⟩ := ih hscan
        have hother : ∀ head ∈ start, p.signature ≠ head.boundarySignature := by
          intro head hhead heq
          refine hboundary ?_
          rw [Option.mem_def.mp hhead, Option.any_some]
          exact decide_eq_true heq
        refine ⟨⟨?_, ?_, ?_, ?_⟩, fun _ => List.cons_ne_nil _ _⟩
        · simp only [checkRows]
          rw [if_neg (not_or.mpr ⟨hsignature, not_lt.mpr hslot⟩), if_neg hknown, if_neg hforward]
          exact hrest.checked
        · intro head hhead r hr heq
          rcases List.mem_cons.mp hr with rfl | hr
          · exact absurd heq (hother head hhead)
          · obtain ⟨hfound, hlast⟩ := hrest.boundary head hhead r hr heq
            refine ⟨hfound, ?_⟩
            rw [List.getLast?_cons, hlast]
            rfl
        · intro hfound
          obtain ⟨head, hhead, r, hr, heq⟩ := hrest.found hfound
          exact ⟨head, hhead, r, List.mem_cons_of_mem _ hr, heq⟩
        · intro head hhead r hr
          rcases List.mem_cons.mp hr with rfl | hr
          · right
            by_contra hlt
            refine hskip ?_
            rw [Option.mem_def.mp hhead, Option.any_some]
            exact decide_eq_true ⟨not_le.mp hlt, hother head hhead⟩
          · exact hrest.inside head hhead r hr

theorem executePage_reached (h : s.boundaryReached = true) :
    executePage H s localPage rpc = (s, .idle) := if_pos h

theorem reached_of_idle (h : executePage H s localPage rpc = (after, .idle)) :
    s.boundaryReached = true := by
  by_contra hopen
  unfold executePage at h
  rw [if_neg hopen] at h
  split at h <;> cases (Prod.mk.inj h).2

/-- Of what an operation commits: the rows it read, and the state and page it made of them. -/
theorem executePage_committed {a : Artifact}
    (h : executePage H s localPage rpc = (after, .committed a)) :
    s.boundaryReached = false ∧ ∃ rows advanced, readPage s localPage rpc = .ok (rows, advanced) ∧
      after = { advanced with recoveryPageOrdinal := s.recoveryPageOrdinal + 1 } ∧
      a = ⟨pageOf s after rows, H.page (pageOf s after rows)⟩ := by
  unfold executePage at h
  split_ifs at h with hreached
  · cases (Prod.mk.inj h).2
  · refine ⟨by simpa using hreached, ?_⟩
    cases hread : readPage s localPage rpc with
    | error code =>
      rw [hread] at h
      cases (Prod.mk.inj h).2
    | ok result =>
      obtain ⟨rows, advanced⟩ := result
      rw [hread] at h
      obtain ⟨rfl, hout⟩ := Prod.mk.inj h
      exact ⟨rows, advanced, rfl, rfl, (Outcome.committed.inj hout).symm⟩

theorem readPage_ok {rows : List SignatureRow} {advanced : State}
    (h : readPage s localPage rpc = .ok (rows, advanced)) :
    ∃ raw, fetchPage s localPage rpc = .ok raw ∧
      ((raw = [] ∧ s.authoritativeStart = none ∧ rows = [] ∧ advanced = { s with
          boundaryReached := true, noNewSignatures := true, terminalCategory := recoveryNoNew }) ∨
        ∃ found, scanRows s.authoritativeStart s.seenSignatures (s.continuation.map Position.slot)
            raw = .ok (rows, found) ∧
          Scanned s.authoritativeStart s.seenSignatures (s.continuation.map Position.slot) rows
            found ∧ rows ≠ [] ∧ advanced = s.advance rows found) := by
  obtain ⟨raw, hraw, h⟩ := bind_ok h
  refine ⟨raw, hraw, ?_⟩
  split_ifs at h with hempty hstart
  · obtain ⟨rfl, rfl⟩ := Prod.mk.inj (Except.ok.inj h)
    exact Or.inl ⟨hempty, Option.isNone_iff_eq_none.mp hstart, rfl, rfl⟩
  · obtain ⟨⟨rows', found⟩, hscan, h⟩ := bind_ok h
    obtain ⟨rfl, rfl⟩ := Prod.mk.inj (Except.ok.inj h)
    obtain ⟨hscanned, hrows⟩ := scanRows_ok hscan
    exact Or.inr ⟨found, hscan, hscanned, hrows hempty, rfl⟩

theorem pairwise_sortedSignatures (known : List String) :
    (sortedSignatures known).Pairwise (· ≤ ·) := by
  have h : (known.mergeSort fun a b => a ≤ b).Pairwise fun a b => decide (a ≤ b) = true :=
    List.pairwise_mergeSort
      (fun a b c hab hbc => by simpa using le_trans (of_decide_eq_true hab) (of_decide_eq_true hbc))
      (fun a b => by simpa using le_total a b) known
  exact h.imp fun hle => of_decide_eq_true hle

theorem sortedSignatures_of_pairwise {known : List String} (h : known.Pairwise (· ≤ ·)) :
    sortedSignatures known = known :=
  List.mergeSort_of_pairwise (h.imp fun hle => decide_eq_true hle)

theorem mem_sortedSignatures {known : List String} {k : String} :
    k ∈ sortedSignatures known ↔ k ∈ known := List.mem_mergeSort

/-- A state of a namespace that operations may go on from. -/
structure Ready (ns : Namespace) (s : State) : Prop where
  key : s.namespaceKey = ns
  sorted : s.seenSignatures.Pairwise (· ≤ ·)

theorem ready_initialState (ns : Namespace) (head : Option Head) (recoveryId : String) :
    Ready ns (initialState ns head recoveryId) := ⟨rfl, List.Pairwise.nil⟩

theorem Ready.executePage {ns : Namespace} {a : Artifact} (hs : Ready ns s)
    (h : executePage H s localPage rpc = (after, .committed a)) : Ready ns after := by
  obtain ⟨-, rows, advanced, hread, rfl, -⟩ := executePage_committed h
  obtain ⟨raw, -, ⟨-, -, -, rfl⟩ | ⟨found, -, -, -, rfl⟩⟩ := readPage_ok hread
  · exact ⟨hs.key, hs.sorted⟩
  · exact ⟨hs.key, pairwise_sortedSignatures _⟩

/-- What the check makes of a page that goes on from the state. -/
theorem validatePageArtifact_ok {a : Artifact} (hid : a.page.recoveryId = s.recoveryId)
    (hkey : a.page.namespaceKey = s.namespaceKey)
    (hdirection : s.namespaceKey.direction = "FORWARD")
    (hstart : a.page.authoritativeStart = s.authoritativeStart)
    (hinput : a.page.inputContinuation = s.continuation) (hhash : H.page a.page = a.pageHash)
    (hrows : checkRows s.seenSignatures (s.continuation.map Position.slot) a.page.pageRows = .ok ())
    (hend : a.page.pageRows ≠ [] →
      a.page.outputContinuation = a.page.pageRows.getLast?.map SignatureRow.position)
    (hcategory : a.page.terminalCategory ≠ "") :
    validatePageArtifact H s a = .ok
      { s with
        seenSignatures := sortedSignatures
          ((a.page.pageRows.map SignatureRow.signature).reverse ++ s.seenSignatures)
        continuation := a.page.outputContinuation
        recoveryTip := a.page.recoveryTip
        recoveryPageOrdinal := a.page.recoveryPageOrdinal
        boundaryReached := a.page.boundaryReached
        noNewSignatures := a.page.noNewSignatures
        terminalCategory := a.page.terminalCategory } := by
  have hend' : ¬(a.page.pageRows ≠ [] ∧
      a.page.outputContinuation ≠ a.page.pageRows.getLast?.map SignatureRow.position) :=
    fun h => h.2 (hend h.1)
  simp only [validatePageArtifact, hid, hkey, hdirection, hstart, hinput, hhash, hrows,
    if_neg hend', if_neg hcategory, namespaceFields, List.find?_cons, List.find?_nil, ne_eq,
    not_true_eq_false, decide_false, if_false]
  rfl

/-- The check of the chain takes a committed page, and leaves the state that the operation left. -/
theorem validatePageArtifact_executePage {ns : Namespace} {a : Artifact} (hs : Ready ns s)
    (hforward : ns.direction = "FORWARD")
    (h : executePage H s localPage rpc = (after, .committed a)) :
    validatePageArtifact H s a = .ok after := by
  obtain ⟨-, rows, advanced, hread, rfl, rfl⟩ := executePage_committed h
  have hdirection : s.namespaceKey.direction = "FORWARD" := hs.key ▸ hforward
  obtain ⟨raw, -, ⟨-, -, rfl, rfl⟩ | ⟨found, -, hscanned, hrows, rfl⟩⟩ := readPage_ok hread
  · rw [validatePageArtifact_ok rfl rfl hdirection rfl rfl rfl rfl (fun h => absurd rfl h)
      (show recoveryNoNew ≠ "" by decide)]
    simp only [pageOf, List.map_nil, List.reverse_nil, List.nil_append,
      sortedSignatures_of_pairwise hs.sorted]
  · have hcategory : (s.advance rows found).terminalCategory ≠ "" := by
      unfold State.advance
      dsimp only
      split_ifs <;> decide
    rw [validatePageArtifact_ok rfl rfl hdirection rfl rfl rfl hscanned.checked (fun _ => rfl)
      hcategory]
    rfl

end PrinterV1.OperatorCli.CursorRecovery
