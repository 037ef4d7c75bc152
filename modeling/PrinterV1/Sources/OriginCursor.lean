import PrinterV1.Foundation.Faults
import PrinterV1.Sources.OriginAcquisition

/-!
# What the origin cursor passes over

The boundary of the cursor only moves up. A cycle that moves a stored boundary
and calls the range contiguous has handed every admissible row of the range to
the decoder exactly when neither the decode ceiling nor the early stop nor a
missing transaction cut its queue; otherwise rows below the new boundary were
passed over, and no later cycle decodes them.
-/

namespace PrinterV1.Sources

open Python Discovery Runs

section Admission

/-- What the admission loop keeps, over the rows it has seen. -/
structure Admission.Sound (seen : List SignatureReference) (a : Admission) : Prop where
  distinct : (a.references.map SignatureReference.signature).Nodup
  confirmed : ∀ r ∈ a.references, r ∈ seen ∧ r.confirmationStatus = "finalized" ∧ r.err = .none
  conflict : a.continuityFault = false → a.conflicting = []
  complete : a.continuityFault = false → ∀ r ∈ seen, r.confirmationStatus = "finalized" →
    r.err = .none → r ∈ a.references

theorem Admission.Sound.consider {seen : List SignatureReference} {a : Admission}
    (h : a.Sound seen) (reference : SignatureReference) :
    (a.consider reference).Sound (seen ++ [reference]) := by
  have hconfirmed : ∀ r ∈ a.references, r ∈ seen ++ [reference] ∧
      r.confirmationStatus = "finalized" ∧ r.err = .none := by
    intro r hr
    obtain ⟨hmem, hgood⟩ := h.confirmed r hr
    exact ⟨List.mem_append_left _ hmem, hgood⟩
  -- a row the loop leaves out is none that has to be admitted
  have hskip : (reference.confirmationStatus = "finalized" → reference.err = .none →
      reference ∈ a.references) → a.continuityFault = false → ∀ r ∈ seen ++ [reference],
      r.confirmationStatus = "finalized" → r.err = .none → r ∈ a.references := by
    intro hself hfault r hr hfinal herr
    rcases List.mem_append.mp hr with hr | hr
    · exact h.complete hfault r hr hfinal herr
    · obtain rfl := List.mem_singleton.mp hr
      exact hself hfinal herr
  unfold Admission.consider
  by_cases hconflict : a.conflicting.contains reference.signature = true
  · rw [if_pos hconflict]
    refine ⟨h.distinct, hconfirmed, h.conflict, fun hfault => ?_⟩
    rw [h.conflict hfault] at hconflict
    simp at hconflict
  · rw [if_neg hconflict]
    cases hfind : a.references.find? fun r => r.signature = reference.signature with
    | some previous =>
      dsimp only
      by_cases hsame : previous = reference
      · rw [if_neg (not_not_intro hsame)]
        refine ⟨h.distinct, hconfirmed, h.conflict, fun hfault => hskip ?_ hfault⟩
        intro _ _
        rw [← hsame]
        exact List.mem_of_find?_eq_some hfind
      · rw [if_pos hsame]
        refine ⟨?_, ?_, nofun, nofun⟩
        · exact h.distinct.sublist (List.filter_sublist.map _)
        · intro r hr
          exact hconfirmed r (List.mem_filter.mp hr).1
    | none =>
      dsimp only
      by_cases hfinal : reference.confirmationStatus = "finalized"
      · rw [if_neg (not_not_intro hfinal)]
        by_cases herr : reference.err = .none
        · rw [if_neg (not_not_intro herr)]
          refine ⟨?_, ?_, h.conflict, ?_⟩
          · have hnew : reference.signature ∉ a.references.map SignatureReference.signature := by
              intro hmem
              obtain ⟨r, hr, hsignature⟩ := List.mem_map.mp hmem
              simpa [hsignature] using List.find?_eq_none.mp hfind r hr
            simpa [List.nodup_append] using ⟨h.distinct, by simpa using hnew⟩
          · intro r hr
            rcases List.mem_append.mp hr with hr | hr
            · exact hconfirmed r hr
            · obtain rfl := List.mem_singleton.mp hr
              exact ⟨by simp, hfinal, herr⟩
          · intro hfault r hr hr_final hr_err
            rcases List.mem_append.mp hr with hr | hr
            · exact List.mem_append_left _ (h.complete hfault r hr hr_final hr_err)
            · exact List.mem_append_right _ hr
        · rw [if_pos herr]
          exact ⟨h.distinct, hconfirmed, h.conflict,
            hskip fun _ hnone => absurd hnone herr⟩
      · rw [if_pos hfinal]
        exact ⟨h.distinct, hconfirmed, h.conflict,
          hskip fun hfinalized => absurd hfinalized hfinal⟩

theorem admission_sound (pageRows : List SignatureReference) :
    (admission pageRows).Sound pageRows := by
  have hloop : ∀ (rows seen : List SignatureReference) (a : Admission), a.Sound seen →
      (rows.foldl Admission.consider a).Sound (seen ++ rows) := by
    intro rows
    induction rows with
    | nil =>
      intro seen a h
      simpa using h
    | cons row rows ih =>
      intro seen a h
      simpa using ih (seen ++ [row]) (a.consider row) (h.consider row)
  exact hloop pageRows [] {} ⟨List.nodup_nil, by simp, fun _ => rfl, by simp⟩

/-- A row the range owes to the decoder. -/
structure SignatureReference.Owed (seen : List SignatureReference) (r : SignatureReference) :
    Prop where
  mem : r ∈ seen
  finalized : r.confirmationStatus = "finalized"
  errorFree : r.err = .none
  notConflicting : r.signature ∉ (admission seen).conflicting

variable {pageRows : List SignatureReference} {prior : FinalizedOriginCursor}

theorem mem_aboveFloor {old : CursorBoundary} (hold : prior.boundary = some old)
    {r : SignatureReference} :
    r ∈ aboveFloor pageRows prior ↔
      r ∈ (admission pageRows).references ∧ old.position < r.position := by
  simp [aboveFloor, hold, admittedOrdered]

theorem aboveFloor_nodup : (aboveFloor pageRows prior).Nodup := by
  have hordered : (admittedOrdered pageRows).Nodup :=
    (sortBy_perm _ _).nodup_iff.mpr (admission_sound pageRows).distinct.of_map
  unfold aboveFloor
  cases prior.boundary with
  | none => exact hordered
  | some floor => exact hordered.filter _

/-- Where nothing conflicted, the rows above the floor are the rows owed. -/
theorem owed_iff (hfault : (admission pageRows).continuityFault = false) {old : CursorBoundary}
    (hold : prior.boundary = some old) {r : SignatureReference} :
    r ∈ aboveFloor pageRows prior ↔ r.Owed pageRows ∧ old.position < r.position := by
  have hsound := admission_sound pageRows
  rw [mem_aboveFloor hold]
  constructor
  · rintro ⟨hmem, hpos⟩
    obtain ⟨hseen, hfinal, herr⟩ := hsound.confirmed r hmem
    exact ⟨⟨hseen, hfinal, herr, by simp [hsound.conflict hfault]⟩, hpos⟩
  · rintro ⟨howed, hpos⟩
    exact ⟨hsound.complete hfault r howed.mem howed.finalized howed.errorFree, hpos⟩

/-- The anchor is the newest row admitted. -/
theorem le_anchor {newest : CursorBoundary}
    (h : (planFinalizedDecodeQueue pageRows prior).anchor = some newest) {r : SignatureReference}
    (hr : r ∈ (admission pageRows).references) : r.position ≤ newest.position := by
  obtain ⟨last, hlast, rfl⟩ := Option.map_eq_some_iff.mp h
  have hmem : r ∈ admittedOrdered pageRows := mem_sortBy.mpr hr
  obtain ⟨init, hinit⟩ := List.getLast?_eq_some_iff.mp hlast
  have hsorted := sortBy_sorted SignatureReference.position (admission pageRows).references
  change (admittedOrdered pageRows).Pairwise _ at hsorted
  rw [hinit] at hmem hsorted
  rcases List.mem_append.mp hmem with hmem | hmem
  · exact (List.pairwise_append.mp hsorted).2.2 r hmem last (by simp)
  · rw [List.mem_singleton.mp hmem]
    exact le_refl last.position

/-- The new boundary is not behind the old one. -/
def FinalizedOriginCursor.NotBehind (old new : FinalizedOriginCursor) : Prop :=
  ∀ b, old.boundary = some b → ∃ b', new.boundary = some b' ∧ b.position ≤ b'.position

theorem nextBoundary_advances {old : CursorBoundary} (hold : prior.boundary = some old) :
    ∃ new, nextBoundary prior (planFinalizedDecodeQueue pageRows prior) = some new ∧
      old.position ≤ new.position := by
  unfold nextBoundary
  cases hanchor : (planFinalizedDecodeQueue pageRows prior).anchor with
  | none => exact ⟨old, by simpa using hold, le_refl _⟩
  | some newest =>
    have hstale : (planFinalizedDecodeQueue pageRows prior).stalePage =
        decide (newest.position ≤ old.position) := by
      simp only [planFinalizedDecodeQueue] at hanchor ⊢
      rw [hanchor, hold]
    by_cases h : newest.position ≤ old.position
    · exact ⟨old, by simp [hstale, h, hold], le_refl _⟩
    · exact ⟨newest, by simp [hstale, h], le_of_lt (not_le.mp h)⟩

/-- A boundary that moved is the anchor. -/
theorem anchor_of_moved {old new : CursorBoundary} (hold : prior.boundary = some old)
    (hnew : nextBoundary prior (planFinalizedDecodeQueue pageRows prior) = some new)
    (hmoved : new ≠ old) : (planFinalizedDecodeQueue pageRows prior).anchor = some new := by
  unfold nextBoundary at hnew
  split_ifs at hnew with h
  · exact hnew
  · rw [hold] at hnew
    exact absurd (Option.some.inj hnew).symm hmoved

end Admission

section Decoding

variable {σ τ : Type} (source : AcquisitionSource σ τ)
  (decodeFinalizedCreate :
    τ → SignatureReference → ℤ → Except PumpFault PumpCreateObservation)

/-- Every row of the queue has a transaction, and each is reached before the
early stop: `creates` is the number of creates decoded so far. -/
def decodesAll : ℕ → σ → List SignatureReference → Bool
  | _, _, [] => true
  | creates, state, reference :: rest =>
    creates < earlyCreateStop &&
      match source.nextTransaction state reference with
      | .ok (some transaction, state) =>
        match decodeFinalizedCreate transaction reference reference.slot with
        | .ok _ => decodesAll (creates + 1) state rest
        | .error (.contract _ _) => decodesAll creates state rest
        | .error (.other _) => false
      | _ => false

variable {source decodeFinalizedCreate}

@[simp] theorem reject_handed (d : Decoding σ) (code : String) (r : SignatureReference) :
    (d.reject code r).handed = d.handed := by
  unfold Decoding.reject
  dsimp only
  split_ifs <;> rfl

@[simp] theorem reject_observations (d : Decoding σ) (code : String) (r : SignatureReference) :
    (d.reject code r).observations = d.observations := by
  unfold Decoding.reject
  dsimp only
  split_ifs <;> rfl

@[simp] theorem reject_state (d : Decoding σ) (code : String) (r : SignatureReference) :
    (d.reject code r).state = d.state := by
  unfold Decoding.reject
  dsimp only
  split_ifs <;> rfl

theorem reject_fault (d : Decoding σ) (code : String) (r : SignatureReference)
    (h : (d.reject code r).continuityFault = false) : d.continuityFault = false := by
  unfold Decoding.reject at h
  dsimp only at h
  split_ifs at h <;> exact h

/-- What a decoded row adds: itself to the rows handed over, and one create or
one rejection. -/
theorem decode_ok {d d' : Decoding σ} {r : SignatureReference} {transaction : τ}
    (h : d.decode decodeFinalizedCreate r transaction = .ok d') :
    d'.handed = d.handed ++ [r] ∧ d'.state = d.state ∧
      (d'.continuityFault = false → d.continuityFault = false) ∧
      ((∃ observation, decodeFinalizedCreate transaction r r.slot = .ok observation ∧
          d'.observations.length = d.observations.length + 1) ∨
        ∃ code detail, decodeFinalizedCreate transaction r r.slot =
          .error (.contract code detail) ∧ d'.observations.length = d.observations.length) := by
  unfold Decoding.decode at h
  dsimp only at h
  cases hdecode : decodeFinalizedCreate transaction r r.slot with
  | ok observation =>
    rw [hdecode] at h
    obtain rfl := Except.ok.inj h
    exact ⟨rfl, rfl, id, .inl ⟨observation, rfl, by simp⟩⟩
  | error e =>
    rw [hdecode] at h
    cases e with
    | contract code detail =>
      obtain rfl := Except.ok.inj h
      exact ⟨by simp, by simp, reject_fault _ _ _, .inr ⟨code, detail, rfl, by simp⟩⟩
    | other text => cases h

/-- Past the early stop nothing is handed over. -/
theorem decodeQueue_stopped {queue : List SignatureReference} : ∀ {d d' : Decoding σ},
    earlyCreateStop ≤ d.observations.length →
    decodeQueue source decodeFinalizedCreate queue d = .ok d' →
    d'.handed = d.handed ∧ (d'.continuityFault = false → d.continuityFault = false) := by
  induction queue with
  | nil =>
    intro d d' _ h
    obtain rfl := Except.ok.inj h
    exact ⟨rfl, id⟩
  | cons r rest ih =>
    intro d d' hstop h
    rw [decodeQueue, if_pos hstop] at h
    have hrest := fun hs => ih hs h
    exact hrest hstop

/-- The rows handed over are a first part of the queue, the whole of it exactly
when all of it decodes. -/
theorem decodeQueue_ok {queue : List SignatureReference} : ∀ {d d' : Decoding σ},
    decodeQueue source decodeFinalizedCreate queue d = .ok d' →
    (∃ first, first <+: queue ∧ d'.handed = d.handed ++ first ∧
      (first = queue ↔
        decodesAll source decodeFinalizedCreate d.observations.length d.state queue = true)) ∧
      (d'.continuityFault = false → d.continuityFault = false) := by
  induction queue with
  | nil =>
    intro d d' h
    obtain rfl := Except.ok.inj h
    exact ⟨⟨[], List.prefix_rfl, by simp, by simp [decodesAll]⟩, id⟩
  | cons r rest ih =>
    intro d d' h
    by_cases hstop : earlyCreateStop ≤ d.observations.length
    · obtain ⟨hsame, hfault⟩ := decodeQueue_stopped hstop h
      refine ⟨⟨[], List.nil_prefix, by simpa using hsame, ?_⟩, hfault⟩
      have hnot : decide (d.observations.length < earlyCreateStop) = false := by simpa using hstop
      simp [decodesAll, hnot]
    · have hbefore : decide (d.observations.length < earlyCreateStop) = true := by
        simpa using not_le.mp hstop
      rw [decodeQueue, if_neg hstop] at h
      obtain ⟨⟨transaction?, state⟩, hnext, h⟩ := Faults.bind_ok h
      cases transaction? with
      | none =>
        obtain rfl := Except.ok.inj h
        refine ⟨⟨[], List.nil_prefix, by simp, ?_⟩, id⟩
        simp [decodesAll, hnext]
      | some transaction =>
        obtain ⟨d₁, hdecode, h⟩ := Faults.bind_ok h
        obtain ⟨hhanded, hstate, hfault, hkind⟩ := decode_ok hdecode
        obtain ⟨⟨first, hpart, hfirst, hall⟩, hrest⟩ := ih h
        refine ⟨⟨r :: first, by simpa using hpart, by simp [hfirst, hhanded], ?_⟩,
          fun hclear => hfault (hrest hclear)⟩
        have hcons : (r :: first = r :: rest) ↔ first = rest := by simp
        rw [hcons, hall, hstate, decodesAll, hbefore, hnext]
        rcases hkind with ⟨observation, hok, hcount⟩ | ⟨code, detail, herror, hcount⟩
        · simp [hok, hcount]
        · simp [herror, hcount]

end Decoding

section Cycles

variable {σ τ : Type} (decodeFinalizedCreate :
  τ → SignatureReference → ℤ → Except PumpFault PumpCreateObservation)

/-- What a cycle is given besides its cursor. -/
structure CycleInput (σ τ : Type) where
  source : AcquisitionSource σ τ
  start : σ
  indexAddress : String := pumpCreateIndexAddress

def CycleInput.run (input : CycleInput σ τ) (prior : FinalizedOriginCursor) :
    Except PumpFault Cycle :=
  runAcquisitionFromSource input.source decodeFinalizedCreate input.start prior input.indexAddress

/-- The cursor the next cycle is given: a cycle that raises returns none. -/
def nextCursor (prior : FinalizedOriginCursor) (input : CycleInput σ τ) : FinalizedOriginCursor :=
  match input.run decodeFinalizedCreate prior with
  | .ok cycle => cycle.result.cursor
  | .error _ => prior

/-- No rule cuts the queue: the rows above the boundary fit under the ceiling,
and all of them decode. -/
def CycleInput.uncut (input : CycleInput σ τ) (prior : FinalizedOriginCursor) : Bool :=
  match intake input.source input.start prior with
  | .ok pages =>
    let queue := aboveFloor pages.pageRows prior
    queue.length ≤ createIndexDecodeCeiling &&
      decodesAll input.source decodeFinalizedCreate 0 pages.state queue
  | .error _ => false

/-- Every row owed between the boundaries was handed to the decoder. -/
def Cycle.HandsOver (cycle : Cycle) (old new : CursorBoundary) : Prop :=
  ∀ row : SignatureReference, row.Owed cycle.seen → old.position < row.position →
    row.position ≤ new.position → row ∈ cycle.handed

variable {decodeFinalizedCreate}

theorem run_ok {input : CycleInput σ τ} {prior : FinalizedOriginCursor} {cycle : Cycle}
    (h : input.run decodeFinalizedCreate prior = .ok cycle) :
    ∃ pages decoded, intake input.source input.start prior = .ok pages ∧
      decodeQueue input.source decodeFinalizedCreate
        (planFinalizedDecodeQueue pages.pageRows prior).decodeQueue
        { state := pages.state
          rejections := (planFinalizedDecodeQueue pages.pageRows prior).rejections
          continuityFault := (planFinalizedDecodeQueue pages.pageRows prior).continuityFault } =
        .ok decoded ∧
      cycle.seen = pages.pageRows ∧ cycle.handed = decoded.handed ∧
      cycle.result.cursor.boundary =
        nextBoundary prior (planFinalizedDecodeQueue pages.pageRows prior) ∧
      cycle.result.cursor.continuity = continuityOf prior pages decoded.continuityFault := by
  unfold CycleInput.run runAcquisitionFromSource at h
  obtain ⟨pages, hpages, h⟩ := Faults.bind_ok h
  obtain ⟨decoded, hdecoded, h⟩ := Faults.bind_ok h
  obtain ⟨_, _, h⟩ := Faults.bind_ok h
  obtain rfl := Except.ok.inj h
  exact ⟨pages, decoded, hpages, hdecoded, rfl, rfl, rfl, rfl⟩

theorem nextCursor_notBehind (prior : FinalizedOriginCursor) (input : CycleInput σ τ) :
    prior.NotBehind (nextCursor decodeFinalizedCreate prior input) := by
  intro old hold
  unfold nextCursor
  cases h : input.run decodeFinalizedCreate prior with
  | error e => exact ⟨old, hold, le_refl _⟩
  | ok cycle =>
    obtain ⟨pages, decoded, _, _, _, _, hboundary, _⟩ := run_ok h
    dsimp only
    rw [hboundary]
    exact nextBoundary_advances hold

theorem fault_of_contiguous {prior : FinalizedOriginCursor} {pages : Pages σ} {fault : Bool}
    (h : continuityOf prior pages fault = .contiguous) : fault = false := by
  cases fault with
  | false => rfl
  | true =>
    unfold continuityOf at h
    simp only [Bool.true_or, if_true] at h
    split_ifs at h

/-- What a finished cycle that moved a stored boundary over a contiguous range
has handed over. -/
theorem handsOver_iff {input : CycleInput σ τ} {prior : FinalizedOriginCursor} {cycle : Cycle}
    (h : input.run decodeFinalizedCreate prior = .ok cycle) {old new : CursorBoundary}
    (hold : prior.boundary = some old) (hnew : cycle.result.cursor.boundary = some new)
    (hmoved : new ≠ old) (hcontiguous : cycle.result.cursor.continuity = .contiguous) :
    cycle.HandsOver old new ↔ input.uncut decodeFinalizedCreate prior = true := by
  obtain ⟨pages, decoded, hpages, hdecoded, hseen, hhanded, hboundary, hcontinuity⟩ := run_ok h
  rw [hboundary] at hnew
  rw [hcontinuity] at hcontiguous
  obtain ⟨⟨first, hpart, hfirst, hall⟩, hfault⟩ := decodeQueue_ok hdecoded
  have hclear : (admission pages.pageRows).continuityFault = false :=
    hfault (fault_of_contiguous hcontiguous)
  have hanchor := anchor_of_moved hold hnew hmoved
  set queue := aboveFloor pages.pageRows prior with hqueue
  have hplan : (planFinalizedDecodeQueue pages.pageRows prior).decodeQueue =
      queue.take createIndexDecodeCeiling := rfl
  rw [hplan] at hpart hall
  have hfirst' : cycle.handed = first := by rw [hhanded, hfirst]; rfl
  have howed : ∀ row : SignatureReference,
      row ∈ queue ↔ row.Owed cycle.seen ∧ old.position < row.position := by
    intro row
    rw [hseen]
    exact owed_iff hclear hold
  -- the rows owed are the queue, and a first part of it that holds all is all of it
  have hwhole : cycle.HandsOver old new ↔ first = queue := by
    rw [Cycle.HandsOver, hfirst']
    constructor
    · intro hover
      have hsubset : queue ⊆ first := by
        intro row hrow
        obtain ⟨hrow_owed, hpos⟩ := (howed row).mp hrow
        have hle := le_anchor hanchor ((mem_aboveFloor hold).mp hrow).1
        exact hover row hrow_owed hpos hle
      have hlength : queue.length ≤ first.length :=
        (List.subperm_of_subset aboveFloor_nodup hsubset).length_le
      exact (hpart.trans (List.take_prefix _ _)).sublist.eq_of_length_le hlength
    · intro heq row hrow_owed hpos _
      rw [heq]
      exact (howed row).mpr ⟨hrow_owed, hpos⟩
  rw [hwhole]
  have huncut : input.uncut decodeFinalizedCreate prior =
      (decide (queue.length ≤ createIndexDecodeCeiling) &&
        decodesAll input.source decodeFinalizedCreate 0 pages.state queue) := by
    unfold CycleInput.uncut
    rw [hpages]
  rw [huncut, Bool.and_eq_true, decide_eq_true_iff]
  by_cases hfits : queue.length ≤ createIndexDecodeCeiling
  · rw [List.take_of_length_le hfits] at hall
    simpa [hfits] using hall
  · refine iff_of_false (fun heq => ?_) (fun hboth => hfits hboth.1)
    have hlength := hpart.length_le
    rw [heq, List.length_take] at hlength
    omega

/-- Over any cycles, each given the cursor of the one before, the boundary never
moves back; and a cycle that moves a stored boundary over a range it calls
contiguous has handed over every row owed exactly when nothing cut its queue. -/
theorem originCursor_handsOver_iff (decodeFinalizedCreate :
    τ → SignatureReference → ℤ → Except PumpFault PumpCreateObservation)
    (prior : FinalizedOriginCursor) (inputs : List (CycleInput σ τ)) :
    Kept (nextCursor decodeFinalizedCreate) FinalizedOriginCursor.NotBehind prior inputs ∧
    Along (nextCursor decodeFinalizedCreate) (fun cursor input =>
      ∀ cycle old new, input.run decodeFinalizedCreate cursor = .ok cycle →
        cursor.boundary = some old → cycle.result.cursor.boundary = some new → new ≠ old →
        cycle.result.cursor.continuity = .contiguous →
        (cycle.HandsOver old new ↔ input.uncut decodeFinalizedCreate cursor = true))
      prior inputs := by
  constructor
  · rw [kept_iff_along]
    · exact along_trivial _ nextCursor_notBehind prior inputs
    · intro cursor b hb
      exact ⟨b, hb, le_refl _⟩
    · intro a b c hab hbc old hold
      obtain ⟨mid, hmid, hle⟩ := hab old hold
      obtain ⟨new, hnew, hle'⟩ := hbc mid hmid
      exact ⟨new, hnew, hle.trans hle'⟩
  · apply along_trivial
    intro cursor input cycle old new hrun hold hnew hmoved hcontiguous
    exact handsOver_iff hrun hold hnew hmoved hcontiguous

end Cycles

section PassedOver

/-- A signature row of a page. -/
def pageRow (signature : String) (slot : ℤ) : Value :=
  .dict [("confirmationStatus", .str "finalized"), ("signature", .str signature),
    ("slot", .int slot)]

/-- One page with eleven rows above the stored boundary, and a transaction of an
unsupported version for each of the first ten. -/
def elevenRows : List FixtureOperation :=
  { requestId := "page-1", requestKind := signaturePageRequest
    rpcOperation := getSignaturesForAddress
    response := .dict [("rows", .list
      ((List.range 12).map fun i => pageRow ("sig" ++ toString i) (700 + i)))] } ::
    (List.range 10).map fun i =>
      { requestId := "tx-" ++ toString i, requestKind := transactionRequest
        rpcOperation := getTransaction, response := .dict [("version", .int 1)] }

def storedCursor : FinalizedOriginCursor :=
  { boundary := some ⟨700, "sig0"⟩, continuity := .contiguous }

/-- The decoder on these transactions. -/
def unsupportedVersion : Value → SignatureReference → ℤ → Except PumpFault PumpCreateObservation :=
  fun _ _ _ => .error (.contract "UNSUPPORTED_TRANSACTION_VERSION" "")

def eleventhRow : SignatureReference := ⟨"sig11", 711, "finalized", .none⟩

/-- What the evaluation of the cycle is read for. -/
def passesOver (cycle : Cycle) : Bool :=
  cycle.result.cursor.boundary = some ⟨711, "sig11"⟩ ∧
    cycle.result.cursor.continuity = .contiguous ∧ eleventhRow ∈ cycle.seen ∧
    (admission cycle.seen).conflicting = [] ∧ eleventhRow ∉ cycle.handed

theorem elevenRows_cycle :
    (runAcquisitionCycle unsupportedVersion elevenRows storedCursor).toOption.any passesOver =
      true := by
  decide

/-- The eleventh row is finalized, without error and not above the new boundary,
the range is called contiguous, and the row was not handed over. -/
theorem eleventhRow_passedOver :
    ∃ cycle, runAcquisitionCycle unsupportedVersion elevenRows storedCursor = .ok cycle ∧
      storedCursor.boundary = some ⟨700, "sig0"⟩ ∧
      cycle.result.cursor.boundary = some ⟨711, "sig11"⟩ ∧
      cycle.result.cursor.continuity = .contiguous ∧
      ¬cycle.HandsOver ⟨700, "sig0"⟩ ⟨711, "sig11"⟩ := by
  obtain ⟨cycle, hrun, hpasses⟩ := Faults.ok_of_any elevenRows_cycle
  obtain ⟨hboundary, hcontinuity, hseen, hconflict, hmissed⟩ := of_decide_eq_true hpasses
  refine ⟨cycle, hrun, rfl, hboundary, hcontinuity, fun hover => hmissed ?_⟩
  have howed : eleventhRow.Owed cycle.seen := ⟨hseen, rfl, rfl, by simp [hconflict]⟩
  refine hover eleventhRow howed ?_ (le_refl _)
  exact Prod.Lex.toLex_lt_toLex.mpr (.inl (by decide))

end PassedOver

end PrinterV1.Sources
