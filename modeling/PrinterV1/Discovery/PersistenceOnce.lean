import PrinterV1.Discovery.Persistence
import PrinterV1.Foundation.Runs

/-!
# Discovery persistence is write-once up to the columns nobody compares

Each writer compares its own columns, or a content hash of some of them. A repeat is
found exactly where the columns that are left out agree as well, and where the hash
tells the contents apart; a merged candidate moreover may be answered by another one of
its batch.
-/

namespace PrinterV1.Discovery.Persistence

open Python WriteOnce Runs

/-- Two rows hold the same arguments; the clock is none of them. -/
def same : (k : Kind) → Row k → Row k → Prop
  | .batch, a, b => a.toBatchArguments = b.toBatchArguments
  | .work, a, b => a.toWorkArguments = b.toWorkArguments
  | .workSource, a, b => a.toWorkSourceArguments = b.toWorkSourceArguments
  | .observation, a, b => a.toObservationArguments = b.toObservationArguments
  | .candidate, a, b => a.toCandidateArguments = b.toCandidateArguments
  | .contribution, a, b => a.toContributionArguments = b.toContributionArguments
  | .origin, a, b => a.toOriginArguments = b.toOriginArguments
  | .pumpswap, a, b => a.toPumpswapArguments = b.toPumpswapArguments
  | .selection, a, b => a.toSelectionArguments = b.toSelectionArguments
  | .selectedItem, a, b => a.toSelectedItemArguments = b.toSelectedItemArguments
  | .report, a, b => a.toReportArguments = b.toReportArguments

/-- A call of one of the writers, with the clock and what the database says of the row. -/
inductive Call
  | batch (a : BatchArguments) (now : String) (refusal : Option String)
  | work (a : WorkArguments) (now : String) (refusal : Option String)
  | workSource (a : WorkSourceArguments) (now : String) (refusal : Option String)
  | observation (a : ObservationArguments) (now : String) (refusal : Option String)
  | candidate (a : CandidateArguments) (now : String) (refusal : Option String)
  | contribution (a : ContributionArguments) (now : String) (refusal : Option String)
  | origin (a : OriginArguments) (now : String) (refusal : Option String)
  | pumpswap (a : PumpswapArguments) (now : String) (refusal : Option String)
  | selection (a : SelectionArguments) (now : String) (refusal : Option String)
  | selectedItem (a : SelectedItemArguments) (now : String) (refusal : Option String)
  | report (a : ReportArguments) (now : String) (refusal : Option String)

variable (digest : Value → Digest) (campaigns : Campaigns)

def perform (s : Tables) : Call → Except String (Option String) × Tables
  | .batch a now refusal => insertDiscoveryBatch digest campaigns s a now refusal
  | .work a now refusal => insertDiscoveryWork s a now refusal
  | .workSource a now refusal => linkDiscoveryWorkSource s a now refusal
  | .observation a now refusal => insertProviderObservation digest s a now refusal
  | .candidate a now refusal => insertMergedCandidate digest s a now refusal
  | .contribution a now refusal => linkCandidateContribution s a now refusal
  | .origin a now refusal => insertOriginVerification s a now refusal
  | .pumpswap a now refusal => insertPumpswapConfirmation s a now refusal
  | .selection a now refusal => linkSelectionBatch s a now refusal
  | .selectedItem a now refusal => linkSelectedItem s a now refusal
  | .report a now refusal => insertProviderReportLink digest s a now refusal

/-- The tables after a call. -/
def after (s : Tables) (c : Call) : Tables := (perform digest campaigns s c).2

/-- The row that the arguments of a call describe. -/
def described : Call → (k : Kind) × Except String (Row k)
  | .batch a now _ => ⟨.batch, a.checked.map (batchRow digest now)⟩
  | .work a now _ => ⟨.work, a.checked.map fun a => { a with createdAt := now, updatedAt := now }⟩
  | .workSource a now _ => ⟨.workSource, a.checked.map fun a => { a with createdAt := now }⟩
  | .observation a now _ => ⟨.observation, a.checked.map (observationRow digest now)⟩
  | .candidate a now _ => ⟨.candidate, a.checked.map (candidateRow digest now)⟩
  | .contribution a now _ => ⟨.contribution, a.checked.map fun a => { a with createdAt := now }⟩
  | .origin a now _ => ⟨.origin, a.checked.map fun a => { a with createdAt := now }⟩
  | .pumpswap a now _ => ⟨.pumpswap, a.checked.map fun a => { a with createdAt := now }⟩
  | .selection a now _ => ⟨.selection, a.checked.map fun a => { a with createdAt := now }⟩
  | .selectedItem a now _ => ⟨.selectedItem, a.checked.map fun a => { a with createdAt := now }⟩
  | .report a now _ => ⟨.report, a.checked.map (reportRow digest now)⟩

/-- The call keeps every stored row, repeats exactly what is stored under its id or raises and
changes nothing, and leaves a row under its id where it returns. -/
def WriteOnceCall (s : Tables) (c : Call) : Prop :=
  Once same s (described digest c).1 (described digest c).2 (perform digest campaigns s c)

/-! ## What the comparisons leave out -/

/-- The hash tells two contents apart. -/
def Distinguished (v w : Value) : Prop := contentHash digest v = contentHash digest w → v = w

/-- The repeats that a writer accepts agree in the columns it does not compare, and no other
candidate answers for a new one. -/
def Covered (s : Tables) : Call → Prop
  | .batch a _ _ => ∀ new, a.checked = .ok new → campaigns.owns new = true →
      ∀ old ∈ (s .batch).rows, old.discoveryBatchId = new.discoveryBatchId →
        Distinguished digest old.payload new.payload ∧
          (old.payload = new.payload → old.batchState = new.batchState)
  | .observation a _ _ => ∀ new, a.checked = .ok new →
      ∀ old ∈ (s .observation).rows, old.observationId = new.observationId →
        Distinguished digest old.payload new.payload ∧
          (old.payload = new.payload →
            old.campaignId = new.campaignId ∧ old.runId = new.runId ∧ old.cycleId = new.cycleId)
  | .candidate a _ _ => ∀ new, a.checked = .ok new →
      (∀ old ∈ (s .candidate).rows, old.mergedCandidateId = new.mergedCandidateId →
        Distinguished digest old.payload new.payload ∧
          (old.payload = new.payload →
            old.campaignId = new.campaignId ∧ old.runId = new.runId ∧ old.cycleId = new.cycleId)) ∧
      ((∀ old ∈ (s .candidate).rows, old.mergedCandidateId ≠ new.mergedCandidateId) →
        ∀ old, byKey s (candidateRow digest "" new) = some old →
          contentHash digest old.payload ≠ contentHash digest new.payload)
  | .origin a _ _ => ∀ new, a.checked = .ok new →
      ∀ old ∈ (s .origin).rows, old.originVerificationId = new.originVerificationId →
        old.Agree new →
          old.discoveryBatchId = new.discoveryBatchId ∧
          old.mergedCandidateId = new.mergedCandidateId ∧ old.mintIdentity = new.mintIdentity ∧
          old.sourceRequestId = new.sourceRequestId ∧
          old.sourceResponseId = new.sourceResponseId ∧ old.sourceFailureId = new.sourceFailureId
  | .pumpswap a _ _ => ∀ new, a.checked = .ok new →
      ∀ old ∈ (s .pumpswap).rows, old.pumpswapConfirmationId = new.pumpswapConfirmationId →
        old.Agree new →
          old.discoveryBatchId = new.discoveryBatchId ∧
          old.mergedCandidateId = new.mergedCandidateId ∧ old.mintIdentity = new.mintIdentity ∧
          old.sourceRequestId = new.sourceRequestId ∧
          old.sourceResponseId = new.sourceResponseId ∧ old.sourceFailureId = new.sourceFailureId
  | .report a _ _ => ∀ new, a.checked = .ok new →
      ∀ old ∈ (s .report).rows, old.reportLinkId = new.reportLinkId →
        Distinguished digest (.dict old.reportPayload) (.dict new.reportPayload) ∧
          (old.reportPayload = new.reportPayload →
            old.discoveryBatchId = new.discoveryBatchId ∧ old.campaignId = new.campaignId ∧
            old.configurationId = new.configurationId ∧ old.reportId = new.reportId ∧
            old.discoveryWorkId = new.discoveryWorkId)
  | _ => True

/-! ## Payloads -/

@[simp] theorem optText_inj {a b : Option String} : optText a = optText b ↔ a = b := by
  cases a <;> cases b <;> simp [optText]

@[simp] theorem optInt_inj {a b : Option ℤ} : optInt a = optInt b ↔ a = b := by
  cases a <;> cases b <;> simp [optInt]

theorem map_str_inj {xs ys : List String} :
    (xs.map Value.str = ys.map Value.str) ↔ xs = ys :=
  List.map_injective_iff.mpr (fun _ _ h => Value.str.inj h) |>.eq_iff

theorem batch_eq_iff (a b : BatchArguments) :
    a = b ↔ a.payload = b.payload ∧ a.batchState = b.batchState := by
  constructor
  · rintro rfl
    exact ⟨rfl, rfl⟩
  · rintro ⟨hpayload, hstate⟩
    cases a
    cases b
    simp_all [BatchArguments.payload]

theorem observation_eq_iff {a b : ObservationArguments} (hid : a.observationId = b.observationId) :
    a = b ↔ a.payload = b.payload ∧
      a.campaignId = b.campaignId ∧ a.runId = b.runId ∧ a.cycleId = b.cycleId := by
  constructor
  · rintro rfl
    exact ⟨rfl, rfl, rfl, rfl⟩
  · rintro ⟨hpayload, hcampaign, hrun, hcycle⟩
    cases a
    cases b
    simp_all [ObservationArguments.payload]

theorem candidate_eq_iff {a b : CandidateArguments}
    (hid : a.mergedCandidateId = b.mergedCandidateId) :
    a = b ↔ a.payload = b.payload ∧
      a.campaignId = b.campaignId ∧ a.runId = b.runId ∧ a.cycleId = b.cycleId := by
  constructor
  · rintro rfl
    exact ⟨rfl, rfl, rfl, rfl⟩
  · rintro ⟨hpayload, hcampaign, hrun, hcycle⟩
    cases a
    cases b
    simp_all [CandidateArguments.payload, map_str_inj]

theorem report_eq_iff {a b : ReportArguments} (hid : a.reportLinkId = b.reportLinkId) :
    a = b ↔ Value.dict a.reportPayload = Value.dict b.reportPayload ∧
      a.discoveryBatchId = b.discoveryBatchId ∧ a.campaignId = b.campaignId ∧
      a.configurationId = b.configurationId ∧ a.reportId = b.reportId ∧
      a.discoveryWorkId = b.discoveryWorkId := by
  constructor
  · rintro rfl
    exact ⟨rfl, rfl, rfl, rfl, rfl, rfl⟩
  · rintro ⟨hpayload, hbatch, hcampaign, hconfiguration, hreport, hwork⟩
    cases a
    cases b
    simp_all

/-- A hash finds the repeats where it tells the contents apart and the content is all there is. -/
theorem hash_iff {v w : Value} {S R : Prop} (hS : S ↔ v = w ∧ R) :
    ((contentHash digest v = contentHash digest w) ↔ S) ↔
      Distinguished digest v w ∧ (v = w → R) := by
  constructor
  · intro h
    exact ⟨fun hhash => (hS.mp (h.mp hhash)).1, fun hvw => (hS.mp (h.mp (by rw [hvw]))).2⟩
  · rintro ⟨hdistinguished, hrest⟩
    constructor
    · intro hhash
      exact hS.mpr ⟨hdistinguished hhash, hrest (hdistinguished hhash)⟩
    · intro hs
      rw [(hS.mp hs).1]

/-! ## What is stored -/

/-- A stored row has the hash of its content, and a stored batch is owned. -/
def Sound : (k : Kind) → Row k → Prop
  | .batch, r => r.canonicalHash = contentHash digest r.payload ∧
      campaigns.owns r.toBatchArguments = true
  | .observation, r => r.observationHash = contentHash digest r.payload
  | .candidate, r => r.mergedCandidateHash = contentHash digest r.payload
  | .report, r => r.reportHash = contentHash digest (.dict r.reportPayload)
  | _, _ => True

def Stored (s : Tables) : Prop := ∀ k, ∀ r ∈ (s k).rows, Sound digest campaigns k r

theorem map_ok {α β ε : Type} {f : α → β} {x : Except ε α} {y : β} :
    x.map f = .ok y ↔ ∃ a, x = .ok a ∧ f a = y := by
  cases x <;> simp [Except.map]

theorem forall_map_ok {α β ε : Type} {f : α → β} {x : Except ε α} {P : β → Prop} :
    (∀ y, x.map f = .ok y → P y) ↔ ∀ a, x = .ok a → P (f a) := by
  constructor
  · intro h a ha
    exact h (f a) (map_ok.mpr ⟨a, ha, rfl⟩)
  · intro h y hy
    obtain ⟨a, ha, rfl⟩ := map_ok.mp hy
    exact h a ha

theorem stored_empty : Stored digest campaigns Tables.empty := by
  intro k r hr
  simp [Tables.empty] at hr

/-- A call is one write of the row it describes, and what passes the gate is sound. -/
theorem perform_write (s : Tables) (c : Call) : ∃ w refusal,
    perform digest campaigns s c =
        write s (described digest c).1 w (described digest c).2 refusal ∧
      ∀ row, (described digest c).2 = .ok row → w.gate row = none →
        Sound digest campaigns (described digest c).1 row := by
  cases c <;> dsimp only [perform, described]
  case batch a now refusal =>
    refine ⟨batchWriter campaigns, refusal, rfl, fun row hrow hgate => ?_⟩
    obtain ⟨new, _, rfl⟩ := map_ok.mp hrow
    refine ⟨rfl, ?_⟩
    by_contra hnot
    exact hnot (by simpa [batchWriter] using hgate)
  case observation a now refusal =>
    refine ⟨observationWriter s, refusal, rfl, fun row hrow _ => ?_⟩
    obtain ⟨new, _, rfl⟩ := map_ok.mp hrow
    rfl
  case candidate a now refusal =>
    refine ⟨candidateWriter s, refusal, rfl, fun row hrow _ => ?_⟩
    obtain ⟨new, _, rfl⟩ := map_ok.mp hrow
    rfl
  case report a now refusal =>
    refine ⟨reportWriter, refusal, rfl, fun row hrow _ => ?_⟩
    obtain ⟨new, _, rfl⟩ := map_ok.mp hrow
    rfl
  case work a now refusal => exact ⟨workWriter, refusal, rfl, fun _ _ _ => trivial⟩
  case workSource a now refusal => exact ⟨workSourceWriter, refusal, rfl, fun _ _ _ => trivial⟩
  case contribution a now refusal => exact ⟨contributionWriter, refusal, rfl, fun _ _ _ => trivial⟩
  case origin a now refusal => exact ⟨originWriter, refusal, rfl, fun _ _ _ => trivial⟩
  case pumpswap a now refusal => exact ⟨pumpswapWriter, refusal, rfl, fun _ _ _ => trivial⟩
  case selection a now refusal => exact ⟨selectionWriter, refusal, rfl, fun _ _ _ => trivial⟩
  case selectedItem a now refusal => exact ⟨selectedItemWriter, refusal, rfl, fun _ _ _ => trivial⟩

theorem Stored.after {s : Tables} (h : Stored digest campaigns s) (c : Call) :
    Stored digest campaigns (after digest campaigns s c) := by
  obtain ⟨w, refusal, hwrite, hsound⟩ := perform_write digest campaigns s c
  rw [Persistence.after, hwrite]
  exact forall_write h hsound

/-! ## One call -/

section Calls

variable {s : Tables} (h : Stored digest campaigns s)
include h

theorem batch_iff (a : BatchArguments) (now : String) (refusal : Option String) :
    WriteOnceCall digest campaigns s (.batch a now refusal) ↔
      Covered digest campaigns s (.batch a now refusal) := by
  dsimp only [WriteOnceCall, perform, described, Covered]
  rw [insertDiscoveryBatch, once_write_iff, forall_map_ok]
  refine forall₂_congr fun new _ => ?_
  have hgate : (batchWriter campaigns).gate (batchRow digest now new) = none ↔
      campaigns.owns new = true := by
    by_cases howns : campaigns.owns new = true <;> simp [batchWriter, batchRow, howns]
  have hinstead : (batchWriter campaigns).instead (batchRow digest now new) ≠ some (.ok ()) := by
    simp [batchWriter]
  simp only [hinstead, ne_eq, not_false_eq_true, implies_true, and_true, hgate]
  have hsame : ∀ old ∈ (s .batch).rows,
      ((batchWriter campaigns).agrees old (batchRow digest now new) = true ↔
        contentHash digest old.payload = contentHash digest new.payload) := by
    intro old hold
    have hhash := (h .batch old hold).1
    simp [batchWriter, batchRow, hhash]
  constructor
  · intro hall howns old hold hkey
    have hold' := hall old hold hkey
    rw [hsame old hold] at hold'
    refine (hash_iff digest (batch_eq_iff old.toBatchArguments new)).mp ?_
    exact ⟨fun hhash => hold'.mp ⟨howns, hhash⟩, fun hfacts => (hold'.mpr hfacts).2⟩
  · intro hall old hold hkey
    rw [hsame old hold]
    constructor
    · rintro ⟨howns, hhash⟩
      exact ((hash_iff digest (batch_eq_iff old.toBatchArguments new)).mpr
        (hall howns old hold hkey)).mp hhash
    · intro hfacts
      have hargs : old.toBatchArguments = new := hfacts
      rw [hargs]
      exact ⟨hargs ▸ (h .batch old hold).2, rfl⟩

theorem observation_iff (a : ObservationArguments) (now : String) (refusal : Option String) :
    WriteOnceCall digest campaigns s (.observation a now refusal) ↔
      Covered digest campaigns s (.observation a now refusal) := by
  dsimp only [WriteOnceCall, perform, described, Covered]
  rw [insertProviderObservation, once_write_iff_of_plain (fun _ => rfl) (by
    intro row
    simp [observationWriter]), forall_map_ok]
  refine forall₂_congr fun new _ => ?_
  refine forall₂_congr fun old hold => forall_congr' fun hkey => ?_
  have hhash := h .observation old hold
  have hagrees : (observationWriter s).agrees old (observationRow digest now new) = true ↔
      contentHash digest old.payload = contentHash digest new.payload := by
    simp [observationWriter, observationRow, show old.observationHash = _ from hhash]
  rw [hagrees]
  exact hash_iff digest (observation_eq_iff hkey)

theorem candidate_iff (a : CandidateArguments) (now : String) (refusal : Option String) :
    WriteOnceCall digest campaigns s (.candidate a now refusal) ↔
      Covered digest campaigns s (.candidate a now refusal) := by
  dsimp only [WriteOnceCall, perform, described, Covered]
  rw [insertMergedCandidate, once_write_iff, forall_map_ok]
  refine forall₂_congr fun new _ => and_congr ?_ (forall_congr' fun _ => ?_)
  · refine forall₂_congr fun old hold => forall_congr' fun hkey => ?_
    have hhash := h .candidate old hold
    have hagrees : (candidateWriter s).agrees old (candidateRow digest now new) = true ↔
        contentHash digest old.payload = contentHash digest new.payload := by
      simp [candidateWriter, candidateRow, show old.mergedCandidateHash = _ from hhash]
    rw [hagrees, show (candidateWriter s).gate (candidateRow digest now new) = none from rfl]
    simp only [true_and]
    exact hash_iff digest (candidate_eq_iff hkey)
  · -- the candidate of that batch and identity answers where its hash is the same
    have hkey : byKey s (candidateRow digest now new) = byKey s (candidateRow digest "" new) := rfl
    have hinstead : (candidateWriter s).instead (candidateRow digest now new) =
        (byKey s (candidateRow digest "" new)).map fun old =>
          if old.mergedCandidateHash = contentHash digest new.payload then .ok ()
          else .error "duplicate candidate authority rejected for batch identity" := by
      rw [← hkey]
      rfl
    rw [hinstead, show (candidateWriter s).gate (candidateRow digest now new) = none from rfl]
    simp only [true_implies]
    cases hfind : byKey s (candidateRow digest "" new) with
    | none => simp
    | some old =>
      have hhash : old.mergedCandidateHash = contentHash digest old.payload :=
        h .candidate old (List.mem_of_find?_eq_some hfind)
      by_cases heq : contentHash digest old.payload = contentHash digest new.payload <;>
        simp [hhash, heq]

theorem report_iff (a : ReportArguments) (now : String) (refusal : Option String) :
    WriteOnceCall digest campaigns s (.report a now refusal) ↔
      Covered digest campaigns s (.report a now refusal) := by
  dsimp only [WriteOnceCall, perform, described, Covered]
  rw [insertProviderReportLink, once_write_iff_of_plain (fun _ => rfl) (by simp [reportWriter]),
    forall_map_ok]
  refine forall₂_congr fun new _ => ?_
  refine forall₂_congr fun old hold => forall_congr' fun hkey => ?_
  have hhash := h .report old hold
  have hagrees : reportWriter.agrees old (reportRow digest now new) = true ↔
      contentHash digest (.dict old.reportPayload) =
        contentHash digest (.dict new.reportPayload) := by
    simp [reportWriter, reportRow, show old.reportHash = _ from hhash]
  rw [hagrees]
  have hiff := hash_iff digest (report_eq_iff hkey)
  rw [Value.dict.injEq] at hiff
  exact hiff

end Calls

/-- A writer that compares columns finds the repeats exactly where they are all the columns. -/
theorem comparing_iff {k : Kind} {α : Type} {f : α → Row k} {given : Except String α} {s : Tables}
    {agrees : Row k → Row k → Bool} {conflict : String} {refusal : Option String} :
    Once same s k (given.map f) (write s k (comparing agrees conflict) (given.map f) refusal) ↔
      ∀ new, given = .ok new → ∀ old ∈ (s k).rows, rowKey k old = rowKey k (f new) →
        (agrees old (f new) = true ↔ same k old (f new)) := by
  rw [once_write_iff_of_plain (fun _ => rfl) (by simp [comparing]), forall_map_ok]
  rfl

/-- A comparison finds the repeats where the columns it leaves out agree with it. -/
theorem agree_iff {A S R : Prop} (hS : S ↔ A ∧ R) : (A ↔ S) ↔ (A → R) := by
  constructor
  · intro h ha
    exact (hS.mp (h.mp ha)).2
  · intro h
    exact ⟨fun ha => hS.mpr ⟨ha, h ha⟩, fun hs => (hS.mp hs).1⟩

theorem origin_eq_iff {a b : OriginArguments}
    (hid : a.originVerificationId = b.originVerificationId) :
    a = b ↔ a.Agree b ∧
      (a.discoveryBatchId = b.discoveryBatchId ∧ a.mergedCandidateId = b.mergedCandidateId ∧
        a.mintIdentity = b.mintIdentity ∧ a.sourceRequestId = b.sourceRequestId ∧
        a.sourceResponseId = b.sourceResponseId ∧ a.sourceFailureId = b.sourceFailureId) := by
  constructor
  · rintro rfl
    simp [OriginArguments.Agree]
  · rintro ⟨⟨_, _, _, _, _, _⟩, _, _, _, _, _, _⟩
    cases a
    cases b
    simp_all

theorem pumpswap_eq_iff {a b : PumpswapArguments}
    (hid : a.pumpswapConfirmationId = b.pumpswapConfirmationId) :
    a = b ↔ a.Agree b ∧
      (a.discoveryBatchId = b.discoveryBatchId ∧ a.mergedCandidateId = b.mergedCandidateId ∧
        a.mintIdentity = b.mintIdentity ∧ a.sourceRequestId = b.sourceRequestId ∧
        a.sourceResponseId = b.sourceResponseId ∧ a.sourceFailureId = b.sourceFailureId) := by
  constructor
  · rintro rfl
    simp [PumpswapArguments.Agree]
  · rintro ⟨⟨_, _, _, _, _, _⟩, _, _, _, _, _, _⟩
    cases a
    cases b
    simp_all

theorem origin_iff (s : Tables) (a : OriginArguments) (now : String) (refusal : Option String) :
    WriteOnceCall digest campaigns s (.origin a now refusal) ↔
      Covered digest campaigns s (.origin a now refusal) := by
  dsimp only [WriteOnceCall, perform, described, Covered]
  rw [insertOriginVerification, originWriter, comparing_iff]
  refine forall₂_congr fun new _ => forall₂_congr fun old _ => forall_congr' fun hkey => ?_
  rw [decide_eq_true_eq]
  exact agree_iff (origin_eq_iff hkey)

theorem pumpswap_iff (s : Tables) (a : PumpswapArguments) (now : String)
    (refusal : Option String) :
    WriteOnceCall digest campaigns s (.pumpswap a now refusal) ↔
      Covered digest campaigns s (.pumpswap a now refusal) := by
  dsimp only [WriteOnceCall, perform, described, Covered]
  rw [insertPumpswapConfirmation, pumpswapWriter, comparing_iff]
  refine forall₂_congr fun new _ => forall₂_congr fun old _ => forall_congr' fun hkey => ?_
  rw [decide_eq_true_eq]
  exact agree_iff (pumpswap_eq_iff hkey)

/-! ## The writers that compare all there is -/

theorem work_once (s : Tables) (a : WorkArguments) (now : String) (refusal : Option String) :
    WriteOnceCall digest campaigns s (.work a now refusal) := by
  dsimp only [WriteOnceCall, perform, described]
  rw [insertDiscoveryWork, workWriter, comparing_iff]
  intro new _ old _ _
  rw [decide_eq_true_eq]
  exact Iff.rfl

theorem workSource_once (s : Tables) (a : WorkSourceArguments) (now : String)
    (refusal : Option String) : WriteOnceCall digest campaigns s (.workSource a now refusal) := by
  dsimp only [WriteOnceCall, perform, described]
  rw [linkDiscoveryWorkSource, workSourceWriter, comparing_iff]
  intro new _ old _ hkey
  obtain ⟨hwork, hordinal⟩ := Prod.mk.inj hkey
  rw [decide_eq_true_eq]
  show _ ↔ old.toWorkSourceArguments = new
  obtain ⟨⟨_, _, _, _, _⟩, _⟩ := old
  obtain ⟨_, _, _, _, _⟩ := new
  simp_all

theorem contribution_once (s : Tables) (a : ContributionArguments) (now : String)
    (refusal : Option String) :
    WriteOnceCall digest campaigns s (.contribution a now refusal) := by
  dsimp only [WriteOnceCall, perform, described]
  rw [linkCandidateContribution, contributionWriter, comparing_iff]
  intro new _ old _ hkey
  obtain ⟨hcandidate, hobservation⟩ := Prod.mk.inj hkey
  rw [decide_eq_true_eq]
  show _ ↔ old.toContributionArguments = new
  obtain ⟨⟨_, _, _⟩, _⟩ := old
  obtain ⟨_, _, _⟩ := new
  simp_all

theorem selection_once (s : Tables) (a : SelectionArguments) (now : String)
    (refusal : Option String) : WriteOnceCall digest campaigns s (.selection a now refusal) := by
  dsimp only [WriteOnceCall, perform, described]
  rw [linkSelectionBatch, selectionWriter, comparing_iff]
  intro new _ old _ hkey
  obtain ⟨hbatch, hselection⟩ := Prod.mk.inj hkey
  rw [decide_eq_true_eq]
  show _ ↔ old.toSelectionArguments = new
  obtain ⟨⟨_, _, _, _, _⟩, _⟩ := old
  obtain ⟨_, _, _, _, _⟩ := new
  simp_all

theorem selectedItem_once (s : Tables) (a : SelectedItemArguments) (now : String)
    (refusal : Option String) :
    WriteOnceCall digest campaigns s (.selectedItem a now refusal) := by
  dsimp only [WriteOnceCall, perform, described]
  rw [linkSelectedItem, selectedItemWriter, comparing_iff]
  intro new _ old _ hkey
  obtain ⟨hbatch, hitem⟩ := Prod.mk.inj hkey
  rw [decide_eq_true_eq]
  show _ ↔ old.toSelectedItemArguments = new
  obtain ⟨⟨_, _, _, _, _, _, _, _, _, _⟩, _⟩ := old
  obtain ⟨_, _, _, _, _, _, _, _, _, _⟩ := new
  simp_all [SelectedItemArguments.Agree]

/-! ## Runs -/

theorem call_iff {s : Tables} (h : Stored digest campaigns s) (c : Call) :
    WriteOnceCall digest campaigns s c ↔ Covered digest campaigns s c := by
  cases c with
  | batch a now refusal => exact batch_iff digest campaigns h a now refusal
  | observation a now refusal => exact observation_iff digest campaigns h a now refusal
  | candidate a now refusal => exact candidate_iff digest campaigns h a now refusal
  | origin a now refusal => exact origin_iff digest campaigns s a now refusal
  | pumpswap a now refusal => exact pumpswap_iff digest campaigns s a now refusal
  | report a now refusal => exact report_iff digest campaigns h a now refusal
  | work a now refusal => exact iff_of_true (work_once digest campaigns s a now refusal) trivial
  | workSource a now refusal =>
    exact iff_of_true (workSource_once digest campaigns s a now refusal) trivial
  | contribution a now refusal =>
    exact iff_of_true (contribution_once digest campaigns s a now refusal) trivial
  | selection a now refusal =>
    exact iff_of_true (selection_once digest campaigns s a now refusal) trivial
  | selectedItem a now refusal =>
    exact iff_of_true (selectedItem_once digest campaigns s a now refusal) trivial

theorem after_kept (s : Tables) (c : Call) (k : Kind) :
    (s k).rows <+: (after digest campaigns s c k).rows := by
  obtain ⟨w, refusal, hwrite, _⟩ := perform_write digest campaigns s c
  rw [after, hwrite]
  exact write_kept k

/-- Over every sequence of calls no stored row is changed, and each call is write-once exactly
where each is covered. -/
theorem writeOnce_runs_iff (calls : List Call) :
    Kept (after digest campaigns) (fun s s' => ∀ k, (s k).rows <+: (s' k).rows) Tables.empty
        calls ∧
      (Along (after digest campaigns) (WriteOnceCall digest campaigns) Tables.empty calls ↔
        Along (after digest campaigns) (Covered digest campaigns) Tables.empty calls) := by
  constructor
  · rw [kept_iff_along (fun s k => List.prefix_refl _)
      (fun a b c hab hbc k => (hab k).trans (hbc k))]
    exact along_trivial _ (fun s c => after_kept digest campaigns s c) _ _
  · exact along_iff_along (fun s c h _ _ => h.after digest campaigns c)
      (fun _ c h _ => call_iff digest campaigns h c) (stored_empty digest campaigns)
      (along_trivial _ (fun _ _ => trivial : ∀ (_ : Tables) (_ : Call), True) _ _)

/-! ## A repeat that is none -/

def demoCampaigns : Campaigns where
  cycles := [("cycle-1", "run-1", "campaign-1")]
  configurations := [("configuration-1", "campaign-1")]

def demoBatch : BatchArguments where
  discoveryBatchId := "batch-1"
  campaignId := "campaign-1"
  configurationId := "configuration-1"
  runId := "run-1"
  cycleId := "cycle-1"
  cycleCutoff := "2026-07-20T00:00:00+00:00"
  policyVersion := "v1"
  providerContractVersions := []
  gitProvenanceIdentity := "head"
  campaignSelectionSeedIdentity := "seed-1"
  cycleSeedHash := "0123456789abcdef0123456789abcdef0123456789abcdef0123456789abcdef"

def demoCandidate : CandidateArguments where
  mergedCandidateId := "candidate-1"
  discoveryBatchId := "batch-1"
  campaignId := "campaign-1"
  runId := "run-1"
  cycleId := "cycle-1"
  mintIdentity := "MintA"
  channelLabels := ["LATEST_PUMPFUN"]

def demoOrigin (mint : String) : OriginArguments where
  originVerificationId := "origin-1"
  discoveryBatchId := "batch-1"
  mergedCandidateId := "candidate-1"
  mintIdentity := mint
  admissionState := "ADMITTED"
  verificationState := "CONFIRMED"

/-- A batch, one of its candidates and the verification of its origin. -/
def demoCalls : List Call :=
  [.batch demoBatch "2026-07-20T00:00:01+00:00" none,
    .candidate demoCandidate "2026-07-20T00:00:02+00:00" none,
    .origin (demoOrigin "MintA") "2026-07-20T00:00:03+00:00" none]

set_option maxRecDepth 4000 in
/-- The verification of another mint under the id of the first returns as if it were stored. -/
theorem not_writeOnce_mint :
    ¬ Along (after checksumLibrary.digest demoCampaigns)
      (WriteOnceCall checksumLibrary.digest demoCampaigns) Tables.empty
      (demoCalls ++ [.origin (demoOrigin "MintB") "2026-07-20T00:00:04+00:00" none]) := by
  intro h
  have hlast := ((along_append _).mp h).2.1
  rw [origin_iff] at hlast
  have hcovered := hlast (demoOrigin "MintB") (by decide +kernel)
    { demoOrigin "MintA" with createdAt := "2026-07-20T00:00:03+00:00" } (by decide +kernel) rfl
    (by decide)
  exact absurd hcovered.2.2.1 (by decide)

end PrinterV1.Discovery.Persistence
