import PrinterV1.Foundation.Runs
import PrinterV1.Sources.SixUnitEscapes

/-!
# Atomic stages and exact runs

A stage either adds its reconstruction to the owner or blocks the owner and
leaves its accounts as they were. It does so exactly when no exception of the
language escapes from it, or the owner is blocked already. The durable evidence of
an owner is returned, with the owner's totals, exactly when its times can be read.
-/

namespace PrinterV1.Sources

open Python Faults Runs

variable (R : Value.Rendering)

/-- The accounts of the two owners are the same. -/
structure SameAccounts (owner owner' : CampaignSixUnitOwner) : Prop where
  ledger : owner'.ledger = owner.ledger
  stageEvidenceCount : owner'.stageEvidenceCount = owner.stageEvidenceCount
  ingestedStageIds : owner'.ingestedStageIds = owner.ingestedStageIds
  sealedStageDiagnostics : owner'.sealedStageDiagnostics = owner.sealedStageDiagnostics

/-- The owner is blocked, and by its first reason if it was before. -/
def BlockedAfter (owner owner' : CampaignSixUnitOwner) : Prop :=
  ∃ reason, owner'.accountingBlockReason = some reason ∧
    ∀ first, owner.accountingBlockReason = some first → reason = first

/-- What one call must do. -/
structure AtomicIngest (owner : CampaignSixUnitOwner) (evidence : Value) : Prop where
  returned : (ingestStageEvidence R owner evidence).1 = none →
    ∃ totals, reconstructSixUnitTotalsFromEvidence R evidence = .ok totals ∧
      (ingestStageEvidence R owner evidence).2.sixUnitTotals = owner.sixUnitTotals + totals
  raised : (ingestStageEvidence R owner evidence).1 ≠ none →
    SameAccounts owner (ingestStageEvidence R owner evidence).2 ∧
      BlockedAfter owner (ingestStageEvidence R owner evidence).2

/-- The owner after a call, whether it returned or raised. -/
def ingest (owner : CampaignSixUnitOwner) (evidence : Value) : CampaignSixUnitOwner :=
  (ingestStageEvidence R owner evidence).2

/-- The totals of the evidence, when it can be reconstructed. -/
def evidenceTotals (evidence : Value) : SixUnitTotals :=
  match reconstructSixUnitTotalsFromEvidence R evidence with
  | .ok totals => totals
  | .error _ => 0

/-- The sum of the reconstructions of the stages that are accepted. -/
def acceptedTotals : CampaignSixUnitOwner → List Value → SixUnitTotals
  | _, [] => 0
  | owner, evidence :: rest =>
    (if (ingestStageEvidence R owner evidence).1 = none then evidenceTotals R evidence else 0) +
      acceptedTotals (ingest R owner evidence) rest

/-- Six-unit accounting over a run of calls. -/
structure ExactAccounting (owner : CampaignSixUnitOwner) (evidences : List Value) : Prop where
  atomic : Along (ingest R) (AtomicIngest R) owner evidences
  totals : ∀ pre, pre <+: evidences →
    (run (ingest R) owner pre).sixUnitTotals = owner.sixUnitTotals + acceptedTotals R owner pre
  durable : ∀ pre, pre <+: evidences → ∀ now, InRange now → ∃ evidence,
    (run (ingest R) owner pre).durableEvidence (isoformat now) = .ok evidence ∧
      reconstructSixUnitTotalsFromEvidence R evidence =
        .ok (run (ingest R) owner pre).sixUnitTotals

variable {R}

theorem SameAccounts.sixUnitTotals {owner owner' : CampaignSixUnitOwner}
    (h : SameAccounts owner owner') : owner'.sixUnitTotals = owner.sixUnitTotals := by
  unfold CampaignSixUnitOwner.sixUnitTotals
  rw [h.ledger]

theorem strip_text_ne_empty (e : CampaignSixUnitError) : strip e.text ≠ "" := by
  intro h
  have hcons : e.text.toList = 'S' :: ("IX_UNIT_".toList ++ e.detail.toList) := by
    simp [CampaignSixUnitError.text]
  have hnil : stripChars e.text.toList = [] := by
    unfold strip at h
    simpa using congrArg String.toList h
  rw [hcons] at hnil
  exact stripChars_cons_ne_nil (by decide) _ hnil

/-- A fault of the accounting always has a reason to block by. -/
theorem block_text (owner : CampaignSixUnitOwner) (e : CampaignSixUnitError) :
    owner.block e.text =
      .ok
        { owner with
          accountingBlockReason := some (owner.accountingBlockReason.getD (strip e.text)) } := by
  unfold CampaignSixUnitOwner.block
  dsimp only
  rw [if_neg (strip_text_ne_empty e)]

theorem ingestStageEvidence_ok {owner owner' : CampaignSixUnitOwner} {evidence : Value}
    (h : ingestStageEvidenceImpl R owner evidence = .ok owner') :
    ingestStageEvidence R owner evidence = (none, owner') := by
  simp [ingestStageEvidence, h]

theorem ingestStageEvidence_sixUnit {owner : CampaignSixUnitOwner} {evidence : Value}
    {e : CampaignSixUnitError} (h : ingestStageEvidenceImpl R owner evidence = .error (.sixUnit e)) :
    ingestStageEvidence R owner evidence =
      (some (.sixUnit e),
        { owner with
          accountingBlockReason := some (owner.accountingBlockReason.getD (strip e.text)) }) := by
  simp [ingestStageEvidence, h, block_text]

theorem ingestStageEvidence_foreign {owner : CampaignSixUnitOwner} {evidence : Value}
    {fault : Fault} (h : ingestStageEvidenceImpl R owner evidence = .error fault)
    (hforeign : fault.Foreign) :
    ingestStageEvidence R owner evidence = (some fault, owner) := by
  cases fault with
  | sixUnit e => exact absurd hforeign (foreign_sixUnit e)
  | measured e => simp [ingestStageEvidence, h]
  | python e => simp [ingestStageEvidence, h]

/-- The three ways a call ends. -/
theorem ingestStageEvidence_cases (R : Value.Rendering) (owner : CampaignSixUnitOwner)
    (evidence : Value) :
    (∃ owner', ingestStageEvidenceImpl R owner evidence = .ok owner' ∧
        ingestStageEvidence R owner evidence = (none, owner')) ∨
      (∃ e, ¬Escapes R owner evidence ∧ ingestStageEvidence R owner evidence =
        (some (.sixUnit e),
          { owner with
            accountingBlockReason := some (owner.accountingBlockReason.getD (strip e.text)) })) ∨
      (∃ fault, Escapes R owner evidence ∧
        ingestStageEvidence R owner evidence = (some fault, owner)) := by
  cases himpl : ingestStageEvidenceImpl R owner evidence with
  | ok owner' => exact .inl ⟨owner', rfl, ingestStageEvidence_ok himpl⟩
  | error fault =>
    have hescapes : Fault.Foreign fault ↔ Escapes R owner evidence := by
      rw [← raises_ingestStageEvidenceImpl, himpl, raises_error]
    by_cases hforeign : fault.Foreign
    · exact .inr (.inr ⟨fault, hescapes.mp hforeign, ingestStageEvidence_foreign himpl hforeign⟩)
    · cases fault with
      | sixUnit e =>
        exact .inr (.inl ⟨e, fun h => hforeign (hescapes.mpr h), ingestStageEvidence_sixUnit himpl⟩)
      | measured e => exact absurd trivial hforeign
      | python e => exact absurd trivial hforeign

theorem not_escapes_of_ok {owner owner' : CampaignSixUnitOwner} {evidence : Value}
    (h : ingestStageEvidenceImpl R owner evidence = .ok owner') : ¬Escapes R owner evidence := by
  rw [← raises_ingestStageEvidenceImpl, h]
  exact not_raises_ok owner'

/-- A call is atomic exactly when nothing escapes from it, unless the owner is
blocked already. -/
theorem atomicIngest_iff (owner : CampaignSixUnitOwner) (evidence : Value) :
    AtomicIngest R owner evidence ↔
      owner.accountingBlockReason ≠ none ∨ ¬Escapes R owner evidence := by
  rcases ingestStageEvidence_cases R owner evidence with
    ⟨owner', himpl, hcall⟩ | ⟨e, hno, hcall⟩ | ⟨fault, hesc, hcall⟩
  · refine iff_of_true ⟨fun _ => ?_, fun h => ?_⟩ (.inr (not_escapes_of_ok himpl))
    · rw [hcall]
      exact ingestStageEvidenceImpl_ok himpl
    · rw [hcall] at h
      exact absurd rfl h
  · refine iff_of_true ⟨fun h => ?_, fun _ => ?_⟩ (.inr hno)
    · rw [hcall] at h
      cases h
    · rw [hcall]
      refine ⟨⟨rfl, rfl, rfl, rfl⟩, _, rfl, ?_⟩
      intro first hfirst
      rw [hfirst]
      rfl
  · simp only [hesc, not_true_eq_false, or_false]
    constructor
    · intro h
      obtain ⟨_, reason, hreason, _⟩ := h.raised (by rw [hcall]; simp)
      rw [hcall] at hreason
      dsimp only at hreason
      rw [hreason]
      simp
    · intro hblocked
      refine ⟨fun h => ?_, fun _ => ?_⟩
      · rw [hcall] at h
        cases h
      · obtain ⟨reason, hreason⟩ := Option.ne_none_iff_exists'.mp hblocked
        rw [hcall]
        refine ⟨⟨rfl, rfl, rfl, rfl⟩, reason, hreason, ?_⟩
        intro first hfirst
        rw [hreason] at hfirst
        exact Option.some.inj hfirst

/-- Every call adds the reconstruction of the evidence it accepts, and nothing else. -/
theorem ingest_totals (owner : CampaignSixUnitOwner) (evidence : Value) :
    (ingest R owner evidence).sixUnitTotals = owner.sixUnitTotals +
      if (ingestStageEvidence R owner evidence).1 = none then evidenceTotals R evidence else 0 := by
  unfold ingest
  rcases ingestStageEvidence_cases R owner evidence with
    ⟨owner', himpl, hcall⟩ | ⟨e, _, hcall⟩ | ⟨fault, _, hcall⟩
  · obtain ⟨totals, htotals, hsum⟩ := ingestStageEvidenceImpl_ok himpl
    rw [hcall]
    simp [hsum, evidenceTotals, htotals]
  · rw [hcall]
    simp [CampaignSixUnitOwner.sixUnitTotals]
  · rw [hcall]
    simp

theorem run_totals (evidences : List Value) : ∀ owner : CampaignSixUnitOwner,
    (run (ingest R) owner evidences).sixUnitTotals =
      owner.sixUnitTotals + acceptedTotals R owner evidences := by
  induction evidences with
  | nil => intro owner; simp [acceptedTotals]
  | cons evidence rest ih =>
    intro owner
    rw [run_cons, ih, ingest_totals, acceptedTotals, add_assoc]

/-- No call changes the times of the owner. -/
theorem ingest_times (owner : CampaignSixUnitOwner) (evidence : Value) :
    (ingest R owner evidence).startedAt = owner.startedAt ∧
      (ingest R owner evidence).endedAt = owner.endedAt := by
  unfold ingest
  rcases ingestStageEvidence_cases R owner evidence with
    ⟨owner', himpl, hcall⟩ | ⟨e, _, hcall⟩ | ⟨fault, _, hcall⟩
  · rw [hcall]
    exact ingestStageEvidenceImpl_times himpl
  · rw [hcall]
    exact ⟨rfl, rfl⟩
  · rw [hcall]
    exact ⟨rfl, rfl⟩

theorem run_timed (evidences : List Value) : ∀ owner : CampaignSixUnitOwner,
    (run (ingest R) owner evidences).Timed ↔ owner.Timed := by
  induction evidences with
  | nil => intro owner; rfl
  | cons evidence rest ih =>
    intro owner
    obtain ⟨hstart, hend⟩ := ingest_times (R := R) owner evidence
    rw [run_cons, ih, CampaignSixUnitOwner.Timed, hstart, hend]
    rfl

/-- From any owner, accounting is exact over a run of calls exactly when no
exception escapes from a call on an owner that is not blocked, and the owner has
times. -/
theorem exactAccounting_iff (owner : CampaignSixUnitOwner) (evidences : List Value) :
    ExactAccounting R owner evidences ↔
      Along (ingest R)
        (fun owner evidence =>
          owner.accountingBlockReason ≠ none ∨ ¬Escapes R owner evidence) owner evidences ∧
        owner.Timed := by
  rw [← along_congr atomicIngest_iff]
  constructor
  · intro h
    have hepoch : InRange 0 := ⟨le_rfl, by decide⟩
    refine ⟨h.atomic, ?_⟩
    rw [← durableEvidence_iff (R := R) hepoch]
    exact h.durable [] List.nil_prefix 0 hepoch
  · rintro ⟨hatomic, htimed⟩
    refine ⟨hatomic, fun pre _ => run_totals pre owner, fun pre _ now hnow => ?_⟩
    rw [durableEvidence_iff hnow, run_timed]
    exact htimed

/-- An operation whose target is named by a list. -/
def listTargetEvidence : Value :=
  .dict
    [("evidence_kind", .str evidenceKind), ("lifecycle_reservations", .int 0),
      ("local_validations", .int 0), ("scheduler_work_items", .int 0),
      ("transport_operations", .list [.dict [("source_name", .str "solana_rpc"),
        ("stage", .str "HOLDER_SAFETY"), ("target_identity", .list [.str "mint"])]])]

def freshOwner : CampaignSixUnitOwner :=
  { campaignId := none, runId := none, cycleId := none, startedAt := "2026-01-01T00:00:00+00:00" }

theorem listTarget_not_exact :
    ¬ExactAccounting ⟨fun _ => "", fun _ => ""⟩ freshOwner [listTargetEvidence] := by
  intro h
  have hcall : (ingestStageEvidence ⟨fun _ => "", fun _ => ""⟩ freshOwner listTargetEvidence).1 =
      some (.python (.typeError "unhashable type: 'list'")) := by decide
  have hreason : (ingestStageEvidence ⟨fun _ => "", fun _ => ""⟩ freshOwner
      listTargetEvidence).2.accountingBlockReason = none := by decide
  obtain ⟨_, reason, hsome, _⟩ := h.atomic.1.raised (by rw [hcall]; simp)
  rw [hreason] at hsome
  cases hsome

end PrinterV1.Sources
