import PrinterV1.Foundation.Faults
import PrinterV1.Python.IsoZulu
import PrinterV1.Sources.SixUnitAccounting

/-!
# What ingested evidence adds

The stage ledger and the reconstruction read the same evidence along two paths.
Where both succeed they agree on the six totals, so an accepted stage adds
exactly its reconstruction to the owner. The durable evidence of any owner is
reconstructed to the owner's own totals.
-/

namespace PrinterV1.Sources

open Python

variable {R : Value.Rendering}

theorem integer_ok {v : Value} {n : ℤ} (h : integer R v = .ok n) : v.toIntOrZero R = .ok n := by
  unfold integer at h
  cases hv : v.toIntOrZero R with
  | ok m =>
    rw [hv] at h
    obtain rfl := Except.ok.inj h
    rfl
  | error e => cases e <;> simp [hv] at h

theorem readOperation_ok {seen : List (List Value)} {raw : Value} {key : List Value} {bytes rows : ℤ}
    (h : readOperation R seen raw = .ok (key, bytes, rows)) :
    ∃ entries : Dict, raw = .dict entries ∧ key = rawKey entries ∧ hashFault key = none ∧
      (entries.get "response_bytes").toIntOrZero R = .ok bytes ∧
      (entries.get "normalized_rows").toIntOrZero R = .ok rows ∧ 0 ≤ bytes ∧ 0 ≤ rows := by
  cases raw with
  | dict entries =>
    simp only [readOperation, readEntries] at h
    cases hhash : hashFault (rawKey entries) with
    | some e => simp [hhash] at h
    | none =>
      simp only [hhash] at h
      split_ifs at h with hdup
      obtain ⟨b, hb, h⟩ := Faults.bind_ok h
      obtain ⟨r, hr, h⟩ := Faults.bind_ok h
      split_ifs at h with hneg
      simp only [Except.ok.injEq, Prod.mk.injEq] at h
      obtain ⟨rfl, rfl, rfl⟩ := h
      refine ⟨entries, rfl, rfl, hhash, integer_ok hb, integer_ok hr, ?_, ?_⟩ <;> omega
  | _ => simp [readOperation] at h

theorem readIdentity_ok {entries : Dict} {identity : TransportOperationIdentity}
    (h : readIdentity R entries = .ok identity) :
    (entries.get "response_bytes").toIntOrZero R = .ok identity.responseBytes ∧
      (entries.get "normalized_rows").toIntOrZero R = .ok identity.normalizedRows := by
  unfold readIdentity at h
  obtain ⟨stage, _, h⟩ := Faults.bind_ok h
  obtain ⟨sourceName, _, h⟩ := Faults.bind_ok h
  obtain ⟨endpointOwner, _, h⟩ := Faults.bind_ok h
  obtain ⟨kind, _, h⟩ := Faults.bind_ok h
  obtain ⟨method, _, h⟩ := Faults.bind_ok h
  obtain ⟨ordinal, _, h⟩ := Faults.bind_ok h
  obtain ⟨category, _, h⟩ := Faults.bind_ok h
  obtain ⟨target, _, h⟩ := Faults.bind_ok h
  obtain ⟨bytes, hbytes, h⟩ := Faults.bind_ok h
  obtain ⟨rows, hrows, h⟩ := Faults.bind_ok h
  obtain ⟨result, _, h⟩ := Faults.bind_ok h
  obtain ⟨reserved, _, h⟩ := Faults.bind_ok h
  obtain rfl := Except.ok.inj h
  exact ⟨hbytes, hrows⟩

theorem recordRaw_ok {ledger ledger' : MeasuredTransportLedger} {raw : Value}
    (h : recordRaw R ledger raw = .ok ledger') :
    ∃ entries identity, raw = .dict entries ∧ readIdentity R entries = .ok identity ∧
      ledger.recordTransport identity = .ok ledger' := by
  cases raw with
  | dict entries =>
    simp only [recordRaw] at h
    cases hid : readIdentity R entries with
    | error e => cases e <;> simp [hid] at h
    | ok identity =>
      simp only [hid] at h
      cases hrec : ledger.recordTransport identity with
      | error e => simp [hrec] at h
      | ok recorded =>
        simp only [hrec] at h
        obtain rfl := Except.ok.inj h
        exact ⟨entries, identity, rfl, hid, hrec⟩
  | _ => simp [recordRaw] at h

/-- What the loop over the operations adds to the stage's ledger. -/
theorem recordRaws_ok {raws : List Value} : ∀ {ledger ledger' : MeasuredTransportLedger}
    {seen : List (List Value)} {bytes rows : ℤ},
    raws.foldlM (recordRaw R) ledger = .ok ledger' → readOperations R seen raws = .ok (bytes, rows) →
      ledger'.transports.length = ledger.transports.length + raws.length ∧
        ledger'.sourceResponseBytes = ledger.sourceResponseBytes + bytes ∧
        ledger'.normalizedSourceRows = ledger.normalizedSourceRows + rows ∧
        ledger'.localValidations = ledger.localValidations ∧
        ledger'.schedulerWorkItems = ledger.schedulerWorkItems ∧
        ledger'.lifecycleReservations = ledger.lifecycleReservations := by
  induction raws with
  | nil =>
    intro ledger ledger' seen bytes rows hfold hread
    obtain rfl : ledger = ledger' := Except.ok.inj hfold
    simp only [readOperations, Except.ok.injEq, Prod.mk.injEq] at hread
    obtain ⟨rfl, rfl⟩ := hread
    simp
  | cons raw raws ih =>
    intro ledger ledger' seen bytes rows hfold hread
    rw [List.foldlM_cons] at hfold
    obtain ⟨middle, hraw, hrest⟩ := Faults.bind_ok hfold
    simp only [readOperations] at hread
    obtain ⟨⟨key, b, r⟩, hop, hreads⟩ := Faults.bind_ok hread
    obtain ⟨⟨moreBytes, moreRows⟩, hmore, hsum⟩ := Faults.bind_ok hreads
    simp only [pure, Except.pure, Except.ok.injEq, Prod.mk.injEq] at hsum
    obtain ⟨entries, identity, rfl, hid, hrec⟩ := recordRaw_ok hraw
    obtain ⟨entries', hentries, _, _, hb, hr, _, _⟩ := readOperation_ok hop
    obtain rfl : entries = entries' := Value.dict.inj hentries
    obtain ⟨hib, hir⟩ := readIdentity_ok hid
    have hbytes : identity.responseBytes = b := Except.ok.inj (hib.symm.trans hb)
    have hrows : identity.normalizedRows = r := Except.ok.inj (hir.symm.trans hr)
    obtain ⟨ht, hv, hw, hl⟩ := MeasuredTransportLedger.recordTransport_ok hrec
    obtain ⟨hlen, hbs, hrs, hv', hw', hl'⟩ := ih hrest hmore
    refine ⟨?_, ?_, ?_, hv'.trans hv, hw'.trans hw, hl'.trans hl⟩
    · rw [hlen, ht]
      simp only [List.length_append, List.length_cons, List.length_nil]
      omega
    · rw [hbs, ← hsum.1]
      simp only [MeasuredTransportLedger.sourceResponseBytes, ht, List.map_append, List.sum_append,
        List.map_cons, List.map_nil, List.sum_cons, List.sum_nil, hbytes]
      omega
    · rw [hrs, ← hsum.2]
      simp only [MeasuredTransportLedger.normalizedSourceRows, ht, List.map_append, List.sum_append,
        List.map_cons, List.map_nil, List.sum_cons, List.sum_nil, hrows]
      omega

theorem reconstructEntries_ok {entries : Dict} {totals : SixUnitTotals}
    (h : reconstructEntries R entries = .ok totals) :
    ∃ raws bytes rows validations work reservations,
      operationsOf entries = some raws ∧ readOperations R [] raws = .ok (bytes, rows) ∧
      (entries.get "local_validations").toIntOrZero R = .ok validations ∧
      (entries.get "scheduler_work_items").toIntOrZero R = .ok work ∧
      (entries.get "lifecycle_reservations").toIntOrZero R = .ok reservations ∧
      0 ≤ validations ∧ 0 ≤ work ∧ 0 ≤ reservations ∧
      totals = ⟨raws.length, validations, work, bytes, rows, reservations⟩ := by
  unfold reconstructEntries at h
  dsimp only at h
  by_cases hkind : (entries.get "evidence_kind").textOrEmpty R ≠ evidenceKind ∧
      (entries.get "evidence_kind").textOrEmpty R ≠ "" ∧ entries.has "transport_operations" = false
  · rw [if_pos hkind] at h
    cases h
  · rw [if_neg hkind] at h
    cases hops : operationsOf entries with
    | none => simp [hops] at h
    | some raws =>
      simp only [hops] at h
      obtain ⟨⟨bytes, rows⟩, hread, h⟩ := Faults.bind_ok h
      obtain ⟨⟨validations, work, reservations⟩, hcounters, h⟩ := Faults.bind_ok h
      unfold readCounters at hcounters
      obtain ⟨v, hv, hcounters⟩ := Faults.bind_ok hcounters
      obtain ⟨w, hw, hcounters⟩ := Faults.bind_ok hcounters
      obtain ⟨l, hl, hcounters⟩ := Faults.bind_ok hcounters
      split_ifs at hcounters with hneg
      simp only [Except.ok.injEq, Prod.mk.injEq] at hcounters
      obtain ⟨rfl, rfl, rfl⟩ := hcounters
      refine ⟨raws, bytes, rows, v, w, l, rfl, hread, integer_ok hv, integer_ok hw, integer_ok hl,
        by omega, by omega, by omega, ?_⟩
      exact (Except.ok.inj h).symm

/-- The three counters on a stage's ledger. -/
theorem recordCounters_ok {entries : Dict} {ledger : MeasuredTransportLedger}
    {validations work reservations : ℤ}
    (hv : (entries.get "local_validations").toIntOrZero R = .ok validations)
    (hw : (entries.get "scheduler_work_items").toIntOrZero R = .ok work)
    (hl : (entries.get "lifecycle_reservations").toIntOrZero R = .ok reservations)
    (hv0 : 0 ≤ validations) (hw0 : 0 ≤ work) (hl0 : 0 ≤ reservations) :
    (do
      let ledger ← recordCounter R entries "local_validations" ledger.recordLocalValidation
      let ledger ← recordCounter R entries "scheduler_work_items" ledger.recordSchedulerWorkItem
      recordCounter R entries "lifecycle_reservations" ledger.reserveLifecycleTransports) =
      .ok
        { ledger with
          localValidations := ledger.localValidations + validations.toNat
          schedulerWorkItems := ledger.schedulerWorkItems + work.toNat
          lifecycleReservations := ledger.lifecycleReservations + reservations.toNat } := by
  simp [recordCounter, hv, hw, hl, MeasuredTransportLedger.recordLocalValidation,
    MeasuredTransportLedger.recordSchedulerWorkItem,
    MeasuredTransportLedger.reserveLifecycleTransports, Int.not_lt.mpr hv0, Int.not_lt.mpr hw0,
    Int.not_lt.mpr hl0, bind, Except.bind]

/-- The stage's ledger has the totals of the reconstruction. -/
theorem stageLedger_totals {entries : Dict} {totals : SixUnitTotals}
    {ledger : MeasuredTransportLedger} (htotals : reconstructEntries R entries = .ok totals)
    (hledger : stageLedger R entries ((operationsOf entries).getD []) = .ok ledger) :
    ledger.sixUnitTotals = totals := by
  obtain ⟨raws, bytes, rows, validations, work, reservations, hops, hread, hv, hw, hl, hv0, hw0, hl0,
    rfl⟩ := reconstructEntries_ok htotals
  rw [hops, Option.getD_some] at hledger
  unfold stageLedger at hledger
  obtain ⟨middle, hfold, hledger⟩ := Faults.bind_ok hledger
  rw [recordCounters_ok hv hw hl hv0 hw0 hl0] at hledger
  obtain rfl := Except.ok.inj hledger
  obtain ⟨hlen, hb, hr, hv', hw', hl'⟩ := recordRaws_ok hfold hread
  simp only [MeasuredTransportLedger.empty, List.length_nil] at hlen hv' hw' hl'
  have hb0 : MeasuredTransportLedger.empty.sourceResponseBytes = 0 := rfl
  have hr0 : MeasuredTransportLedger.empty.normalizedSourceRows = 0 := rfl
  simp only [MeasuredTransportLedger.sixUnitTotals, SixUnitTotals.mk.injEq]
  refine ⟨by omega, by omega, by omega, ?_, ?_, by omega⟩
  · have hsame : middle.sourceResponseBytes = bytes := by omega
    exact hsame
  · have hsame : middle.normalizedSourceRows = rows := by omega
    exact hsame

theorem stageTotals_ok {entries : Dict} {totals : SixUnitTotals}
    (h : stageTotals R entries = .ok totals) : reconstructEntries R entries = .ok totals := by
  unfold stageTotals reconstructSixUnitTotalsFromEvidence at h
  dsimp only at h
  cases hrec : reconstructEntries R entries with
  | ok t => rwa [hrec] at h
  | error fault => cases fault <;> simp [hrec] at h

theorem combine_ok {ledger stage combined : MeasuredTransportLedger}
    (h : combine ledger stage = .ok combined) : ledger.extend stage = .ok combined := by
  unfold combine at h
  cases hext : ledger.extend stage with
  | ok l =>
    rw [hext] at h
    obtain rfl := Except.ok.inj h
    rfl
  | error e =>
    rw [hext] at h
    dsimp only at h
    split_ifs at h

theorem readHeader_ok {evidence : Value} {entries : Dict} (h : readHeader evidence = .ok entries) :
    evidence = .dict entries := by
  cases evidence with
  | dict items =>
    simp only [readHeader, checkHeader] at h
    split_ifs at h with hempty hkind
    rw [Except.ok.inj h]
  | _ => simp [readHeader] at h

/-- A stage that is accepted adds its reconstruction to the totals. -/
theorem ingestStageEvidenceImpl_ok {owner owner' : CampaignSixUnitOwner} {evidence : Value}
    (h : ingestStageEvidenceImpl R owner evidence = .ok owner') :
    ∃ totals, reconstructSixUnitTotalsFromEvidence R evidence = .ok totals ∧
      owner'.sixUnitTotals = owner.sixUnitTotals + totals := by
  unfold ingestStageEvidenceImpl at h
  obtain ⟨entries, hheader, h⟩ := Faults.bind_ok h
  obtain ⟨stage, _, h⟩ := Faults.bind_ok h
  obtain ⟨_, _, h⟩ := Faults.bind_ok h
  obtain ⟨totals, htotals, h⟩ := Faults.bind_ok h
  obtain ⟨_, _, h⟩ := Faults.bind_ok h
  obtain ⟨staged, hstaged, h⟩ := Faults.bind_ok h
  obtain ⟨combined, hcombined, h⟩ := Faults.bind_ok h
  have hrec := stageTotals_ok htotals
  have hsum := MeasuredTransportLedger.extend_totals (combine_ok hcombined)
  rw [stageLedger_totals hrec hstaged] at hsum
  obtain rfl := Except.ok.inj h
  refine ⟨totals, ?_, hsum⟩
  rw [readHeader_ok hheader]
  exact hrec

theorem ingestStageEvidenceImpl_times {owner owner' : CampaignSixUnitOwner} {evidence : Value}
    (h : ingestStageEvidenceImpl R owner evidence = .ok owner') :
    owner'.startedAt = owner.startedAt ∧ owner'.endedAt = owner.endedAt := by
  unfold ingestStageEvidenceImpl at h
  obtain ⟨entries, _, h⟩ := Faults.bind_ok h
  obtain ⟨stage, _, h⟩ := Faults.bind_ok h
  obtain ⟨_, _, h⟩ := Faults.bind_ok h
  obtain ⟨totals, _, h⟩ := Faults.bind_ok h
  obtain ⟨_, _, h⟩ := Faults.bind_ok h
  obtain ⟨staged, _, h⟩ := Faults.bind_ok h
  obtain ⟨combined, _, h⟩ := Faults.bind_ok h
  obtain rfl := Except.ok.inj h
  exact ⟨rfl, rfl⟩

theorem integer_int (n : ℤ) : integer R (.int n) = .ok n := by
  simp [integer]

theorem floated_optionalStr (a : Option String) : (optionalStr a).floated = optionalStr a := by
  cases a <;> rfl

theorem hasNan_optionalStr (a : Option String) : (optionalStr a).hasNan = false := by
  cases a <;> rfl

theorem optionalStr_inj {a b : Option String} : optionalStr a = optionalStr b ↔ a = b := by
  cases a <;> cases b <;> simp [optionalStr]

/-- Two operations of a ledger have one key in the evidence exactly when they
have one key in the ledger. -/
theorem pyEqList_rawKey_asDict {i j : TransportOperationIdentity} :
    Value.pyEqList (rawKey i.asDict) (rawKey j.asDict) = true ↔ i.key = j.key := by
  have hi : rawKey i.asDict = [.str i.stage, .str i.sourceName, .str i.governedRequestKind,
    .str i.methodOrEndpoint, .int i.withinRequestOrdinal, .str i.targetCategory,
    optionalStr i.targetIdentity] := rfl
  have hj : rawKey j.asDict = [.str j.stage, .str j.sourceName, .str j.governedRequestKind,
    .str j.methodOrEndpoint, .int j.withinRequestOrdinal, .str j.targetCategory,
    optionalStr j.targetIdentity] := rfl
  rw [hi, hj]
  simp [Value.pyEqList, Value.pyEq_iff, Value.floated, Value.floatedList, Value.hasNan,
    Value.hasNanList, floated_optionalStr, hasNan_optionalStr, optionalStr_inj,
    TransportOperationIdentity.key]

theorem hashFault_asDict (i : TransportOperationIdentity) : hashFault (rawKey i.asDict) = none := by
  have hi : rawKey i.asDict = [.str i.stage, .str i.sourceName, .str i.governedRequestKind,
    .str i.methodOrEndpoint, .int i.withinRequestOrdinal, .str i.targetCategory,
    optionalStr i.targetIdentity] := rfl
  rw [hi]
  cases h : i.targetIdentity <;> simp [hashFault, optionalStr, Value.hashable]

theorem readOperations_asDict {items : List TransportOperationIdentity} : ∀ {seen : List (List Value)},
    (∀ i ∈ items, seen.any (fun k => Value.pyEqList (rawKey i.asDict) k) = false) →
    (items.map TransportOperationIdentity.key).Nodup →
    (∀ i ∈ items, 0 ≤ i.responseBytes ∧ 0 ≤ i.normalizedRows) →
      readOperations R seen (items.map fun i => .dict i.asDict) =
        .ok ((items.map fun i => i.responseBytes).sum, (items.map fun i => i.normalizedRows).sum) := by
  induction items with
  | nil => intro seen _ _ _; rfl
  | cons i items ih =>
    intro seen hseen hnodup hmeasured
    obtain ⟨hfresh, hnodup'⟩ := List.nodup_cons.mp hnodup
    have hi : seen.any (fun k => Value.pyEqList (rawKey i.asDict) k) = false :=
      hseen i List.mem_cons_self
    obtain ⟨hb, hr⟩ := hmeasured i List.mem_cons_self
    have hbytes : Dict.get i.asDict "response_bytes" = .int i.responseBytes := rfl
    have hrows : Dict.get i.asDict "normalized_rows" = .int i.normalizedRows := rfl
    have hnot : ¬(i.responseBytes < 0 ∨ i.normalizedRows < 0) := by omega
    have hop : readOperation R seen (.dict i.asDict) =
        .ok (rawKey i.asDict, i.responseBytes, i.normalizedRows) := by
      simp [readOperation, readEntries, hashFault_asDict, hi, hbytes, hrows, integer_int, hnot,
        bind, Except.bind]
    have hrest := @ih (rawKey i.asDict :: seen) (by
      intro j hj
      have hne : Value.pyEqList (rawKey j.asDict) (rawKey i.asDict) = false := by
        apply Bool.eq_false_iff.mpr
        intro heq
        have hkey : j.key = i.key := pyEqList_rawKey_asDict.mp heq
        exact hfresh (hkey ▸ List.mem_map_of_mem hj)
      rw [List.any_cons, hne, Bool.false_or]
      exact hseen j (List.mem_cons_of_mem _ hj)) hnodup'
      fun j hj => hmeasured j (List.mem_cons_of_mem _ hj)
    rw [List.map_cons, readOperations, hop]
    simp only [bind, Except.bind, hrest]
    rfl

/-- The durable evidence of every owner is reconstructed to the owner's totals. -/
theorem reconstruct_durableEntries (owner : CampaignSixUnitOwner) (elapsed : ℚ) :
    reconstructSixUnitTotalsFromEvidence R (.dict (owner.durableEntries elapsed)) =
      .ok owner.sixUnitTotals := by
  have hops : operationsOf (owner.durableEntries elapsed) =
      some (owner.ledger.transports.map fun i => .dict i.asDict) := by
    have htransports : (owner.durableEntries elapsed).get "transport_operations" =
        .list (owner.ledger.transports.map fun i => .dict i.asDict) := rfl
    unfold operationsOf
    rw [htransports]
    cases owner.ledger.transports <;> simp [Value.truthy]
  have hread : readOperations R [] (owner.ledger.transports.map fun i => .dict i.asDict) =
      .ok (owner.ledger.sourceResponseBytes, owner.ledger.normalizedSourceRows) :=
    readOperations_asDict (by simp) owner.ledger.keys_nodup owner.ledger.measured
  have hv : (owner.durableEntries elapsed).get "local_validations" =
      .int owner.ledger.localValidations := rfl
  have hw : (owner.durableEntries elapsed).get "scheduler_work_items" =
      .int owner.ledger.schedulerWorkItems := rfl
  have hl : (owner.durableEntries elapsed).get "lifecycle_reservations" =
      .int owner.ledger.lifecycleReservations := rfl
  have hcounters : readCounters R (owner.durableEntries elapsed) =
      .ok (owner.ledger.localValidations, owner.ledger.schedulerWorkItems,
        owner.ledger.lifecycleReservations) := by
    have hsign : ¬((owner.ledger.localValidations : ℤ) < 0 ∨
        (owner.ledger.schedulerWorkItems : ℤ) < 0 ∨
        (owner.ledger.lifecycleReservations : ℤ) < 0) := by omega
    unfold readCounters
    rw [hv, hw, hl]
    simp only [integer_int, bind, Except.bind]
    rw [if_neg hsign]
  have hkind : (owner.durableEntries elapsed).get "evidence_kind" = .str evidenceKind := rfl
  have htext : (Value.str evidenceKind).textOrEmpty R = evidenceKind := by
    simp [Value.textOrEmpty, Value.truthy, Value.text, evidenceKind]
  change reconstructEntries R (owner.durableEntries elapsed) = _
  unfold reconstructEntries
  rw [hkind, htext, hops]
  simp only [ne_eq, not_true_eq_false, false_and, if_false, hread, hcounters, bind, Except.bind,
    pure, Except.pure, List.length_map]
  rfl

/-- The start is a time, and so is the end where one is set; an offset is written on both or
on neither. The clock that stands for an end has one. -/
def CampaignSixUnitOwner.Timed (owner : CampaignSixUnitOwner) : Prop :=
  ∃ started, parseIso owner.startedAt = .ok started ∧
    if owner.endedAt.getD "" = "" then started.utcoffset.isSome = true
    else ∃ ended, parseIso (owner.endedAt.getD "") = .ok ended ∧
      ended.utcoffset.isSome = started.utcoffset.isSome

theorem parseIso_isoformat {now : Instant} (h : InRange now) :
    parseIso (isoformat now) = .ok ⟨now, some 0⟩ := by
  rw [parseIso, replaceZulu_isoformat h, fromisoformat_isoformat h]

theorem elapsedSeconds_ok_iff {owner : CampaignSixUnitOwner} {utcNow : String} :
    (∃ elapsed, owner.elapsedSeconds utcNow = .ok elapsed) ↔
      ∃ ended started, parseIso (owner.endOr utcNow) = .ok ended ∧
        parseIso owner.startedAt = .ok started ∧
        ended.utcoffset.isSome = started.utcoffset.isSome := by
  constructor
  · rintro ⟨elapsed, h⟩
    obtain ⟨ended, hended, h⟩ := Faults.bind_ok h
    obtain ⟨started, hstarted, h⟩ := Faults.bind_ok h
    refine ⟨ended, started, hended, hstarted, ?_⟩
    by_contra hoffset
    rw [if_neg hoffset] at h
    cases h
  · rintro ⟨ended, started, hended, hstarted, hoffset⟩
    refine ⟨max 0 (totalSeconds (ended.instantUtc - started.instantUtc)), ?_⟩
    rw [CampaignSixUnitOwner.elapsedSeconds, hended, Faults.ok_bind, hstarted, Faults.ok_bind,
      if_pos hoffset]
    rfl

theorem elapsedSeconds_iff_timed {owner : CampaignSixUnitOwner} {now : Instant} (h : InRange now) :
    (∃ elapsed, owner.elapsedSeconds (isoformat now) = .ok elapsed) ↔ owner.Timed := by
  rw [elapsedSeconds_ok_iff, CampaignSixUnitOwner.Timed, CampaignSixUnitOwner.endOr]
  by_cases hopen : owner.endedAt.getD "" = ""
  · simp only [if_pos hopen, parseIso_isoformat h]
    constructor
    · rintro ⟨ended, started, hended, hstarted, hoffset⟩
      obtain rfl := Except.ok.inj hended
      exact ⟨started, hstarted, hoffset.symm⟩
    · rintro ⟨started, hstarted, hoffset⟩
      exact ⟨_, started, rfl, hstarted, hoffset.symm⟩
  · simp only [if_neg hopen]
    constructor
    · rintro ⟨ended, started, hended, hstarted, hoffset⟩
      exact ⟨started, hstarted, ended, hended, hoffset⟩
    · rintro ⟨started, hstarted, ended, hended, hoffset⟩
      exact ⟨ended, started, hended, hstarted, hoffset⟩

/-- Closing by the clock does not change which end counts. -/
theorem elapsedSeconds_close {owner : CampaignSixUnitOwner} {utcNow : String}
    (h : owner.endedAt = none) :
    (owner.close utcNow).elapsedSeconds utcNow = owner.elapsedSeconds utcNow := by
  have hend : (owner.close utcNow).endOr utcNow = owner.endOr utcNow := by
    rw [CampaignSixUnitOwner.endOr, CampaignSixUnitOwner.endOr, h]
    exact ite_self _
  rw [CampaignSixUnitOwner.elapsedSeconds, hend]
  rfl

/-- Durable evidence is returned exactly for the owners with times, by any clock, and it has
the totals of the owner. -/
theorem durableEvidence_iff {owner : CampaignSixUnitOwner} {now : Instant} (h : InRange now) :
    (∃ evidence, owner.durableEvidence (isoformat now) = .ok evidence ∧
        reconstructSixUnitTotalsFromEvidence R evidence = .ok owner.sixUnitTotals) ↔
      owner.Timed := by
  obtain ⟨closed, hclosed, hsame, htotals⟩ : ∃ closed : CampaignSixUnitOwner,
      (if owner.endedAt = none then owner.close (isoformat now) else owner) = closed ∧
      closed.elapsedSeconds (isoformat now) = owner.elapsedSeconds (isoformat now) ∧
      closed.sixUnitTotals = owner.sixUnitTotals := by
    by_cases hopen : owner.endedAt = none
    · exact ⟨_, if_pos hopen, elapsedSeconds_close hopen, rfl⟩
    · exact ⟨_, if_neg hopen, rfl, rfl⟩
  rw [← elapsedSeconds_iff_timed h, ← hsame, CampaignSixUnitOwner.durableEvidence, hclosed,
    ← htotals]
  constructor
  · rintro ⟨evidence, hevidence, _⟩
    obtain ⟨elapsed, helapsed, _⟩ := Faults.bind_ok hevidence
    exact ⟨elapsed, helapsed⟩
  · rintro ⟨elapsed, helapsed⟩
    refine ⟨.dict (closed.durableEntries elapsed), ?_, reconstruct_durableEntries closed elapsed⟩
    rw [helapsed]
    rfl

end PrinterV1.Sources
