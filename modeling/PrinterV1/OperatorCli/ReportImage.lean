import PrinterV1.OperatorCli.ReportEvidence

/-!
# The evidence of a report after it was stored

What was read before the report went through JSON is read again behind it: the
totals where they were a mapping, and the evidence where no identity of an operation
holds a tuple.
-/

namespace PrinterV1.OperatorCli.CampaignReport

open Python Faults
open Sources (Fault SixUnitTotals)

/-- No identity of the operation is a tuple. -/
def Flat (raw : Entries) : Prop := ∀ x ∈ rawKey raw, x.isTuple = false

/-- No identity of an operation is a tuple. -/
def FlatOperations (ops : List PyObject) : Prop := ∀ raw, .dict raw ∈ ops → Flat raw

def FlatEvidence (evidence : Entries) : Prop := FlatOperations ((operationsOf evidence).getD [])

variable {R : Value.Rendering} {F : FloatText}

theorem isField_identity : ∀ field ∈ identityFields, isField field = true := by decide

theorem rawKey_document {raw : Entries} (h : Ascending (raw.document F)) :
    Sources.rawKey (raw.document F) = (rawKey raw).map (PyObject.image F) := by
  have hkey : Sources.rawKey (raw.document F) = identityFields.map (raw.document F).get := rfl
  rw [hkey, rawKey, List.map_map]
  exact List.map_congr_left fun field hfield => get_document (isField_identity field hfield) h

theorem integer_eq_ok {x : PyObject} {n : ℤ} :
    integer R x = .ok n ↔ x.toIntOrZero R = .ok n := by
  unfold integer
  cases h : x.toIntOrZero R with
  | ok m => simp
  | error e => cases e <;> simp

theorem readEntries_ok {seen : List (List PyObject)} {raw : Entries}
    {read : List PyObject × ℤ × ℤ} :
    readEntries R seen raw = .ok read ↔
      (∀ x ∈ rawKey raw, x.hashable = true) ∧
        seen.any (fun k => PyObject.sameKeys (rawKey raw) k) = false ∧ read.1 = rawKey raw ∧
        (raw.get "response_bytes").toIntOrZero R = .ok read.2.1 ∧
        (raw.get "normalized_rows").toIntOrZero R = .ok read.2.2 ∧ 0 ≤ read.2.1 ∧ 0 ≤ read.2.2 := by
  obtain ⟨key, bytes, rows⟩ := read
  constructor
  · intro h
    unfold readEntries at h
    dsimp only at h
    cases hhash : (rawKey raw).find? fun x => !x.hashable with
    | some x => simp [hhash] at h
    | none =>
      simp only [hhash] at h
      by_cases hdup : (seen.any fun k => PyObject.sameKeys (rawKey raw) k) = true
      · rw [if_pos hdup] at h
        cases h
      · rw [if_neg hdup] at h
        obtain ⟨b, hb, h⟩ := bind_ok h
        obtain ⟨r, hr, h⟩ := bind_ok h
        by_cases hneg : b < 0 ∨ r < 0
        · rw [if_pos hneg] at h
          cases h
        · rw [if_neg hneg] at h
          obtain ⟨rfl, hrest⟩ := Prod.mk.inj (Except.ok.inj h)
          obtain ⟨rfl, rfl⟩ := Prod.mk.inj hrest
          refine ⟨?_, by simpa using hdup, rfl, integer_eq_ok.mp hb, integer_eq_ok.mp hr, ?_, ?_⟩
          · simpa using hhash
          · dsimp only
            omega
          · dsimp only
            omega
  · rintro ⟨hhash, hdup, rfl, hb, hr, hb0, hr0⟩
    have hfind : (rawKey raw).find? (fun x => !x.hashable) = none := by simpa using hhash
    have hsign : ¬ (bytes < 0 ∨ rows < 0) := by
      dsimp only at hb0 hr0
      omega
    simp [readEntries, hfind, hdup, integer_eq_ok.mpr hb, integer_eq_ok.mpr hr, hsign, bind,
      Except.bind]

/-- Objects with a hash that are no tuples are leaves. -/
theorem scalars_of_flat {key : List PyObject} (hhash : ∀ x ∈ key, x.hashable = true)
    (hflat : ∀ x ∈ key, x.isTuple = false) : ∃ ss : List Scalar, key = ss.map .scalar := by
  induction key with
  | nil => exact ⟨[], rfl⟩
  | cons x key ih =>
    rw [List.forall_mem_cons] at hhash hflat
    obtain ⟨ss, rfl⟩ := ih hhash.2 hflat.2
    cases x with
    | scalar s => exact ⟨s :: ss, rfl⟩
    | list xs => simp [PyObject.hashable] at hhash
    | tuple xs => simp [PyObject.isTuple] at hflat
    | dict entries => simp [PyObject.hashable] at hhash

/-- A flat operation is read behind JSON as before it. -/
theorem readEntries_document {seen : List (List Scalar)} {ss : List Scalar} {raw : Entries}
    {bytes rows : ℤ} (hasc : Ascending (raw.document F)) (hkey : rawKey raw = ss.map .scalar)
    (h : readEntries R (seen.map (List.map .scalar)) raw = .ok (ss.map .scalar, bytes, rows)) :
    Sources.readEntries R (seen.map (List.map Scalar.value)) (raw.document F) =
      .ok (ss.map Scalar.value, bytes, rows) := by
  obtain ⟨-, hdup, -, hb, hr, hb0, hr0⟩ := readEntries_ok.mp h
  have himage : Sources.rawKey (raw.document F) = ss.map Scalar.value := by
    rw [rawKey_document hasc, hkey, List.map_map]
    rfl
  refine Sources.readEntries_ok.mpr ⟨⟨?_, ?_⟩, himage.symm, ?_, ?_, hb0, hr0⟩
  · rw [himage]
    intro v hv
    obtain ⟨s, -, rfl⟩ := List.mem_map.mp hv
    cases s <;> rfl
  · rw [himage, List.any_map]
    rw [hkey, List.any_map] at hdup
    rw [← hdup]
    refine congrArg (fun p => seen.any p) (funext fun k => ?_)
    exact (sameKeys_scalars ss k).symm
  · rw [get_document (by decide) hasc]
    exact toIntOrZero_image.mpr hb
  · rw [get_document (by decide) hasc]
    exact toIntOrZero_image.mpr hr

theorem readOperations_image {ops : List PyObject} {seen : List (List Scalar)} {sums : ℤ × ℤ}
    (hord : ∀ op ∈ ops, Ordered (op.image F)) (hflat : FlatOperations ops)
    (h : readOperations R (seen.map (List.map .scalar)) ops = .ok sums) :
    Sources.readOperations R (seen.map (List.map Scalar.value)) (ops.map (PyObject.image F)) =
      .ok sums := by
  induction ops generalizing seen sums with
  | nil => exact h
  | cons op ops ih =>
    rw [List.forall_mem_cons] at hord
    rw [readOperations] at h
    obtain ⟨⟨key, bytes, rows⟩, hop, h⟩ := bind_ok h
    obtain ⟨more, hmore, hsum⟩ := bind_ok h
    cases op with
    | dict raw =>
      have hread : readEntries R _ raw = .ok (key, bytes, rows) := hop
      obtain ⟨hhash, -, rfl, -⟩ := readEntries_ok.mp hread
      obtain ⟨ss, hss⟩ := scalars_of_flat hhash (hflat raw List.mem_cons_self)
      simp only [hss] at hread hmore
      have hfirst := readEntries_document hord.1.1 hss hread
      have hrest : Sources.readOperations R (List.map (List.map Scalar.value) (ss :: seen))
          (ops.map (PyObject.image F)) = .ok more :=
        ih hord.2 (fun raw' hraw' => hflat raw' (List.mem_cons_of_mem _ hraw')) hmore
      rw [List.map_cons, PyObject.image_dict, Sources.readOperations]
      simp only [Sources.readOperation, hfirst, ok_bind]
      rw [List.map_cons] at hrest
      rw [hrest]
      exact hsum
    | _ => cases hop

/-- Only flat operations are read behind JSON. -/
theorem flat_of_readOperations {ops : List PyObject} {seen : List (List PyObject)}
    {seen' : List (List Value)} {sums sums' : ℤ × ℤ}
    (hord : ∀ op ∈ ops, Ordered (op.image F)) (h : readOperations R seen ops = .ok sums)
    (h' : Sources.readOperations R seen' (ops.map (PyObject.image F)) = .ok sums') :
    FlatOperations ops := by
  induction ops generalizing seen seen' sums sums' with
  | nil => exact fun raw hraw => absurd hraw List.not_mem_nil
  | cons op ops ih =>
    rw [List.forall_mem_cons] at hord
    rw [readOperations] at h
    rw [List.map_cons, Sources.readOperations] at h'
    obtain ⟨⟨key, bytes, rows⟩, hop, h⟩ := bind_ok h
    obtain ⟨more, hmore, -⟩ := bind_ok h
    obtain ⟨⟨key', bytes', rows'⟩, hop', h'⟩ := bind_ok h'
    obtain ⟨more', hmore', -⟩ := bind_ok h'
    intro raw hraw
    rcases List.mem_cons.mp hraw with rfl | hraw
    · have hhash := (readEntries_ok.mp (show readEntries R seen raw = _ from hop)).1
      have hhash' := (Sources.readEntries_ok.mp
        (show Sources.readEntries R seen' (raw.document F) = _ from hop')).1.1
      rw [rawKey_document hord.1.1] at hhash'
      intro x hx
      exact (hashable_image (hhash x hx)).mp (hhash' _ (List.mem_map_of_mem hx))
    · exact ih hord.2 hmore hmore' raw hraw

theorem operationsOf_document {evidence : Entries} {ops : List PyObject}
    (hasc : Ascending (evidence.document F)) (h : operationsOf evidence = some ops) :
    Sources.operationsOf (evidence.document F) = some (ops.map (PyObject.image F)) := by
  unfold operationsOf at h
  unfold Sources.operationsOf
  dsimp only at h ⊢
  rw [get_document (by decide) hasc, truthy_image]
  by_cases htruthy : (evidence.get "transport_operations").truthy = true
  · rw [if_pos htruthy] at h ⊢
    generalize evidence.get "transport_operations" = transports at h ⊢
    cases transports with
    | list xs =>
      obtain rfl := Option.some.inj h
      exact congrArg some (imageList_eq_map xs)
    | tuple xs =>
      obtain rfl := Option.some.inj h
      exact congrArg some (imageList_eq_map xs)
    | _ => cases h
  · rw [if_neg htruthy] at h ⊢
    obtain rfl := Option.some.inj h
    rfl

theorem ordered_operations {evidence : Entries} {ops : List PyObject}
    (hord : Ordered (.dict (evidence.document F))) (h : operationsOf evidence = some ops) :
    ∀ op ∈ ops, Ordered (op.image F) := by
  have hget : Ordered ((evidence.get "transport_operations").image F) := Entries.ordered_get hord
  unfold operationsOf at h
  dsimp only at h
  by_cases htruthy : (evidence.get "transport_operations").truthy = true
  · rw [if_pos htruthy] at h
    generalize evidence.get "transport_operations" = transports at h hget
    have himage : ∀ xs, OrderedList (PyObject.imageList F xs) →
        ∀ op ∈ xs, Ordered (op.image F) := by
      intro xs hlist op hop
      rw [imageList_eq_map, orderedList_iff] at hlist
      exact hlist _ (List.mem_map_of_mem hop)
    cases transports with
    | list xs =>
      obtain rfl := Option.some.inj h
      exact himage xs hget
    | tuple xs =>
      obtain rfl := Option.some.inj h
      exact himage xs hget
    | _ => cases h
  · rw [if_neg htruthy] at h
    obtain rfl := Option.some.inj h
    simp

theorem readCounters_document {evidence : Entries} {counters : ℤ × ℤ × ℤ}
    (hasc : Ascending (evidence.document F)) (h : readCounters R evidence = .ok counters) :
    Sources.readCounters R (evidence.document F) = .ok counters := by
  obtain ⟨validations, hv, h⟩ := bind_ok h
  obtain ⟨work, hw, h⟩ := bind_ok h
  obtain ⟨reservations, hr, h⟩ := bind_ok h
  have hread : ∀ {field : String} {n : ℤ}, isField field = true →
      integer R (evidence.get field) = .ok n →
      Sources.integer R ((evidence.document F).get field) = .ok n := by
    intro field n hfield hn
    rw [get_document hfield hasc]
    exact Sources.integer_eq_ok.mpr (toIntOrZero_image.mpr (integer_eq_ok.mp hn))
  rw [Sources.readCounters, hread (by decide) hv, ok_bind, hread (by decide) hw, ok_bind,
    hread (by decide) hr, ok_bind]
  exact h

/-- The kind of the stored evidence is supported where that of the evidence is. -/
theorem supported_document {evidence : Entries} (hasc : Ascending (evidence.document F))
    (h : ¬ (otherKind R (evidence.get "evidence_kind") = true ∧
      evidence.has "transport_operations" = false)) :
    ¬ (((evidence.document F).get "evidence_kind").textOrEmpty R ≠ Sources.evidenceKind ∧
      ((evidence.document F).get "evidence_kind").textOrEmpty R ≠ "" ∧
        (evidence.document F).has "transport_operations" = false) := by
  rw [get_document (by decide) hasc, has_document (by decide)]
  rintro ⟨hkind, hempty, hhas⟩
  refine h ⟨?_, hhas⟩
  have hother : ∀ x : PyObject, (x.image F).textOrEmpty R ≠ Sources.evidenceKind →
      (x.image F).textOrEmpty R ≠ "" → otherKind R x = true := by
    intro x hx hne
    have htruthy : x.truthy = true := by
      by_contra hfalsy
      rw [Value.textOrEmpty, truthy_image, if_neg hfalsy] at hne
      exact hne rfl
    cases x with
    | scalar s =>
      rw [otherKind, Bool.and_eq_true, decide_eq_true_iff, decide_eq_true_iff]
      exact ⟨hx, hne⟩
    | _ => exact htruthy
  exact hother _ hkind hempty

theorem reconstructSixUnitTotals_ok {evidence : Entries} {totals : SixUnitTotals}
    (h : reconstructSixUnitTotals R evidence = .ok totals) :
    ¬ (otherKind R (evidence.get "evidence_kind") = true ∧
      evidence.has "transport_operations" = false) ∧
    ∃ ops sums counters, operationsOf evidence = some ops ∧ readOperations R [] ops = .ok sums ∧
      readCounters R evidence = .ok counters ∧
      totals = ⟨ops.length, counters.1, counters.2.1, sums.1, sums.2, counters.2.2⟩ := by
  unfold reconstructSixUnitTotals at h
  by_cases hkind : otherKind R (evidence.get "evidence_kind") = true ∧
      evidence.has "transport_operations" = false
  · rw [if_pos hkind] at h
    cases h
  · rw [if_neg hkind] at h
    refine ⟨hkind, ?_⟩
    cases hops : operationsOf evidence with
    | none => simp [hops] at h
    | some ops =>
      simp only [hops] at h
      obtain ⟨sums, hsums, h⟩ := bind_ok h
      obtain ⟨counters, hcounters, h⟩ := bind_ok h
      exact ⟨ops, sums, counters, rfl, hsums, hcounters, (Except.ok.inj h).symm⟩

/-- The totals of stored evidence are those of the evidence, where it is flat. -/
theorem reconstructEntries_document {evidence : Entries} {totals : SixUnitTotals}
    (hord : Ordered (.dict (evidence.document F)))
    (h : reconstructSixUnitTotals R evidence = .ok totals) (hflat : FlatEvidence evidence) :
    Sources.reconstructEntries R (evidence.document F) = .ok totals := by
  obtain ⟨hkind, ops, sums, counters, hops, hsums, hcounters, rfl⟩ := reconstructSixUnitTotals_ok h
  rw [FlatEvidence, hops] at hflat
  have hread : Sources.readOperations R (List.map (List.map Scalar.value) [])
      (ops.map (PyObject.image F)) = .ok sums :=
    readOperations_image (ordered_operations hord hops) hflat hsums
  rw [Sources.reconstructEntries, if_neg (supported_document hord.1 hkind)]
  simp only [operationsOf_document hord.1 hops, List.map_nil] at hread ⊢
  rw [hread, ok_bind, readCounters_document hord.1 hcounters, ok_bind, List.length_map]
  rfl

/-- Evidence with a tuple in an identity is not read again. -/
theorem flat_of_reconstructEntries {evidence : Entries} {totals totals' : SixUnitTotals}
    (hord : Ordered (.dict (evidence.document F)))
    (h : reconstructSixUnitTotals R evidence = .ok totals)
    (h' : Sources.reconstructEntries R (evidence.document F) = .ok totals') :
    FlatEvidence evidence := by
  obtain ⟨-, ops, sums, counters, hops, hsums, -, -⟩ := reconstructSixUnitTotals_ok h
  obtain ⟨raws, bytes, rows, -, -, -, hraws, hread, -⟩ := Sources.reconstructEntries_ok h'
  obtain rfl := Option.some.inj ((operationsOf_document hord.1 hops).symm.trans hraws)
  rw [FlatEvidence, hops]
  exact flat_of_readOperations (ordered_operations hord hops) hsums hread

/-- The totals are a mapping, as are the totals inside it where there are such. -/
def MappingTotals : PyObject → Prop
  | .dict totals => Entries.has totals "six_unit_totals" = true →
      (Entries.get totals "six_unit_totals").isMapping = true
  | _ => False

theorem readUnits_document {stored : Entries} {totals : SixUnitTotals}
    (hasc : Ascending (stored.document F)) (h : readUnits R stored = .ok totals) :
    Sources.readUnits R (stored.document F) = .ok totals := by
  have hread : ∀ {field : String} {n : ℤ}, isField field = true →
      (stored.get field).toIntOrZero R = .ok n →
      ((stored.document F).get field).toIntOrZero R = .ok n := by
    intro field n hfield hn
    rw [get_document hfield hasc]
    exact toIntOrZero_image.mpr hn
  obtain ⟨transports, ht, h⟩ := bind_ok h
  obtain ⟨validations, hv, h⟩ := bind_ok h
  obtain ⟨work, hw, h⟩ := bind_ok h
  obtain ⟨bytes, hb, h⟩ := bind_ok h
  obtain ⟨rows, hr, h⟩ := bind_ok h
  obtain ⟨reserved, hl, h⟩ := bind_ok h
  rw [Sources.readUnits, hread (by decide) ht, ok_bind, hread (by decide) hv, ok_bind,
    hread (by decide) hw, ok_bind, hread (by decide) hb, ok_bind, hread (by decide) hr, ok_bind,
    hread (by decide) hl, ok_bind]
  exact h

theorem storedTotals_dict (totals : Entries) :
    storedTotals (.dict totals) =
      if totals.has "six_unit_totals" then (totals.get "six_unit_totals").dictOf
      else .ok totals := by
  cases totals with
  | nil => rfl
  | cons e rest => rfl

/-- Totals that are a mapping are read behind JSON as before it. -/
theorem totals_of_mapping {x : PyObject} {stored : Entries} {totals : SixUnitTotals}
    (hord : Ordered (x.image F)) (hstored : storedTotals x = .ok stored)
    (hread : readUnits R stored = .ok totals) (hmapping : MappingTotals x) :
    Sources.sixUnitTotalsFromMapping R (x.image F) = .ok totals := by
  cases x with
  | dict entries =>
    rw [PyObject.image_dict] at hord ⊢
    rw [storedTotals_dict] at hstored
    rw [Sources.sixUnitTotalsFromMapping, Sources.rawTotals, has_document (by decide)]
    by_cases hhas : Entries.has entries "six_unit_totals" = true
    · rw [if_pos hhas] at hstored ⊢
      rw [get_document (by decide) hord.1]
      have hinner : Ordered ((Entries.get entries "six_unit_totals").image F) :=
        Entries.ordered_get hord
      have hmapping := hmapping hhas
      generalize Entries.get entries "six_unit_totals" = inner at hstored hinner hmapping
      cases inner with
      | dict inner =>
        obtain rfl := Except.ok.inj hstored
        exact readUnits_document hinner.1 hread
      | _ => cases hmapping
    · rw [if_neg hhas] at hstored ⊢
      obtain rfl := Except.ok.inj hstored
      exact readUnits_document hord.1 hread
  | _ => exact hmapping.elim

/-- Totals that are no mapping are none behind JSON. -/
theorem totals_of_not_mapping {x : PyObject} (hord : Ordered (x.image F))
    (hmapping : ¬ MappingTotals x) : Sources.sixUnitTotalsFromMapping R (x.image F) = .ok 0 := by
  cases x with
  | dict entries =>
    rw [MappingTotals, Classical.not_imp] at hmapping
    rw [PyObject.image_dict] at hord ⊢
    rw [Sources.sixUnitTotalsFromMapping, Sources.rawTotals, has_document (by decide),
      if_pos hmapping.1, get_document (by decide) hord.1]
    generalize Entries.get entries "six_unit_totals" = inner at hmapping
    cases inner with
    | dict inner => exact absurd rfl hmapping.2
    | scalar s => cases s <;> rfl
    | list xs => rfl
    | tuple xs => rfl
  | scalar s => cases s <;> rfl
  | list xs => rfl
  | tuple xs => rfl

/-- What the guard has read. -/
theorem assertReportSixUnitEvidence_ok {report : Entries}
    (h : assertReportSixUnitEvidence R report = .ok ()) :
    ∃ (evidence : Entries) (totals : SixUnitTotals) (stored : Entries),
      report.get "six_unit_evidence" = .dict evidence ∧ evidence ≠ [] ∧
      reconstructSixUnitTotals R evidence = .ok totals ∧
      storedTotals (report.get "six_unit_totals") = .ok stored ∧
      readUnits R stored = .ok totals := by
  unfold assertReportSixUnitEvidence at h
  split at h
  · rename_i evidence hevidence
    obtain ⟨hempty, h⟩ := check_ok h
    obtain ⟨comparison, hcompare, h⟩ := bind_ok h
    obtain ⟨hequal, -⟩ := check_ok h
    obtain ⟨reconstructed, hreconstructed, hcompare⟩ := bind_ok (mapError_ok hcompare)
    obtain ⟨stored, hstored, hcompare⟩ := bind_ok hcompare
    obtain ⟨totals, htotals, hcompare⟩ := bind_ok hcompare
    obtain rfl := Except.ok.inj hcompare
    have hsame : totals = reconstructed :=
      Sources.reconcile_equal_iff.mp (Bool.not_eq_false _ ▸ hequal)
    subst hsame
    refine ⟨evidence, totals, stored, hevidence, ?_, hreconstructed, mapError_ok hstored,
      mapError_ok htotals⟩
    rintro rfl
    exact hempty rfl
  · cases h

end PrinterV1.OperatorCli.CampaignReport
