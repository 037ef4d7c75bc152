import Mathlib.Algebra.BigOperators.Group.List.Basic
import Mathlib.Algebra.Order.BigOperators.Group.List
import PrinterV1.OperatorCli.AccountingStorage

/-!
# What the accounting of an operation keeps

A measured operation without a failure agrees with its plan and its bytes add up.
An operation is stored exactly where its payload is `Recordable`: the
measurement flags much that the storage does not take.
-/

namespace PrinterV1.OperatorCli.OperationAccounting

open Python Faults

variable {R : Value.Rendering} {operation : AcquisitionSourceOperation} {payload : Dict}
  {sourceComplete : Bool}

/-! ## Conversions -/

theorem caught_ok_iff {α : Type} {x : Except PyError α} :
    (∃ o, caught x = .ok o) ↔ ¬Raises PyError.IsOverflow x := by
  cases x with
  | ok a => simp [caught]
  | error e => cases e <;> simp [caught, PyError.IsOverflow]

theorem caught_eq_some {α : Type} {x : Except PyError α} {a : α} :
    caught x = .ok (some a) ↔ x = .ok a := by
  cases x with
  | ok b => simp [caught]
  | error e => cases e <;> simp [caught]

theorem caught_eq_none {α : Type} {x : Except PyError α} (h : caught x = .ok none) :
    ∀ a, x ≠ .ok a := by
  rintro a rfl
  cases h

/-- The count of a detail, where it has a reading. -/
def byteCount (R : Value.Rendering) (detail : Dict) : ℤ :=
  match bytesOrZero R detail with
  | .ok n => n
  | .error _ => 0

theorem byteCount_of_ok {detail : Dict} {n : ℤ} (h : bytesOrZero R detail = .ok n) :
    byteCount R detail = n := by
  simp [byteCount, h]

/-! ## What was measured -/

/-- The details before their bytes are shared out. -/
def rawOf (operation : AcquisitionSourceOperation) (payload : Dict) (sourceComplete : Bool)
    (count : Option ℤ) : Option (List Dict) :=
  rawDetails operation.expectedOperationKinds sourceComplete (count.getD (-1))
    (payload.get "underlying_operations")

/-- What was read on the way to a report. -/
structure Steps (R : Value.Rendering) (operation : AcquisitionSourceOperation) (payload : Dict)
    (raw : Option (List Dict)) (count size : Option ℤ) (encoded : ℤ) (counts : List ℤ) : Prop where
  count_read : caught ((countValue operation payload).toInt R) = .ok count
  size_read : caught (payloadSize R payload (raw.getD [])) = .ok size
  encoded_read : encodedSize R (raw.getD []) size = .ok encoded
  counts_read : (measuredDetails payload encoded (raw.getD [])).mapM (detailBytes R) = .ok counts

theorem measure_ok_iff {a : Accounting} :
    measureOperationAccounting R operation payload sourceComplete = .ok a ↔
      ∃ count size encoded counts,
        Steps R operation payload (rawOf operation payload sourceComplete count) count size encoded
          counts ∧
        a = report R operation payload count (rawOf operation payload sourceComplete count) size
          encoded counts := by
  unfold measureOperationAccounting
  constructor
  · intro h
    obtain ⟨count, hcount, h⟩ := bind_ok h
    obtain ⟨size, hsize, h⟩ := bind_ok h
    obtain ⟨encoded, hencoded, h⟩ := bind_ok h
    obtain ⟨counts, hcounts, h⟩ := bind_ok h
    exact ⟨count, size, encoded, counts, ⟨hcount, hsize, hencoded, hcounts⟩,
      (Except.ok.inj h).symm⟩
  · rintro ⟨count, size, encoded, counts, ⟨hcount, hsize, hencoded, hcounts⟩, rfl⟩
    unfold rawOf at hsize hencoded hcounts ⊢
    rw [hcount, ok_bind]
    change (caught _ >>= _) = _
    rw [hsize, ok_bind, hencoded, ok_bind, hcounts]
    rfl

/-! ## A report without a failure -/

theorem kindOf_set (detail : Dict) (v : Value) :
    kindOf R (detail.set "bytes_used" v) = kindOf R detail := by
  simp [kindOf]

variable (payload) in
theorem length_measuredDetails (encoded : ℤ) (details : List Dict) :
    (measuredDetails payload encoded details).length = details.length := by
  unfold measuredDetails
  split <;> simp [shareBytes]

theorem kinds_measuredDetails (encoded : ℤ) (details : List Dict) :
    (measuredDetails payload encoded details).map (kindOf R) = details.map (kindOf R) := by
  unfold measuredDetails
  split
  · apply List.ext_getElem <;> simp [shareBytes, kindOf_set]
  · rfl

/-- A count that is not negative was read. -/
theorem bytesOrZero_of_detailBytes {detail : Dict} {n : ℤ} (h : detailBytes R detail = .ok n)
    (hn : 0 ≤ n) : bytesOrZero R detail = .ok n := by
  obtain ⟨count, hcount, h⟩ := bind_ok h
  obtain rfl : count.getD (-1) = n := Except.ok.inj h
  cases count with
  | none => simp at hn
  | some m => exact caught_eq_some.mp hcount

theorem mapM_bytesOrZero {details : List Dict} {counts : List ℤ}
    (h : details.mapM (detailBytes R) = .ok counts) (hpos : ∀ n ∈ counts, 0 ≤ n) :
    details.mapM (bytesOrZero R) = .ok counts := by
  have hread : ∀ d n, detailBytes R d = .ok n → ((detailBytes R d).toOption).getD 0 = n := by
    intro d n hd
    rw [hd]
    rfl
  obtain ⟨hall, rfl⟩ := (mapM_ok_iff hread).mp h
  have hbytes : ∀ d ∈ details,
      bytesOrZero R d = .ok (((detailBytes R d).toOption).getD 0) := by
    intro d hd
    exact bytesOrZero_of_detailBytes (hall d hd) (hpos _ (List.mem_map_of_mem hd))
  refine (mapM_ok_iff fun d n => byteCount_of_ok).mpr ⟨?_, ?_⟩
  · intro d hd
    rw [byteCount_of_ok (hbytes d hd)]
    exact hbytes d hd
  · apply List.map_congr_left
    intro d hd
    exact (byteCount_of_ok (hbytes d hd)).symm

theorem length_details {a : Accounting}
    (h : measureOperationAccounting R operation payload sourceComplete = .ok a) :
    a.details.length = a.actualCount := by
  obtain ⟨count, size, encoded, counts, -, rfl⟩ := measure_ok_iff.mp h
  exact length_measuredDetails payload encoded _

/-- The details agree with the reported count, with the plan and with the bytes. -/
structure Reconciled (R : Value.Rendering) (operation : AcquisitionSourceOperation)
    (payload : Dict) (a : Accounting) : Prop where
  reported : (countValue operation payload).toInt R = .ok a.details.length
  declared : a.details.length ≤ operation.expectedTransportOperations
  exact : (payload.get "declared_operation_ceiling").truthy = false →
    a.details.length = operation.expectedTransportOperations
  planned : a.details.map (kindOf R) <+: operation.expectedOperationKinds
  summed : ∃ counts, a.details.mapM (bytesOrZero R) = .ok counts ∧ (∀ n ∈ counts, 0 ≤ n) ∧
    counts.sum = a.encodedSize

theorem reconciled_of_no_failure {a : Accounting}
    (h : measureOperationAccounting R operation payload sourceComplete = .ok a)
    (hnone : a.failure = none) : Reconciled R operation payload a := by
  obtain ⟨count, size, encoded, counts, hsteps, rfl⟩ := measure_ok_iff.mp h
  generalize rawOf operation payload sourceComplete count = raw at hsteps hnone
  obtain ⟨hplan, hbytes⟩ : planMismatch R operation payload count raw = false ∧
      byteMismatch size encoded counts = false := by
    simp only [report] at hnone
    by_cases hplan : planMismatch R operation payload count raw = true
    · simp [hplan] at hnone
    · by_cases hbytes : byteMismatch size encoded counts = true
      · simp [hplan, hbytes] at hnone
      · exact ⟨by simpa using hplan, by simpa using hbytes⟩
  simp only [planMismatch, Bool.or_eq_false_iff, Option.isNone_eq_false_iff,
    Option.isSome_iff_exists, decide_eq_false_iff_not, not_not, not_lt, Bool.and_eq_false_iff,
    Bool.not_eq_false'] at hplan
  obtain ⟨⟨⟨⟨⟨⟨⟨⟨n, rfl⟩, -⟩, -⟩, hcount⟩, hle⟩, hexact⟩, -⟩, hkinds⟩ := hplan
  simp only [byteMismatch, Bool.or_eq_false_iff, decide_eq_false_iff_not, not_not, not_lt,
    List.any_eq_false] at hbytes
  obtain ⟨⟨⟨-, hencoded⟩, hpos⟩, hsum⟩ := hbytes
  have hlen := length_measuredDetails payload encoded (raw.getD [])
  rw [Option.getD_some] at hcount
  constructor
  · rw [caught_eq_some.mp hsteps.count_read, hcount]
    simp [report, hlen]
  · simpa [report, hlen] using hle
  · intro hceiling
    simpa [report, hlen, hceiling] using hexact
  · simp only [report, kinds_measuredDetails, hkinds]
    exact List.take_prefix _ _
  · have hcounts : ∀ n ∈ counts, 0 ≤ n := by simpa using hpos
    refine ⟨counts, mapM_bytesOrZero hsteps.counts_read hcounts, hcounts, ?_⟩
    simp [report, hsum, hencoded]

/-! ## The payload -/

/-- The details the provider gives, where all of them are mappings. -/
def givenDetails (payload : Dict) : List Dict :=
  match payload.get "underlying_operations" with
  | .list xs => (mappings xs).getD []
  | _ => []

/-- The count the provider gives, or the declared one; `-1` where it has no reading. -/
def countRead (R : Value.Rendering) (operation : AcquisitionSourceOperation) (payload : Dict) : ℤ :=
  match (countValue operation payload).toInt R with
  | .ok n => n
  | .error _ => -1

/-- How many operations there are to store. -/
def operationCount (R : Value.Rendering) (operation : AcquisitionSourceOperation)
    (payload : Dict) : ℕ :=
  if payload.get "underlying_operations" = .none then (countRead R operation payload).toNat
  else (givenDetails payload).length

/-- The size fits its column: where it is stated, where what is stated has no reading, and where
it is the sum of the details. -/
structure SizeFits (R : Value.Rendering) (payload : Dict) : Prop where
  stated : payload.has "response_bytes" = true →
    ∀ n, (payload.get "response_bytes").toInt R = .ok n → countable (max n 0) = true
  repaired : payload.has "response_bytes" = true →
    (∀ n, (payload.get "response_bytes").toInt R ≠ .ok n) →
    countable (((givenDetails payload).filter (digitLike R)).map fun d =>
      max 0 (byteCount R d)).sum = true
  summed : payload.has "response_bytes" = false →
    countable ((givenDetails payload).map (byteCount R)).sum = true

/-- A payload that both functions can take. Its texts are `String`s, which hold no lone surrogate:
a text of the source that holds one is refused by the database. -/
structure Recordable (R : Value.Rendering) (operation : AcquisitionSourceOperation)
    (payload : Dict) : Prop where
  count : (countValue operation payload).isInf = false
  few : countable (operationCount R operation payload) = true
  stated : payload.has "response_bytes" = true → (payload.get "response_bytes").isInf = false
  size : SizeFits R payload
  details : ∀ d ∈ givenDetails payload, DetailStorable R d

theorem rawOf_none (h : payload.get "underlying_operations" = .none) (count : Option ℤ) :
    rawOf operation payload sourceComplete count =
      some ((List.range (count.getD (-1)).toNat).map
        (synthesizedDetail operation.expectedOperationKinds sourceComplete)) := by
  rw [rawOf, h]
  rfl

theorem rawOf_given (h : payload.get "underlying_operations" ≠ .none) (count : Option ℤ) :
    (rawOf operation payload sourceComplete count).getD [] = givenDetails payload := by
  unfold rawOf givenDetails
  cases hv : payload.get "underlying_operations" with
  | none => exact absurd hv h
  | _ => rfl

theorem givenDetails_none (h : payload.get "underlying_operations" = .none) :
    givenDetails payload = [] := by
  rw [givenDetails, h]

theorem count_eq_countRead {count : Option ℤ}
    (h : caught ((countValue operation payload).toInt R) = .ok count) :
    count.getD (-1) = countRead R operation payload := by
  unfold countRead
  cases count with
  | some n => rw [caught_eq_some.mp h]; rfl
  | none =>
    cases hx : (countValue operation payload).toInt R with
    | ok n => exact absurd hx (caught_eq_none h n)
    | error e => rfl

variable (sourceComplete) in
theorem length_rawOf {count : Option ℤ}
    (h : caught ((countValue operation payload).toInt R) = .ok count) :
    ((rawOf operation payload sourceComplete count).getD []).length =
      operationCount R operation payload := by
  unfold operationCount
  by_cases hnone : payload.get "underlying_operations" = .none
  · rw [if_pos hnone, rawOf_none hnone, count_eq_countRead h]
    simp
  · rw [if_neg hnone, rawOf_given hnone]

/-! ## Reading the details -/

theorem bytesOrZero_synthesized (plan : List String) (i : ℕ) :
    bytesOrZero R (synthesizedDetail plan sourceComplete i) = .ok 0 := by
  simp [bytesOrZero, synthesizedDetail]

theorem DetailStorable.readable {d : Dict} (h : DetailStorable R d) :
    bytesOrZero R d = .ok (byteCount R d) := by
  obtain ⟨n, hn⟩ : ∃ n, bytesOrZero R d = .ok n := by
    by_cases hhas : d.has "bytes_used" = true
    · obtain ⟨n, hn, -⟩ := h.bytes hhas
      exact Value.toIntOrZero_of_toInt ⟨n, hn⟩
    · refine ⟨0, ?_⟩
      rw [bytesOrZero, Dict.get_of_not_has (by simpa using hhas)]
      rfl
  rw [byteCount_of_ok hn]
  exact hn

theorem DetailStorable.byteCount_nonneg {d : Dict} (h : DetailStorable R d) :
    0 ≤ byteCount R d := by
  have hread := h.readable
  unfold bytesOrZero Value.toIntOrZero at hread
  by_cases hv : (d.get "bytes_used").truthy = true
  · rw [if_pos hv] at hread
    have hhas : d.has "bytes_used" = true := by
      by_contra hc
      rw [Dict.get_of_not_has (by simpa using hc)] at hv
      cases hv
    obtain ⟨n, hn, hcount⟩ := h.bytes hhas
    rw [hn] at hread
    rw [← Except.ok.inj hread]
    exact (countable_iff.mp hcount).1
  · rw [if_neg hv] at hread
    exact (Except.ok.inj hread).le

variable (R operation payload sourceComplete) in
/-- The details that are read are those that are given, or have no bytes. -/
theorem raw_cases (count : Option ℤ) :
    (rawOf operation payload sourceComplete count).getD [] = givenDetails payload ∨
      givenDetails payload = [] ∧
        ∀ d ∈ (rawOf operation payload sourceComplete count).getD [], bytesOrZero R d = .ok 0 := by
  by_cases hnone : payload.get "underlying_operations" = .none
  · refine .inr ⟨givenDetails_none hnone, ?_⟩
    rw [rawOf_none hnone]
    intro d hd
    obtain ⟨i, -, rfl⟩ := List.mem_map.mp hd
    exact bytesOrZero_synthesized _ i
  · exact .inl (rawOf_given hnone count)

variable {raw : Option (List Dict)} {count size : Option ℤ} {encoded : ℤ} {counts : List ℤ}

theorem raw_readable (h : ∀ d ∈ givenDetails payload, DetailStorable R d) (count : Option ℤ) :
    ∀ d ∈ (rawOf operation payload sourceComplete count).getD [],
      bytesOrZero R d = .ok (byteCount R d) := by
  rcases raw_cases R operation payload sourceComplete count with hraw | ⟨-, hzero⟩
  · rw [hraw]
    exact fun d hd => (h d hd).readable
  · intro d hd
    rw [byteCount_of_ok (hzero d hd)]
    exact hzero d hd

variable (R operation payload sourceComplete) in
/-- Where the details that are read are not those that are given, there is nothing to sum. -/
theorem sum_raw (p : Dict → Bool) (f : ℤ → ℤ) (hf : f 0 = 0) (count : Option ℤ) :
    ((((rawOf operation payload sourceComplete count).getD []).filter p).map fun d =>
        f (byteCount R d)).sum =
      (((givenDetails payload).filter p).map fun d => f (byteCount R d)).sum := by
  rcases raw_cases R operation payload sourceComplete count with hraw | ⟨hnil, hzero⟩
  · rw [hraw]
  · rw [hnil]
    apply List.sum_eq_zero
    intro n hn
    obtain ⟨d, hd, rfl⟩ := List.mem_map.mp hn
    rw [byteCount_of_ok (hzero d (List.mem_of_mem_filter hd)), hf]

/-! ## The encoded size -/

section Size

variable (hread : ∀ d ∈ raw.getD [], bytesOrZero R d = .ok (byteCount R d))

include hread in
theorem mapM_read {p : Dict → Bool} :
    ((raw.getD []).filter p).mapM (bytesOrZero R) =
      .ok (((raw.getD []).filter p).map (byteCount R)) :=
  (mapM_ok_iff fun _ _ => byteCount_of_ok).mpr
    ⟨fun d hd => hread d (List.mem_of_mem_filter hd), rfl⟩

include hread in
theorem repairedSize_read : repairedSize R (raw.getD []) =
    .ok (((raw.getD []).filter (digitLike R)).map fun d => max 0 (byteCount R d)).sum := by
  unfold repairedSize
  rw [mapM_read hread, ok_bind, List.map_map]
  rfl

include hread in
theorem payloadSize_summed (h : payload.has "response_bytes" = false) :
    payloadSize R payload (raw.getD []) = .ok ((raw.getD []).map (byteCount R)).sum := by
  have hall : (raw.getD []).filter (fun _ => true) = raw.getD [] := List.filter_true _
  have hmap := mapM_read hread (p := fun _ => true)
  rw [hall] at hmap
  unfold payloadSize
  rw [if_neg (by simp [h]), hmap]
  rfl

theorem payloadSize_stated (h : payload.has "response_bytes" = true) :
    payloadSize R payload (raw.getD []) = (payload.get "response_bytes").toInt R := by
  unfold payloadSize
  rw [if_pos h]

end Size

theorem bytesOrZero_set (d : Dict) (n : ℤ) :
    bytesOrZero R (d.set "bytes_used" (.int n)) = .ok n := by
  simp [bytesOrZero]

/-- Sharing out the bytes leaves details that can be read. -/
theorem measured_readable {details : List Dict}
    (hread : ∀ d ∈ details, bytesOrZero R d = .ok (byteCount R d)) :
    ∀ d ∈ measuredDetails payload encoded details, bytesOrZero R d = .ok (byteCount R d) := by
  unfold measuredDetails
  split
  · intro d hd
    obtain ⟨i, hi, rfl⟩ := List.mem_mapIdx.mp hd
    rw [byteCount_of_ok (bytesOrZero_set _ _)]
    exact bytesOrZero_set _ _
  · exact hread

/-- The steps pass over details that can be read, where no stated number is infinite. -/
theorem exists_steps (hcount : caught ((countValue operation payload).toInt R) = .ok count)
    (hread : ∀ d ∈ raw.getD [], bytesOrZero R d = .ok (byteCount R d))
    (hstated : payload.has "response_bytes" = true →
      (payload.get "response_bytes").isInf = false) :
    ∃ size encoded counts, Steps R operation payload raw count size encoded counts := by
  obtain ⟨size, hsize⟩ : ∃ size, caught (payloadSize R payload (raw.getD [])) = .ok size := by
    rw [caught_ok_iff]
    by_cases hhas : payload.has "response_bytes" = true
    · rw [payloadSize_stated hhas, Value.raises_toInt, hstated hhas]
      exact Bool.false_ne_true
    · rw [payloadSize_summed hread (by simpa using hhas)]
      exact not_raises_ok _
  obtain ⟨encoded, hencoded⟩ : ∃ encoded, encodedSize R (raw.getD []) size = .ok encoded := by
    cases size with
    | some n => exact ⟨n, rfl⟩
    | none => exact ⟨_, repairedSize_read hread⟩
  have hmeasured : ∀ d ∈ measuredDetails payload encoded (raw.getD []),
      detailBytes R d = .ok (byteCount R d) := by
    intro d hd
    have hbytes : bytesOrZero R d = .ok (byteCount R d) := measured_readable hread d hd
    unfold detailBytes
    rw [hbytes]
    rfl
  have hbyteCount : ∀ d n, detailBytes R d = .ok n → ((detailBytes R d).toOption).getD 0 = n := by
    intro d n hd
    rw [hd]
    rfl
  refine ⟨size, encoded, _, hcount, hsize, hencoded, (mapM_ok_iff hbyteCount).mpr ⟨?_, rfl⟩⟩
  intro d hd
  rw [hmeasured d hd]
  rfl

theorem Steps.encoded_stated (h : Steps R operation payload raw count size encoded counts)
    (hhas : payload.has "response_bytes" = true) {n : ℤ}
    (hn : (payload.get "response_bytes").toInt R = .ok n) : encoded = n := by
  have hsize := h.size_read
  rw [payloadSize_stated hhas, hn] at hsize
  obtain rfl : some n = size := Except.ok.inj hsize
  exact (Except.ok.inj h.encoded_read).symm

section Encoded

variable (hdetails : ∀ d ∈ givenDetails payload, DetailStorable R d)
  (h : Steps R operation payload (rawOf operation payload sourceComplete count) count size encoded
    counts)

include hdetails h in
theorem Steps.encoded_repaired (hhas : payload.has "response_bytes" = true)
    (hno : ∀ n, (payload.get "response_bytes").toInt R ≠ .ok n) :
    encoded = (((givenDetails payload).filter (digitLike R)).map fun d =>
      max 0 (byteCount R d)).sum := by
  have hsize := h.size_read
  rw [payloadSize_stated hhas] at hsize
  cases size with
  | some n => exact absurd (caught_eq_some.mp hsize) (hno n)
  | none =>
    have hsum := h.encoded_read.symm.trans (repairedSize_read (raw_readable hdetails count))
    rw [Except.ok.inj hsum]
    exact sum_raw R operation payload sourceComplete (digitLike R) (max 0) (max_self 0) count

include hdetails h in
theorem Steps.encoded_summed (hhas : payload.has "response_bytes" = false) :
    encoded = ((givenDetails payload).map (byteCount R)).sum := by
  have hsize := h.size_read
  rw [payloadSize_summed (raw_readable hdetails count) hhas] at hsize
  have hsame : some _ = size := Except.ok.inj hsize
  have hencoded := h.encoded_read
  rw [← hsame] at hencoded
  rw [← Except.ok.inj hencoded]
  have hsum := sum_raw R operation payload sourceComplete (fun _ => true) id rfl count
  simpa only [List.filter_true, id_eq] using hsum

/-- The encoded size fits exactly where the size of the payload does. -/
theorem countable_encoded_iff (hdetails : ∀ d ∈ givenDetails payload, DetailStorable R d)
    (hsteps : Steps R operation payload (rawOf operation payload sourceComplete count) count size
      encoded counts) :
    countable (max encoded 0) = true ↔ SizeFits R payload := by
  have hrepaired : 0 ≤ (((givenDetails payload).filter (digitLike R)).map fun d =>
      max 0 (byteCount R d)).sum := by
    apply List.sum_nonneg
    intro n hn
    obtain ⟨d, -, rfl⟩ := List.mem_map.mp hn
    exact le_max_left _ _
  have hsummed : 0 ≤ ((givenDetails payload).map (byteCount R)).sum := by
    apply List.sum_nonneg
    intro n hn
    obtain ⟨d, hd, rfl⟩ := List.mem_map.mp hn
    exact (hdetails d hd).byteCount_nonneg
  constructor
  · intro h
    refine ⟨fun hhas n hn => ?_, fun hhas hno => ?_, fun hhas => ?_⟩
    · rwa [hsteps.encoded_stated hhas hn] at h
    · rwa [hsteps.encoded_repaired hdetails hhas hno, max_eq_left hrepaired] at h
    · rwa [hsteps.encoded_summed hdetails hhas, max_eq_left hsummed] at h
  · intro h
    by_cases hhas : payload.has "response_bytes" = true
    · by_cases hread : ∃ n, (payload.get "response_bytes").toInt R = .ok n
      · obtain ⟨n, hn⟩ := hread
        rw [hsteps.encoded_stated hhas hn]
        exact h.stated hhas n hn
      · push Not at hread
        rw [hsteps.encoded_repaired hdetails hhas hread, max_eq_left hrepaired]
        exact h.repaired hhas hread
    · have hhas : payload.has "response_bytes" = false := by simpa using hhas
      rw [hsteps.encoded_summed hdetails hhas, max_eq_left hsummed]
      exact h.summed hhas

/-! ## What is stored -/

theorem storable_synthesized {n : ℤ} (hn : countable n = true) (plan : List String) (i : ℕ) :
    DetailStorable R ((synthesizedDetail plan sourceComplete i).set "bytes_used" (.int n)) := by
  constructor
  · intro _
    cases sourceComplete <;> simp [synthesizedDetail, Value.text]
  · intro _
    exact ⟨n, by simp [Value.toInt], hn⟩

/-- The details that are returned can be stored exactly where those that are given can. -/
theorem measured_storable_iff (h : countable (max encoded 0) = true) :
    (∀ d ∈ measuredDetails payload encoded
        ((rawOf operation payload sourceComplete count).getD []), DetailStorable R d) ↔
      ∀ d ∈ givenDetails payload, DetailStorable R d := by
  by_cases hnone : payload.get "underlying_operations" = .none
  · rw [givenDetails_none hnone]
    refine iff_of_true ?_ (by simp)
    rw [rawOf_none hnone, Option.getD_some]
    unfold measuredDetails
    split
    next hshare =>
      rw [max_eq_left hshare.2.2] at h
      intro d hd
      obtain ⟨i, hi, rfl⟩ := List.mem_mapIdx.mp hd
      rw [List.getElem_map]
      exact storable_synthesized (countable_share h _ _) _ _
    next =>
      intro d hd
      obtain ⟨i, -, rfl⟩ := List.mem_map.mp hd
      exact storable_synthesized (n := 0) (by decide) _ i
  · rw [rawOf_given hnone]
    unfold measuredDetails
    rw [if_neg (fun hc => hnone hc.1)]

end Encoded

/-- The arguments of `_persist_work` with what was measured. -/
def PersistCall.measured (c : PersistCall) (a : Accounting) : PersistCall :=
  { c with
    transportOperations := a.actualCount
    bytesUsed := a.encodedSize
    underlyingOperations := a.details }

/-- No evidence is lost: the measurement returns, it reports no failure only where the details
agree with everything they are compared with, and the operation is stored with one row for each
detail. -/
def EvidenceKept (E : Engine) (L : Ledger) (c : PersistCall) (payload : Dict)
    (sourceComplete : Bool) : Prop :=
  ∃ a, measureOperationAccounting E.rendering c.operation payload sourceComplete = .ok a ∧
    (a.failure = none → Reconciled E.rendering c.operation payload a) ∧
    ∃ L', (c.measured a).persistWork E L = .ok L' ∧ PersistCall.StoredOnce E (c.measured a) L L'

section Kept

variable {E : Engine} {L : Ledger} {c : PersistCall}

theorem PersistCall.Promised.measured (h : PersistCall.Promised E L c) (a : Accounting) :
    PersistCall.Promised E L (c.measured a) :=
  ⟨h.row, h.rows, h.duration⟩

theorem recordable_of_kept (h : PersistCall.Promised E L c)
    (hkept : EvidenceKept E L c payload sourceComplete) :
    Recordable E.rendering c.operation payload := by
  obtain ⟨a, hmeasure, -, L', hL', -⟩ := hkept
  obtain ⟨hops, hbytes, hdetails⟩ :=
    (PersistCall.persistWork_ok_iff (h.measured a) (length_details hmeasure)).mp ⟨L', hL'⟩
  obtain ⟨count, size, encoded, counts, hsteps, rfl⟩ := measure_ok_iff.mp hmeasure
  have hgiven := (measured_storable_iff hbytes).mp hdetails
  have hcount := hsteps.count_read
  refine ⟨?_, ?_, ?_, (countable_encoded_iff hgiven hsteps).mp hbytes, hgiven⟩
  · have hpass := caught_ok_iff.mp ⟨count, hcount⟩
    rw [Value.raises_toInt] at hpass
    simpa using hpass
  · rw [← length_rawOf sourceComplete hcount]
    exact hops
  · intro hhas
    have hsize := hsteps.size_read
    rw [payloadSize_stated hhas] at hsize
    have hpass := caught_ok_iff.mp ⟨size, hsize⟩
    rw [Value.raises_toInt] at hpass
    simpa using hpass

theorem kept_of_recordable (h : PersistCall.Promised E L c)
    (hrec : Recordable E.rendering c.operation payload) :
    EvidenceKept E L c payload sourceComplete := by
  obtain ⟨count, hcount⟩ : ∃ count,
      caught ((countValue c.operation payload).toInt E.rendering) = .ok count := by
    rw [caught_ok_iff, Value.raises_toInt, hrec.count]
    exact Bool.false_ne_true
  have hread : ∀ d ∈ (rawOf c.operation payload sourceComplete count).getD [],
      bytesOrZero E.rendering d = .ok (byteCount E.rendering d) :=
    raw_readable hrec.details count
  obtain ⟨size, encoded, counts, hsteps⟩ := exists_steps hcount hread hrec.stated
  have hbytes := (countable_encoded_iff hrec.details hsteps).mpr hrec.size
  have hmeasure := measure_ok_iff.mpr ⟨count, size, encoded, counts, hsteps, rfl⟩
  have hops := hrec.few
  rw [← length_rawOf sourceComplete hcount] at hops
  obtain ⟨L', hL'⟩ :=
    (PersistCall.persistWork_ok_iff (h.measured _) (length_details hmeasure)).mpr
      ⟨hops, hbytes, (measured_storable_iff hbytes).mpr hrec.details⟩
  exact ⟨_, hmeasure, reconciled_of_no_failure hmeasure, L', hL',
    PersistCall.persistWork_stored (length_details hmeasure) hL'⟩

/-- Evidence is kept exactly for recordable payloads. -/
theorem evidenceKept_iff (h : PersistCall.Promised E L c) :
    EvidenceKept E L c payload sourceComplete ↔ Recordable E.rendering c.operation payload :=
  ⟨recordable_of_kept h, kept_of_recordable h⟩

end Kept

/-! ## One operation -/

def oneEngine : Engine where
  rendering := { str := fun _ => "", repr := fun _ => "" }
  canonical := fun _ => "null"
  jsonValid := fun _ => true

def oneLedger : Ledger where
  work := Table.empty
  transport := Table.empty
  integrations := ["integration"]
  jobs := [1]
  requests := [1]
  responses := [1]
  failures := []
  owned := by simp

def oneCall : PersistCall where
  integrationId := "integration"
  executionId := "execution"
  ordinal := 1
  operation :=
    { sourceName := "dexscreener"
      requestKind := "pair_lookup"
      required := true
      roundMode := "FROZEN_OFFLINE"
      expectedTransportOperations := 1
      expectedOperationKinds := ["HTTP_GET"]
      cursorRange := none
      plan_length := rfl
      plan_named := by simp }
  jobId := 1
  sourceExecution := { requestId := 1, responseId := some 1, failureId := none }
  state := .succeeded
  transportOperations := 0
  bytesUsed := 0
  rowsUsed := 0
  durationMilliseconds := 5
  cause := "SOURCE_OPERATION_COMPLETE"
  now := "2026-07-01T00:00:00+00:00"
  underlyingOperations := []

theorem oneCall_promised : PersistCall.Promised oneEngine oneLedger oneCall :=
  ⟨by decide, by decide, by decide⟩

/-- A payload with one detail, of the kind that is declared. -/
def onePayload (bytes : Value) : Dict :=
  [("underlying_operations", .list [.dict
    [("bytes_used", bytes), ("operation_kind", .str "HTTP_GET"),
      ("operation_state", .str "COMPLETE"), ("redacted_endpoint_role", .str "APPROVED_PRIMARY")]])]

theorem evidenceKept_iff_oneDetail :
    EvidenceKept oneEngine oneLedger oneCall (onePayload (.int 7)) true := by
  refine (evidenceKept_iff oneCall_promised).mpr ⟨by decide, by decide, by decide, ?_, ?_⟩
  · have hno : ¬(onePayload (.int 7)).has "response_bytes" = true := by decide
    exact ⟨fun hc => absurd hc hno, fun hc => absurd hc hno, by decide⟩
  · intro d hd
    obtain rfl := List.mem_singleton.mp hd
    exact ⟨by decide, fun _ => ⟨7, rfl, by decide⟩⟩

/-- A count of `null` is no failure to the measurement, and no integer to the storage. -/
theorem not_evidenceKept_nullBytes :
    PersistCall.Promised oneEngine oneLedger oneCall ∧
      ¬EvidenceKept oneEngine oneLedger oneCall (onePayload .none) true := by
  refine ⟨oneCall_promised, fun h => ?_⟩
  have hrec := recordable_of_kept oneCall_promised h
  obtain ⟨n, hn, -⟩ := (hrec.details _ List.mem_cons_self).bytes rfl
  cases hn

end PrinterV1.OperatorCli.OperationAccounting
