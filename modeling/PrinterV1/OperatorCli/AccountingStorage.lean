import Mathlib.Algebra.Order.Ring.Int
import PrinterV1.Foundation.Faults
import PrinterV1.OperatorCli.OperationAccounting

/-!
# What the storage of an operation takes

`_persist_work` stores its rows exactly where the counts fit their columns and
every detail has a known state and a count that is no negative number. The rest of
the work row is what the caller promises.
-/

namespace PrinterV1.OperatorCli.OperationAccounting

open Python Faults

theorem share_nonneg {total : ℤ} (h : 0 ≤ total) (n ordinal : ℕ) : 0 ≤ share total n ordinal := by
  have hn : (0 : ℤ) < (max n 1 : ℕ) := by omega
  have hq : 0 ≤ total / (max n 1 : ℕ) := Int.ediv_nonneg h hn.le
  have hr : 0 ≤ total % (max n 1 : ℕ) := Int.emod_nonneg _ hn.ne'
  unfold share
  split <;> omega

theorem share_le {total : ℤ} (h : 0 ≤ total) (n ordinal : ℕ) : share total n ordinal ≤ total := by
  have hn : (1 : ℤ) ≤ (max n 1 : ℕ) := by omega
  have hq : 0 ≤ total / (max n 1 : ℕ) := Int.ediv_nonneg h (by omega)
  have hr : 0 ≤ total % (max n 1 : ℕ) := Int.emod_nonneg _ (by omega)
  have hwhole := Int.mul_ediv_add_emod total (max n 1 : ℕ)
  have hle : total / (max n 1 : ℕ) ≤ (max n 1 : ℕ) * (total / (max n 1 : ℕ)) :=
    le_mul_of_one_le_left hq hn
  unfold share
  split <;> omega

/-- A detail that can be stored. -/
structure DetailStorable (R : Value.Rendering) (detail : Dict) : Prop where
  state : (detail.get "operation_state").truthy = true →
    (detail.get "operation_state").text R ∈ ["COMPLETE", "FAILED"]
  bytes : detail.has "bytes_used" = true →
    ∃ n, (detail.get "bytes_used").toInt R = .ok n ∧ countable n = true

theorem countable_iff {n : ℤ} : countable n = true ↔ 0 ≤ n ∧ n ≤ 9223372036854775807 := by
  simp only [countable, Sqlite.storable, Bool.and_eq_true, decide_eq_true_eq]
  omega

/-- A share of a count that fits. -/
theorem countable_share {total : ℤ} (h : countable total = true) (n ordinal : ℕ) :
    countable (share total n ordinal) = true := by
  rw [countable_iff] at h ⊢
  exact ⟨share_nonneg h.1 n ordinal, (share_le h.1 n ordinal).trans h.2⟩

namespace PersistCall

variable {E : Engine} {c : PersistCall} {L L' : Ledger}

theorem detailState_mem_iff {detail : Dict} :
    detailState E c detail ∈ ["COMPLETE", "FAILED"] ↔
      ((detail.get "operation_state").truthy = true →
        (detail.get "operation_state").text E.rendering ∈ ["COMPLETE", "FAILED"]) := by
  unfold detailState detailText
  by_cases h : (detail.get "operation_state").truthy = true
  · simp [h]
  · by_cases hs : c.state = .succeeded <;> simp [h, hs]

/-- The row of a detail passes its checks. -/
def RowStorable (E : Engine) (c : PersistCall) (ordinal : ℕ) : Prop :=
  detailState E c (c.detailAt ordinal) ∈ ["COMPLETE", "FAILED"] ∧
    ∃ n, storedBytes E c (c.detailAt ordinal) ordinal = .ok n ∧ countable n = true

theorem rowStorable_iff (h : countable c.bytesUsed = true) {ordinal : ℕ} :
    RowStorable E c ordinal ↔ DetailStorable E.rendering (c.detailAt ordinal) := by
  unfold RowStorable storedBytes
  rw [detailState_mem_iff]
  by_cases hhas : (c.detailAt ordinal).has "bytes_used" = true
  · rw [if_pos hhas]
    exact ⟨fun ⟨hstate, hbytes⟩ => ⟨hstate, fun _ => hbytes⟩, fun hd => ⟨hd.state, hd.bytes hhas⟩⟩
  · rw [if_neg hhas]
    refine ⟨fun ⟨hstate, _⟩ => ⟨hstate, fun hc => absurd hc hhas⟩, fun hd => ⟨hd.state, ?_⟩⟩
    exact ⟨_, rfl, countable_share h _ _⟩

/-- What the caller promises of the work row: all of it but the two counts that are measured. -/
structure Promised (E : Engine) (L : Ledger) (c : PersistCall) : Prop where
  row : (c.workRow E).wellFormed E.jsonValid L = true
  rows : countable c.rowsUsed = true
  duration : countable c.durationMilliseconds = true

theorem insertWork_ok {row : WorkRow} {jsonValid : String → Bool}
    (h : insertWork jsonValid L row = .ok L') :
    (∀ n ∈ row.counts, countable n = true) ∧ L'.work.rows = L.work.rows ++ [row] ∧
      L'.transport = L.transport := by
  unfold insertWork at h
  by_cases hover : (row.counts.any fun n => !Sqlite.storable n) = true
  · rw [if_pos hover] at h
    cases h
  rw [if_neg hover] at h
  by_cases hneg : (row.counts.any (· < 0)) = true
  · rw [if_pos hneg] at h
    cases h
  rw [if_neg hneg] at h
  by_cases hwell : row.wellFormed jsonValid L = true
  · rw [dif_pos hwell] at h
    obtain rfl := Except.ok.inj h
    refine ⟨?_, rfl, rfl⟩
    intro n hn
    have hfits : Sqlite.storable n = true := by
      by_contra hc
      exact hover (List.any_eq_true.mpr ⟨n, hn, by simpa using hc⟩)
    have hpos : 0 ≤ n := by
      by_contra hc
      exact hneg (List.any_eq_true.mpr ⟨n, hn, by simpa using hc⟩)
    simp [countable, hfits, hpos]
  · rw [dif_neg hwell] at h
    cases h

theorem insertWork_of_promised (h : Promised E L c) (hops : countable c.transportOperations = true)
    (hbytes : countable c.bytesUsed = true) :
    ∃ L', insertWork E.jsonValid L (c.workRow E) = .ok L' := by
  have hcounts : ∀ n ∈ (c.workRow E).counts, countable n = true := by
    simp [WorkRow.counts, workRow, hops, hbytes, h.rows, h.duration]
    decide
  have hover : ¬((c.workRow E).counts.any fun n => !Sqlite.storable n) = true := by
    intro hc
    obtain ⟨n, hn, hbad⟩ := List.any_eq_true.mp hc
    have hn := hcounts n hn
    simp only [countable, Bool.and_eq_true] at hn
    simp [hn.2] at hbad
  have hneg : ¬((c.workRow E).counts.any (· < 0)) = true := by
    intro hc
    obtain ⟨n, hn, hbad⟩ := List.any_eq_true.mp hc
    have hn := (countable_iff.mp (hcounts n hn)).1
    simp only [decide_eq_true_eq] at hbad
    omega
  unfold insertWork
  rw [if_neg hover, if_neg hneg, dif_pos h.row]
  exact ⟨_, rfl⟩

/-- The work row is there, and no row of the ordinals to come. -/
structure Ready (c : PersistCall) (ordinals : List ℕ) (L : Ledger) : Prop where
  work : ∃ w ∈ L.work.rows, w.workId = (c.integrationId, c.ordinal)
  fresh : ∀ o ∈ ordinals, ∀ old ∈ L.transport.rows,
    old.operationId ≠ ((c.integrationId, c.ordinal), o)
  nodup : ordinals.Nodup
  positive : ∀ o ∈ ordinals, 1 ≤ o

theorem insertTransport_ok {row : TransportRow} (h : insertTransport L row = .ok L') :
    countable row.bytesUsed = true ∧ row.operationState ∈ ["COMPLETE", "FAILED"] ∧
      L'.work = L.work ∧ L'.transport.rows = L.transport.rows ++ [row] := by
  unfold insertTransport at h
  by_cases hover : Sqlite.storable row.bytesUsed = false
  · rw [if_pos hover] at h
    cases h
  rw [if_neg hover] at h
  by_cases hbad : row.bytesUsed < 0 ∨ row.operationOrdinal < 1 ∨
      row.operationState ∉ ["COMPLETE", "FAILED"]
  · rw [if_pos hbad] at h
    cases h
  rw [if_neg hbad] at h
  push Not at hbad
  by_cases hkey : (∀ old ∈ L.transport.rows, old.operationId ≠ row.operationId) ∧
      ∃ w ∈ L.work.rows, w.workId = row.workId
  · rw [dif_pos hkey] at h
    obtain rfl := Except.ok.inj h
    refine ⟨?_, hbad.2.2, rfl, rfl⟩
    simp [countable, hbad.1, hover]
  · rw [dif_neg hkey] at h
    cases h

theorem insertTransport_of_ready {row : TransportRow} (hbytes : countable row.bytesUsed = true)
    (hstate : row.operationState ∈ ["COMPLETE", "FAILED"]) (hordinal : 1 ≤ row.operationOrdinal)
    (hfresh : ∀ old ∈ L.transport.rows, old.operationId ≠ row.operationId)
    (hwork : ∃ w ∈ L.work.rows, w.workId = row.workId) :
    ∃ L', insertTransport L row = .ok L' := by
  have hover : ¬Sqlite.storable row.bytesUsed = false := by
    simp only [countable, Bool.and_eq_true] at hbytes
    simp [hbytes.2]
  have hgood : ¬(row.bytesUsed < 0 ∨ row.operationOrdinal < 1 ∨
      row.operationState ∉ ["COMPLETE", "FAILED"]) := by
    have hpos := (countable_iff.mp hbytes).1
    rintro (hc | hc | hc)
    · omega
    · omega
    · exact hc hstate
  unfold insertTransport
  rw [if_neg hover, if_neg hgood, dif_pos ⟨hfresh, hwork⟩]
  exact ⟨_, rfl⟩

/-- What one turn of the loop leaves. -/
theorem persistOperation_ok {ordinal : ℕ} (h : persistOperation E c L ordinal = .ok L') :
    RowStorable E c ordinal ∧ L'.work = L.work ∧
      ∃ row, row.operationId = ((c.integrationId, c.ordinal), ordinal) ∧
        L'.transport.rows = L.transport.rows ++ [row] := by
  obtain ⟨bytes, hbytes, h⟩ := bind_ok h
  obtain ⟨hcount, hstate, hwork, hrows⟩ := insertTransport_ok h
  exact ⟨⟨hstate, bytes, mapError_ok hbytes, hcount⟩, hwork, _, rfl, hrows⟩

theorem persistOperation_ok_iff {ordinal : ℕ} {ordinals : List ℕ}
    (h : Ready c (ordinal :: ordinals) L) :
    (∃ L', persistOperation E c L ordinal = .ok L') ↔ RowStorable E c ordinal := by
  constructor
  · rintro ⟨L', hL'⟩
    exact (persistOperation_ok hL').1
  · rintro ⟨hstate, bytes, hbytes, hcount⟩
    unfold persistOperation
    rw [hbytes]
    exact insertTransport_of_ready hcount hstate (h.positive ordinal List.mem_cons_self)
      (h.fresh ordinal List.mem_cons_self) h.work

theorem Ready.tail {ordinal : ℕ} {ordinals : List ℕ} (h : Ready c (ordinal :: ordinals) L)
    (hstep : persistOperation E c L ordinal = .ok L') : Ready c ordinals L' := by
  obtain ⟨-, hwork, row, hid, hrows⟩ := persistOperation_ok hstep
  obtain ⟨hnotin, hnodup⟩ := List.nodup_cons.mp h.nodup
  refine ⟨by rw [hwork]; exact h.work, ?_, hnodup,
    fun o ho => h.positive o (List.mem_cons_of_mem _ ho)⟩
  intro o ho old hold
  rw [hrows, List.mem_append, List.mem_singleton] at hold
  rcases hold with hold | rfl
  · exact h.fresh o (List.mem_cons_of_mem _ ho) old hold
  · rw [hid]
    rintro hsame
    obtain rfl : ordinal = o := (Prod.mk.inj hsame).2
    exact hnotin ho

/-- A row is stored for each ordinal. -/
theorem persistOperations_rows {ordinals : List ℕ} : ∀ {L : Ledger},
    ordinals.foldlM (persistOperation E c) L = .ok L' → L'.work = L.work ∧
      ∃ added, L'.transport.rows = L.transport.rows ++ added ∧
        added.map TransportRow.operationId =
          ordinals.map fun o => ((c.integrationId, c.ordinal), o) := by
  induction ordinals with
  | nil =>
    intro L h
    obtain rfl := Except.ok.inj h
    exact ⟨rfl, [], by simp, rfl⟩
  | cons o os ih =>
    intro L h
    rw [List.foldlM_cons] at h
    obtain ⟨mid, hmid, h⟩ := bind_ok h
    obtain ⟨-, hwork, row, hid, hrows⟩ := persistOperation_ok hmid
    obtain ⟨hwork', added, hadded, hids⟩ := ih h
    refine ⟨hwork'.trans hwork, row :: added, ?_, ?_⟩
    · rw [hadded, hrows, List.append_assoc]
      rfl
    · rw [List.map_cons, List.map_cons, hid, hids]

theorem ready_of_promised (h : Promised E L c) {ordinals : List ℕ} (hnodup : ordinals.Nodup)
    (hpos : ∀ o ∈ ordinals, 1 ≤ o) (hwork : L'.work.rows = L.work.rows ++ [c.workRow E])
    (htransport : L'.transport = L.transport) : Ready c ordinals L' := by
  refine ⟨⟨c.workRow E, by simp [hwork], rfl⟩, ?_, hnodup, hpos⟩
  intro o _ old hold hid
  rw [htransport] at hold
  obtain ⟨w, hw, hown⟩ := L.owned old hold
  have hold : old.workId = (c.integrationId, c.ordinal) := (Prod.mk.inj hid).1
  exact WorkRow.fresh_of_wellFormed h.row w hw (hown.trans hold)

/-- The details of the ordinals are the details. -/
theorem forall_detailAt {P : Dict → Prop}
    (hlen : c.underlyingOperations.length = c.transportOperations) :
    (∀ o ∈ List.range' 1 c.transportOperations, P (c.detailAt o)) ↔
      ∀ d ∈ c.underlyingOperations, P d := by
  constructor
  · intro h d hd
    obtain ⟨i, hi, rfl⟩ := List.mem_iff_getElem.mp hd
    have hat := h (i + 1) (by rw [List.mem_range'_1]; omega)
    simpa [detailAt, hi] using hat
  · intro h o ho
    rw [List.mem_range'_1] at ho
    have hi : o - 1 < c.underlyingOperations.length := by omega
    have hat : c.detailAt o = c.underlyingOperations[o - 1] := by simp [detailAt, hi]
    rw [hat]
    exact h _ (List.getElem_mem hi)

/-- What is stored: one work row, and one row for each transport operation. -/
structure StoredOnce (E : Engine) (c : PersistCall) (L L' : Ledger) : Prop where
  work : L'.work.rows = L.work.rows ++ [c.workRow E]
  transport : ∃ added, L'.transport.rows = L.transport.rows ++ added ∧
    added.map TransportRow.operationId =
      (List.range' 1 c.underlyingOperations.length).map fun o => ((c.workRow E).workId, o)

theorem persistWork_stored (hlen : c.underlyingOperations.length = c.transportOperations)
    (h : persistWork E c L = .ok L') : StoredOnce E c L L' := by
  obtain ⟨mid, hmid, h⟩ := bind_ok h
  obtain ⟨-, h⟩ := check_ok h
  obtain ⟨-, hwork, htransport⟩ := insertWork_ok hmid
  obtain ⟨hkeep, added, hadded, hids⟩ := persistOperations_rows h
  exact ⟨by rw [hkeep, hwork], added, by rw [hadded, htransport], by rw [hlen]; exact hids⟩

theorem persistWork_ok_iff (h : Promised E L c)
    (hlen : c.underlyingOperations.length = c.transportOperations) :
    (∃ L', persistWork E c L = .ok L') ↔
      countable c.transportOperations = true ∧ countable c.bytesUsed = true ∧
        ∀ d ∈ c.underlyingOperations, DetailStorable E.rendering d := by
  have hloop : ∀ mid, insertWork E.jsonValid L (c.workRow E) = .ok mid →
      countable c.bytesUsed = true →
      ((∃ L', (List.range' 1 c.transportOperations).foldlM (persistOperation E c) mid = .ok L') ↔
        ∀ d ∈ c.underlyingOperations, DetailStorable E.rendering d) := by
    intro mid hmid hbytes
    obtain ⟨-, hwork, htransport⟩ := insertWork_ok hmid
    have hready : Ready c (List.range' 1 c.transportOperations) mid :=
      ready_of_promised h List.nodup_range' (fun o ho => (List.mem_range'_1.mp ho).1) hwork
        htransport
    rw [foldlM_ok_iff (fun x xs s => persistOperation_ok_iff) (fun x xs s s' => Ready.tail) hready,
      ← forall_detailAt hlen]
    simp only [rowStorable_iff hbytes]
  have hcheck : ¬(c.underlyingOperations ≠ [] ∧
      c.underlyingOperations.length ≠ c.transportOperations) := fun hc => hc.2 hlen
  constructor
  · rintro ⟨L', hL'⟩
    obtain ⟨mid, hmid, hL'⟩ := bind_ok hL'
    obtain ⟨-, hL'⟩ := check_ok hL'
    obtain ⟨hcounts, -⟩ := insertWork_ok hmid
    have hops : countable c.transportOperations = true :=
      hcounts _ (by simp [WorkRow.counts, workRow])
    have hbytes : countable c.bytesUsed = true := hcounts _ (by simp [WorkRow.counts, workRow])
    exact ⟨hops, hbytes, (hloop mid hmid hbytes).mp ⟨L', hL'⟩⟩
  · rintro ⟨hops, hbytes, hdetails⟩
    obtain ⟨mid, hmid⟩ := insertWork_of_promised h hops hbytes
    obtain ⟨L', hL'⟩ := (hloop mid hmid hbytes).mpr hdetails
    refine ⟨L', ?_⟩
    unfold persistWork
    rw [hmid, ok_bind, if_neg hcheck]
    exact hL'

end PersistCall
end PrinterV1.OperatorCli.OperationAccounting
