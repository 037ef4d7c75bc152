import Mathlib.Data.List.Basic
import Mathlib.Tactic.Common
import PrinterV1.Foundation.Faults

/-!
# Reading a layout at an offset

A layout says how a value is written as a list of symbols. A reader that threads
an offset through a list `Reads` a layout when it returns a value exactly where
the list goes on with what the value is written as, and returns the offset behind
it. Readers of one layout after another read the layouts one after another.
-/

namespace PrinterV1

open Faults

variable {σ α β ε : Type}

/-- The list goes on with the part at the offset. -/
def Segment (data : List σ) (offset : ℕ) (part : List σ) : Prop := part <+: data.drop offset

theorem segment_append {data : List σ} {offset : ℕ} {a b : List σ} :
    Segment data offset (a ++ b) ↔ Segment data offset a ∧ Segment data (offset + a.length) b := by
  unfold Segment
  rw [← List.drop_drop]
  generalize data.drop offset = rest
  constructor
  · rintro ⟨t, rfl⟩
    rw [List.append_assoc, List.drop_left]
    exact ⟨List.prefix_append _ _, List.prefix_append _ _⟩
  · rintro ⟨⟨t, rfl⟩, hb⟩
    rw [List.drop_left] at hb
    exact (List.prefix_append_right_inj a).mpr hb

/-- A part that is not empty ends within the list. -/
theorem Segment.length_le {data : List σ} {offset : ℕ} {part : List σ}
    (h : Segment data offset part) (hne : part ≠ []) : offset + part.length ≤ data.length := by
  have hlen := List.IsPrefix.length_le h
  have hpos := List.length_pos_iff.mpr hne
  rw [List.length_drop] at hlen
  omega

/-- A part of a known length is a slice. -/
theorem segment_iff {data part : List σ} {offset n : ℕ} (hlen : part.length = n) :
    Segment data offset part ↔ (data.drop offset).take n = part := by
  unfold Segment
  rw [List.prefix_iff_eq_take, hlen]
  exact eq_comm

/-- The part that ends with the list is the rest of it. -/
theorem segment_end_iff {data : List σ} {offset : ℕ} {part : List σ} (hne : part ≠ []) :
    Segment data offset part ∧ offset + part.length = data.length ↔ data.drop offset = part := by
  have hpos := List.length_pos_iff.mpr hne
  constructor
  · rintro ⟨h, hlen⟩
    refine (List.IsPrefix.eq_of_length h ?_).symm
    rw [List.length_drop]
    omega
  · intro h
    have hlen := congrArg List.length h
    rw [List.length_drop] at hlen
    exact ⟨h ▸ List.prefix_rfl, by omega⟩

/-- How a value is written, where it is one of the values that can be. -/
structure Layout (σ α : Type) where
  write : α → List σ
  Valid : α → Prop

namespace Layout

def seq (L : Layout σ α) (M : Layout σ β) : Layout σ (α × β) where
  write v := L.write v.1 ++ M.write v.2
  Valid v := L.Valid v.1 ∧ M.Valid v.2

def replicate (n : ℕ) (L : Layout σ α) : Layout σ (List α) where
  write vs := vs.flatMap L.write
  Valid vs := vs.length = n ∧ ∀ v ∈ vs, L.Valid v

end Layout

/-- The reader returns the value that is written at the offset, and the offset behind it. -/
def Reads (read : List σ → ℕ → Except ε (α × ℕ)) (L : Layout σ α) : Prop :=
  ∀ data offset v stop, read data offset = .ok (v, stop) ↔
    L.Valid v ∧ Segment data offset (L.write v) ∧ stop = offset + (L.write v).length

/-- What is read up to the end of the list is the rest of it. -/
theorem Reads.end_iff {read : List σ → ℕ → Except ε (α × ℕ)} {L : Layout σ α}
    (hread : Reads read L) (data : List σ) (offset : ℕ) {v : α} (hne : L.write v ≠ []) :
    read data offset = .ok (v, data.length) ↔ L.Valid v ∧ data.drop offset = L.write v := by
  rw [hread data offset v data.length, ← segment_end_iff hne]
  exact ⟨fun ⟨hvalid, hseg, hend⟩ => ⟨hvalid, hseg, hend.symm⟩,
    fun ⟨hvalid, hseg, hend⟩ => ⟨hvalid, hseg, hend.symm⟩⟩

/-- One reader behind the other. -/
def readSeq (read : List σ → ℕ → Except ε (α × ℕ)) (next : List σ → ℕ → Except ε (β × ℕ))
    (data : List σ) (offset : ℕ) : Except ε ((α × β) × ℕ) := do
  let (a, offset) ← read data offset
  let (b, offset) ← next data offset
  return ((a, b), offset)

/-- A reader as often as there are elements. -/
def readMany (read : List σ → ℕ → Except ε (α × ℕ)) :
    ℕ → List σ → ℕ → Except ε (List α × ℕ)
  | 0, _, offset => .ok ([], offset)
  | n + 1, data, offset => do
    let (v, offset) ← read data offset
    let (vs, offset) ← readMany read n data offset
    return (v :: vs, offset)

theorem Reads.seq {read : List σ → ℕ → Except ε (α × ℕ)} {L : Layout σ α}
    {next : List σ → ℕ → Except ε (β × ℕ)} {M : Layout σ β} (hread : Reads read L)
    (hnext : Reads next M) : Reads (readSeq read next) (L.seq M) := by
  rintro data offset ⟨a, b⟩ stop
  constructor
  · intro h
    obtain ⟨⟨a', mid⟩, ha, h⟩ := bind_ok h
    obtain ⟨⟨b', stop'⟩, hb, h⟩ := bind_ok h
    obtain ⟨rfl, rfl, rfl⟩ : a' = a ∧ b' = b ∧ stop' = stop := by
      simpa [and_assoc] using Except.ok.inj h
    obtain ⟨hvalid, hseg, rfl⟩ := (hread data offset a' mid).mp ha
    obtain ⟨hvalid', hseg', rfl⟩ := (hnext data _ b' stop').mp hb
    refine ⟨⟨hvalid, hvalid'⟩, segment_append.mpr ⟨hseg, hseg'⟩, ?_⟩
    simp only [Layout.seq, List.length_append]
    omega
  · rintro ⟨⟨hvalid, hvalid'⟩, hseg, rfl⟩
    obtain ⟨hseg, hseg'⟩ := segment_append.mp hseg
    have ha := (hread data offset a _).mpr ⟨hvalid, hseg, rfl⟩
    have hb := (hnext data _ b _).mpr ⟨hvalid', hseg', rfl⟩
    unfold readSeq
    rw [ha, ok_bind]
    change (next data _ >>= _) = _
    rw [hb, ok_bind]
    simp only [Layout.seq, List.length_append, Nat.add_assoc]
    rfl

theorem Reads.many {read : List σ → ℕ → Except ε (α × ℕ)} {L : Layout σ α} (hread : Reads read L)
    (n : ℕ) : Reads (readMany read n) (L.replicate n) := by
  induction n with
  | zero =>
    intro data offset vs stop
    constructor
    · intro h
      obtain ⟨rfl, rfl⟩ : [] = vs ∧ offset = stop := by simpa [readMany] using h
      exact ⟨⟨rfl, by simp⟩, List.nil_prefix, rfl⟩
    · rintro ⟨⟨hlen, -⟩, -, rfl⟩
      obtain rfl := List.length_eq_zero_iff.mp hlen
      rfl
  | succ n ih =>
    intro data offset vs stop
    constructor
    · intro h
      obtain ⟨⟨v, mid⟩, hv, h⟩ := bind_ok h
      obtain ⟨⟨rest, stop'⟩, hrest, h⟩ := bind_ok h
      obtain ⟨rfl, rfl⟩ : v :: rest = vs ∧ stop' = stop := by simpa using Except.ok.inj h
      obtain ⟨hvalid, hseg, rfl⟩ := (hread data offset v mid).mp hv
      obtain ⟨⟨hlen, hall⟩, hseg', rfl⟩ := (ih data _ rest stop').mp hrest
      refine ⟨⟨by rw [List.length_cons, hlen], ?_⟩, ?_, ?_⟩
      · intro w hw
        rcases List.mem_cons.mp hw with rfl | hw
        · exact hvalid
        · exact hall w hw
      · exact segment_append.mpr ⟨hseg, hseg'⟩
      · simp only [Layout.replicate, List.flatMap_cons, List.length_append]
        omega
    · rintro ⟨⟨hlen, hall⟩, hseg, rfl⟩
      obtain ⟨v, rest, rfl⟩ := List.exists_cons_of_length_eq_add_one hlen
      obtain ⟨hseg, hseg'⟩ := segment_append.mp hseg
      have hv := (hread data offset v _).mpr ⟨hall v List.mem_cons_self, hseg, rfl⟩
      have hrest := (ih data _ rest _).mpr
        ⟨⟨by simpa using hlen, fun w hw => hall w (List.mem_cons_of_mem _ hw)⟩, hseg', rfl⟩
      rw [readMany, hv, ok_bind]
      change (readMany read n data _ >>= _) = _
      rw [hrest, ok_bind]
      simp only [Layout.replicate, List.flatMap_cons, List.length_append, Nat.add_assoc]
      rfl

end PrinterV1
