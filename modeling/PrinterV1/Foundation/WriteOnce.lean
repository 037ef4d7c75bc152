import PrinterV1.Foundation.Tables
import Mathlib.Logic.Function.Basic

/-!
# Write-once stores

Several keyed tables, and writes that put one row down under a key that is not in
use. A row that is stored under the key answers the write when it agrees with the
new one, by whatever comparison the writer makes; a writer may also answer a write
without putting its row down. The last theorem says what comparison a writer has to
make so that a repeat succeeds exactly where it repeats the stored row.
-/

namespace PrinterV1.WriteOnce

variable {K : Type*} {ρ κ : K → Type*}

/-- A table for every kind of row. -/
abbrev Store (key : (k : K) → ρ k → κ k) := (k : K) → Table (key k)

variable {key : (k : K) → ρ k → κ k} [∀ k, DecidableEq (κ k)] {ε α : Type*}

/-- How a row is written: what refuses it before its key is looked up, how it is compared with
the row under its key, what answers in its place where there is none, and what the write
returns. -/
structure Writer (ρ : Type*) (ε α : Type*) where
  gate : ρ → Option ε
  agrees : ρ → ρ → Bool
  conflict : ε
  instead : ρ → Option (Except ε Unit)
  result : ρ → α

/-- One write to one table. The database takes the row or refuses it. -/
def writeRow {ρ κ : Type*} {key : ρ → κ} [DecidableEq κ] (t : Table key) (w : Writer ρ ε α)
    (row : ρ) (refusal : Option ε) : Except ε α × Table key :=
  match w.gate row with
  | some e => (.error e, t)
  | none =>
    match h : t.find? (key row) with
    | some old => (if w.agrees old row then .ok (w.result row) else .error w.conflict, t)
    | none =>
      match w.instead row, refusal with
      | some answer, _ => (answer.map fun _ => w.result row, t)
      | none, some e => (.error e, t)
      | none, none => (.ok (w.result row), t.insert row (Table.find?_eq_none_iff.mp h))

variable [DecidableEq K]

/-- A write of a row that its arguments describe, where they describe one. -/
def write (s : Store key) (k : K) (w : Writer (ρ k) ε α) (given : Except ε (ρ k))
    (refusal : Option ε) : Except ε α × Store key :=
  match given with
  | .error e => (.error e, s)
  | .ok row =>
    let r := writeRow (s k) w row refusal
    (r.1, Function.update s k r.2)

/-- What a write-once store promises of a write: every stored row stays as it is; a write under
a key that is in use succeeds exactly where it repeats what is stored; a write that raises
changes nothing; and one that succeeds leaves a row under its key. -/
structure Once (same : (k : K) → ρ k → ρ k → Prop) (s : Store key) (k : K)
    (given : Except ε (ρ k)) (r : Except ε α × Store key) : Prop where
  kept : ∀ j, (s j).rows <+: (r.2 j).rows
  repeated : ∀ row, given = .ok row → ∀ old ∈ (s k).rows, key k old = key k row →
    ((∃ a, r.1 = .ok a) ↔ same k old row)
  raised : ∀ e, r.1 = .error e → r.2 = s
  stored : ∀ a, r.1 = .ok a → ∃ row, given = .ok row ∧ ∃ x ∈ (r.2 k).rows, key k x = key k row

section Row

variable {ρ κ : Type*} {key : ρ → κ} [DecidableEq κ] {t : Table key} {w : Writer ρ ε α} {row : ρ}
variable {refusal : Option ε}

/-- A write puts its row down or leaves the table as it is. -/
theorem writeRow_cases (t : Table key) (w : Writer ρ ε α) (row : ρ) (refusal : Option ε) :
    (writeRow t w row refusal).2 = t ∨
      w.gate row = none ∧ t.find? (key row) = none ∧
        (writeRow t w row refusal).1 = .ok (w.result row) ∧
        (writeRow t w row refusal).2.rows = t.rows ++ [row] := by
  unfold writeRow
  split
  · exact Or.inl rfl
  · rename_i hgate
    split
    · exact Or.inl rfl
    · rename_i hfind
      split
      · exact Or.inl rfl
      · exact Or.inl rfl
      · exact Or.inr ⟨hgate, hfind, rfl, rfl⟩

theorem writeRow_prefix : t.rows <+: (writeRow t w row refusal).2.rows := by
  rcases writeRow_cases t w row refusal with h | ⟨_, _, _, h⟩
  · exact ⟨[], by rw [h, List.append_nil]⟩
  · rw [h]
    exact List.prefix_append _ _

/-- The rows after a write. -/
theorem mem_writeRow {x : ρ} (hx : x ∈ (writeRow t w row refusal).2.rows) :
    x ∈ t.rows ∨ x = row ∧ w.gate row = none := by
  rcases writeRow_cases t w row refusal with h | ⟨hgate, _, _, h⟩
  · rw [h] at hx
    exact Or.inl hx
  · rw [h, List.mem_append, List.mem_singleton] at hx
    exact hx.imp_right fun hrow => ⟨hrow, hgate⟩

theorem writeRow_raised {e : ε} (h : (writeRow t w row refusal).1 = .error e) :
    (writeRow t w row refusal).2 = t := by
  rcases writeRow_cases t w row refusal with hsame | ⟨_, _, hok, _⟩
  · exact hsame
  · rw [hok] at h
    cases h

/-- A write under a key that is in use succeeds where the stored row agrees. -/
theorem writeRow_repeated {old : ρ} (hfind : t.find? (key row) = some old) :
    (∃ a, (writeRow t w row refusal).1 = .ok a) ↔
      w.gate row = none ∧ w.agrees old row = true := by
  unfold writeRow
  cases hgate : w.gate row with
  | some e => simp
  | none =>
    dsimp only
    split
    · rename_i old' hfind'
      obtain rfl := Option.some.inj (hfind'.symm.trans hfind)
      by_cases hagrees : w.agrees old' row = true <;> simp [hagrees]
    · rename_i hnone
      rw [hfind] at hnone
      cases hnone

/-- A write under a key that is in use is answered by the row that is there. -/
theorem writeRow_found {old : ρ} (hgate : w.gate row = none)
    (hfind : t.find? (key row) = some old) :
    writeRow t w row refusal =
      (if w.agrees old row then .ok (w.result row) else .error w.conflict, t) := by
  unfold writeRow
  rw [hgate]
  dsimp only
  split
  · rename_i old' hfind'
    obtain rfl := Option.some.inj (hfind'.symm.trans hfind)
    rfl
  · rename_i hnone
    rw [hfind] at hnone
    cases hnone

/-- A write under a fresh key that succeeds put its row down, or was answered in its place. -/
theorem writeRow_fresh (hfind : t.find? (key row) = none) {a : α}
    (h : (writeRow t w row refusal).1 = .ok a) :
    w.gate row = none ∧ (w.instead row = some (.ok ()) ∧ (writeRow t w row refusal).2 = t ∨
      row ∈ (writeRow t w row refusal).2.rows) := by
  unfold writeRow at h ⊢
  cases hgate : w.gate row with
  | some e =>
    rw [hgate] at h
    cases h
  | none =>
    rw [hgate] at h
    refine ⟨rfl, ?_⟩
    dsimp only at h ⊢
    split at h
    · rename_i old hfind'
      rw [hfind] at hfind'
      cases hfind'
    · split at h
      · rename_i answer hinstead
        cases answer with
        | error e => cases h
        | ok u => exact Or.inl ⟨hinstead, rfl⟩
      · cases h
      · exact Or.inr (by simp)

end Row

variable {s : Store key} {k : K} {w : Writer (ρ k) ε α} {given : Except ε (ρ k)}
variable {refusal : Option ε}

/-- A property of the rows that are there, and of the row that is written. -/
theorem forall_write {P : (k : K) → ρ k → Prop} (hs : ∀ j, ∀ x ∈ (s j).rows, P j x)
    (hnew : ∀ row, given = .ok row → w.gate row = none → P k row) :
    ∀ j, ∀ x ∈ ((write s k w given refusal).2 j).rows, P j x := by
  intro j x hx
  unfold write at hx
  cases given with
  | error e => exact hs j x hx
  | ok row =>
    dsimp only at hx
    by_cases hj : j = k
    · subst hj
      rw [Function.update_self] at hx
      rcases mem_writeRow hx with hold | ⟨rfl, hgate⟩
      · exact hs j x hold
      · exact hnew x rfl hgate
    · rw [Function.update_of_ne hj] at hx
      exact hs j x hx

theorem write_kept (j : K) : (s j).rows <+: ((write s k w given refusal).2 j).rows := by
  unfold write
  cases given with
  | error e => exact List.prefix_refl _
  | ok row =>
    dsimp only
    by_cases hj : j = k
    · subst hj
      rw [Function.update_self]
      exact writeRow_prefix
    · exact ⟨[], by rw [Function.update_of_ne hj, List.append_nil]⟩

theorem write_raised {e : ε} (h : (write s k w given refusal).1 = .error e) :
    (write s k w given refusal).2 = s := by
  unfold write at h ⊢
  cases given with
  | error e => rfl
  | ok row =>
    dsimp only at h ⊢
    rw [writeRow_raised h, Function.update_eq_self]

/-- The writes of a writer are write-once exactly where its comparison finds the repeats, and
nothing answers in the place of a row that is not there. -/
theorem once_write_iff {same : (k : K) → ρ k → ρ k → Prop} :
    Once same s k given (write s k w given refusal) ↔ ∀ row, given = .ok row →
      (∀ old ∈ (s k).rows, key k old = key k row →
        (w.gate row = none ∧ w.agrees old row = true ↔ same k old row)) ∧
      ((∀ old ∈ (s k).rows, key k old ≠ key k row) → w.gate row = none →
        w.instead row ≠ some (.ok ())) := by
  constructor
  · rintro h row rfl
    refine ⟨fun old hold hkey => ?_, fun hfresh hgate hinstead => ?_⟩
    · rw [← h.repeated row rfl old hold hkey]
      exact (writeRow_repeated (Table.find?_eq_some_iff.mpr ⟨hold, hkey⟩)).symm
    · have hfind : (s k).find? (key k row) = none := Table.find?_eq_none_iff.mpr hfresh
      have hanswer : writeRow (s k) w row refusal = (.ok (w.result row), s k) := by
        unfold writeRow
        rw [hgate]
        dsimp only
        split
        · rename_i old hfind'
          rw [hfind] at hfind'
          cases hfind'
        · simp [hinstead, Except.map]
      have hsame : write s k w (.ok row) refusal = (.ok (w.result row), s) := by
        simp [write, hanswer]
      obtain ⟨row', hrow, x, hx, hkey⟩ := h.stored (w.result row) (by rw [hsame])
      obtain rfl := Except.ok.inj hrow
      rw [hsame] at hx
      exact hfresh x hx hkey
  · intro h
    refine ⟨write_kept, ?_, fun e => write_raised, ?_⟩
    · rintro row rfl old hold hkey
      rw [← (h row rfl).1 old hold hkey]
      exact writeRow_repeated (Table.find?_eq_some_iff.mpr ⟨hold, hkey⟩)
    · intro a ha
      cases given with
      | error e => cases ha
      | ok row =>
        refine ⟨row, rfl, ?_⟩
        have hwrite : (write s k w (.ok row) refusal).2 k = (writeRow (s k) w row refusal).2 := by
          simp [write]
        rw [hwrite]
        cases hfind : (s k).find? (key k row) with
        | some old =>
          obtain ⟨hold, hkey⟩ := Table.find?_eq_some_iff.mp hfind
          exact ⟨old, writeRow_prefix.subset hold, hkey⟩
        | none =>
          obtain ⟨hgate, ⟨hinstead, _⟩ | hrow⟩ := writeRow_fresh hfind ha
          · exact absurd hinstead ((h row rfl).2 (Table.find?_eq_none_iff.mp hfind) hgate)
          · exact ⟨row, hrow, rfl⟩

/-- A writer that nothing refuses and nothing answers for but the row under its key. -/
theorem once_write_iff_of_plain {same : (k : K) → ρ k → ρ k → Prop}
    (hgate : ∀ row, w.gate row = none) (hinstead : ∀ row, w.instead row ≠ some (.ok ())) :
    Once same s k given (write s k w given refusal) ↔ ∀ row, given = .ok row →
      ∀ old ∈ (s k).rows, key k old = key k row → (w.agrees old row = true ↔ same k old row) := by
  rw [once_write_iff]
  simp only [hgate, hinstead, true_and, ne_eq, not_false_eq_true, implies_true, and_true]

end PrinterV1.WriteOnce
