import Mathlib.Data.Int.Notation
import Mathlib.Data.List.Nodup
import Mathlib.Data.List.Perm.Subperm
import Mathlib.Tactic.Common

/-!
# Keyed tables

A table is a list of rows whose keys are pairwise different; the field
`nodup` carries the primary key. `updateWhere` and `updateKey` are the effects
of an `UPDATE` that leaves the key alone, `insert` is the effect of an
`INSERT` under a fresh key, and `nextRowid` is the key SQLite chooses for a
table whose primary key is its row id.

`Exclusive live slot` says that no two rows are live in one slot; three rules
decide it after an insertion and after an update. `Fits` is what a table with
one more unique column and with checks asks of its rows.
-/

namespace PrinterV1

/-- Rows under a primary key. -/
structure Table {ρ κ : Type*} (key : ρ → κ) where
  rows : List ρ
  nodup : (rows.map key).Nodup

/-- A change of a row that leaves its key alone. -/
structure Update {ρ κ : Type*} (key : ρ → κ) where
  apply : ρ → ρ
  key_apply : ∀ r, key (apply r) = key r

namespace Table

variable {ρ κ : Type*} {key : ρ → κ}

def empty : Table key := ⟨[], by simp⟩

@[simp] theorem rows_empty : (empty : Table key).rows = [] := rfl

/-- Two rows under one key are the same row. -/
theorem eq_of_key (t : Table key) {a b : ρ} (ha : a ∈ t.rows) (hb : b ∈ t.rows)
    (h : key a = key b) : a = b :=
  List.inj_on_of_nodup_map t.nodup ha hb h

/-- `UPDATE ... SET f WHERE p`. -/
def updateWhere (t : Table key) (p : ρ → Bool) (u : Update key) : Table key where
  rows := t.rows.map fun r => if p r then u.apply r else r
  nodup := by
    have h : (t.rows.map fun r => if p r then u.apply r else r).map key = t.rows.map key := by
      rw [List.map_map]
      apply List.map_congr_left
      intro r _
      by_cases hp : p r = true <;> simp [hp, u.key_apply]
    rw [h]
    exact t.nodup

/-- The rows an `UPDATE ... WHERE p` counts. -/
def countWhere (t : Table key) (p : ρ → Bool) : ℕ := (t.rows.filter p).length

theorem mem_updateWhere {t : Table key} {p : ρ → Bool} {u : Update key} {r : ρ} :
    r ∈ (t.updateWhere p u).rows ↔ ∃ old ∈ t.rows, (if p old then u.apply old else old) = r := by
  simp [updateWhere]

/-- A row of an updated table was not selected, or is what the update made of one that was. -/
theorem mem_updateWhere_iff {t : Table key} {p : ρ → Bool} {u : Update key} {r : ρ} :
    r ∈ (t.updateWhere p u).rows ↔
      (r ∈ t.rows ∧ p r = false) ∨ ∃ old ∈ t.rows, p old = true ∧ u.apply old = r := by
  rw [mem_updateWhere]
  constructor
  · rintro ⟨old, hold, h⟩
    by_cases hp : p old = true
    · exact Or.inr ⟨old, hold, hp, by simpa [hp] using h⟩
    · obtain rfl : old = r := by simpa [hp] using h
      exact Or.inl ⟨hold, by simpa using hp⟩
  · rintro (⟨hr, hp⟩ | ⟨old, hold, hp, h⟩)
    · exact ⟨r, hr, by simp [hp]⟩
    · exact ⟨old, hold, by simpa [hp] using h⟩

/-- `INSERT` of a row whose key is not in use. -/
def insert (t : Table key) (r : ρ) (h : ∀ old ∈ t.rows, key old ≠ key r) : Table key where
  rows := t.rows ++ [r]
  nodup := by
    rw [List.map_append, List.nodup_append]
    refine ⟨t.nodup, by simp, ?_⟩
    intro k hk k' hk'
    obtain ⟨old, hold, rfl⟩ := List.mem_map.mp hk
    have hr : k' = key r := by simpa using hk'
    rw [hr]
    exact h old hold

@[simp] theorem mem_insert {t : Table key} {r : ρ} {h : ∀ old ∈ t.rows, key old ≠ key r} {x : ρ} :
    x ∈ (t.insert r h).rows ↔ x ∈ t.rows ∨ x = r := by
  simp [insert]

theorem forall_updateWhere {t : Table key} {p : ρ → Bool} {u : Update key} {P : ρ → Prop}
    (ht : ∀ r ∈ t.rows, P r) (hstep : ∀ r ∈ t.rows, p r = true → P r → P (u.apply r)) :
    ∀ r ∈ (t.updateWhere p u).rows, P r := by
  intro r hr
  obtain ⟨old, hold, rfl⟩ := mem_updateWhere.mp hr
  by_cases hp : p old = true
  · rw [if_pos hp]
    exact hstep old hold hp (ht old hold)
  · rw [if_neg hp]
    exact ht old hold

/-- The rows of a kind that an update does not turn into another kind, after it. -/
theorem filter_updateWhere_eq_map {t : Table key} {p q : ρ → Bool} {u : Update key}
    (hq : ∀ r, q (u.apply r) = q r) :
    (t.updateWhere p u).rows.filter q =
      (t.rows.filter q).map fun r => if p r then u.apply r else r := by
  have hkind : (q ∘ fun r => if p r then u.apply r else r) = q := by
    funext r
    by_cases hp : p r = true <;> simp [hp, hq]
  rw [updateWhere, List.filter_map, hkind]

/-- They stay as they are exactly when the update leaves each of them alone. -/
theorem filter_updateWhere_iff {t : Table key} {p q : ρ → Bool} {u : Update key}
    (hq : ∀ r, q (u.apply r) = q r) :
    (t.updateWhere p u).rows.filter q = t.rows.filter q ↔
      ∀ r ∈ t.rows, p r = true → q r = true → u.apply r = r := by
  have hself : (t.rows.filter q).map id = t.rows.filter q := List.map_id _
  rw [filter_updateWhere_eq_map hq]
  nth_rewrite 2 [← hself]
  rw [List.map_inj_left]
  constructor
  · intro h r hr hp hk
    simpa [hp] using h r (List.mem_filter.mpr ⟨hr, hk⟩)
  · intro h r hr
    obtain ⟨hr, hk⟩ := List.mem_filter.mp hr
    by_cases hp : p r = true
    · simpa [hp] using h r hr hp hk
    · simp [hp]

/-- An update of rows of one kind leaves the rows of the other kinds. -/
theorem filter_updateWhere {t : Table key} {p q : ρ → Bool} {u : Update key}
    (hq : ∀ r, q (u.apply r) = q r) (hpq : ∀ r ∈ t.rows, p r = true → q r = false) :
    (t.updateWhere p u).rows.filter q = t.rows.filter q := by
  rw [filter_updateWhere_iff hq]
  intro r hr hp hk
  rw [hpq r hr hp] at hk
  cases hk

/-- Rows of a kind that all have one key are one row. -/
theorem filter_eq_singleton {t : Table key} {q : ρ → Bool} {r : ρ} (hr : r ∈ t.rows)
    (hq : q r = true) (hone : ∀ x ∈ t.rows, q x = true → key x = key r) :
    t.rows.filter q = [r] := by
  have hnodup : (t.rows.filter q).Nodup := t.nodup.of_map.filter q
  have hsame : ∀ x ∈ t.rows.filter q, x = r := by
    intro x hx
    obtain ⟨hx, hqx⟩ := List.mem_filter.mp hx
    exact t.eq_of_key hx hr (hone x hx hqx)
  have hmem : r ∈ t.rows.filter q := List.mem_filter.mpr ⟨hr, hq⟩
  cases hfilter : t.rows.filter q with
  | nil => simp [hfilter] at hmem
  | cons x rest =>
    rw [hfilter] at hnodup hsame
    cases rest with
    | nil => rw [hsame x (by simp)]
    | cons y rest =>
      have hne : x ≠ y := fun h => by simp [h] at hnodup
      exact absurd ((hsame x (by simp)).trans (hsame y (by simp)).symm) hne

/-- Whether a row of a kind is there does not change with an update that keeps the kind. -/
theorem any_updateWhere {t : Table key} {p q : ρ → Bool} {u : Update key}
    (hq : ∀ r, q (u.apply r) = q r) : (t.updateWhere p u).rows.any q = t.rows.any q := by
  have hkind : (q ∘ fun r => if p r then u.apply r else r) = q := by
    funext r
    by_cases hp : p r = true <;> simp [hp, hq]
  rw [updateWhere, List.any_map, hkind]

/-- An update that finds no row changes nothing. -/
theorem updateWhere_of_none {t : Table key} {p : ρ → Bool} {u : Update key}
    (h : ∀ r ∈ t.rows, p r = false) : t.updateWhere p u = t := by
  have hrows : (t.rows.map fun r => if p r then u.apply r else r) = t.rows := by
    conv_rhs => rw [← List.map_id t.rows]
    apply List.map_congr_left
    intro r hr
    simp [h r hr]
  cases t
  simpa [updateWhere] using hrows

section Keeps

variable {ended : ρ → Prop}

/-- The rows of a kind stay, every column of them. -/
def Keeps (ended : ρ → Prop) (t t' : Table key) : Prop := ∀ r ∈ t.rows, ended r → r ∈ t'.rows

theorem Keeps.refl (t : Table key) : t.Keeps ended t := fun _ hr _ => hr

theorem Keeps.trans {a b c : Table key} (hab : a.Keeps ended b) (hbc : b.Keeps ended c) :
    a.Keeps ended c := fun r hr h => hbc r (hab r hr h) h

theorem Keeps.updateWhere {t : Table key} {p : ρ → Bool} {u : Update key}
    (h : ∀ r ∈ t.rows, p r = true → ¬ended r) : t.Keeps ended (t.updateWhere p u) := by
  intro r hr hended
  have hp : p r = false := by
    by_contra hp
    exact h r hr (by simpa using hp) hended
  exact mem_updateWhere_iff.mpr (Or.inl ⟨hr, hp⟩)

end Keeps

theorem countWhere_eq_zero_iff {t : Table key} {p : ρ → Bool} :
    t.countWhere p = 0 ↔ ∀ r ∈ t.rows, p r = false := by
  simp [countWhere, List.filter_eq_nil_iff]

theorem forall_insert {t : Table key} {r : ρ} {h : ∀ old ∈ t.rows, key old ≠ key r} {P : ρ → Prop}
    (ht : ∀ r ∈ t.rows, P r) (hr : P r) : ∀ x ∈ (t.insert r h).rows, P x := by
  intro x hx
  rcases mem_insert.mp hx with hold | rfl
  · exact ht x hold
  · exact hr

variable [DecidableEq κ]

/-- The row under a key, if there is one. -/
def find? (t : Table key) (k : κ) : Option ρ := t.rows.find? fun r => key r = k

theorem find?_eq_some_iff {t : Table key} {k : κ} {r : ρ} :
    t.find? k = some r ↔ r ∈ t.rows ∧ key r = k := by
  constructor
  · intro h
    exact ⟨List.mem_of_find?_eq_some h, by simpa using List.find?_some h⟩
  · rintro ⟨hr, hk⟩
    cases h : t.find? k with
    | none =>
      have hnone := List.find?_eq_none.mp h r hr
      simp [hk] at hnone
    | some r' =>
      have hr' : r' ∈ t.rows := List.mem_of_find?_eq_some h
      have hk' : key r' = k := by simpa using List.find?_some h
      rw [t.eq_of_key hr' hr (hk'.trans hk.symm)]

theorem find?_eq_none_iff {t : Table key} {k : κ} :
    t.find? k = none ↔ ∀ r ∈ t.rows, key r ≠ k := by
  simp [find?]

/-- `UPDATE ... SET f WHERE key = k`. -/
def updateKey (t : Table key) (k : κ) (u : Update key) : Table key :=
  t.updateWhere (fun r => key r = k) u

theorem mem_updateKey {t : Table key} {k : κ} {u : Update key} {r : ρ} :
    r ∈ (t.updateKey k u).rows ↔
      (r ∈ t.rows ∧ key r ≠ k) ∨ ∃ old ∈ t.rows, key old = k ∧ u.apply old = r := by
  rw [updateKey, mem_updateWhere]
  constructor
  · rintro ⟨old, hold, h⟩
    by_cases hk : key old = k
    · exact Or.inr ⟨old, hold, hk, by simpa [hk] using h⟩
    · have hr : old = r := by simpa [hk] using h
      exact Or.inl ⟨hr ▸ hold, hr ▸ hk⟩
  · rintro (⟨hr, hk⟩ | ⟨old, hold, hk, h⟩)
    · exact ⟨r, hr, by simp [hk]⟩
    · exact ⟨old, hold, by simpa [hk] using h⟩

theorem find?_updateWhere {t : Table key} {p : ρ → Bool} {u : Update key} (k : κ) :
    (t.updateWhere p u).find? k = (t.find? k).map fun r => if p r then u.apply r else r := by
  cases h : t.find? k with
  | none =>
    rw [Option.map_none, find?_eq_none_iff]
    intro r hr
    obtain ⟨old, hold, rfl⟩ := mem_updateWhere.mp hr
    have hk := find?_eq_none_iff.mp h old hold
    by_cases hp : p old = true <;> simpa [hp, u.key_apply] using hk
  | some r =>
    rw [Option.map_some, find?_eq_some_iff]
    obtain ⟨hr, hk⟩ := find?_eq_some_iff.mp h
    refine ⟨mem_updateWhere.mpr ⟨r, hr, rfl⟩, ?_⟩
    by_cases hp : p r = true <;> simpa [hp, u.key_apply] using hk

theorem find?_updateKey {t : Table key} {k : κ} {u : Update key} (k' : κ) :
    (t.updateKey k u).find? k' = (t.find? k').map fun r => if k' = k then u.apply r else r := by
  rw [updateKey, find?_updateWhere]
  apply Option.map_congr
  intro r hr
  have hk : key r = k' := (find?_eq_some_iff.mp hr).2
  simp [hk]

theorem Keeps.updateKey {ended : ρ → Prop} {t : Table key} {k : κ} {u : Update key}
    (h : ∀ r, t.find? k = some r → ¬ended r) : t.Keeps ended (t.updateKey k u) :=
  Keeps.updateWhere fun r hr hk => h r (find?_eq_some_iff.mpr ⟨hr, by simpa using hk⟩)

theorem find?_insert {t : Table key} {r : ρ} {h : ∀ old ∈ t.rows, key old ≠ key r} (k : κ) :
    (t.insert r h).find? k = if k = key r then some r else t.find? k := by
  split_ifs with hk
  · exact find?_eq_some_iff.mpr ⟨by simp, hk.symm⟩
  · simp [find?, insert, List.find?_append, Ne.symm hk]

/-- A row stays where it is when another one is inserted. -/
theorem find?_insert_of_some {t : Table key} {r : ρ} {h : ∀ old ∈ t.rows, key old ≠ key r} {k : κ}
    {x : ρ} (hx : t.find? k = some x) : (t.insert r h).find? k = some x := by
  obtain ⟨hmem, hk⟩ := find?_eq_some_iff.mp hx
  exact find?_eq_some_iff.mpr ⟨mem_insert.mpr (Or.inl hmem), hk⟩

end Table

/-- The row id SQLite gives the next row: one past the largest, or one. -/
def nextRowid (ids : List ℤ) : ℤ :=
  match ids.max? with
  | none => 1
  | some largest => largest + 1

theorem lt_nextRowid {ids : List ℤ} {x : ℤ} (hx : x ∈ ids) : x < nextRowid ids := by
  unfold nextRowid
  cases h : ids.max? with
  | none =>
    rw [List.max?_eq_none_iff.mp h] at hx
    simp at hx
  | some largest =>
    have hle : x ≤ largest := (List.max?_eq_some_iff.mp h).2 x hx
    simp only
    omega

namespace Table

variable {ρ κ σ : Type*} {key : ρ → κ}

/-- No two rows are live in one slot. -/
def Exclusive (t : Table key) (live : ρ → Prop) (slot : ρ → σ) : Prop :=
  ∀ a ∈ t.rows, ∀ b ∈ t.rows, live a → live b → slot a = slot b → key a = key b

variable {live : ρ → Prop} {slot : ρ → σ}

theorem exclusive_empty : (empty : Table key).Exclusive live slot := by
  intro a ha
  simp at ha

theorem exclusive_insert_iff {t : Table key} {r : ρ} {h : ∀ old ∈ t.rows, key old ≠ key r}
    (ht : t.Exclusive live slot) :
    (t.insert r h).Exclusive live slot ↔ (live r → ∀ b ∈ t.rows, live b → slot b ≠ slot r) := by
  constructor
  · intro hx hr b hb hlb hs
    exact h b hb (hx b (by simp [hb]) r (by simp) hlb hr hs)
  · intro hx a ha b hb hla hlb hs
    rcases mem_insert.mp ha with ha' | rfl <;> rcases mem_insert.mp hb with hb' | rfl
    · exact ht a ha' b hb' hla hlb hs
    · exact absurd hs (hx hlb a ha' hla)
    · exact absurd hs.symm (hx hla b hb' hlb)
    · rfl

/-- An update that makes no row live and moves no live row keeps the slots. -/
theorem Exclusive.updateWhere {t : Table key} {p : ρ → Bool} {u : Update key}
    (ht : t.Exclusive live slot)
    (h : ∀ r ∈ t.rows, p r = true → live (u.apply r) → live r ∧ slot (u.apply r) = slot r) :
    (t.updateWhere p u).Exclusive live slot := by
  have hback : ∀ old ∈ t.rows, live (if p old then u.apply old else old) →
      live old ∧ slot (if p old then u.apply old else old) = slot old ∧
        key (if p old then u.apply old else old) = key old := by
    intro old hold hl
    by_cases hp : p old = true
    · rw [if_pos hp] at hl ⊢
      exact ⟨(h old hold hp hl).1, (h old hold hp hl).2, u.key_apply old⟩
    · rw [if_neg hp] at hl ⊢
      exact ⟨hl, rfl, rfl⟩
  intro a ha b hb hla hlb hs
  obtain ⟨a', ha', rfl⟩ := mem_updateWhere.mp ha
  obtain ⟨b', hb', rfl⟩ := mem_updateWhere.mp hb
  obtain ⟨hla', hsa, hka⟩ := hback a' ha' hla
  obtain ⟨hlb', hsb, hkb⟩ := hback b' hb' hlb
  rw [hka, hkb]
  exact ht a' ha' b' hb' hla' hlb' (by rw [← hsa, ← hsb, hs])

/-- An update of one row keeps the slots exactly when it puts the row live into
no slot that another row holds. -/
theorem exclusive_updateKey_iff [DecidableEq κ] {t : Table key} {k : κ} {u : Update key}
    (ht : t.Exclusive live slot) :
    (t.updateKey k u).Exclusive live slot ↔
      ∀ r ∈ t.rows, key r = k → live (u.apply r) →
        ∀ b ∈ t.rows, key b ≠ k → live b → slot b ≠ slot (u.apply r) := by
  constructor
  · intro hx r hr hk hl b hb hkb hlb hs
    have hb' : b ∈ (t.updateKey k u).rows := mem_updateKey.mpr (Or.inl ⟨hb, hkb⟩)
    have hr' : u.apply r ∈ (t.updateKey k u).rows := mem_updateKey.mpr (Or.inr ⟨r, hr, hk, rfl⟩)
    exact hkb ((hx b hb' (u.apply r) hr' hlb hl hs).trans ((u.key_apply r).trans hk))
  · intro hx a ha b hb hla hlb hs
    rcases mem_updateKey.mp ha with ⟨ha, hka⟩ | ⟨a', ha', hka, rfl⟩ <;>
      rcases mem_updateKey.mp hb with ⟨hb, hkb⟩ | ⟨b', hb', hkb, rfl⟩
    · exact ht a ha b hb hla hlb hs
    · exact absurd hs (hx b' hb' hkb hlb a ha hka hla)
    · exact absurd hs.symm (hx a' ha' hka hla b hb hkb hlb)
    · rw [u.key_apply, u.key_apply, hka, hkb]

/-- Rows that a table takes which has a key, a column without repetitions and checks of a row. -/
structure Fits {υ : Type*} (key : ρ → κ) (unique : ρ → υ) (checked : ρ → Prop) (rows : List ρ) :
    Prop where
  keys : (rows.map key).Nodup
  unique : (rows.map unique).Nodup
  checked : ∀ r ∈ rows, checked r

namespace Fits

variable {υ : Type*} {unique : ρ → υ} {checked : ρ → Prop} {rows : List ρ} {row : ρ}

theorem of_subperm {rows' : List ρ} (h : Fits key unique checked rows')
    (hsub : List.Subperm rows rows') : Fits key unique checked rows := by
  obtain ⟨xs, hperm, hxs⟩ := hsub
  refine ⟨?_, ?_, fun r hr => h.checked r (hxs.subset (hperm.mem_iff.mpr hr))⟩
  · exact ((hperm.map _).nodup_iff).mp (h.keys.sublist (hxs.map _))
  · exact ((hperm.map _).nodup_iff).mp (h.unique.sublist (hxs.map _))

/-- The last row is new under its key. -/
theorem key_ne (h : Fits key unique checked (rows ++ [row])) : ∀ old ∈ rows, key old ≠ key row := by
  have hnodup := h.keys
  rw [List.map_append, List.nodup_append] at hnodup
  exact fun old hold => hnodup.2.2 _ (List.mem_map_of_mem hold) _ (by simp)

/-- The last row is new in the column without repetitions. -/
theorem unique_ne (h : Fits key unique checked (rows ++ [row])) :
    ∀ old ∈ rows, unique old ≠ unique row := by
  have hnodup := h.unique
  rw [List.map_append, List.nodup_append] at hnodup
  exact fun old hold => hnodup.2.2 _ (List.mem_map_of_mem hold) _ (by simp)

theorem checked_last (h : Fits key unique checked (rows ++ [row])) : checked row :=
  h.checked row (by simp)

end Fits

end Table
end PrinterV1
