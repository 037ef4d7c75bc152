import PrinterV1.Foundation.Faults
import PrinterV1.OperatorCli.CandidateLease

/-!
# What the calls on a lease keep

Each call is related to what it leaves alone, to the agreement of a lease with
its integration, and to the register of one lease that the table of leases
stands for.
-/

namespace PrinterV1.OperatorCli.CandidateLease

open Python Faults

/-! ## Statements -/

section Statements

variable {db db' : Db}

theorem write_ok {integrations : Integrations} {leases : Leases}
    (h : Db.write integrations leases = .ok db) :
    db.integrations = integrations ∧ db.leases = leases := by
  unfold Db.write at h
  split_ifs at h
  obtain rfl := Except.ok.inj h
  exact ⟨rfl, rfl⟩

theorem insertIntegration_ok {row : Integration} (h : db.insertIntegration row = .ok db') :
    ∃ hfresh, db'.integrations = db.integrations.insert row hfresh ∧ db'.leases = db.leases := by
  unfold Db.insertIntegration at h
  split_ifs at h with hfresh
  exact ⟨hfresh, write_ok h⟩

theorem insertLease_ok {row : Lease} (h : db.insertLease row = .ok db') :
    ∃ hfresh, db'.integrations = db.integrations ∧ db'.leases = db.leases.insert row hfresh := by
  unfold Db.insertLease at h
  split_ifs at h with hfresh
  exact ⟨hfresh, write_ok h⟩

theorem not_any_ended_iff {ρ : Type} {rows : List ρ} {p : ρ → Bool} {ending : ρ → Option Ending} :
    (¬(rows.any fun r => p r && (ending r).isSome) = true) ↔
      ∀ r ∈ rows, p r = true → ending r = none := by
  simp only [List.any_eq_true, Bool.and_eq_true, Option.isSome_iff_ne_none, not_exists, not_and,
    not_not]

theorem updateIntegrations_ok {p : Integration → Bool} {u : Update Integration.integrationId}
    (h : db.updateIntegrations p u = .ok db') :
    (∀ r ∈ db.integrations.rows, p r = true → r.ending = none) ∧
      db'.integrations = db.integrations.updateWhere p u ∧ db'.leases = db.leases := by
  unfold Db.updateIntegrations at h
  split_ifs at h with hended
  exact ⟨not_any_ended_iff.mp hended, write_ok h⟩

theorem updateLeases_ok {p : Lease → Bool} {u : Update Lease.leaseId}
    (h : db.updateLeases p u = .ok db') :
    (∀ r ∈ db.leases.rows, p r = true → r.Live) ∧
      db'.integrations = db.integrations ∧ db'.leases = db.leases.updateWhere p u := by
  unfold Db.updateLeases at h
  split_ifs at h with hended
  exact ⟨not_any_ended_iff.mp hended, write_ok h⟩

end Statements

/-! ## What a call leaves alone -/

/-- Terminal rows stay, no identity is lost, a lease that is new is on an integration of the given
kind, and so is an integration that changed and had no lease. -/
structure Frame (touched : String → Prop) (db db' : Db) : Prop where
  endedIntegrations : db.integrations.Keeps (fun r => r.ending ≠ none) db'.integrations
  endedLeases : db.leases.Keeps (fun r => ¬r.Live) db'.leases
  integrations : ∀ i ∈ db.integrations.rows, ∃ i' ∈ db'.integrations.rows,
    i'.integrationId = i.integrationId ∧ i'.executionId = i.executionId
  leases : ∀ l ∈ db.leases.rows, ∃ l' ∈ db'.leases.rows,
    l'.leaseId = l.leaseId ∧ l'.integrationId = l.integrationId ∧ l'.executionId = l.executionId
  newLeases : ∀ l' ∈ db'.leases.rows, touched l'.integrationId ∨
    ∃ l ∈ db.leases.rows, l.integrationId = l'.integrationId
  others : ∀ i ∈ db.integrations.rows, i ∈ db'.integrations.rows ∨ touched i.integrationId ∨
    ∃ l ∈ db.leases.rows, l.integrationId = i.integrationId

namespace Frame

variable {touched : String → Prop} {a b c : Db}

theorem refl (db : Db) : Frame touched db db where
  endedIntegrations := Table.Keeps.refl _
  endedLeases := Table.Keeps.refl _
  integrations i hi := ⟨i, hi, rfl, rfl⟩
  leases l hl := ⟨l, hl, rfl, rfl, rfl⟩
  newLeases l hl := Or.inr ⟨l, hl, rfl⟩
  others _ hi := Or.inl hi

theorem trans (hab : Frame touched a b) (hbc : Frame touched b c) : Frame touched a c where
  endedIntegrations := hab.endedIntegrations.trans hbc.endedIntegrations
  endedLeases := hab.endedLeases.trans hbc.endedLeases
  integrations i hi := by
    obtain ⟨j, hj, hid, hexec⟩ := hab.integrations i hi
    obtain ⟨k, hk, hid', hexec'⟩ := hbc.integrations j hj
    exact ⟨k, hk, hid'.trans hid, hexec'.trans hexec⟩
  leases l hl := by
    obtain ⟨m, hm, hid, hint, hexec⟩ := hab.leases l hl
    obtain ⟨n, hn, hid', hint', hexec'⟩ := hbc.leases m hm
    exact ⟨n, hn, hid'.trans hid, hint'.trans hint, hexec'.trans hexec⟩
  newLeases l hl := by
    rcases hbc.newLeases l hl with hnew | ⟨m, hm, heq⟩
    · exact Or.inl hnew
    · rcases hab.newLeases m hm with hnew | ⟨k, hk, heq'⟩
      · exact Or.inl (heq ▸ hnew)
      · exact Or.inr ⟨k, hk, heq'.trans heq⟩
  others i hi := by
    rcases hab.others i hi with hi' | hother
    · rcases hbc.others i hi' with hi'' | htouched | ⟨l, hl, hid⟩
      · exact Or.inl hi''
      · exact Or.inr (Or.inl htouched)
      · rw [← hid]
        exact Or.inr (hab.newLeases l hl)
    · exact Or.inr hother

/-- A row that was entered stays entered. -/
theorem entered (h : Frame touched a b) {integrationId executionId : String}
    (hentered : ∃ i ∈ a.integrations.rows, i.integrationId = integrationId ∧
      i.executionId = executionId) :
    ∃ i ∈ b.integrations.rows, i.integrationId = integrationId ∧ i.executionId = executionId := by
  obtain ⟨i, hi, hid, hexec⟩ := hentered
  obtain ⟨i', hi', hid', hexec'⟩ := h.integrations i hi
  exact ⟨i', hi', hid'.trans hid, hexec'.trans hexec⟩

theorem mono {touched' : String → Prop} (h : Frame touched a b)
    (himp : ∀ k, touched k → touched' k) : Frame touched' a b where
  endedIntegrations := h.endedIntegrations
  endedLeases := h.endedLeases
  integrations := h.integrations
  leases := h.leases
  newLeases l hl := (h.newLeases l hl).imp_left (himp _)
  others i hi := (h.others i hi).imp_right fun h' => h'.imp_left (himp _)

end Frame

section Frames

variable {touched : String → Prop} {db db' : Db}

theorem frame_insertIntegration {row : Integration} (h : db.insertIntegration row = .ok db') :
    Frame touched db db' := by
  obtain ⟨hfresh, hint, hleases⟩ := insertIntegration_ok h
  constructor
  · intro r hr _
    rw [hint]
    exact Table.mem_insert.mpr (Or.inl hr)
  · rw [hleases]
    exact Table.Keeps.refl _
  · intro i hi
    refine ⟨i, ?_, rfl, rfl⟩
    rw [hint]
    exact Table.mem_insert.mpr (Or.inl hi)
  · intro l hl
    exact ⟨l, hleases ▸ hl, rfl, rfl, rfl⟩
  · intro l hl
    exact Or.inr ⟨l, hleases ▸ hl, rfl⟩
  · intro i hi
    rw [hint]
    exact Or.inl (Table.mem_insert.mpr (Or.inl hi))

theorem frame_insertLease {row : Lease} (h : db.insertLease row = .ok db')
    (htouched : touched row.integrationId) : Frame touched db db' := by
  obtain ⟨hfresh, hint, hleases⟩ := insertLease_ok h
  constructor
  · rw [hint]
    exact Table.Keeps.refl _
  · intro r hr _
    rw [hleases]
    exact Table.mem_insert.mpr (Or.inl hr)
  · intro i hi
    exact ⟨i, hint ▸ hi, rfl, rfl⟩
  · intro l hl
    refine ⟨l, ?_, rfl, rfl, rfl⟩
    rw [hleases]
    exact Table.mem_insert.mpr (Or.inl hl)
  · intro l hl
    rw [hleases] at hl
    rcases Table.mem_insert.mp hl with hold | rfl
    · exact Or.inr ⟨l, hold, rfl⟩
    · exact Or.inl htouched
  · intro i hi
    exact Or.inl (hint ▸ hi)

theorem frame_updateIntegrations {p : Integration → Bool} {u : Update Integration.integrationId}
    (hu : ∀ r, (u.apply r).executionId = r.executionId)
    (htouched : ∀ r ∈ db.integrations.rows, p r = true → touched r.integrationId ∨
      ∃ l ∈ db.leases.rows, l.integrationId = r.integrationId)
    (h : db.updateIntegrations p u = .ok db') : Frame touched db db' := by
  obtain ⟨hguard, hint, hleases⟩ := updateIntegrations_ok h
  constructor
  · rw [hint]
    exact Table.Keeps.updateWhere fun r hr hp hended => hended (hguard r hr hp)
  · rw [hleases]
    exact Table.Keeps.refl _
  · intro i hi
    refine ⟨if p i then u.apply i else i, ?_, ?_⟩
    · rw [hint]
      exact Table.mem_updateWhere.mpr ⟨i, hi, rfl⟩
    · by_cases hp : p i = true
      · rw [if_pos hp]
        exact ⟨u.key_apply i, hu i⟩
      · rw [if_neg hp]
        exact ⟨rfl, rfl⟩
  · intro l hl
    exact ⟨l, hleases ▸ hl, rfl, rfl, rfl⟩
  · intro l hl
    exact Or.inr ⟨l, hleases ▸ hl, rfl⟩
  · intro i hi
    by_cases hp : p i = true
    · exact Or.inr (htouched i hi hp)
    · left
      rw [hint]
      exact Table.mem_updateWhere_iff.mpr (Or.inl ⟨hi, by simpa using hp⟩)

theorem frame_updateLeases {p : Lease → Bool} {u : Update Lease.leaseId}
    (hu : ∀ r, (u.apply r).integrationId = r.integrationId ∧
      (u.apply r).executionId = r.executionId)
    (h : db.updateLeases p u = .ok db') : Frame touched db db' := by
  obtain ⟨hguard, hint, hleases⟩ := updateLeases_ok h
  have hkept : ∀ l, (if p l then u.apply l else l).leaseId = l.leaseId ∧
      (if p l then u.apply l else l).integrationId = l.integrationId ∧
        (if p l then u.apply l else l).executionId = l.executionId := by
    intro l
    by_cases hp : p l = true
    · rw [if_pos hp]
      exact ⟨u.key_apply l, hu l⟩
    · rw [if_neg hp]
      exact ⟨rfl, rfl, rfl⟩
  constructor
  · rw [hint]
    exact Table.Keeps.refl _
  · rw [hleases]
    exact Table.Keeps.updateWhere fun r hr hp hended => hended (hguard r hr hp)
  · intro i hi
    exact ⟨i, hint ▸ hi, rfl, rfl⟩
  · intro l hl
    refine ⟨if p l then u.apply l else l, ?_, hkept l⟩
    rw [hleases]
    exact Table.mem_updateWhere.mpr ⟨l, hl, rfl⟩
  · intro l hl
    rw [hleases] at hl
    obtain ⟨old, hold, rfl⟩ := Table.mem_updateWhere.mp hl
    exact Or.inr ⟨old, hold, (hkept old).2.1.symm⟩
  · intro i hi
    exact Or.inl (hint ▸ hi)

end Frames

/-! ## The register that the table stands for -/

/-- The row of a grant. -/
structure Matches (l : Lease) (g : Leases.Grant String Instant) : Prop where
  lease : l.leaseId = g.lease
  inRange : InRange g.expiry
  expires : l.leaseExpiresAt = isoformat g.expiry
  state : l.leaseState = if g.stopping then .stopping else .active

theorem Matches.live {l : Lease} {g : Leases.Grant String Instant} (h : Matches l g) : l.Live := by
  unfold Lease.Live Lease.ending
  rw [h.state]
  cases g.stopping <;> rfl

structure Represents (leases : Leases) (r : Leases.Register String Instant) : Prop where
  held : ∀ g, r.holder = some g → ∃ l ∈ leases.rows, Matches l g
  live : ∀ l ∈ leases.rows, l.Live → ∃ g, r.holder = some g ∧ Matches l g
  ended : ∀ k, k ∈ r.ended ↔ ∃ l ∈ leases.rows, l.leaseId = k ∧ ¬l.Live

section Represents

variable {leases leases' : Leases} {r : Leases.Register String Instant} {l : Lease}
  {g : Leases.Grant String Instant}

theorem represents_empty : Represents Table.empty Leases.Register.start where
  held g hg := nomatch hg
  live l hl := by simp at hl
  ended k := by simp [Leases.Register.start]

/-- The rows after an update that selects one row alone. -/
theorem mem_updateLease {p : Lease → Bool} {u : Update Lease.leaseId} (hl : l ∈ leases.rows)
    (hp : ∀ x ∈ leases.rows, p x = true ↔ x.leaseId = l.leaseId) {x : Lease} :
    x ∈ (leases.updateWhere p u).rows ↔
      (x ∈ leases.rows ∧ x.leaseId ≠ l.leaseId) ∨ x = u.apply l := by
  rw [Table.mem_updateWhere_iff]
  refine or_congr (and_congr_right fun hx => ?_) ?_
  · rw [← Bool.not_eq_true, hp x hx]
  · constructor
    · rintro ⟨old, hold, hsel, rfl⟩
      rw [leases.eq_of_key hold hl ((hp old hold).mp hsel)]
    · rintro rfl
      exact ⟨l, hl, (hp l hl).mpr rfl, rfl⟩

/-- No lease but the held one is live. -/
theorem Represents.eq_of_live (h : Represents leases r) (hg : r.holder = some g)
    (hmatch : Matches l g) {x : Lease} (hx : x ∈ leases.rows) (hlive : x.Live) :
    x.leaseId = l.leaseId := by
  obtain ⟨gx, hgx, hmx⟩ := h.live x hx hlive
  obtain rfl := Option.some.inj (hg.symm.trans hgx)
  exact hmx.lease.trans hmatch.lease.symm

theorem ne_of_dead (hl : l ∈ leases.rows) (hlive : l.Live) {x : Lease} (hx : x ∈ leases.rows)
    (hdead : ¬x.Live) : x.leaseId ≠ l.leaseId := by
  intro heq
  rw [leases.eq_of_key hx hl heq] at hdead
  exact hdead hlive

/-- The held lease changes and stays live. -/
theorem Represents.replace {p : Lease → Bool} {u : Update Lease.leaseId}
    (h : Represents leases r) (hg : r.holder = some g) (hl : l ∈ leases.rows)
    (hmatch : Matches l g) (hp : ∀ x ∈ leases.rows, p x = true ↔ x.leaseId = l.leaseId)
    {g' : Leases.Grant String Instant} (hmatch' : Matches (u.apply l) g')
    (hleases : leases' = leases.updateWhere p u) : Represents leases' ⟨some g', r.ended⟩ := by
  subst hleases
  constructor
  · intro g'' hg''
    obtain rfl := Option.some.inj hg''
    exact ⟨u.apply l, (mem_updateLease hl hp).mpr (Or.inr rfl), hmatch'⟩
  · intro x hx hlive
    rcases (mem_updateLease hl hp).mp hx with ⟨hold, hne⟩ | rfl
    · exact absurd (h.eq_of_live hg hmatch hold hlive) hne
    · exact ⟨g', rfl, hmatch'⟩
  · intro k
    rw [h.ended k]
    constructor
    · rintro ⟨x, hx, rfl, hended⟩
      have hne := ne_of_dead hl hmatch.live hx hended
      exact ⟨x, (mem_updateLease hl hp).mpr (Or.inl ⟨hx, hne⟩), rfl, hended⟩
    · rintro ⟨x, hx, rfl, hended⟩
      rcases (mem_updateLease hl hp).mp hx with ⟨hold, -⟩ | rfl
      · exact ⟨x, hold, rfl, hended⟩
      · exact absurd hmatch'.live hended

/-- The held lease ends. -/
theorem Represents.close {p : Lease → Bool} {u : Update Lease.leaseId} (h : Represents leases r)
    (hg : r.holder = some g) (hl : l ∈ leases.rows) (hmatch : Matches l g)
    (hp : ∀ x ∈ leases.rows, p x = true ↔ x.leaseId = l.leaseId) (hended : ¬(u.apply l).Live)
    (hleases : leases' = leases.updateWhere p u) : Represents leases' (r.close g.lease) := by
  subst hleases
  constructor
  · intro g' hg'
    cases hg'
  · intro x hx hlive
    rcases (mem_updateLease hl hp).mp hx with ⟨hold, hne⟩ | rfl
    · exact absurd (h.eq_of_live hg hmatch hold hlive) hne
    · exact absurd hlive hended
  · intro k
    rw [Leases.Register.close, List.mem_cons, h.ended k]
    constructor
    · rintro (rfl | ⟨x, hx, rfl, hdead⟩)
      · exact ⟨u.apply l, (mem_updateLease hl hp).mpr (Or.inr rfl),
          (u.key_apply l).trans hmatch.lease, hended⟩
      · have hne := ne_of_dead hl hmatch.live hx hdead
        exact ⟨x, (mem_updateLease hl hp).mpr (Or.inl ⟨hx, hne⟩), rfl, hdead⟩
    · rintro ⟨x, hx, rfl, hdead⟩
      rcases (mem_updateLease hl hp).mp hx with ⟨hold, -⟩ | rfl
      · exact Or.inr ⟨x, hold, rfl, hdead⟩
      · exact Or.inl ((u.key_apply l).trans hmatch.lease)

/-- A lease is entered while none is held. -/
theorem Represents.grant (h : Represents leases r) (hnone : r.holder = none)
    {hfresh : ∀ old ∈ leases.rows, old.leaseId ≠ l.leaseId} (hmatch : Matches l g)
    (hleases : leases' = leases.insert l hfresh) : Represents leases' ⟨some g, r.ended⟩ := by
  subst hleases
  constructor
  · intro g' hg'
    obtain rfl := Option.some.inj hg'
    exact ⟨l, Table.mem_insert.mpr (Or.inr rfl), hmatch⟩
  · intro x hx hlive
    rcases Table.mem_insert.mp hx with hold | rfl
    · obtain ⟨gx, hgx, -⟩ := h.live x hold hlive
      rw [hnone] at hgx
      cases hgx
    · exact ⟨g, rfl, hmatch⟩
  · intro k
    rw [h.ended k]
    constructor
    · rintro ⟨x, hx, hk, hdead⟩
      exact ⟨x, Table.mem_insert.mpr (Or.inl hx), hk, hdead⟩
    · rintro ⟨x, hx, hk, hdead⟩
      rcases Table.mem_insert.mp hx with hold | rfl
      · exact ⟨x, hold, hk, hdead⟩
      · exact absurd hmatch.live hdead

/-- A lease that was never entered has not ended. -/
theorem Represents.not_ended (h : Represents leases r) {k : String}
    (hfresh : ∀ old ∈ leases.rows, old.leaseId ≠ k) : k ∉ r.ended := by
  intro hk
  obtain ⟨x, hx, hid, -⟩ := (h.ended k).mp hk
  exact hfresh x hx hid

end Represents

/-! ## Agreement of a lease with its integration -/

/-- A lease and its integration are of one execution and end together, with one status and one
cause. -/
def Coupled (db : Db) : Prop :=
  ∀ l ∈ db.leases.rows, ∀ i ∈ db.integrations.rows, i.integrationId = l.integrationId →
    i.executionId = l.executionId ∧ i.ending = l.ending

/-- Rows that are changed one by one, both tables in step. -/
theorem Coupled.map {db db' : Db} (h : Coupled db) {f : Lease → Lease}
    {g : Integration → Integration}
    (hl : ∀ l' ∈ db'.leases.rows, ∃ l ∈ db.leases.rows, f l = l')
    (hi : ∀ i' ∈ db'.integrations.rows, ∃ i ∈ db.integrations.rows, g i = i')
    (hf : ∀ l, (f l).integrationId = l.integrationId ∧ (f l).executionId = l.executionId)
    (hg : ∀ i, (g i).integrationId = i.integrationId ∧ (g i).executionId = i.executionId)
    (hend : ∀ l ∈ db.leases.rows, ∀ i ∈ db.integrations.rows, i.integrationId = l.integrationId →
      i.executionId = l.executionId → i.ending = l.ending → (g i).ending = (f l).ending) :
    Coupled db' := by
  intro l' hl' i' hi' hid
  obtain ⟨l, hl, rfl⟩ := hl l' hl'
  obtain ⟨i, hi, rfl⟩ := hi i' hi'
  rw [(hf l).1, (hg i).1] at hid
  obtain ⟨hexec, hending⟩ := h l hl i hi hid
  rw [(hf l).2, (hg i).2]
  exact ⟨hexec, hend l hl i hi hid hexec hending⟩

/-- What an update makes of a row. -/
def updated {ρ κ : Type} {key : ρ → κ} (p : ρ → Bool) (u : Update key) (r : ρ) : ρ :=
  if p r then u.apply r else r

theorem updated_of {ρ κ : Type} {key : ρ → κ} {p : ρ → Bool} {u : Update key} {r : ρ}
    (h : p r = true) : updated p u r = u.apply r := if_pos h

theorem updated_of_not {ρ κ : Type} {key : ρ → κ} {p : ρ → Bool} {u : Update key} {r : ρ}
    (h : p r = false) : updated p u r = r := if_neg (by simp [h])

theorem mem_updated {ρ κ : Type} {key : ρ → κ} {t : Table key} {p : ρ → Bool} {u : Update key}
    {r : ρ} (h : r ∈ (t.updateWhere p u).rows) : ∃ old ∈ t.rows, updated p u old = r :=
  Table.mem_updateWhere.mp h

theorem updated_column {ρ κ α : Type} {key : ρ → κ} {column : ρ → α} {u : Update key}
    (hu : ∀ r, column (u.apply r) = column r) (p : ρ → Bool) (r : ρ) :
    column (updated p u r) = column r := by
  unfold updated
  split_ifs
  · exact hu r
  · rfl

/-- Leases are changed, their integrations and endings are not. -/
theorem Coupled.updateLeases {db db' : Db} {p : Lease → Bool} {u : Update Lease.leaseId}
    (hdb : Coupled db) (h : db.updateLeases p u = .ok db')
    (hu : ∀ l, (u.apply l).integrationId = l.integrationId ∧
      (u.apply l).executionId = l.executionId)
    (hend : ∀ l ∈ db.leases.rows, p l = true → (u.apply l).ending = l.ending) : Coupled db' := by
  obtain ⟨-, hints, hleases⟩ := updateLeases_ok h
  refine hdb.map (f := updated p u) (g := id) (fun l hl => mem_updated (hleases ▸ hl))
    (fun i hi => ⟨i, hints ▸ hi, rfl⟩)
    (fun l => ⟨updated_column (fun r => (hu r).1) p l, updated_column (fun r => (hu r).2) p l⟩)
    (fun _ => ⟨rfl, rfl⟩) ?_
  intro l hl i hi hid hexec hending
  by_cases hp : p l = true
  · rw [updated_of hp, hend l hl hp]
    exact hending
  · rw [updated_of_not (by simpa using hp)]
    exact hending

/-- Integrations are changed, their identities and endings are not. -/
theorem Coupled.updateIntegrations {db db' : Db} {p : Integration → Bool}
    {u : Update Integration.integrationId} (hdb : Coupled db)
    (h : db.updateIntegrations p u = .ok db')
    (hu : ∀ i, (u.apply i).executionId = i.executionId)
    (hend : ∀ i ∈ db.integrations.rows, p i = true → (u.apply i).ending = i.ending) :
    Coupled db' := by
  obtain ⟨-, hints, hleases⟩ := updateIntegrations_ok h
  refine hdb.map (f := id) (g := updated p u) (fun l hl => ⟨l, hleases ▸ hl, rfl⟩)
    (fun i hi => mem_updated (hints ▸ hi)) (fun _ => ⟨rfl, rfl⟩)
    (fun i => ⟨updated_column u.key_apply p i, updated_column hu p i⟩) ?_
  intro l hl i hi hid hexec hending
  by_cases hp : p i = true
  · rw [updated_of hp, hend i hi hp]
    exact hending
  · rw [updated_of_not (by simpa using hp)]
    exact hending

/-- One lease per integration. -/
theorem Db.lease_of_integration (db : Db) {l m : Lease} (hl : l ∈ db.leases.rows)
    (hm : m ∈ db.leases.rows) (h : l.integrationId = m.integrationId) : l = m :=
  db.leases.eq_of_key hl hm (db.constraints.leasedIntegrations l hl m hm trivial trivial h)

/-! ## Calls -/

theorem parse_isoformat {i : Instant} (h : InRange i) : parse (isoformat i) = .ok i := by
  have hutc : Datetime.instantUtc ⟨i, some 0⟩ = i := by simp [Datetime.instantUtc]
  simp [parse, replaceZulu_isoformat h, fromisoformat_isoformat h, hutc, h]

theorem expiryAfter_ok {now : String} {leaseSeconds : ℤ} {expiry : Instant}
    (h : expiryAfter now leaseSeconds = .ok expiry) : InRange expiry := by
  obtain ⟨instant, -, h⟩ := bind_ok h
  split_ifs at h with hrange
  obtain rfl := Except.ok.inj h
  exact hrange

/-- What a call that got through leaves: the frame, the agreement, and a register that allows the
events of the call. -/
structure Sound (touched : String → Prop) (db : Db) (result : Except Fault (Db × List Event)) :
    Prop where
  frame : ∀ db' es, result = .ok (db', es) → Frame touched db db'
  coupled : ∀ db' es, result = .ok (db', es) → Coupled db'
  represents : ∀ r, Represents db.leases r → ∀ db' es, result = .ok (db', es) →
    ∃ r', r.accepts es = some r' ∧ Represents db'.leases r'

variable {touched : String → Prop} {db : Db} {a : RunArgs}

theorem quiet_ok {result : Except Fault Db} {db' : Db} {es : List Event}
    (h : System.quiet result = .ok (db', es)) : result = .ok db' ∧ es = [] := by
  cases result with
  | error e => cases h
  | ok x =>
    obtain ⟨rfl, rfl⟩ := Prod.mk.inj (Except.ok.inj h)
    exact ⟨rfl, rfl⟩

/-- A call that leaves the leases alone. -/
theorem Sound.of_quiet {result : Except Fault Db}
    (hframe : ∀ db', result = .ok db' → Frame touched db db')
    (hcoupled : ∀ db', result = .ok db' → Coupled db')
    (hleases : ∀ db', result = .ok db' → db'.leases = db.leases) :
    Sound touched db (System.quiet result) where
  frame db' es h := hframe db' (quiet_ok h).1
  coupled db' es h := hcoupled db' (quiet_ok h).1
  represents r hr db' es h := by
    obtain ⟨hresult, rfl⟩ := quiet_ok h
    refine ⟨r, rfl, ?_⟩
    rw [hleases db' hresult]
    exact hr

theorem sound_authorize (hdb : Coupled db) (now : String) :
    Sound touched db (System.quiet (authorize db a now)) := by
  refine Sound.of_quiet (fun db' h => frame_insertIntegration h) (fun db' h => ?_)
    fun db' h => (insertIntegration_ok h).choose_spec.2
  obtain ⟨hfresh, hint, hleases⟩ := insertIntegration_ok h
  intro l hl i hi hid
  rw [hleases] at hl
  rw [hint] at hi
  rcases Table.mem_insert.mp hi with hold | rfl
  · exact hdb l hl i hold hid
  · obtain ⟨j, hj, hjid⟩ := db.constraints.references l hl
    exact absurd (hjid.trans hid.symm) (hfresh j hj)

/-- An update of the integration of a run. -/
theorem own_touched (hown : touched a.integrationId) {i : Integration} {c : Prop}
    (h : i.integrationId = a.integrationId) : touched i.integrationId ∨ c :=
  Or.inl (h.symm ▸ hown)

theorem sound_settle (hdb : Coupled db) (hown : touched a.integrationId) (now : String) :
    Sound touched db (System.quiet (settle db a now)) := by
  refine Sound.of_quiet (fun db' h => ?_) (fun db' h => ?_)
    fun db' h => (updateIntegrations_ok h).2.2
  · exact frame_updateIntegrations (fun _ => rfl)
      (fun i _ hi => own_touched hown (of_decide_eq_true hi)) h
  · exact hdb.updateIntegrations h (fun _ => rfl) fun _ _ _ => rfl

theorem frame_terminalizeUnleased {db' : Db} {ending : Ending} (hown : touched a.integrationId)
    (h : terminalizeUnleased db a ending = .ok db') : Frame touched db db' := by
  refine frame_updateIntegrations (fun _ => rfl) (fun i _ hi => ?_) h
  exact own_touched hown (of_decide_eq_true (Bool.and_eq_true_iff.mp hi).1)

/-- The integration of a run that holds no lease is ended without one. -/
theorem coupled_terminalizeUnleased {db' : Db} {ending : Ending} (hdb : Coupled db)
    (hnone : ∀ l ∈ db.leases.rows, l.integrationId = a.integrationId → ¬l.Live)
    (h : terminalizeUnleased db a ending = .ok db') : Coupled db' := by
  obtain ⟨-, hint, hleases⟩ := updateIntegrations_ok h
  refine hdb.map (f := id) (g := updated _ (endIntegration ending))
    (fun l hl => ⟨l, hleases ▸ hl, rfl⟩) (fun i hi => mem_updated (hint ▸ hi)) (fun l => ⟨rfl, rfl⟩)
    (fun i => ⟨updated_column (fun _ => rfl) _ i, updated_column (fun _ => rfl) _ i⟩) ?_
  intro l hl i hi hid hexec hending
  refine (congrArg Integration.ending (updated_of_not ?_)).trans hending
  by_cases hown : i.integrationId = a.integrationId
  · have hlive : ¬l.Live := hnone l hl (hid.symm.trans hown)
    have hsome : i.ending.isNone = false := by
      rw [hending, Option.isNone_eq_false_iff, Option.isSome_iff_ne_none]
      exact hlive
    rw [hsome, Bool.and_false]
  · rw [decide_eq_false hown, Bool.false_and]

theorem sound_terminalizeUnleased (hdb : Coupled db) (hown : touched a.integrationId)
    (ending : Ending) (hnone : ∀ l ∈ db.leases.rows, l.integrationId = a.integrationId → ¬l.Live) :
    Sound touched db (System.quiet (terminalizeUnleased db a ending)) :=
  Sound.of_quiet (fun _ h => frame_terminalizeUnleased hown h)
    (fun _ h => coupled_terminalizeUnleased hdb hnone h) fun _ h => (updateIntegrations_ok h).2.2

/-! ## The end of a lease -/

/-- A live lease and its integration end together. -/
structure Closed (touched : String → Prop) (db : Db) (l : Lease) (db' : Db) : Prop where
  frame : Frame touched db db'
  coupled : Coupled db'
  free : ∀ x ∈ db'.leases.rows, ¬x.Live
  represents : ∀ r, Represents db.leases r → ∃ g, r.holder = some g ∧ Matches l g ∧
    Represents db'.leases (r.close g.lease)

theorem closed_of_updates {mid db' : Db} {l : Lease} {ending : Ending} (hdb : Coupled db)
    (hl : l ∈ db.leases.rows) (hlive : l.Live)
    (hlease : db.updateLeases (fun r => r.leaseId = l.leaseId) (endLease ending) = .ok mid)
    (hint : mid.updateIntegrations
      (fun r => r.integrationId = l.integrationId && r.ending.isNone) (endIntegration ending) =
        .ok db') : Closed touched db l db' := by
  obtain ⟨-, hints, hleases⟩ := updateLeases_ok hlease
  obtain ⟨-, hints', hleases'⟩ := updateIntegrations_ok hint
  have hsel : ∀ x ∈ db.leases.rows, decide (x.leaseId = l.leaseId) = true ↔
      x.leaseId = l.leaseId := fun x _ => decide_eq_true_iff
  rw [hleases] at hleases'
  rw [hints] at hints'
  constructor
  · refine (frame_updateLeases (fun _ => ⟨rfl, rfl⟩) hlease).trans
      (frame_updateIntegrations (fun _ => rfl) (fun i _ hi => Or.inr ?_) hint)
    have hown := of_decide_eq_true (Bool.and_eq_true_iff.mp hi).1
    exact ⟨endLease ending |>.apply l, hleases ▸ (mem_updateLease hl hsel).mpr (Or.inr rfl),
      hown.symm⟩
  · refine hdb.map (f := updated _ (endLease ending)) (g := updated _ (endIntegration ending))
      (fun x hx => mem_updated (hleases' ▸ hx)) (fun i hi => mem_updated (hints' ▸ hi))
      (fun x => ⟨updated_column (fun _ => rfl) _ x, updated_column (fun _ => rfl) _ x⟩)
      (fun i => ⟨updated_column (fun _ => rfl) _ i, updated_column (fun _ => rfl) _ i⟩) ?_
    intro x hx i hi hid hexec hending
    by_cases hown : x.leaseId = l.leaseId
    · obtain rfl := db.leases.eq_of_key hx hl hown
      have hopen : i.ending.isNone = true := by
        rw [hending, hlive]
        rfl
      have hboth : updated (fun r => r.integrationId = x.integrationId && r.ending.isNone)
          (endIntegration ending) i = (endIntegration ending).apply i :=
        updated_of (by rw [decide_eq_true hid, hopen]; rfl)
      have hleft : updated (fun r => r.leaseId = x.leaseId) (endLease ending) x =
          (endLease ending).apply x := updated_of (decide_eq_true rfl)
      rw [hboth, hleft]
      rfl
    · have hother : i.integrationId ≠ l.integrationId := fun h =>
        hown (congrArg Lease.leaseId (db.lease_of_integration hx hl (hid.symm.trans h)))
      have hright : updated (fun r => r.integrationId = l.integrationId && r.ending.isNone)
          (endIntegration ending) i = i :=
        updated_of_not (by rw [decide_eq_false hother, Bool.false_and])
      have hleft : updated (fun r => r.leaseId = l.leaseId) (endLease ending) x = x :=
        updated_of_not (decide_eq_false hown)
      rw [hright, hleft]
      exact hending
  · intro x hx hxlive
    rw [hleases'] at hx
    rcases (mem_updateLease hl hsel).mp hx with ⟨hold, hne⟩ | rfl
    · exact hne (db.constraints.oneLive x hold l hl hxlive hlive rfl)
    · cases hxlive
  · intro r hr
    obtain ⟨g, hg, hmatch⟩ := hr.live l hl hlive
    have hended : ¬((endLease ending).apply l).Live := Option.some_ne_none ending
    exact ⟨g, hg, hmatch, hr.close hg hl hmatch hsel hended hleases'⟩

/-- Who finds the lease free, or ends the one that has expired. -/
theorem clearExpired_cases {db' : Db} {es : List Event} {now : String}
    (h : clearExpired db now = .ok (db', es)) :
    ((∀ l ∈ db.leases.rows, ¬l.Live) ∧ db' = db ∧ es = []) ∨
      ∃ l ∈ db.leases.rows, l.Live ∧ ∃ expiry instant, parse l.leaseExpiresAt = .ok expiry ∧
        parse now = .ok instant ∧ expiry ≤ instant ∧ recover db l now = .ok db' ∧
        es = [.recovered l.leaseId instant] := by
  unfold clearExpired at h
  cases hfind : db.leases.rows.find? fun r => r.Live with
  | none =>
    rw [hfind] at h
    obtain ⟨rfl, rfl⟩ := Prod.mk.inj (Except.ok.inj h)
    refine Or.inl ⟨fun l hl hlive => ?_, rfl, rfl⟩
    simpa [hlive] using List.find?_eq_none.mp hfind l hl
  | some l =>
    rw [hfind] at h
    obtain ⟨expiry, hexpiry, h⟩ := bind_ok h
    obtain ⟨instant, hinstant, h⟩ := bind_ok h
    obtain ⟨hpassed, h⟩ := check_ok h
    obtain ⟨mid, hmid, h⟩ := bind_ok h
    obtain ⟨rfl, rfl⟩ := Prod.mk.inj (Except.ok.inj h)
    exact Or.inr ⟨l, List.mem_of_find?_eq_some hfind, by simpa using List.find?_some hfind, expiry,
      instant, hexpiry, hinstant, not_lt.mp hpassed, hmid, rfl⟩

theorem sound_clearExpired (hdb : Coupled db) (now : String) :
    Sound touched db (clearExpired db now) ∧
      ∀ db' es, clearExpired db now = .ok (db', es) → ∀ l ∈ db'.leases.rows, ¬l.Live := by
  have hrecovered : ∀ l ∈ db.leases.rows, l.Live → ∀ db', recover db l now = .ok db' →
      Closed touched db l db' := by
    intro l hl hlive db' h
    obtain ⟨mid, hlease, hint⟩ := bind_ok h
    exact closed_of_updates hdb hl hlive hlease hint
  refine ⟨⟨fun db' es h => ?_, fun db' es h => ?_, fun r hr db' es h => ?_⟩, fun db' es h => ?_⟩ <;>
    rcases clearExpired_cases h with ⟨hfree, rfl, rfl⟩ |
      ⟨l, hl, hlive, expiry, instant, hexpiry, hinstant, hpassed, hrecover, rfl⟩
  · exact Frame.refl _
  · exact (hrecovered l hl hlive db' hrecover).frame
  · exact hdb
  · exact (hrecovered l hl hlive db' hrecover).coupled
  · exact ⟨r, rfl, hr⟩
  · obtain ⟨g, hg, hmatch, hclosed⟩ := (hrecovered l hl hlive db' hrecover).represents r hr
    rw [hmatch.expires, parse_isoformat hmatch.inRange] at hexpiry
    obtain rfl := Except.ok.inj hexpiry
    refine ⟨_, ?_, hclosed⟩
    rw [hmatch.lease, Leases.accepts_singleton]
    exact Leases.step_recovered hg hpassed
  · exact hfree
  · exact (hrecovered l hl hlive db' hrecover).free

/-! ## The other calls -/

/-- A lease is entered for an integration of its execution, and that goes on. -/
theorem coupled_grant {mid db' : Db} {l : Lease} {now : String} (hdb : Coupled db) (hlive : l.Live)
    (hown : ∃ i ∈ db.integrations.rows, i.integrationId = l.integrationId ∧
      i.executionId = l.executionId)
    (hlease : db.insertLease l = .ok mid)
    (hint : mid.updateIntegrations (fun r => r.integrationId = l.integrationId)
      (setIntegrationState .running now) = .ok db') : Coupled db' := by
  obtain ⟨hfresh, hints, hleases⟩ := insertLease_ok hlease
  obtain ⟨-, hints', hleases'⟩ := updateIntegrations_ok hint
  obtain ⟨own, hownmem, hownid, hownexec⟩ := hown
  rw [hleases] at hleases'
  rw [hints] at hints'
  intro x hx i hi hid
  rw [hints'] at hi
  have hentered : l ∈ db'.leases.rows := hleases' ▸ Table.mem_insert.mpr (Or.inr rfl)
  rcases Table.mem_updateWhere_iff.mp hi with ⟨hold, hother⟩ | ⟨old, hold, hsel, rfl⟩
  · rcases Table.mem_insert.mp (hleases' ▸ hx) with hxold | rfl
    · exact hdb x hxold i hold hid
    · exact absurd hid (of_decide_eq_false hother)
  · have hsel : old.integrationId = l.integrationId := of_decide_eq_true hsel
    obtain rfl := db.integrations.eq_of_key hold hownmem (hsel.trans hownid.symm)
    obtain rfl := db'.lease_of_integration hx hentered (hid.symm.trans hsel)
    exact ⟨hownexec, hlive.symm⟩

theorem acquireLease_cases {db' : Db} {es : List Event} {now : String} {leaseSeconds : ℤ}
    (h : acquireLease db a now leaseSeconds = .ok (db', es)) :
    ∃ cleared expiry leased, clearExpired db now = .ok cleared ∧ InRange expiry ∧
      cleared.1.insertLease (a.lease now expiry) = .ok leased ∧
      leased.updateIntegrations (fun r => r.integrationId = a.integrationId)
        (setIntegrationState .running now) = .ok db' ∧
      es = cleared.2 ++ [.acquired a.leaseId expiry] := by
  obtain ⟨cleared, hcleared, h⟩ := bind_ok h
  obtain ⟨expiry, hexpiry, h⟩ := bind_ok h
  obtain ⟨leased, hleased, h⟩ := bind_ok h
  obtain ⟨running, hrunning, h⟩ := bind_ok h
  obtain ⟨rfl, rfl⟩ := Prod.mk.inj (Except.ok.inj h)
  exact ⟨cleared, expiry, leased, hcleared, expiryAfter_ok hexpiry, hleased, hrunning, rfl⟩

theorem sound_acquireLease (hdb : Coupled db) (hown : touched a.integrationId)
    (hentered : ∃ i ∈ db.integrations.rows, i.integrationId = a.integrationId ∧
      i.executionId = a.executionId) (now : String) (leaseSeconds : ℤ) :
    Sound touched db (acquireLease db a now leaseSeconds) := by
  obtain ⟨hclear, hfree⟩ := @sound_clearExpired touched _ hdb now
  constructor
  · intro db' es h
    obtain ⟨cleared, expiry, leased, hcleared, -, hleased, hrunning, -⟩ := acquireLease_cases h
    refine (hclear.frame _ _ hcleared).trans ((frame_insertLease hleased hown).trans ?_)
    exact frame_updateIntegrations (fun _ => rfl)
      (fun i _ hi => own_touched hown (of_decide_eq_true hi)) hrunning
  · intro db' es h
    obtain ⟨cleared, expiry, leased, hcleared, -, hleased, hrunning, -⟩ := acquireLease_cases h
    have hlive : (a.lease now expiry).Live := rfl
    exact coupled_grant (hclear.coupled _ _ hcleared) hlive
      ((hclear.frame _ _ hcleared).entered hentered) hleased hrunning
  · intro r hr db' es h
    obtain ⟨cleared, expiry, leased, hcleared, hrange, hleased, hrunning, rfl⟩ :=
      acquireLease_cases h
    obtain ⟨r', haccepts, hr'⟩ := hclear.represents r hr _ _ hcleared
    obtain ⟨hfresh, -, hleases⟩ := insertLease_ok hleased
    have hnone : r'.holder = none := by
      cases hholder : r'.holder with
      | none => rfl
      | some g =>
        obtain ⟨l, hl, hmatch⟩ := hr'.held g hholder
        exact absurd hmatch.live (hfree _ _ hcleared l hl)
    refine ⟨⟨some ⟨a.leaseId, expiry, false⟩, r'.ended⟩, ?_, ?_⟩
    · rw [Leases.accepts_append_of_some haccepts, Leases.accepts_singleton]
      exact Leases.step_acquired hnone (hr'.not_ended hfresh) expiry
    · rw [(updateIntegrations_ok hrunning).2.2]
      have hmatch : Matches (a.lease now expiry) ⟨a.leaseId, expiry, false⟩ :=
        ⟨rfl, hrange, rfl, rfl⟩
      exact hr'.grant hnone hmatch hleases

/-- A renewal found the run's own lease active and not yet expired. -/
theorem renewLease_cases {db' : Db} {es : List Event} {now : String} {leaseSeconds : ℤ}
    (h : renewLease db a now leaseSeconds = .ok (db', es)) :
    ∃ l ∈ db.leases.rows, l.leaseId = a.leaseId ∧ l.leaseState = .active ∧ ∃ next, InRange next ∧
      db.updateLeases (fun r => r.leaseId = l.leaseId) (extendLease now (isoformat next)) =
        .ok db' ∧ es = [.renewed l.leaseId next] := by
  unfold renewLease at h
  cases hfind : db.leases.rows.find? a.owns with
  | none =>
    rw [hfind] at h
    cases h
  | some l =>
    rw [hfind] at h
    have hkey : l.leaseId = a.leaseId := by
      have howns := List.find?_some hfind
      simp only [RunArgs.owns, Bool.and_eq_true, decide_eq_true_eq] at howns
      exact howns.1.1.1
    cases hstate : l.leaseState with
    | stopping =>
      simp only [hstate] at h
      cases h
    | terminal ending =>
      simp only [hstate] at h
      cases h
    | active =>
      simp only [hstate] at h
      obtain ⟨expiry, -, h⟩ := bind_ok h
      obtain ⟨instant, -, h⟩ := bind_ok h
      obtain ⟨-, h⟩ := check_ok h
      obtain ⟨next, hnext, h⟩ := bind_ok h
      obtain ⟨extended, hextended, h⟩ := bind_ok h
      obtain ⟨rfl, rfl⟩ := Prod.mk.inj (Except.ok.inj h)
      rw [← hkey] at hextended ⊢
      exact ⟨l, List.mem_of_find?_eq_some hfind, rfl, hstate, next, expiryAfter_ok hnext,
        hextended, rfl⟩

theorem sound_renewLease (hdb : Coupled db) (now : String) (leaseSeconds : ℤ) :
    Sound touched db (renewLease db a now leaseSeconds) := by
  constructor
  · intro db' es h
    obtain ⟨l, -, -, -, next, -, hextended, -⟩ := renewLease_cases h
    exact frame_updateLeases (fun _ => ⟨rfl, rfl⟩) hextended
  · intro db' es h
    obtain ⟨l, -, -, -, next, -, hextended, -⟩ := renewLease_cases h
    exact hdb.updateLeases hextended (fun _ => ⟨rfl, rfl⟩) fun _ _ _ => rfl
  · intro r hr db' es h
    obtain ⟨l, hl, -, hactive, next, hrange, hextended, rfl⟩ := renewLease_cases h
    obtain ⟨-, -, hleases⟩ := updateLeases_ok hextended
    have hlive : l.Live := by
      unfold Lease.Live Lease.ending
      rw [hactive]
    obtain ⟨g, hg, hmatch⟩ := hr.live l hl hlive
    have hgoing : g.stopping = false := by
      cases hstopping : g.stopping with
      | false => rfl
      | true =>
        have hstate := hmatch.state
        rw [hactive, hstopping] at hstate
        cases hstate
    refine ⟨⟨some ⟨g.lease, next, false⟩, r.ended⟩, ?_, ?_⟩
    · rw [hmatch.lease, Leases.accepts_singleton]
      exact Leases.step_renewed hg hgoing next
    · have hmatch' : Matches ((extendLease now (isoformat next)).apply l) ⟨g.lease, next, false⟩ :=
        ⟨hmatch.lease, hrange, rfl, hactive⟩
      exact hr.replace hg hl hmatch (fun x _ => decide_eq_true_iff) hmatch' hleases

/-- A release ended the run's lease, or found it ended. -/
theorem releaseLease_cases {db' : Db} {es : List Event} {ending : Ending}
    (h : releaseLease db a ending = .ok (db', es)) :
    ∃ l ∈ db.leases.rows, l.leaseId = a.leaseId ∧
      ((l.Live ∧ es = [.released l.leaseId] ∧ ∃ released,
        db.updateLeases (fun r => r.leaseId = l.leaseId) (endLease ending) = .ok released ∧
        terminalizeUnleased released a ending = .ok db') ∨
      (¬l.Live ∧ es = [] ∧ terminalizeUnleased db a ending = .ok db')) := by
  unfold releaseLease at h
  cases hfind : db.leases.find? a.leaseId with
  | none =>
    rw [hfind] at h
    cases h
  | some l =>
    rw [hfind] at h
    obtain ⟨hl, hkey⟩ := Table.find?_eq_some_iff.mp hfind
    refine ⟨l, hl, hkey, ?_⟩
    by_cases hlive : l.Live
    · simp only [if_pos hlive] at h
      obtain ⟨released, hreleased, h⟩ := bind_ok h
      obtain ⟨ended, hended, h⟩ := bind_ok h
      obtain ⟨rfl, rfl⟩ := Prod.mk.inj (Except.ok.inj h)
      rw [← hkey] at hreleased ⊢
      exact Or.inl ⟨hlive, rfl, released, hreleased, hended⟩
    · simp only [if_neg hlive] at h
      obtain ⟨ended, hended, h⟩ := bind_ok h
      obtain ⟨rfl, rfl⟩ := Prod.mk.inj (Except.ok.inj h)
      exact Or.inr ⟨hlive, rfl, hended⟩

/-- The lease of a run is on its own integration. -/
theorem sound_releaseLease (hdb : Coupled db) (hown : touched a.integrationId)
    (hleased : ∃ l ∈ db.leases.rows, l.leaseId = a.leaseId ∧ l.integrationId = a.integrationId)
    (ending : Ending) : Sound touched db (releaseLease db a ending) := by
  have hlease : ∀ l ∈ db.leases.rows, l.leaseId = a.leaseId →
      l.integrationId = a.integrationId := by
    obtain ⟨own, hmem, hkey, hid⟩ := hleased
    intro l hl hl'
    rw [db.leases.eq_of_key hl hmem (hl'.trans hkey.symm)]
    exact hid
  have hclosed : ∀ l ∈ db.leases.rows, l.leaseId = a.leaseId → l.Live → ∀ released db',
      db.updateLeases (fun r => r.leaseId = l.leaseId) (endLease ending) = .ok released →
      terminalizeUnleased released a ending = .ok db' → Closed touched db l db' := by
    intro l hl hkey hlive released db' hreleased hended
    rw [terminalizeUnleased, ← hlease l hl hkey] at hended
    exact closed_of_updates hdb hl hlive hreleased hended
  have hother : ∀ l ∈ db.leases.rows, l.leaseId = a.leaseId → ¬l.Live →
      ∀ m ∈ db.leases.rows, m.integrationId = a.integrationId → ¬m.Live := by
    intro l hl hkey hdead m hm hid
    rw [db.lease_of_integration hm hl (hid.trans (hlease l hl hkey).symm)]
    exact hdead
  constructor
  · intro db' es h
    obtain ⟨l, hl, hkey, ⟨hlive, -, released, hreleased, hended⟩ | ⟨hdead, -, hended⟩⟩ :=
      releaseLease_cases h
    · exact (hclosed l hl hkey hlive released db' hreleased hended).frame
    · exact frame_terminalizeUnleased hown hended
  · intro db' es h
    obtain ⟨l, hl, hkey, ⟨hlive, -, released, hreleased, hended⟩ | ⟨hdead, -, hended⟩⟩ :=
      releaseLease_cases h
    · exact (hclosed l hl hkey hlive released db' hreleased hended).coupled
    · exact coupled_terminalizeUnleased hdb (hother l hl hkey hdead) hended
  · intro r hr db' es h
    obtain ⟨l, hl, hkey, ⟨hlive, rfl, released, hreleased, hended⟩ | ⟨hdead, rfl, hended⟩⟩ :=
      releaseLease_cases h
    · obtain ⟨g, hg, hmatch, hr'⟩ :=
        (hclosed l hl hkey hlive released db' hreleased hended).represents r hr
      refine ⟨_, ?_, hr'⟩
      rw [hmatch.lease, Leases.accepts_singleton]
      exact Leases.step_released hg
    · refine ⟨r, rfl, ?_⟩
      rw [(updateIntegrations_ok hended).2.2]
      exact hr

/-- The lease of the execution, which was there when the cancellation read it. -/
theorem sound_writeCancellation {c : CancelCall} (hdb : Coupled db)
    (hread : ∃ l ∈ db.leases.rows, l.executionId = c.executionId) :
    Sound touched db (writeCancellation db c) := by
  obtain ⟨l, hl, hexec⟩ := hread
  have hone : ∀ x ∈ db.leases.rows, x.executionId = c.executionId → x.leaseId = l.leaseId :=
    fun x hx h => db.constraints.leasedExecutions x hx l hl trivial trivial (h.trans hexec.symm)
  have hsel : ∀ x ∈ db.leases.rows, decide (x.executionId = c.executionId) = true ↔
      x.leaseId = l.leaseId := by
    intro x hx
    rw [decide_eq_true_iff]
    refine ⟨hone x hx, fun h => ?_⟩
    rw [db.leases.eq_of_key hx hl h]
    exact hexec
  have hsteps : ∀ db' es, writeCancellation db c = .ok (db', es) →
      ∃ stopped, db.updateLeases (fun r => r.executionId = c.executionId)
          (stopLease ⟨c.instant, c.reason⟩) = .ok stopped ∧
        stopped.updateIntegrations (fun r => r.executionId = c.executionId)
          (setIntegrationState .stopping c.instant) = .ok db' ∧ es = [.stopped l.leaseId] := by
    intro db' es h
    obtain ⟨stopped, hstopped, h⟩ := bind_ok h
    obtain ⟨stopping, hstopping, h⟩ := bind_ok h
    obtain ⟨rfl, rfl⟩ := Prod.mk.inj (Except.ok.inj h)
    refine ⟨stopped, hstopped, hstopping, ?_⟩
    rw [Table.filter_eq_singleton hl (decide_eq_true hexec)
      fun x hx h => hone x hx (of_decide_eq_true h)]
    rfl
  -- The integration of the execution is the one that the lease refers to.
  have hleased : ∀ i ∈ db.integrations.rows, i.executionId = c.executionId →
      l.integrationId = i.integrationId := by
    intro i hi h
    obtain ⟨j, hj, hid⟩ := db.constraints.references l hl
    have hexec' : j.executionId = i.executionId := ((hdb l hl j hj hid).1.trans hexec).trans h.symm
    exact hid.symm.trans (db.constraints.executions j hj i hi trivial trivial hexec')
  constructor
  · intro db' es h
    obtain ⟨stopped, hstopped, hstopping, -⟩ := hsteps db' es h
    refine (frame_updateLeases (fun _ => ⟨rfl, rfl⟩) hstopped).trans ?_
    refine frame_updateIntegrations (fun _ => rfl) (fun i hi hexec' => Or.inr ?_) hstopping
    obtain ⟨-, hints, hleases⟩ := updateLeases_ok hstopped
    refine ⟨(stopLease ⟨c.instant, c.reason⟩).apply l, ?_, ?_⟩
    · rw [hleases]
      exact (mem_updateLease hl hsel).mpr (Or.inr rfl)
    · exact hleased i (hints ▸ hi) (of_decide_eq_true hexec')
  · intro db' es h
    obtain ⟨stopped, hstopped, hstopping, -⟩ := hsteps db' es h
    have hmid : Coupled stopped := hdb.updateLeases hstopped (fun _ => ⟨rfl, rfl⟩) fun x hx hp =>
      ((updateLeases_ok hstopped).1 x hx hp).symm
    exact hmid.updateIntegrations hstopping (fun _ => rfl) fun i hi hp =>
      ((updateIntegrations_ok hstopping).1 i hi hp).symm
  · intro r hr db' es h
    obtain ⟨stopped, hstopped, hstopping, rfl⟩ := hsteps db' es h
    obtain ⟨hopen, -, hleases⟩ := updateLeases_ok hstopped
    obtain ⟨g, hg, hmatch⟩ := hr.live l hl (hopen l hl (decide_eq_true hexec))
    refine ⟨⟨some { g with stopping := true }, r.ended⟩, ?_, ?_⟩
    · rw [hmatch.lease, Leases.accepts_singleton]
      exact Leases.step_stopped hg
    · rw [(updateIntegrations_ok hstopping).2.2]
      have hmatch' : Matches ((stopLease ⟨c.instant, c.reason⟩).apply l)
          { g with stopping := true } := ⟨hmatch.lease, hmatch.inRange, hmatch.expires, rfl⟩
      exact hr.replace hg hl hmatch hsel hmatch' hleases

end PrinterV1.OperatorCli.CandidateLease
