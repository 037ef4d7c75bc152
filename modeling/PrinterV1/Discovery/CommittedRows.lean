import PrinterV1.Discovery.AcquisitionEffects
import Mathlib.Data.List.Nodup

/-!
# The rows of an execution

Which rows the parts of a transaction leave for one observation: its own row, the
round of its ordinal and the link to the candidate of its mint, each exactly once.
-/

namespace PrinterV1.Discovery

open Python Faults

variable {L : Library} {plan : Plan}

/-- A key that no two rows share picks a row alone. -/
theorem filter_key {ρ κ : Type} [DecidableEq κ] (key : ρ → κ) {rows : List ρ}
    (hnodup : (rows.map key).Nodup) {r : ρ} (hr : r ∈ rows) :
    rows.filter (fun x => key x = key r) = [r] := by
  induction rows with
  | nil => cases hr
  | cons x xs ih =>
    obtain ⟨hx, hxs⟩ := List.nodup_cons.mp hnodup
    rcases List.mem_cons.mp hr with rfl | hr
    · have hrest : xs.filter (fun y => key y = key r) = [] :=
        List.filter_eq_nil_iff.mpr fun y hy => by
          simpa using fun h => hx (List.mem_map.mpr ⟨y, hy, h⟩)
      simp [hrest]
    · have hne : key x ≠ key r := fun h => hx (List.mem_map.mpr ⟨r, hr, h.symm⟩)
      simp [hne, ih hxs hr]

/-- A row that is appended under a new key is picked alone. -/
theorem filter_key_append {ρ κ : Type} [DecidableEq κ] (key : ρ → κ) {old new : List ρ}
    (hnodup : (new.map key).Nodup) (hfree : ∀ r ∈ new, ∀ o ∈ old, key o ≠ key r) {r : ρ}
    (hr : r ∈ new) : (old ++ new).filter (fun x => key x = key r) = [r] := by
  have hold : old.filter (fun x => key x = key r) = [] :=
    List.filter_eq_nil_iff.mpr fun o ho => by simpa using hfree r hr o ho
  rw [List.filter_append, hold, List.nil_append, filter_key key hnodup hr]

theorem observationRows_items (L : Library) (plan : Plan) (items : List Item) : ∀ roundIds,
    (observationRows L plan roundIds items).map ObservationRow.item = items := by
  induction items with
  | nil =>
    intro roundIds
    rfl
  | cons item rest ih =>
    intro roundIds
    cases hlookup : roundIds.lookup item.roundOrdinal with
    | some roundId => simp [(roundRows_opened L plan hlookup rest).2, ih]
    | none => simp [(roundRows_opening L plan hlookup rest).2, ih]

/-- An observation is in a round of its ordinal: one that is opened, or one from before. -/
theorem observationRows_round (items : List Item) : ∀ {roundIds : List (ℤ × String)}
    {o : ObservationRow}, o ∈ observationRows L plan roundIds items →
      o.executionId = plan.executionId ∧
        (roundIds.lookup o.item.roundOrdinal = some o.roundId ∨
          ∃ r ∈ roundRows L plan roundIds items, r.roundId = o.roundId ∧
            r.roundOrdinal = o.item.roundOrdinal) := by
  induction items with
  | nil =>
    intro roundIds o ho
    cases ho
  | cons item rest ih =>
    intro roundIds o ho
    cases hlookup : roundIds.lookup item.roundOrdinal with
    | some roundId =>
      obtain ⟨hrounds, hobservations⟩ := roundRows_opened L plan hlookup rest
      rw [hobservations] at ho
      rw [hrounds]
      rcases List.mem_cons.mp ho with rfl | ho
      · exact ⟨rfl, Or.inl hlookup⟩
      · exact ih ho
    | none =>
      obtain ⟨hrounds, hobservations⟩ := roundRows_opening L plan hlookup rest
      rw [hobservations] at ho
      rw [hrounds]
      rcases List.mem_cons.mp ho with rfl | ho
      · exact ⟨rfl, Or.inr ⟨_, List.mem_cons_self, rfl, rfl⟩⟩
      · obtain ⟨hexecution, hround⟩ := ih ho
        refine ⟨hexecution, ?_⟩
        rcases hround with hopened | ⟨r, hr, hround⟩
        · by_cases hordinal : o.item.roundOrdinal = item.roundOrdinal
          · rw [hordinal, List.lookup_cons_self] at hopened
            exact Or.inr ⟨_, List.mem_cons_self, Option.some.inj hopened, hordinal.symm⟩
          · rw [List.lookup_cons, beq_false_of_ne hordinal] at hopened
            exact Or.inl hopened
        · exact Or.inr ⟨r, List.mem_cons_of_mem _ hr, hround⟩

theorem mem_roundRows (items : List Item) : ∀ {roundIds : List (ℤ × String)}
    {r : RoundRow}, r ∈ roundRows L plan roundIds items →
      ∃ item ∈ items, r = roundRow L plan item := by
  induction items with
  | nil =>
    intro roundIds r hr
    cases hr
  | cons item rest ih =>
    intro roundIds r hr
    cases hlookup : roundIds.lookup item.roundOrdinal with
    | some roundId =>
      rw [(roundRows_opened L plan hlookup rest).1] at hr
      obtain ⟨i, hi, hround⟩ := ih hr
      exact ⟨i, List.mem_cons_of_mem _ hi, hround⟩
    | none =>
      rw [(roundRows_opening L plan hlookup rest).1] at hr
      rcases List.mem_cons.mp hr with rfl | hr
      · exact ⟨item, List.mem_cons_self, rfl⟩
      · obtain ⟨i, hi, hround⟩ := ih hr
        exact ⟨i, List.mem_cons_of_mem _ hi, hround⟩

/-- The primary keys of the rounds and of the observations are new. -/
theorem insertRounds_fresh (items : List Item) : ∀ {roundIds : List (ℤ × String)}
    {store store' : Store}, insertRounds L plan roundIds items store = .ok store' →
      (((roundRows L plan roundIds items).map RoundRow.roundId).Nodup ∧
        ∀ r ∈ roundRows L plan roundIds items, ∀ old ∈ store.rounds, old.roundId ≠ r.roundId) ∧
      ((items.map Item.observationId).Nodup ∧ ∀ item ∈ items, ∀ old ∈ store.observations,
        old.item.observationId ≠ item.observationId) := by
  induction items with
  | nil => simp [roundRows]
  | cons item rest ih =>
    -- the observation is inserted before those of the rest
    have hcons : ∀ {mid : Store} {roundId : String},
        (∀ old ∈ mid.observations, old.item.observationId ≠ item.observationId) →
        (rest.map Item.observationId).Nodup →
        (∀ i ∈ rest, ∀ old ∈ mid.observations ++ [⟨item, plan.executionId, roundId⟩],
          old.item.observationId ≠ i.observationId) →
        ((item :: rest).map Item.observationId).Nodup ∧ ∀ i ∈ item :: rest,
          ∀ old ∈ mid.observations, old.item.observationId ≠ i.observationId := by
      intro mid roundId hfree hnodup hrest
      refine ⟨List.nodup_cons.mpr ⟨fun hmem => ?_, hnodup⟩, ?_⟩
      · obtain ⟨i, hi, hid⟩ := List.mem_map.mp hmem
        exact hrest i hi ⟨item, plan.executionId, roundId⟩ (by simp) hid.symm
      · refine List.forall_mem_cons.mpr ⟨hfree, fun i hi old hold => ?_⟩
        exact hrest i hi old (List.mem_append_left _ hold)
    intro roundIds store store' h
    cases hlookup : roundIds.lookup item.roundOrdinal with
    | some roundId =>
      simp only [insertRounds, hlookup] at h
      obtain ⟨mid, hmid, h⟩ := bind_ok h
      obtain ⟨rfl, hfree⟩ := insertObservation_writes hmid
      obtain ⟨hrounds, hnodup, hrest⟩ := ih h
      rw [(roundRows_opened L plan hlookup rest).1]
      exact ⟨hrounds, hcons hfree hnodup hrest⟩
    | none =>
      simp only [insertRounds, hlookup] at h
      obtain ⟨first, hfirst, h⟩ := bind_ok h
      obtain ⟨mid, hmid, h⟩ := bind_ok h
      obtain ⟨rfl, hround⟩ := insertRound_writes hfirst
      obtain ⟨rfl, hfree⟩ := insertObservation_writes hmid
      obtain ⟨⟨hids, hold⟩, hnodup, hrest⟩ := ih h
      rw [(roundRows_opening L plan hlookup rest).1]
      refine ⟨⟨List.nodup_cons.mpr ⟨fun hmem => ?_, hids⟩, ?_⟩, hcons hfree hnodup hrest⟩
      · obtain ⟨r, hr, hid⟩ := List.mem_map.mp hmem
        exact hold r hr (roundRow L plan item) (by simp) hid.symm
      · refine List.forall_mem_cons.mpr ⟨hround, fun r hr old hold' => ?_⟩
        exact hold r hr old (List.mem_append_left _ hold')

theorem mem_groupOf {items : List Item} {mint : String} {item : Item} :
    item ∈ groupOf items mint ↔ item ∈ items ∧ item.mint = some mint := by
  simp [groupOf]

/-- The links of an observation are those to the candidates of its mint. -/
theorem filter_linkRows {items : List Item} (hids : (items.map Item.observationId).Nodup)
    {item : Item} (hitem : item ∈ items) (candidates : List Candidate) :
    (∀ c ∈ candidates, c.observations = groupOf items c.mint) →
      (candidates.flatMap linkRows).filter (fun l => l.observationId = item.observationId) =
        (candidates.filter fun c => item.mint = some c.mint).map fun c =>
          ⟨c.candidateId, item.observationId⟩ := by
  have hsame : ∀ other ∈ items, other.observationId = item.observationId → other = item :=
    fun other hother hid => List.inj_on_of_nodup_map hids hother hitem hid
  induction candidates with
  | nil => simp
  | cons c rest ih =>
    intro hgroups
    obtain ⟨hgroup, hrest⟩ := List.forall_mem_cons.mp hgroups
    have hfirst : (linkRows c).filter (fun l => l.observationId = item.observationId) =
        if item.mint = some c.mint then [⟨c.candidateId, item.observationId⟩] else [] := by
      unfold linkRows
      rw [hgroup, List.filter_map]
      split_ifs with hmint
      · have hgroupIds : ((groupOf items c.mint).map Item.observationId).Nodup :=
          hids.sublist (List.Sublist.map _ List.filter_sublist)
        have hone := filter_key Item.observationId hgroupIds (mem_groupOf.mpr ⟨hitem, hmint⟩)
        exact congrArg (List.map fun i : Item => (⟨c.candidateId, i.observationId⟩ : LinkRow)) hone
      · rw [List.map_eq_nil_iff, List.filter_eq_nil_iff]
        intro other hother hid
        obtain ⟨hother, hmint'⟩ := mem_groupOf.mp hother
        rw [hsame other hother (by simpa using hid)] at hmint'
        exact hmint hmint'
    rw [List.flatMap_cons, List.filter_append, hfirst, ih hrest, List.filter_cons]
    by_cases hmint : item.mint = some c.mint <;> simp [hmint]

end PrinterV1.Discovery
