import PrinterV1.Discovery.QuotaView

/-!
# What the passes reach

A batch that is short of its target has every active candidate outside group A and, where
there is a trap, as many of group A as its limit and its two kinds allow.
-/

namespace PrinterV1.Discovery

open Python

attribute [local instance] lawfulTextPair

section Reaching

variable {targetSize : ℕ}

theorem take_reaches (selected : List QuotaEntry) (c : QuotaEntry) :
    c ∈ take targetSize selected c ∨ targetSize ≤ selected.length := by
  unfold take
  split_ifs with hfits
  · simp
  · by_cases hc : c ∈ selected
    · exact .inl hc
    · exact .inr (Nat.not_lt.mp fun hroom => hfits ⟨hc, hroom⟩)

theorem takeUntil_reaches (targetSize : ℕ) (enough : List QuotaEntry → Bool)
    (cs : List QuotaEntry) : ∀ selected, enough (takeUntil targetSize enough selected cs) = true ∨
      targetSize ≤ (takeUntil targetSize enough selected cs).length ∨
        cs ⊆ takeUntil targetSize enough selected cs := by
  induction cs with
  | nil => intro selected; exact .inr (.inr (List.nil_subset _))
  | cons c cs ih =>
    intro selected
    by_cases henough : enough selected = true
    · simp only [takeUntil, henough, if_true, true_or]
    · simp only [takeUntil, henough, Bool.false_eq_true, if_false]
      rcases ih (take targetSize selected c) with h | h | h
      · exact .inl h
      · exact .inr (.inl h)
      · have hmore := prefix_takeUntil targetSize enough cs
          (take targetSize selected c)
        rcases take_reaches selected c with hc | hfull
        · exact .inr (.inr (List.cons_subset.mpr ⟨hmore.subset hc, h⟩))
        · have hlonger := ((prefix_take selected c).trans hmore).length_le
          exact .inr (.inl (hfull.trans hlonger))

theorem takeUntil_of_enough {enough : List QuotaEntry → Bool} {selected : List QuotaEntry}
    (h : enough selected = true) (cs : List QuotaEntry) :
    takeUntil targetSize enough selected cs = selected := by
  cases cs with
  | nil => rfl
  | cons c cs => simp [takeUntil, h]

theorem takeUntil_of_full (enough : List QuotaEntry → Bool) {selected : List QuotaEntry}
    (h : targetSize ≤ selected.length) (cs : List QuotaEntry) :
    takeUntil targetSize enough selected cs = selected := by
  induction cs with
  | nil => rfl
  | cons c cs ih =>
    have hsame : take targetSize selected c = selected := if_neg fun hfits => by omega
    rw [takeUntil, hsame, ih, ite_self]

end Reaching

/-- What a list without repetitions counts, another that has those elements counts as well. -/
theorem countP_le_of_mem {α : Type*} {p : α → Bool} {xs ys : List α} (hnodup : xs.Nodup)
    (h : ∀ x ∈ xs, p x = true → x ∈ ys) : xs.countP p ≤ ys.countP p := by
  rw [List.countP_eq_length_filter, List.countP_eq_length_filter]
  apply (List.subperm_of_subset (hnodup.filter p) _).length_le
  intro x hx
  obtain ⟨hmem, hp⟩ := List.mem_filter.mp hx
  exact List.mem_filter.mpr ⟨h x hmem hp, hp⟩

section Picks

variable {eligible : List QuotaEntry} {targetSize : ℕ}

theorem auditedFirst_small (h : targetSize < 6) : auditedFirst eligible targetSize = [] :=
  if_neg (Nat.not_le.mpr h)

/-- The first pass takes a member of the audit. -/
theorem inactive_auditedFirst : ∀ e ∈ auditedFirst eligible targetSize, e.isActive = false := by
  have hempty : Batch (eligible.filter fun e => e.candidateKind = .auditOnly) targetSize [] :=
    ⟨List.nodup_nil, List.nil_subset _, Nat.zero_le _⟩
  have hsub : auditedFirst eligible targetSize ⊆
      eligible.filter fun e => e.candidateKind = .auditOnly := by
    unfold auditedFirst
    extract_lets auditWatch auditD1
    split_ifs
    · exact (hempty.takeFirst (List.filter_subset_self _)).sub
    · exact (hempty.takeFirst (List.Subset.refl _)).sub
    · exact List.nil_subset _
  intro e he
  have hkind := of_decide_eq_true (List.mem_filter.mp (hsub he)).2
  simp [QuotaEntry.isActive, hkind]

/-- From six on the first pass takes a dead token of the audit, where there is one. -/
theorem auditedFirst_dead (h : 6 ≤ targetSize)
    (hdead : ∃ e ∈ eligible, e.isActive = false ∧ e.primaryBucket = .d1) :
    ∃ e ∈ eligible, e.isActive = false ∧ e.primaryBucket = .d1 ∧
      auditedFirst eligible targetSize = [e] := by
  have hmem : ∀ e, e ∈ (eligible.filter fun e => e.candidateKind = .auditOnly).filter
      (fun e => e.primaryBucket = .d1) ↔
        e ∈ eligible ∧ e.isActive = false ∧ e.primaryBucket = .d1 := by
    intro e
    cases hkind : e.candidateKind <;> simp [QuotaEntry.isActive, hkind]
  unfold auditedFirst
  dsimp only
  rw [if_pos h]
  cases hd1 : (eligible.filter fun e => e.candidateKind = .auditOnly).filter
      fun e => e.primaryBucket = .d1 with
  | nil =>
    obtain ⟨e, he⟩ := hdead
    have hin := (hmem e).mpr he
    rw [hd1] at hin
    cases hin
  | cons e rest =>
    have hin : e ∈ (eligible.filter fun e => e.candidateKind = .auditOnly).filter
        fun e => e.primaryBucket = .d1 := by
      rw [hd1]
      exact List.mem_cons_self
    obtain ⟨heligible, hkind, hbucket⟩ := (hmem e).mp hin
    refine ⟨e, heligible, hkind, hbucket, ?_⟩
    have hroom : 0 < targetSize := by omega
    simp [takeFirst, take, hroom]

/-- There is room for a trap and a winner behind the picks of group B. -/
theorem groupBPicks_room (eligible : List QuotaEntry) (h : 3 ≤ targetSize) :
    (groupBPicks eligible targetSize).length + 1 < targetSize := by
  have haudited := length_auditedFirst_le eligible targetSize
  unfold groupBPicks
  extract_lets nonA groupBOrD groupBDecay enoughB decayed
  have hdecayed : decayed.length ≤ (auditedFirst eligible targetSize).length + 1 := by
    have hone := countP_takeFirst_le (p := fun _ => true) targetSize
      (auditedFirst eligible targetSize) (if groupBDecay ≠ [] then groupBDecay else groupBOrD)
    rwa [List.countP_true] at hone
  by_cases hsmall : targetSize < 6
  · have henough : enoughB decayed = true := by
      simp [enoughB, groupBMinimum, Nat.not_le.mpr hsmall]
    rw [takeUntil_of_enough henough]
    rw [auditedFirst_small hsmall, List.length_nil] at hdecayed
    omega
  · -- the picks are of group B, but for the two before them
    have hB : ∀ c ∈ nonA.filter fun e => e.primaryBucket.groupB,
        (!c.primaryBucket.groupB) = false := by
      intro c hc
      simpa using (List.mem_filter.mp hc).2
    have hstop : ∀ selected, enoughB selected = false →
        selected.countP (fun e => e.primaryBucket.groupB) < max 2 (groupBMinimum targetSize) := by
      intro selected hselected
      have hfew : selected.countP (fun e => e.primaryBucket.groupB) < groupBMinimum targetSize := by
        simpa [enoughB] using hselected
      omega
    have hleft : decayed.countP (fun e => e.primaryBucket.groupB) ≤ decayed.length :=
      List.countP_le_length
    have hright : decayed.countP (fun e => !e.primaryBucket.groupB) ≤ decayed.length :=
      List.countP_le_length
    set picks := takeUntil targetSize enoughB decayed
      (nonA.filter fun e => e.primaryBucket.groupB) with hpicks
    have hcount : picks.countP (fun e => e.primaryBucket.groupB) ≤
        max 2 (groupBMinimum targetSize) := countP_takeUntil_le hstop _ decayed (by omega)
    have hothers : picks.countP (fun e => !e.primaryBucket.groupB) =
        decayed.countP fun e => !e.primaryBucket.groupB :=
      countP_takeUntil_eq enoughB hB decayed
    have hsplit : picks.length = picks.countP (fun e => e.primaryBucket.groupB) +
        picks.countP fun e => !e.primaryBucket.groupB := by
      rw [List.length_eq_countP_add_countP fun e : QuotaEntry => e.primaryBucket.groupB]
      congr 2
      funext e
      cases e.primaryBucket.groupB <;> rfl
    have hminimum : groupBMinimum targetSize = (targetSize * 30 + 99) / 100 :=
      if_pos (Nat.not_lt.mp hsmall)
    omega

theorem groupA_of_trapsOf {e : QuotaEntry} (h : e ∈ trapsOf eligible) :
    e.primaryBucket.groupA = true := by
  have htrap := (List.mem_filter.mp h).2
  revert htrap
  cases e.primaryBucket <;> decide

theorem nodup_nonAOf (hnodup : eligible.Nodup) : (nonAOf eligible).Nodup :=
  (hnodup.filter _).filter _

theorem prefix_openingPicks :
    groupBPicks eligible targetSize <+: openingPicks eligible targetSize := by
  have htraps := prefix_takeFirst targetSize (groupBPicks eligible targetSize) (trapsOf eligible)
  unfold openingPicks
  dsimp only
  split_ifs
  · exact htraps.trans (prefix_takeFirst _ _ _)
  · exact prefix_takeFirst _ _ _
  · exact htraps
  · exact List.prefix_refl _

theorem prefix_composeBatch :
    openingPicks eligible targetSize <+: composeBatch eligible targetSize := by
  unfold composeBatch
  dsimp only
  exact ((prefix_takeUntil _ _ _ _).trans (prefix_takeUntil _ _ _ _)).trans (prefix_takeUntil _ _ _ _)

theorem prefix_groupBPicks :
    auditedFirst eligible targetSize <+: groupBPicks eligible targetSize :=
  (prefix_takeFirst _ _ _).trans (prefix_takeUntil _ _ _ _)

/-- The members the first passes take stay in the batch. -/
theorem subset_composeBatch :
    groupBPicks eligible targetSize ⊆ composeBatch eligible targetSize :=
  (prefix_openingPicks.trans prefix_composeBatch).subset

/-- The first of a list is taken where there is room. -/
theorem takeFirst_reaches {selected : List QuotaEntry} (hroom : selected.length < targetSize)
    (c : QuotaEntry) (cs : List QuotaEntry) : c ∈ takeFirst targetSize selected (c :: cs) := by
  rcases take_reaches selected c with hc | hfull
  · exact hc
  · omega

theorem decay_reached (h : 2 ≤ targetSize)
    (hdecay : ∃ e ∈ nonAOf eligible, e.primaryBucket.groupBDecay = true) :
    ∃ e ∈ groupBPicks eligible targetSize, e.primaryBucket.groupBDecay = true := by
  have haudited := length_auditedFirst_le eligible targetSize
  obtain ⟨e, he, hbucket⟩ := hdecay
  cases hcs : (nonAOf eligible).filter fun e => e.primaryBucket.groupBDecay with
  | nil => exact absurd hbucket (List.filter_eq_nil_iff.mp hcs e he)
  | cons c cs =>
    have hc : c ∈ (nonAOf eligible).filter fun e => e.primaryBucket.groupBDecay :=
      hcs ▸ List.mem_cons_self
    refine ⟨c, ?_, (List.mem_filter.mp hc).2⟩
    unfold groupBPicks
    extract_lets nonA groupBOrD groupBDecay enoughB decayed
    have hdecayed : c ∈ decayed := by
      unfold decayed groupBDecay
      rw [hcs, if_pos (List.cons_ne_nil c cs)]
      exact takeFirst_reaches (by omega) c cs
    exact (prefix_takeUntil _ _ _ _).subset hdecayed

theorem groupB_reached (h : 3 ≤ targetSize) (hnodup : eligible.Nodup)
    (hB : groupBMinimum targetSize ≤ (nonAOf eligible).countP fun e => e.primaryBucket.groupB) :
    groupBMinimum targetSize ≤
      (groupBPicks eligible targetSize).countP fun e => e.primaryBucket.groupB := by
  have hroom := groupBPicks_room eligible h
  unfold groupBPicks
  extract_lets nonA groupBOrD groupBDecay enoughB decayed
  rcases takeUntil_reaches targetSize enoughB (nonA.filter fun e => e.primaryBucket.groupB)
      decayed with henough | hfull | hall
  · simpa [enoughB] using henough
  · have hlong : targetSize ≤ (groupBPicks eligible targetSize).length := hfull
    omega
  · apply hB.trans
    apply countP_le_of_mem (nodup_nonAOf hnodup)
    intro e he hbucket
    exact hall (List.mem_filter.mpr ⟨he, hbucket⟩)

theorem groupALimit_pos (h : 3 ≤ targetSize) : 0 < groupALimit targetSize := by
  unfold groupALimit
  omega

theorem trap_reached (h : 3 ≤ targetSize) {c : QuotaEntry} {cs : List QuotaEntry}
    (hcs : trapsOf eligible = c :: cs) : c ∈ openingPicks eligible targetSize := by
  have hroom := groupBPicks_room eligible h
  have htaken := takeFirst_reaches (Nat.lt_of_succ_lt hroom) c cs
  unfold openingPicks
  dsimp only
  rw [if_pos (groupALimit_pos h), hcs]
  split_ifs
  · exact (prefix_takeFirst _ _ _).subset htaken
  · exact htaken

theorem winner_reached (h : 5 ≤ targetSize) {c : QuotaEntry} {cs : List QuotaEntry}
    (hcs : winnersOf eligible = c :: cs) : c ∈ openingPicks eligible targetSize := by
  have hroom := groupBPicks_room eligible ((show 3 ≤ 5 by decide).trans h)
  have hlimit : groupALimit targetSize > 1 := by
    unfold groupALimit
    omega
  have hone := countP_takeFirst_le (p := fun _ => true) targetSize
    (groupBPicks eligible targetSize) (trapsOf eligible)
  rw [List.countP_true] at hone
  unfold openingPicks
  dsimp only
  rw [if_pos hlimit, if_pos (Nat.lt_of_succ_lt hlimit), hcs]
  exact takeFirst_reaches (by omega) c cs

/-- A batch that is not filled has all candidates outside group A. -/
theorem nonA_reached (eligible : List QuotaEntry) (targetSize : ℕ) :
    targetSize ≤ (composeBatch eligible targetSize).length ∨ nonAOf eligible ⊆ composeBatch eligible targetSize := by
  unfold composeBatch
  extract_lets enoughA filled moreTraps
  have hmore : filled <+: takeUntil targetSize enoughA moreTraps ((winnersOf eligible).tail.take 1) :=
    (prefix_takeUntil _ _ _ _).trans (prefix_takeUntil _ _ _ _)
  rcases takeUntil_reaches targetSize (fun _ => false) (nonAOf eligible)
      (openingPicks eligible targetSize) with henough | hfull | hall
  · cases henough
  · exact .inl (hfull.trans hmore.length_le)
  · exact .inr (List.Subset.trans hall hmore.subset)

theorem tails_reached (eligible : List QuotaEntry) (targetSize : ℕ) :
    targetSize ≤ (composeBatch eligible targetSize).length ∨
    groupALimit targetSize ≤
      (composeBatch eligible targetSize).countP (fun e => e.primaryBucket.groupA) ∨
    (trapsOf eligible).tail ⊆ composeBatch eligible targetSize ∧
      (winnersOf eligible).tail.take 1 ⊆ composeBatch eligible targetSize := by
  unfold composeBatch
  extract_lets enoughA filled moreTraps
  have hmore : moreTraps <+: takeUntil targetSize enoughA moreTraps
    ((winnersOf eligible).tail.take 1) := prefix_takeUntil _ _ _ _
  rcases takeUntil_reaches targetSize enoughA
      ((winnersOf eligible).tail.take 1) moreTraps with henough | hfull | hwinners
  · exact .inr (.inl (by simpa [enoughA] using henough))
  · exact .inl hfull
  rcases takeUntil_reaches targetSize enoughA (trapsOf eligible).tail filled with
    henough | hfull | htraps
  · have hreached : groupALimit targetSize ≤
        moreTraps.countP fun e => e.primaryBucket.groupA := by
      simpa [enoughA] using henough
    exact .inr (.inl (hreached.trans hmore.sublist.countP_le))
  · exact .inl (hfull.trans hmore.length_le)
  · exact .inr (.inr ⟨List.Subset.trans htraps hmore.subset, hwinners⟩)

/-- A batch that is not filled has, where there is a trap, all of group A its limit allows. -/
theorem groupA_reached (h : 3 ≤ targetSize) (htrap : trapsOf eligible ≠ []) :
    targetSize ≤ (composeBatch eligible targetSize).length ∨
      groupALimit targetSize ≤
        (composeBatch eligible targetSize).countP (fun e => e.primaryBucket.groupA) ∨
      trapsOf eligible ⊆ composeBatch eligible targetSize ∧
        (winnersOf eligible).take 2 ⊆ composeBatch eligible targetSize := by
  have hopening : openingPicks eligible targetSize ⊆ composeBatch eligible targetSize :=
    prefix_composeBatch.subset
  rcases tails_reached eligible targetSize with
    hfull | hlimit | ⟨htraps, hwinners⟩
  · exact .inl hfull
  · exact .inr (.inl hlimit)
  obtain ⟨trap, traps, hcs⟩ := List.exists_cons_of_ne_nil htrap
  have hfirst : trap ∈ composeBatch eligible targetSize := hopening (trap_reached h hcs)
  rw [hcs] at htraps ⊢
  by_cases hfive : 5 ≤ targetSize
  · refine .inr (.inr ⟨List.cons_subset.mpr ⟨hfirst, htraps⟩, ?_⟩)
    cases hws : winnersOf eligible with
    | nil => simp
    | cons winner winners =>
      rw [hws] at hwinners
      exact List.cons_subset.mpr ⟨hopening (winner_reached hfive hws), hwinners⟩
  · -- the limit is one, and the trap is of group A
    have hbucket : trap.primaryBucket.groupA = true :=
      groupA_of_trapsOf (hcs ▸ List.mem_cons_self)
    have hone : 0 < (composeBatch eligible targetSize).countP fun e => e.primaryBucket.groupA :=
      List.countP_pos_iff.mpr ⟨trap, hfirst, hbucket⟩
    have hlimit : groupALimit targetSize ≤ 1 := by
      unfold groupALimit
      omega
    exact .inr (.inl (hlimit.trans hone))

/-- A loop adds no more than its list has. -/
theorem countP_takeUntil_add {p : QuotaEntry → Bool} (targetSize : ℕ)
    (enough : List QuotaEntry → Bool) (cs : List QuotaEntry) : ∀ selected,
      (takeUntil targetSize enough selected cs).countP p ≤ selected.countP p + cs.countP p := by
  induction cs with
  | nil => intro selected; exact Nat.le_add_right _ _
  | cons c cs ih =>
    intro selected
    unfold takeUntil
    split_ifs
    · exact Nat.le_add_right _ _
    · have hrest := ih (take targetSize selected c)
      have htaken : (take targetSize selected c).countP p ≤
          selected.countP p + [c].countP p := by
        unfold take
        split_ifs
        · rw [List.countP_append]
        · exact Nat.le_add_right _ _
      rw [List.countP_cons]
      rw [List.countP_singleton] at htaken
      omega

/-- The passes take two winners at most. -/
theorem winners_composeBatch_le (eligible : List QuotaEntry) (targetSize : ℕ) :
    (composeBatch eligible targetSize).countP (fun e => e.primaryBucket = .a1) ≤
      (auditedFirst eligible targetSize).countP (fun e => e.primaryBucket = .a1) + 2 := by
  have hgroup : ∀ e : QuotaEntry, decide (e.primaryBucket = .a1) = true →
      e.primaryBucket.groupA = true := by
    intro e he
    rw [of_decide_eq_true he]
    rfl
  have htraps : ∀ c ∈ trapsOf eligible, decide (c.primaryBucket = .a1) = false := by
    intro c hc
    have htrapped := (List.mem_filter.mp hc).2
    revert htrapped
    cases c.primaryBucket <;> decide
  have hopening : (openingPicks eligible targetSize).countP (fun e => e.primaryBucket = .a1) ≤
      (auditedFirst eligible targetSize).countP (fun e => e.primaryBucket = .a1) + 1 := by
    rw [← countP_groupBPicks hgroup]
    unfold openingPicks
    extract_lets filledB trapped
    have htrapped : trapped.countP (fun e => e.primaryBucket = .a1) =
        filledB.countP fun e => e.primaryBucket = .a1 := by
      unfold trapped
      split_ifs
      · exact countP_takeFirst_eq htraps
      · rfl
    rw [← htrapped]
    split_ifs
    · exact countP_takeFirst_le targetSize trapped (winnersOf eligible)
    · exact Nat.le_succ _
  unfold composeBatch
  extract_lets enoughA filled moreTraps
  have hfilled : filled.countP (fun e => e.primaryBucket = .a1) =
      (openingPicks eligible targetSize).countP fun e => e.primaryBucket = .a1 :=
    countP_takeUntil_eq _ (nonAOf_eq_false hgroup) _
  have hmore : moreTraps.countP (fun e => e.primaryBucket = .a1) =
      filled.countP fun e => e.primaryBucket = .a1 :=
    countP_takeUntil_eq _ (fun c hc => htraps c (List.mem_of_mem_tail hc)) _
  have hlast := countP_takeUntil_add targetSize
    (p := fun e => e.primaryBucket = .a1) enoughA ((winnersOf eligible).tail.take 1) moreTraps
  have hone : ((winnersOf eligible).tail.take 1).countP (fun e => e.primaryBucket = .a1) ≤ 1 :=
    List.countP_le_length.trans (List.length_take_le _ _)
  omega

/-- Without a trap, and with enough others, a small batch has none of group A. -/
theorem groupA_composeBatch_eq_zero (h : targetSize < 5) (htraps : trapsOf eligible = [])
    (hfull : targetSize ≤ (nonAOf eligible).length) (hnodup : eligible.Nodup) :
    (composeBatch eligible targetSize).countP (fun e => e.primaryBucket.groupA) = 0 := by
  have hlimit : ¬groupALimit targetSize > 1 := by
    unfold groupALimit
    omega
  have hopening : (openingPicks eligible targetSize).countP (fun e => e.primaryBucket.groupA) =
      0 := by
    have hpicks : openingPicks eligible targetSize = groupBPicks eligible targetSize := by
      unfold openingPicks
      rw [htraps]
      dsimp only
      rw [if_neg hlimit]
      split_ifs <;> rfl
    rw [hpicks, countP_groupBPicks (fun _ h => h), auditedFirst_small (by omega)]
    rfl
  unfold composeBatch
  extract_lets enoughA filled moreTraps
  have hfilled : filled.countP (fun e => e.primaryBucket.groupA) = 0 := by
    rw [← hopening]
    exact countP_takeUntil_eq _ (nonAOf_eq_false fun _ h => h) _
  have hlength : targetSize ≤ filled.length := by
    rcases takeUntil_reaches targetSize (fun _ => false) (nonAOf eligible)
        (openingPicks eligible targetSize) with henough | hlong | hall
    · cases henough
    · exact hlong
    · exact hfull.trans (List.subperm_of_subset (nodup_nonAOf hnodup) hall).length_le
  have hmore : moreTraps = filled := takeUntil_of_full enoughA hlength _
  rw [hmore, takeUntil_of_full enoughA hlength, hfilled]

end Picks

end PrinterV1.Discovery
