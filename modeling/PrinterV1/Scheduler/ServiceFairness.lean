import Mathlib.Data.List.Nodup
import PrinterV1.Foundation.Balance
import PrinterV1.Foundation.Faults
import PrinterV1.Scheduler.TwoTokenFairness

/-!
# Fairness between two slots

The order of the items and the items of a stopped slot do not change what is
selected. Where neither slot has work of a lower category, the slot that was
served less often is served next.
-/

namespace PrinterV1.Scheduler

open Python

/-! ## Valid inputs -/

/-- The checks of a work item on its own. -/
structure ValidItem (R : Value.Rendering) (item : SchedulerWorkItem) : Prop where
  work : validateIdentity "scheduler_work" item.schedulerWorkId = .ok item.schedulerWorkId
  slot : validateIdentity "token_slot" item.tokenSlotId = .ok item.tokenSlotId
  token : validateIdentity "token" item.tokenId = .ok item.tokenId
  kind : ∃ kind, enumMember R "JobKind" jobKindValues item.jobKind = .ok kind
  intent : ∃ intent,
    enumMember R "SchedulerWorkIntent" schedulerWorkIntentValues item.workIntent = .ok intent
  status : ∃ status, enumMember R "JobStatus" jobStatusValues item.status = .ok status

/-- Every item is valid, and no two have one identity. -/
structure ValidItems (R : Value.Rendering) (items : List SchedulerWorkItem) : Prop where
  each : ∀ item ∈ items, ValidItem R item
  unique : (items.map SchedulerWorkItem.schedulerWorkId).Nodup

variable {R : Value.Rendering}

theorem validatedWorkItems_of_valid {items : List SchedulerWorkItem} :
    ∀ {seen : List String}, ValidItems R items →
      (∀ item ∈ items, item.schedulerWorkId ∉ seen) → validatedWorkItems R seen items = .ok () := by
  induction items with
  | nil =>
    intro seen _ _
    rfl
  | cons item items ih =>
    intro seen hvalid hseen
    have hitem := hvalid.each item List.mem_cons_self
    obtain ⟨kind, hkind⟩ := hitem.kind
    obtain ⟨intent, hintent⟩ := hitem.intent
    obtain ⟨status, hstatus⟩ := hitem.status
    have hunique := List.nodup_cons.mp hvalid.unique
    have hrest : validatedWorkItems R (item.schedulerWorkId :: seen) items = .ok () := by
      apply ih ⟨fun other h => hvalid.each other (List.mem_cons_of_mem _ h), hunique.2⟩
      intro other hother hmem
      rcases List.mem_cons.mp hmem with hsame | hmem
      · exact hunique.1 (List.mem_map.mpr ⟨other, hother, hsame⟩)
      · exact hseen other (List.mem_cons_of_mem _ hother) hmem
    unfold validatedWorkItems
    rw [hitem.work, Faults.ok_bind, hitem.slot, Faults.ok_bind, hitem.token, Faults.ok_bind, hkind,
      Faults.ok_bind, hintent, Faults.ok_bind, hstatus, Faults.ok_bind,
      if_neg (hseen item List.mem_cons_self)]
    exact hrest

theorem ValidItems.of_perm {items items' : List SchedulerWorkItem} (h : ValidItems R items)
    (hperm : items.Perm items') : ValidItems R items' where
  each item hitem := h.each item (hperm.mem_iff.mpr hitem)
  unique := (hperm.map _).nodup_iff.mp h.unique

theorem ValidItems.filter {items : List SchedulerWorkItem} (h : ValidItems R items)
    (p : SchedulerWorkItem → Bool) : ValidItems R (items.filter p) where
  each item hitem := h.each item (List.mem_of_mem_filter hitem)
  unique := h.unique.sublist (List.filter_sublist.map _)

theorem ValidItems.eq_of_id {items : List SchedulerWorkItem} (h : ValidItems R items)
    {i j : SchedulerWorkItem} (hi : i ∈ items) (hj : j ∈ items)
    (hid : i.schedulerWorkId = j.schedulerWorkId) : i = j :=
  List.inj_on_of_nodup_map h.unique hi hj hid

/-- The checks of a slot on its own. -/
structure ValidSlot (slot : TwoTokenSlot) : Prop where
  own : validateIdentity "token_slot" slot.slotId = .ok slot.slotId
  token : validateIdentity "token" slot.tokenId = .ok slot.tokenId
  mint : validateIdentity "mint" slot.mintId = .ok slot.mintId
  pair : validateIdentity "pair" slot.pairId = .ok slot.pairId
  lifecycle : validateIdentity "lifecycle" slot.lifecycleId = .ok slot.lifecycleId
  count : 0 ≤ slot.ordinaryServiceCount

structure ValidSlots (a b : TwoTokenSlot) : Prop where
  first : ValidSlot a
  second : ValidSlot b
  slots : a.slotId ≠ b.slotId
  tokens : a.tokenId ≠ b.tokenId

/-- The slots by their identities. -/
def slotPair (a b : TwoTokenSlot) : List (String × ℕ × TwoTokenSlot) :=
  [(a.slotId, 0, a), (b.slotId, 1, b)]

theorem slotPair_lookup (a b : TwoTokenSlot) (id : String) :
    (slotPair a b).lookup id =
      if id = a.slotId then some (0, a) else if id = b.slotId then some (1, b) else none := by
  by_cases ha : id = a.slotId
  · rw [if_pos ha, slotPair, ha, List.lookup_cons_self]
  · by_cases hb : id = b.slotId
    · rw [if_neg ha, if_pos hb, slotPair, List.lookup_cons, beq_false_of_ne ha, hb]
      exact List.lookup_cons_self
    · rw [if_neg ha, if_neg hb, slotPair, List.lookup_cons, beq_false_of_ne ha]
      dsimp only
      rw [List.lookup_cons, beq_false_of_ne hb]
      rfl

theorem slotPair_first (a b : TwoTokenSlot) : (slotPair a b).lookup a.slotId = some (0, a) := by
  rw [slotPair_lookup, if_pos rfl]

theorem slotPair_second {a b : TwoTokenSlot} (h : a.slotId ≠ b.slotId) :
    (slotPair a b).lookup b.slotId = some (1, b) := by
  rw [slotPair_lookup, if_neg (Ne.symm h), if_pos rfl]

theorem validatedSlots_cons {index : ℕ} {bySlot : List (String × ℕ × TwoTokenSlot)}
    {tokenIds : List String} {slot : TwoTokenSlot} {slots : List TwoTokenSlot} (h : ValidSlot slot)
    (hslot : bySlot.lookup slot.slotId = none) (htoken : slot.tokenId ∉ tokenIds) :
    validatedSlots index bySlot tokenIds (slot :: slots) =
      validatedSlots (index + 1) (bySlot ++ [(slot.slotId, index, slot)])
        (slot.tokenId :: tokenIds) slots := by
  conv_lhs => unfold validatedSlots
  rw [h.own, Faults.ok_bind, h.token, Faults.ok_bind, h.mint, Faults.ok_bind, h.pair,
    Faults.ok_bind, h.lifecycle, Faults.ok_bind, hslot, if_neg (by simp), if_neg htoken,
    if_neg (not_lt.mpr h.count)]

theorem validatedSlots_of_valid {a b : TwoTokenSlot} (h : ValidSlots a b) :
    validatedSlots 0 [] [] [a, b] = .ok (slotPair a b) := by
  have hother : [(a.slotId, 0, a)].lookup b.slotId = none := by
    rw [List.lookup_cons, beq_false_of_ne (Ne.symm h.slots)]
    rfl
  rw [validatedSlots_cons h.first rfl List.not_mem_nil, List.nil_append,
    validatedSlots_cons h.second hother (by simpa using Ne.symm h.tokens)]
  rfl

/-- The reason for which nothing is selected at all. -/
def stopReason (ceilings : CampaignSchedulerCeilings) (stopReasons : List String) :
    Option String :=
  ((stopReasons.find? (· ∈ sharedStopReasons)).map lower).or (exhaustedCeilingReason ceilings)

theorem select_of_valid {a b : TwoTokenSlot} {items : List SchedulerWorkItem}
    (hslots : ValidSlots a b) (hitems : ValidItems R items) (now : Datetime)
    (ceilings : CampaignSchedulerCeilings) (stopReasons : List String) :
    selectTwoTokenSchedulerWork R [a, b] items now ceilings stopReasons =
      match stopReason ceilings stopReasons with
      | some reason => blocked reason
      | none => selectEligible (slotPair a b) now.instantUtc items := by
  have hvalid : validatedWorkItems R [] items = .ok () :=
    validatedWorkItems_of_valid hitems fun _ _ => List.not_mem_nil
  unfold selectTwoTokenSchedulerWork stopReason
  rw [if_neg (by simp), validatedSlots_of_valid hslots, hvalid]
  cases stopReasons.find? (· ∈ sharedStopReasons) with
  | some reason => rfl
  | none =>
    cases exhaustedCeilingReason ceilings with
    | some reason => rfl
    | none => rfl

/-! ## The order of the items -/

/-- The choice of two selections is the same; the excluded identities may differ. -/
def SameChoice (r r' : TwoTokenSchedulerSelection) : Prop :=
  r.status = r'.status ∧ r.selectedWork = r'.selectedWork ∧ r.reason = r'.reason

theorem SameChoice.refl (r : TwoTokenSchedulerSelection) : SameChoice r r := ⟨rfl, rfl, rfl⟩

variable {slotById slotById' : List (String × ℕ × TwoTokenSlot)}

theorem selectionKey_id {i j : SchedulerWorkItem}
    (h : selectionKey slotById i = selectionKey slotById j) :
    i.schedulerWorkId = j.schedulerWorkId := by
  simp only [selectionKey, EmbeddingLike.apply_eq_iff_eq, Prod.mk.injEq] at h
  exact h.2.2.2.2.2

attribute [local instance] preorderInt

/-- Equal choices, from least elements that are equal. -/
theorem sameChoice_of_argmin {now : Instant} {items items' : List SchedulerWorkItem}
    (h : (items.filter (isEligible slotById now)).argmin (selectionKey slotById) =
      (items'.filter (isEligible slotById' now)).argmin (selectionKey slotById')) :
    SameChoice (selectEligible slotById now items) (selectEligible slotById' now items') := by
  unfold selectEligible
  dsimp only
  rw [h]
  cases (items'.filter (isEligible slotById' now)).argmin (selectionKey slotById') with
  | none => exact ⟨rfl, rfl, rfl⟩
  | some selected => exact ⟨rfl, rfl, rfl⟩

theorem selectEligible_excluded (slotById : List (String × ℕ × TwoTokenSlot)) (now : Instant)
    (items : List SchedulerWorkItem) :
    (selectEligible slotById now items).excludedWorkIds =
      (items.filter fun item => !isEligible slotById now item).map
        SchedulerWorkItem.schedulerWorkId := by
  unfold selectEligible
  dsimp only
  cases (items.filter (isEligible slotById now)).argmin (selectionKey slotById) with
  | none => rfl
  | some selected => rfl

theorem selectEligible_perm {items items' : List SchedulerWorkItem} (h : ValidItems R items)
    (hperm : items.Perm items') (now : Instant) :
    SameChoice (selectEligible slotById now items) (selectEligible slotById now items') ∧
      (selectEligible slotById now items).excludedWorkIds.Perm
        (selectEligible slotById now items').excludedWorkIds := by
  constructor
  · apply sameChoice_of_argmin
    apply Balance.argmin_eq_of_perm (hperm.filter _) (fun _ _ => rfl)
    intro i hi j hj hkey
    exact h.eq_of_id (List.mem_of_mem_filter hi) (List.mem_of_mem_filter hj) (selectionKey_id hkey)
  · rw [selectEligible_excluded, selectEligible_excluded]
    exact (hperm.filter _).map _

/-! ## A stopped slot -/

/-- The slot is marked failed, ineligible or terminal. -/
inductive Stops (slot : TwoTokenSlot) : TwoTokenSlot → Prop
  | failed : Stops slot { slot with tokenLocalFailure := true }
  | ineligible : Stops slot { slot with eligible := false }
  | terminal (state : String) (h : state ∈ tokenTerminalOrIneligibleStates) :
      Stops slot { slot with tokenState := state }

theorem Stops.stopped {slot slot' : TwoTokenSlot} (h : Stops slot slot') :
    slot'.stopped = true := by
  cases h with
  | failed => simp [TwoTokenSlot.stopped]
  | ineligible => simp [TwoTokenSlot.stopped]
  | terminal state h => simp [TwoTokenSlot.stopped, h]

theorem Stops.slotId {slot slot' : TwoTokenSlot} (h : Stops slot slot') :
    slot'.slotId = slot.slotId := by
  cases h <;> rfl

theorem Stops.tokenId {slot slot' : TwoTokenSlot} (h : Stops slot slot') :
    slot'.tokenId = slot.tokenId := by
  cases h <;> rfl

theorem Stops.validSlot {slot slot' : TwoTokenSlot} (h : Stops slot slot') (hv : ValidSlot slot) :
    ValidSlot slot' := by
  cases h <;> exact ⟨hv.own, hv.token, hv.mint, hv.pair, hv.lifecycle, hv.count⟩

/-- The work of other slots than the given one. -/
def withoutSlot (slotId : String) (items : List SchedulerWorkItem) : List SchedulerWorkItem :=
  items.filter fun item => item.tokenSlotId ≠ slotId

/-- The slots are as before but for one, and that one is stopped. -/
structure StopsAt (slotById slotById' : List (String × ℕ × TwoTokenSlot)) (slotId : String) :
    Prop where
  stopped : ∃ index slot, slotById'.lookup slotId = some (index, slot) ∧ slot.stopped = true
  others : ∀ id, id ≠ slotId → slotById'.lookup id = slotById.lookup id

theorem StopsAt.isEligible {slotId : String} (h : StopsAt slotById slotById' slotId)
    (now : Instant) (item : SchedulerWorkItem) :
    isEligible slotById' now item =
      (decide (item.tokenSlotId ≠ slotId) && isEligible slotById now item) := by
  by_cases hslot : item.tokenSlotId = slotId
  · obtain ⟨index, slot, hlookup, hstopped⟩ := h.stopped
    simp [Scheduler.isEligible, hslot, hlookup, hstopped]
  · simp [Scheduler.isEligible, hslot, h.others _ hslot]

theorem StopsAt.selectionKey {slotId : String} (h : StopsAt slotById slotById' slotId)
    {item : SchedulerWorkItem} (hslot : item.tokenSlotId ≠ slotId) :
    selectionKey slotById' item = selectionKey slotById item := by
  unfold Scheduler.selectionKey
  rw [h.others _ hslot]

/-- A stopped slot is selected from as if its items were absent. -/
theorem StopsAt.selectEligible {slotId : String} (h : StopsAt slotById slotById' slotId)
    {items : List SchedulerWorkItem} (hitems : ValidItems R items) (now : Instant) :
    SameChoice (selectEligible slotById' now items)
        (selectEligible slotById now (withoutSlot slotId items)) ∧
      (selectEligible slotById now (withoutSlot slotId items)).excludedWorkIds =
        (selectEligible slotById' now items).excludedWorkIds.filter fun id =>
          ∀ item ∈ items, item.schedulerWorkId = id → item.tokenSlotId ≠ slotId := by
  have heligible : items.filter (Scheduler.isEligible slotById' now) =
      (withoutSlot slotId items).filter (Scheduler.isEligible slotById now) := by
    rw [withoutSlot, List.filter_filter]
    apply List.filter_congr
    intro item _
    rw [h.isEligible, Bool.and_comm]
  constructor
  · apply sameChoice_of_argmin
    rw [← heligible]
    apply Balance.argmin_eq_of_perm (List.Perm.refl _)
    · intro item hitem
      have hother := (List.mem_filter.mp hitem).2
      rw [h.isEligible, Bool.and_eq_true, decide_eq_true_eq] at hother
      exact h.selectionKey hother.1
    · intro i hi j hj hkey
      exact hitems.eq_of_id (List.mem_of_mem_filter hi) (List.mem_of_mem_filter hj)
        (selectionKey_id hkey)
  · rw [selectEligible_excluded, selectEligible_excluded, List.filter_map, List.filter_filter,
      withoutSlot, List.filter_filter]
    congr 1
    apply List.filter_congr
    intro item hitem
    have hown : (∀ other ∈ items, other.schedulerWorkId = item.schedulerWorkId →
        other.tokenSlotId ≠ slotId) ↔ item.tokenSlotId ≠ slotId := by
      constructor
      · intro hall
        exact hall item hitem rfl
      · intro hne other hother hid
        rwa [hitems.eq_of_id hother hitem hid]
    rw [h.isEligible]
    simp only [Function.comp_apply, decide_eq_decide.mpr hown]
    by_cases hslot : item.tokenSlotId = slotId <;> simp [hslot]

/-! ## Service counts -/

theorem selectionKey_category {i j : SchedulerWorkItem}
    (h : selectionKey slotById i ≤ selectionKey slotById j) :
    categoryValue i ≤ categoryValue j := by
  simp only [selectionKey, Prod.Lex.toLex_le_toLex] at h
  omega

/-- In one category behind the main window closes the service counts decide first. -/
theorem selectionKey_count {i j : SchedulerWorkItem}
    (h : selectionKey slotById i ≤ selectionKey slotById j)
    (hcategory : categoryValue i = categoryValue j) (hopen : categoryValue j ≠ 0)
    {k l : ℕ} {slot slot' : TwoTokenSlot} (hi : slotById.lookup i.tokenSlotId = some (k, slot))
    (hj : slotById.lookup j.tokenSlotId = some (l, slot')) :
    slot.ordinaryServiceCount ≤ slot'.ordinaryServiceCount := by
  simp only [selectionKey, Prod.Lex.toLex_le_toLex, hcategory, if_neg hopen, hi, hj,
    Option.getD_some, lt_irrefl, false_or, true_and] at h
  omega

/-- Both slots have an eligible item in the category, which is 1 or 2. -/
def BothWaiting (a b : TwoTokenSlot) (items : List SchedulerWorkItem) (now : Instant)
    (category : ℕ) : Prop :=
  (category = 1 ∨ category = 2) ∧ ∀ slot ∈ [a, b], ∃ item ∈ items,
    item.tokenSlotId = slot.slotId ∧ isEligible (slotPair a b) now item = true ∧
      categoryValue item = category

/-- No eligible item has a lower category. -/
def NothingAhead (a b : TwoTokenSlot) (items : List SchedulerWorkItem) (now : Instant)
    (category : ℕ) : Prop :=
  ∀ item ∈ items, isEligible (slotPair a b) now item = true → category ≤ categoryValue item

/-- The selection serves the slot. -/
def served (selection : TwoTokenSchedulerSelection) (slot : TwoTokenSlot) : ℤ :=
  if selection.selectedWork.any fun item => item.tokenSlotId = slot.slotId then 1 else 0

/-- One selection: it increments the count of the slot that it serves. The condition is about the
slots, the items, the time and the category in which both slots wait. -/
structure ServiceStep (R : Value.Rendering)
    (condition : TwoTokenSlot → TwoTokenSlot → List SchedulerWorkItem → Instant → ℕ → Prop)
    (s s' : TwoTokenSlot × TwoTokenSlot) (items : List SchedulerWorkItem) (now : Datetime)
    (category : ℕ) (ceilings : CampaignSchedulerCeilings) (stopReasons : List String) : Prop where
  validSlots : ValidSlots s.1 s.2
  validItems : ValidItems R items
  meets : condition s.1 s.2 items now.instantUtc category
  first : s'.1.ordinaryServiceCount = s.1.ordinaryServiceCount + served
    (selectTwoTokenSchedulerWork R [s.1, s.2] items now ceilings stopReasons) s.1
  second : s'.2.ordinaryServiceCount = s.2.ordinaryServiceCount + served
    (selectTwoTokenSchedulerWork R [s.1, s.2] items now ceilings stopReasons) s.2

/-- A selection with any items, at any time. -/
def Service (R : Value.Rendering)
    (condition : TwoTokenSlot → TwoTokenSlot → List SchedulerWorkItem → Instant → ℕ → Prop)
    (s s' : TwoTokenSlot × TwoTokenSlot) : Prop :=
  ∃ items now category ceilings stopReasons,
    ServiceStep R condition s s' items now category ceilings stopReasons

def serviceCounts (s : TwoTokenSlot × TwoTokenSlot) : ℤ × ℤ :=
  (s.1.ordinaryServiceCount, s.2.ordinaryServiceCount)

/-- Both slots wait in the category, and nothing is ahead of it. -/
def FairlyWaiting (a b : TwoTokenSlot) (items : List SchedulerWorkItem) (now : Instant)
    (category : ℕ) : Prop :=
  BothWaiting a b items now category ∧ NothingAhead a b items now category

/-- The selected item is eligible and has the least key. -/
theorem selectEligible_selected {now : Instant} {items : List SchedulerWorkItem}
    {item : SchedulerWorkItem}
    (h : (selectEligible slotById now items).selectedWork = some item) :
    isEligible slotById now item = true ∧ ∀ other ∈ items,
      isEligible slotById now other = true →
        selectionKey slotById item ≤ selectionKey slotById other := by
  unfold selectEligible at h
  dsimp only at h
  cases hleast : (items.filter (isEligible slotById now)).argmin (selectionKey slotById) with
  | none =>
    rw [hleast] at h
    cases h
  | some least =>
    rw [hleast] at h
    obtain rfl := Option.some.inj h
    refine ⟨(List.mem_filter.mp (List.argmin_mem hleast)).2, ?_⟩
    intro other hother heligible
    exact List.le_of_mem_argmin (List.mem_filter.mpr ⟨hother, heligible⟩) hleast

/-- Where both slots wait fairly, the slot that is served is not ahead. -/
theorem selected_not_ahead {a b : TwoTokenSlot} {items : List SchedulerWorkItem} {now : Instant}
    {category : ℕ} (hslots : a.slotId ≠ b.slotId)
    (hwaiting : FairlyWaiting a b items now category) {item : SchedulerWorkItem}
    (hmem : item ∈ items)
    (h : (selectEligible (slotPair a b) now items).selectedWork = some item) :
    (item.tokenSlotId = a.slotId ∧ a.ordinaryServiceCount ≤ b.ordinaryServiceCount) ∨
      (item.tokenSlotId = b.slotId ∧ b.ordinaryServiceCount ≤ a.ordinaryServiceCount) := by
  obtain ⟨⟨hcategory, hboth⟩, hahead⟩ := hwaiting
  obtain ⟨heligible, hleast⟩ := selectEligible_selected h
  have hlower := hahead item hmem heligible
  simp only [List.forall_mem_cons] at hboth
  obtain ⟨⟨i, hi, hia, hieligible, hicategory⟩, ⟨j, hj, hjb, hjeligible, hjcategory⟩, _⟩ := hboth
  have hkeyi := hleast i hi hieligible
  have hkeyj := hleast j hj hjeligible
  have hupper := selectionKey_category hkeyi
  have hsamei : categoryValue item = categoryValue i := by omega
  have hsamej : categoryValue item = categoryValue j := by omega
  have hlookupi : (slotPair a b).lookup i.tokenSlotId = some (0, a) := by
    rw [hia, slotPair_first]
  have hlookupj : (slotPair a b).lookup j.tokenSlotId = some (1, b) := by
    rw [hjb, slotPair_second hslots]
  by_cases ha : item.tokenSlotId = a.slotId
  · have hlookup : (slotPair a b).lookup item.tokenSlotId = some (0, a) := by
      rw [ha, slotPair_first]
    exact Or.inl ⟨ha, selectionKey_count hkeyj hsamej (by omega) hlookup hlookupj⟩
  · by_cases hb : item.tokenSlotId = b.slotId
    · have hlookup : (slotPair a b).lookup item.tokenSlotId = some (1, b) := by
        rw [hb, slotPair_second hslots]
      exact Or.inr ⟨hb, selectionKey_count hkeyi hsamei (by omega) hlookup hlookupi⟩
    · rw [isEligible, slotPair_lookup, if_neg ha, if_neg hb] at heligible
      cases heligible

theorem mem_of_selected {now : Instant} {items : List SchedulerWorkItem} {item : SchedulerWorkItem}
    (h : (selectEligible slotById now items).selectedWork = some item) : item ∈ items := by
  unfold selectEligible at h
  dsimp only at h
  cases hleast : (items.filter (isEligible slotById now)).argmin (selectionKey slotById) with
  | none =>
    rw [hleast] at h
    cases h
  | some least =>
    rw [hleast] at h
    obtain rfl := Option.some.inj h
    exact List.mem_of_mem_filter (List.argmin_mem hleast)

/-- A selection among fairly waiting slots serves one that is not ahead. -/
theorem serves_of_service {s s' : TwoTokenSlot × TwoTokenSlot}
    (h : Service R FairlyWaiting s s') :
    Balance.Serves (serviceCounts s) (serviceCounts s') := by
  obtain ⟨items, now, category, ceilings, stopReasons, hstep⟩ := h
  have hfirst := hstep.first
  have hsecond := hstep.second
  have hdistinct := hstep.validSlots.slots
  rw [select_of_valid hstep.validSlots hstep.validItems] at hfirst hsecond
  unfold serviceCounts
  have hidle : ∀ selection : TwoTokenSchedulerSelection, selection.selectedWork = none →
      ∀ slot, served selection slot = 0 := by
    intro selection hnone slot
    simp [served, hnone]
  cases hstop : stopReason ceilings stopReasons with
  | some reason =>
    simp only [hstop] at hfirst hsecond
    rw [hidle _ rfl, Int.add_zero] at hfirst hsecond
    rw [hfirst, hsecond]
    exact .idle _
  | none =>
    simp only [hstop] at hfirst hsecond
    cases hselected : (selectEligible (slotPair s.1 s.2) now.instantUtc items).selectedWork with
    | none =>
      rw [hidle _ hselected, Int.add_zero] at hfirst hsecond
      rw [hfirst, hsecond]
      exact .idle _
    | some item =>
      simp only [served, hselected, Option.any_some, decide_eq_true_eq] at hfirst hsecond
      rcases selected_not_ahead hdistinct hstep.meets (mem_of_selected hselected) hselected with
        ⟨hslot, hle⟩ | ⟨hslot, hle⟩
      · rw [if_pos hslot] at hfirst
        rw [hslot, if_neg hdistinct, Int.add_zero] at hsecond
        rw [hfirst, hsecond]
        exact .first hle
      · rw [hslot, if_neg (Ne.symm hdistinct), Int.add_zero] at hfirst
        rw [if_pos hslot] at hsecond
        rw [hfirst, hsecond]
        exact .second hle

/-- Along a run of fair selections the counts drift no further apart than at its start, or than
one. -/
theorem drift_le_of_service {s s' : TwoTokenSlot × TwoTokenSlot}
    (h : Relation.ReflTransGen (Service R FairlyWaiting) s s') :
    Balance.drift (serviceCounts s') ≤ max (Balance.drift (serviceCounts s)) 1 :=
  Balance.drift_le_of_run (h.lift serviceCounts fun _ _ hstep => serves_of_service hstep)

/-! ## The whole selection -/

theorem stopsAt_first {a a' b : TwoTokenSlot} (h : Stops a a') :
    StopsAt (slotPair a b) (slotPair a' b) a.slotId where
  stopped := ⟨0, a', by rw [← h.slotId, slotPair_first], h.stopped⟩
  others id hid := by
    have hid' : id ≠ a'.slotId := by rwa [h.slotId]
    rw [slotPair_lookup, slotPair_lookup, if_neg hid, if_neg hid']

theorem stopsAt_second {a b b' : TwoTokenSlot} (hslots : a.slotId ≠ b.slotId) (h : Stops b b') :
    StopsAt (slotPair a b) (slotPair a b') b.slotId where
  stopped := by
    have hslots' : a.slotId ≠ b'.slotId := by rwa [h.slotId]
    exact ⟨1, b', by rw [← h.slotId, slotPair_second hslots'], h.stopped⟩
  others id hid := by
    have hid' : id ≠ b'.slotId := by rwa [h.slotId]
    rw [slotPair_lookup, slotPair_lookup, if_neg hid, if_neg hid']

theorem Stops.validSlots_first {a a' b : TwoTokenSlot} (h : Stops a a') (hv : ValidSlots a b) :
    ValidSlots a' b where
  first := h.validSlot hv.first
  second := hv.second
  slots := by
    rw [h.slotId]
    exact hv.slots
  tokens := by
    rw [h.tokenId]
    exact hv.tokens

theorem Stops.validSlots_second {a b b' : TwoTokenSlot} (h : Stops b b') (hv : ValidSlots a b) :
    ValidSlots a b' where
  first := hv.first
  second := h.validSlot hv.second
  slots := by
    rw [h.slotId]
    exact hv.slots
  tokens := by
    rw [h.tokenId]
    exact hv.tokens

section Whole

variable {now : Datetime} {ceilings : CampaignSchedulerCeilings} {stopReasons : List String}

theorem select_perm {a b : TwoTokenSlot} {items items' : List SchedulerWorkItem}
    (hslots : ValidSlots a b) (hitems : ValidItems R items) (hperm : items.Perm items') :
    SameChoice (selectTwoTokenSchedulerWork R [a, b] items now ceilings stopReasons)
        (selectTwoTokenSchedulerWork R [a, b] items' now ceilings stopReasons) ∧
      (selectTwoTokenSchedulerWork R [a, b] items now ceilings stopReasons).excludedWorkIds.Perm
        (selectTwoTokenSchedulerWork R [a, b] items' now ceilings stopReasons).excludedWorkIds := by
  rw [select_of_valid hslots hitems, select_of_valid hslots (hitems.of_perm hperm)]
  cases stopReason ceilings stopReasons with
  | some reason => exact ⟨.refl _, .refl _⟩
  | none => exact selectEligible_perm hitems hperm _

/-- The selection with stopped slots, and the one without the items of the slot: the choice is the
same, and the excluded identities are those of the other items. -/
def Isolated (R : Value.Rendering) (slots slots' : List TwoTokenSlot) (slotId : String)
    (items : List SchedulerWorkItem) (now : Datetime) (ceilings : CampaignSchedulerCeilings)
    (stopReasons : List String) : Prop :=
  SameChoice (selectTwoTokenSchedulerWork R slots' items now ceilings stopReasons)
      (selectTwoTokenSchedulerWork R slots (withoutSlot slotId items) now ceilings stopReasons) ∧
    (selectTwoTokenSchedulerWork R slots (withoutSlot slotId items) now ceilings
        stopReasons).excludedWorkIds =
      (selectTwoTokenSchedulerWork R slots' items now ceilings
        stopReasons).excludedWorkIds.filter fun id =>
          ∀ item ∈ items, item.schedulerWorkId = id → item.tokenSlotId ≠ slotId

theorem isolated_of_stopsAt {a b a' b' : TwoTokenSlot} {slotId : String}
    {items : List SchedulerWorkItem} (hslots : ValidSlots a b) (hslots' : ValidSlots a' b')
    (hitems : ValidItems R items) (h : StopsAt (slotPair a b) (slotPair a' b') slotId) :
    Isolated R [a, b] [a', b'] slotId items now ceilings stopReasons := by
  have hwithout : ValidItems R (withoutSlot slotId items) := hitems.filter _
  unfold Isolated
  rw [select_of_valid hslots' hitems, select_of_valid hslots hwithout]
  cases stopReason ceilings stopReasons with
  | some reason => exact ⟨.refl _, rfl⟩
  | none => exact h.selectEligible hitems _

end Whole

/-- The choice does not depend on the order of the items; a slot that is stopped is chosen from as
if its items were absent; and the counts of slots that wait fairly stay close. -/
theorem scheduling_fair (R : Value.Rendering) :
    (∀ a b items items' now ceilings stopReasons, ValidSlots a b → ValidItems R items →
      items.Perm items' →
      SameChoice (selectTwoTokenSchedulerWork R [a, b] items now ceilings stopReasons)
          (selectTwoTokenSchedulerWork R [a, b] items' now ceilings stopReasons) ∧
        (selectTwoTokenSchedulerWork R [a, b] items now ceilings
            stopReasons).excludedWorkIds.Perm
          (selectTwoTokenSchedulerWork R [a, b] items' now ceilings
            stopReasons).excludedWorkIds) ∧
    (∀ a b items now ceilings stopReasons, ValidSlots a b → ValidItems R items →
      (∀ a', Stops a a' → Isolated R [a, b] [a', b] a.slotId items now ceilings stopReasons) ∧
      ∀ b', Stops b b' → Isolated R [a, b] [a, b'] b.slotId items now ceilings stopReasons) ∧
    ∀ s s', Relation.ReflTransGen (Service R FairlyWaiting) s s' →
      Balance.drift (serviceCounts s') ≤ max (Balance.drift (serviceCounts s)) 1 := by
  refine ⟨fun a b items items' now ceilings stopReasons hslots hitems hperm =>
    select_perm hslots hitems hperm, ?_, fun s s' h => drift_le_of_service h⟩
  intro a b items now ceilings stopReasons hslots hitems
  constructor
  · intro a' hstop
    exact isolated_of_stopsAt hslots (hstop.validSlots_first hslots) hitems (stopsAt_first hstop)
  · intro b' hstop
    exact isolated_of_stopsAt hslots (hstop.validSlots_second hslots) hitems
      (stopsAt_second hslots.slots hstop)

/-! ## Two slots with work -/

def plainRendering : Value.Rendering := ⟨fun _ => "", fun _ => ""⟩

/-- A slot by its letter and its service count. -/
def letterSlot (letter : String) (count : ℤ) : TwoTokenSlot where
  slotId := "slot-" ++ letter
  tokenId := "token-" ++ letter
  mintId := "mint-" ++ letter
  pairId := "pair-" ++ letter
  lifecycleId := "lifecycle-" ++ letter
  tokenState := "TRACK_FAST"
  ordinaryServiceCount := count

/-- Work for the slot with the letter. -/
def letterItem (work letter kind intent : String) : SchedulerWorkItem where
  schedulerWorkId := work
  tokenSlotId := "slot-" ++ letter
  tokenId := "token-" ++ letter
  jobKind := kind
  workIntent := intent

/-- A main window close for the first slot, and ordinary work for both. -/
def mixedWork : List SchedulerWorkItem :=
  [letterItem "close-a" "a" "MEMORY_WINDOW_CLOSE" "MAIN_WINDOW_CLOSE",
    letterItem "work-a" "a" "TRACK_FAST_1H" "ORDINARY",
    letterItem "work-b" "b" "TRACK_FAST_1H" "ORDINARY"]

def startOfTime : Datetime := ⟨0, some 0⟩

theorem validSlot_letter {letter : String} {n : ℤ} (h : letter ∈ ["a", "b", "c", "d"])
    (hn : 0 ≤ n) : ValidSlot (letterSlot letter n) := by
  have hids : ∀ kind ∈ ["slot-", "token-", "mint-", "pair-", "lifecycle-"],
      ∀ letter ∈ ["a", "b", "c", "d"], ∀ name ∈ ["token_slot", "token", "mint", "pair", "lifecycle"],
        validateIdentity name (kind ++ letter) = .ok (kind ++ letter) := by
    decide
  exact {
    own := hids _ (by decide) _ h _ (by decide)
    token := hids _ (by decide) _ h _ (by decide)
    mint := hids _ (by decide) _ h _ (by decide)
    pair := hids _ (by decide) _ h _ (by decide)
    lifecycle := hids _ (by decide) _ h _ (by decide)
    count := hn }

theorem validSlots_letters {n m : ℤ} (hn : 0 ≤ n) (hm : 0 ≤ m) :
    ValidSlots (letterSlot "a" n) (letterSlot "b" m) where
  first := validSlot_letter (by decide) hn
  second := validSlot_letter (by decide) hm
  slots := show "slot-" ++ "a" ≠ "slot-" ++ "b" by decide
  tokens := show "token-" ++ "a" ≠ "token-" ++ "b" by decide

theorem validItems_mixedWork : ValidItems plainRendering mixedWork where
  each := by
    simp only [mixedWork, List.forall_mem_cons]
    refine ⟨?_, ?_, ?_, List.forall_mem_nil _⟩
    · exact ⟨by decide, by decide, by decide, ⟨.memoryWindowClose, rfl⟩,
        ⟨.mainWindowClose, rfl⟩, ⟨.pending, rfl⟩⟩
    · exact ⟨by decide, by decide, by decide, ⟨.trackFast1h, rfl⟩,
        ⟨.ordinary, rfl⟩, ⟨.pending, rfl⟩⟩
    · exact ⟨by decide, by decide, by decide, ⟨.trackFast1h, rfl⟩,
        ⟨.ordinary, rfl⟩, ⟨.pending, rfl⟩⟩
  unique := by decide

/-- The reversed items give the same choice. -/
theorem scheduling_fair_reversed :
    SameChoice
      (selectTwoTokenSchedulerWork plainRendering [letterSlot "a" 0, letterSlot "b" 0] mixedWork
        startOfTime {} [])
      (selectTwoTokenSchedulerWork plainRendering [letterSlot "a" 0, letterSlot "b" 0]
        mixedWork.reverse startOfTime {} []) :=
  ((scheduling_fair plainRendering).1 _ _ _ _ _ _ _ (validSlots_letters (by decide) (by decide))
    validItems_mixedWork (List.reverse_perm _).symm).1

/-- The whole result does not depend on the order of the items. -/
def PermutationExact (R : Value.Rendering) : Prop :=
  ∀ a b items items' now ceilings stopReasons, ValidSlots a b → ValidItems R items →
    items.Perm items' →
    selectTwoTokenSchedulerWork R [a, b] items now ceilings stopReasons =
      selectTwoTokenSchedulerWork R [a, b] items' now ceilings stopReasons

/-- The whole result for a stopped slot is that without its items. -/
def IsolationExact (R : Value.Rendering) : Prop :=
  ∀ a b a' items now ceilings stopReasons, ValidSlots a b → ValidItems R items → Stops a a' →
    selectTwoTokenSchedulerWork R [a', b] items now ceilings stopReasons =
      selectTwoTokenSchedulerWork R [a, b] (withoutSlot a.slotId items) now ceilings stopReasons

/-- Along every run in which both slots wait in one category the counts stay close. -/
def DriftBounded (R : Value.Rendering) : Prop :=
  ∀ s s', Relation.ReflTransGen (Service R BothWaiting) s s' →
    Balance.drift (serviceCounts s') ≤ max (Balance.drift (serviceCounts s)) 1

/-- The first slot is served for its main window close while it is ahead. -/
theorem service_mixedWork {n : ℤ} (hn : n ∈ ([0, 1] : List ℤ)) :
    Service plainRendering BothWaiting (letterSlot "a" n, letterSlot "b" 0)
      (letterSlot "a" (n + 1), letterSlot "b" 0) := by
  have hselected : ∀ n ∈ ([0, 1] : List ℤ), (selectTwoTokenSchedulerWork plainRendering
      [letterSlot "a" n, letterSlot "b" 0] mixedWork startOfTime {} []).selectedWork =
        some (letterItem "close-a" "a" "MEMORY_WINDOW_CLOSE" "MAIN_WINDOW_CLOSE") := by
    decide
  have hwaiting : ∀ n ∈ ([0, 1] : List ℤ), ∀ slot ∈ [letterSlot "a" n, letterSlot "b" 0],
      ∃ item ∈ mixedWork, item.tokenSlotId = slot.slotId ∧
        isEligible (slotPair (letterSlot "a" n) (letterSlot "b" 0)) 0 item = true ∧
        categoryValue item = 2 := by
    decide
  have hnonneg : ∀ n ∈ ([0, 1] : List ℤ), 0 ≤ n := by decide
  refine ⟨mixedWork, startOfTime, 2, {}, [], validSlots_letters (hnonneg n hn) (by decide),
    validItems_mixedWork, ⟨Or.inr rfl, hwaiting n hn⟩, ?_, ?_⟩
  · simp only [served, hselected n hn, Option.any_some]
    rfl
  · simp only [served, hselected n hn, Option.any_some]
    rfl

/-- The excluded identities follow the order and name the work of a stopped slot, and a slot that
has main windows to close is served again and again. -/
theorem not_scheduling_exact :
    ¬PermutationExact plainRendering ∧ ¬IsolationExact plainRendering ∧
      ¬DriftBounded plainRendering := by
  refine ⟨?_, ?_, ?_⟩
  · intro h
    have hvalid : ValidSlots (letterSlot "c" 0) (letterSlot "d" 0) :=
      ⟨validSlot_letter (by decide) (by decide), validSlot_letter (by decide) (by decide),
        by decide, by decide⟩
    have hsame := h _ _ _ _ startOfTime {} [] hvalid validItems_mixedWork
      (List.reverse_perm mixedWork).symm
    exact absurd hsame (by decide)
  · intro h
    have hvalid : ValidSlots (letterSlot "a" 0) (letterSlot "b" 0) :=
      validSlots_letters (by decide) (by decide)
    have hsame := h _ _ _ _ startOfTime {} [] hvalid validItems_mixedWork .failed
    exact absurd hsame (by decide)
  · intro h
    have hfirst := service_mixedWork (n := 0) (by decide)
    have hsecond := service_mixedWork (n := 1) (by decide)
    have hdrift := h _ _ ((Relation.ReflTransGen.single hfirst).tail hsecond)
    exact absurd hdrift (by decide)

end PrinterV1.Scheduler
