import Mathlib.Algebra.BigOperators.Group.List.Basic
import Mathlib.Algebra.Ring.Int.Defs
import Mathlib.Data.List.Pairwise
import PrinterV1.Discovery.AllOrNothing
import PrinterV1.Discovery.ObservationOrder
import PrinterV1.Foundation.FirstWins

/-!
# What the rounds are charged

The budget check, the report and the stored rounds each go over the items on
their own and count a round where they first meet it. A `Charge` is what an
observation says of its round; since the observations of one round agree, each
pass comes to the charges of the observations, every one once.
-/

namespace PrinterV1.Discovery

open Python Faults FirstWins Runs

/-! ## Charges -/

/-- The round of an item. -/
abbrev ordinalOf (item : Item) : ℤ := item.roundOrdinal

/-- What an observation says its round costs. -/
structure Charge where
  ordinal : ℤ
  source : String
  requestKind : String
  governed : ℤ
  deriving DecidableEq, Repr

def RoundIdentity.charge (r : RoundIdentity) : Charge :=
  ⟨r.ordinal, r.source, r.requestKind, r.governedRequests⟩

def Item.charge (item : Item) : Charge :=
  ⟨item.roundOrdinal, item.sourceName, item.requestKind, item.governedRequestsUsed⟩

/-- The charges of the observations, each once: a round that named two sources would be in it
twice. -/
def chargesOf (L : Library) (plan : Plan) (observations : List Dict) : List Charge :=
  (observations.filterMap fun raw => (readRound L plan raw).toOption.map RoundIdentity.charge).dedup

/-- The charges to a source and a kind. -/
def chargesTo (charges : List Charge) (source requestKind : String) : List Charge :=
  charges.filter fun c => c.source = source && c.requestKind = requestKind

/-- The governed requests charged to a source and a kind. -/
def spent (charges : List Charge) (source requestKind : String) : ℤ :=
  ((chargesTo charges source requestKind).map Charge.governed).sum

theorem spent_perm {charges charges' : List Charge} (h : charges.Perm charges')
    (source requestKind : String) :
    spent charges source requestKind = spent charges' source requestKind :=
  ((h.filter _).map _).sum_eq

/-- The items of one round say the same of it. -/
def Agreed (items : List Item) : Prop :=
  ∀ a ∈ items, ∀ b ∈ items, a.roundOrdinal = b.roundOrdinal → a.charge = b.charge

theorem Agreed.perm {items items' : List Item} (h : Agreed items)
    (hperm : (items'.map Item.charge).Perm (items.map Item.charge)) : Agreed items' := by
  have hmem : ∀ a ∈ items', ∃ b ∈ items, b.charge = a.charge := fun a ha =>
    List.mem_map.mp (hperm.subset (List.mem_map_of_mem ha))
  intro a ha b hb hsame
  obtain ⟨a', ha', haa⟩ := hmem a ha
  obtain ⟨b', hb', hbb⟩ := hmem b hb
  have hordinal : a'.roundOrdinal = b'.roundOrdinal := by
    have h₁ : a'.roundOrdinal = a.roundOrdinal := congrArg Charge.ordinal haa
    have h₂ : b'.roundOrdinal = b.roundOrdinal := congrArg Charge.ordinal hbb
    rw [h₁, h₂, hsame]
  rw [← haa, ← hbb, h a' ha' b' hb' hordinal]

/-- The rounds a pass counts are the charges of the items. -/
theorem firsts_charges {items : List Item} (h : Agreed items) :
    ((firsts ordinalOf [] items).map Item.charge).Perm (items.map Item.charge).dedup :=
  map_firsts_perm h fun _ _ hcharge => congrArg Charge.ordinal hcharge

/-! ## The passes -/

theorem roundUsage_eq (items : List Item) : ∀ charged, roundUsage charged items =
    (firsts ordinalOf charged items).map fun item =>
      (item.sourceName, item.requestKind, item.governedRequestsUsed) := by
  induction items with
  | nil => intro charged; rfl
  | cons item rest ih =>
    intro charged
    unfold roundUsage firsts
    split_ifs
    · exact ih charged
    · rw [List.map_cons, ih]

theorem lookup_eq_none_iff {ids : List (ℤ × String)} {ordinal : ℤ} :
    ids.lookup ordinal = none ↔ ordinal ∉ ids.map Prod.fst := by
  induction ids with
  | nil => simp
  | cons entry rest ih =>
    obtain ⟨o, id⟩ := entry
    by_cases h : ordinal = o
    · simp [h]
    · simp [h, List.lookup_cons, beq_false_of_ne h, ih]

theorem roundRows_eq (L : Library) (plan : Plan) (items : List Item) : ∀ ids,
    roundRows L plan ids items =
      (firsts ordinalOf (ids.map Prod.fst) items).map (roundRow L plan) := by
  induction items with
  | nil => intro ids; rfl
  | cons item rest ih =>
    intro ids
    cases hlookup : ids.lookup item.roundOrdinal with
    | some id =>
      have hseen : item.roundOrdinal ∈ ids.map Prod.fst := by
        by_contra hno
        rw [lookup_eq_none_iff.mpr hno] at hlookup
        cases hlookup
      rw [(roundRows_opened L plan hlookup rest).1, firsts, if_pos hseen, ih]
    | none =>
      rw [(roundRows_opening L plan hlookup rest).1, firsts,
        if_neg (lookup_eq_none_iff.mp hlookup), List.map_cons, ih]
      rfl

/-- The budget check and the report count what the items are charged. -/
theorem usageOf_eq {items : List Item} (h : Agreed items) (source requestKind : String) :
    usageOf (roundUsage [] items) source requestKind =
      spent (items.map Item.charge).dedup source requestKind := by
  rw [← spent_perm (firsts_charges h), roundUsage_eq]
  simp only [usageOf, spent, chargesTo, List.filter_map, List.map_map]
  rfl

/-- So do the rounds that are stored. -/
theorem roundRows_spent {items : List Item} (h : Agreed items) (L : Library) (plan : Plan)
    (source requestKind : String) :
    (((roundRows L plan [] items).filter fun r =>
        r.sourceName = source && r.requestKind = requestKind).map
          RoundRow.governedRequestsUsed).sum =
      spent (items.map Item.charge).dedup source requestKind := by
  rw [← spent_perm (firsts_charges h), roundRows_eq]
  simp only [spent, chargesTo, List.filter_map, List.map_map]
  rfl

/-! ## The observations -/

variable {L : Library} {plan : Plan}

theorem readContent_charge {raw : Dict} {round : RoundIdentity} {content : Content}
    (h : readContent L raw round = .ok content) :
    (content.seal L plan.executionId).charge = round.charge := by
  unfold readContent at h
  obtain ⟨_, _, h⟩ := bind_ok h
  obtain ⟨_, _, h⟩ := bind_ok h
  obtain ⟨_, h⟩ := check_ok h
  obtain ⟨_, _, h⟩ := bind_ok h
  obtain ⟨_, _, h⟩ := bind_ok h
  dsimp only at h
  split at h
  · cases h
  · obtain rfl := Except.ok.inj h
    rfl

theorem normalizeAll_charges {observations : List Dict} {items : List Item}
    (h : normalizeAll L plan [] observations = .ok items) :
    (items.map Item.charge).dedup = chargesOf L plan observations ∧ Agreed items ∧
      ∀ raw ∈ observations, ∃ round, readRound L plan raw = .ok round ∧
        ∃ item ∈ items, item.charge = round.charge := by
  obtain ⟨rs, hreads, rfl, hpair⟩ := (normalizeAll_ok_iff List.Pairwise.nil).mp h
  have hcharges : (rs.map fun r => r.2.charge) = observations.filterMap (fun raw =>
      (readRound L plan raw).toOption.map RoundIdentity.charge) ∧
        (∀ r ∈ rs, r.2.charge = r.1.charge) ∧
        ∀ raw ∈ observations, ∃ r ∈ rs, readRound L plan raw = .ok r.1 := by
    clear h hpair
    induction hreads with
    | nil => simp
    | @cons raw r _ _ hread _ ih =>
      obtain ⟨hround, content, hcontent, hitem⟩ := hread
      have hcharge : r.2.charge = r.1.charge := by
        rw [hitem]
        exact readContent_charge hcontent
      obtain ⟨hmap, hall, hfound⟩ := ih
      refine ⟨?_, List.forall_mem_cons.mpr ⟨hcharge, hall⟩, ?_⟩
      · have htoOption : (readRound L plan raw).toOption = some r.1 := by rw [hround]; rfl
        simp [htoOption, hcharge, hmap]
      · intro raw' hraw'
        rcases List.mem_cons.mp hraw' with rfl | hraw'
        · exact ⟨r, List.mem_cons_self, hround⟩
        · obtain ⟨r', hr', hround'⟩ := hfound raw' hraw'
          exact ⟨r', List.mem_cons_of_mem _ hr', hround'⟩
  obtain ⟨hmap, hsame, hfound⟩ := hcharges
  refine ⟨?_, ?_, fun raw hraw => ?_⟩
  · rw [List.map_map]
    exact congrArg List.dedup hmap
  · intro a ha b hb hordinal
    obtain ⟨ra, hra, rfl⟩ := List.mem_map.mp ha
    obtain ⟨rb, hrb, rfl⟩ := List.mem_map.mp hb
    have hpairwise : (rs.map Prod.fst).Pairwise SameRound := by
      rw [List.append_nil] at hpair
      exact ((List.reverse_perm _).pairwise_iff SameRound.symm).mp hpair
    have hrounds : ra.1.ordinal = rb.1.ordinal := by
      have h₁ : ra.2.roundOrdinal = ra.1.ordinal := congrArg Charge.ordinal (hsame ra hra)
      have h₂ : rb.2.roundOrdinal = rb.1.ordinal := congrArg Charge.ordinal (hsame rb hrb)
      rw [← h₁, ← h₂, hordinal]
    rw [hsame ra hra, hsame rb hrb]
    by_cases heq : ra.1 = rb.1
    · rw [heq]
    · have hsymm : Std.Symm SameRound := ⟨fun _ _ => SameRound.symm⟩
      have hagrees : SameRound ra.1 rb.1 :=
        hpairwise.forall (List.mem_map_of_mem hra) (List.mem_map_of_mem hrb) heq
      obtain ⟨hsource, hkind, -, -, -, hgoverned, -⟩ := agrees_iff.mp (hagrees hrounds)
      unfold RoundIdentity.charge
      rw [hrounds, hsource, hkind, hgoverned]
  · obtain ⟨r, hr, hround⟩ := hfound raw hraw
    exact ⟨r.1, hround, r.2, List.mem_map_of_mem hr, hsame r hr⟩

theorem recheckItem_charge (s : Surroundings) (assessedAt : String) (instant : Instant)
    (executionId : String) (item : Item) :
    (recheckItem L s assessedAt instant executionId item).charge = item.charge := by
  unfold recheckItem
  split <;> rfl

/-- The items an execution works with are charged what the observations say. -/
theorem frozenItems_charges {s : Surroundings} {observations : List Dict} {items : List Item}
    (h : frozenItems L s plan observations = .ok items) :
    ∃ normalized, normalizeObservations L plan observations = .ok normalized ∧
      checkBudgets plan (roundUsage [] normalized) = .ok () ∧ Agreed normalized ∧ Agreed items ∧
      (normalized.map Item.charge).dedup.Perm (chargesOf L plan observations) ∧
      (items.map Item.charge).dedup.Perm (chargesOf L plan observations) ∧
      ∀ raw ∈ observations, ∃ round, readRound L plan raw = .ok round ∧
        ∃ item ∈ normalized, item.charge = round.charge := by
  obtain ⟨normalized, instant, hnormalized, -, rfl⟩ := frozenItems_ok_iff.mp h
  have hread := hnormalized
  unfold normalizeObservations at hread
  obtain ⟨all, hall, hread⟩ := bind_ok hread
  obtain ⟨_, hbudgets, hread⟩ := bind_ok hread
  obtain rfl := Except.ok.inj hread
  obtain ⟨hcharges, hagreed, hfound⟩ := normalizeAll_charges hall
  have hsorted : ((sortBy Item.sortKey all).map Item.charge).Perm (all.map Item.charge) :=
    (sortBy_perm _ _).map _
  have hrechecked : ((sortBy Item.sortKey ((sortBy Item.sortKey all).map
      (recheckItem L s plan.cutoffAt instant plan.executionId))).map Item.charge).Perm
        (all.map Item.charge) := by
    refine ((sortBy_perm _ _).map _).trans ?_
    rw [List.map_map]
    have hsame : Item.charge ∘ recheckItem L s plan.cutoffAt instant plan.executionId =
        Item.charge := funext fun item => recheckItem_charge s _ _ _ item
    rw [hsame]
    exact hsorted
  refine ⟨_, hnormalized, hbudgets, hagreed.perm hsorted, hagreed.perm hrechecked, ?_, ?_, ?_⟩
  · rw [← hcharges]
    exact hsorted.dedup
  · rw [← hcharges]
    exact hrechecked.dedup
  · intro raw hraw
    obtain ⟨round, hround, item, hitem, hcharge⟩ := hfound raw hraw
    exact ⟨round, hround, item, mem_sortBy.mpr hitem, hcharge⟩

/-! ## The budgets -/

theorem forM_ok {α : Type} {f : α → Except Fault Unit} : ∀ {xs : List α}, xs.forM f = .ok () →
    ∀ x ∈ xs, f x = .ok () := by
  intro xs
  induction xs with
  | nil => intro _ x hx; cases hx
  | cons y ys ih =>
    intro h
    obtain ⟨_, hy, hys⟩ := bind_ok h
    exact List.forall_mem_cons.mpr ⟨hy, ih hys⟩

/-- Usage that passed stays within a budget of its source and kind. -/
theorem checkBudgets_ok {usage : List (String × String × ℤ)}
    (h : checkBudgets plan usage = .ok ()) :
    ∃ budgets, plan.sourceBudgets = .dict budgets ∧ ∀ u ∈ usage, ∃ limit : ℤ,
      budgetOf budgets u.1 u.2.1 = .int limit ∧ 0 ≤ limit ∧ usageOf usage u.1 u.2.1 ≤ limit := by
  unfold checkBudgets at h
  cases hplan : plan.sourceBudgets with
  | dict budgets =>
    rw [hplan] at h
    refine ⟨budgets, rfl, fun u hu => ?_⟩
    have hone := forM_ok h (u.1, u.2.1) (List.mem_map.mpr ⟨u, hu, rfl⟩)
    dsimp only at hone
    split at hone
    · rename_i limit hlimit
      split_ifs at hone with hnegative hover
      exact ⟨limit, hlimit, not_lt.mp hnegative, not_lt.mp hover⟩
    · cases hone
  | _ =>
    rw [hplan] at h
    cases h

/-! ## The report -/

/-- An entry of a value that is a mapping. -/
def entryOf (v : Value) (key : String) : Value :=
  match v with
  | .dict entries => Dict.get entries key
  | _ => .none

/-- `report["source_contribution"]["governed_operations"][source][request_kind]` -/
def reportedOperations (report : Value) (source requestKind : String) : Value :=
  entryOf (entryOf (entryOf (entryOf report "source_contribution") "governed_operations") source)
    requestKind

/-- What a report says of the charges: their sum where there are any, and no entry elsewhere. -/
def reportedAs (charges : List Charge) (source requestKind : String) : Value :=
  if chargesTo charges source requestKind = [] then .none
  else .int (spent charges source requestKind)

theorem get_map_keys (keys : List String) (f : String → Value) (key : String) :
    Dict.get (keys.map fun k => (k, f k)) key = if key ∈ keys then f key else .none := by
  induction keys with
  | nil => rfl
  | cons k rest ih =>
    rw [List.map_cons, Dict.get_cons, ih]
    by_cases hk : key = k
    · simp [hk]
    · simp [hk]

theorem entryOf_governedOperations (usage : List (String × String × ℤ)) (source requestKind : String) :
    entryOf (entryOf (governedOperations usage) source) requestKind =
      if (usage.filter fun u => u.1 = source && u.2.1 = requestKind) = [] then .none
      else .int (usageOf usage source requestKind) := by
  have hmem : (usage.filter fun u => u.1 = source && u.2.1 = requestKind) ≠ [] ↔
      ∃ u ∈ usage, u.1 = source ∧ u.2.1 = requestKind := by
    rw [ne_eq, List.filter_eq_nil_iff]
    simp
  unfold governedOperations entryOf
  dsimp only
  rw [get_map_keys]
  by_cases hsource : source ∈ sortedSet (usage.map fun u => u.1)
  · rw [if_pos hsource]
    dsimp only
    rw [get_map_keys]
    by_cases hkind : requestKind ∈ sortedSet ((usage.filter fun u => u.1 = source).map fun u => u.2.1)
    · have hthere : ∃ u ∈ usage, u.1 = source ∧ u.2.1 = requestKind := by
        obtain ⟨u, hu, rfl⟩ := List.mem_map.mp (mem_sortedSet.mp hkind)
        obtain ⟨hu, hs⟩ := List.mem_filter.mp hu
        exact ⟨u, hu, by simpa using hs, rfl⟩
      rw [if_pos hkind, if_neg (hmem.mpr hthere)]
    · have hnone : ¬∃ u ∈ usage, u.1 = source ∧ u.2.1 = requestKind := by
        rintro ⟨u, hu, hs, hk⟩
        apply hkind
        rw [mem_sortedSet]
        exact List.mem_map.mpr ⟨u, List.mem_filter.mpr ⟨hu, by simpa using hs⟩, hk⟩
      rw [if_neg hkind, if_pos (not_not.mp fun h => hnone (hmem.mp h))]
  · have hnone : ¬∃ u ∈ usage, u.1 = source ∧ u.2.1 = requestKind := by
      rintro ⟨u, hu, hs, -⟩
      exact hsource (mem_sortedSet.mpr (List.mem_map.mpr ⟨u, hu, hs⟩))
    rw [if_neg hsource, if_pos (not_not.mp fun h => hnone (hmem.mp h))]

theorem reportedAs_perm {charges charges' : List Charge} (h : charges.Perm charges')
    (source requestKind : String) :
    reportedAs charges source requestKind = reportedAs charges' source requestKind := by
  have hto : (chargesTo charges source requestKind).Perm (chargesTo charges' source requestKind) :=
    h.filter _
  have hnil : chargesTo charges source requestKind = [] ↔
      chargesTo charges' source requestKind = [] := by
    rw [← List.length_eq_zero_iff, ← List.length_eq_zero_iff, hto.length_eq]
  unfold reportedAs
  rw [spent_perm h, if_congr hnil rfl rfl]

/-- The report of an execution says what its items are charged. -/
theorem reportedOperations_build {a : Acquisition} {deltas : List (String × Value)}
    (h : Agreed a.observations) (source requestKind : String) :
    reportedOperations (buildReport L plan a deltas) source requestKind =
      reportedAs (a.observations.map Item.charge).dedup source requestKind := by
  have hreport : reportedOperations (buildReport L plan a deltas) source requestKind =
      entryOf (entryOf (governedOperations (roundUsage [] a.observations)) source) requestKind := by
    unfold reportedOperations buildReport sourceReport
    simp only [entryOf, Dict.get_cons, String.reduceEq, if_false, if_true]
  have hfilter : ((roundUsage [] a.observations).filter fun u =>
      u.1 = source && u.2.1 = requestKind).length =
        (chargesTo (a.observations.map Item.charge).dedup source requestKind).length := by
    unfold chargesTo
    rw [← ((firsts_charges h).filter _).length_eq, roundUsage_eq, List.filter_map, List.filter_map,
      List.length_map, List.length_map]
    rfl
  rw [hreport, entryOf_governedOperations, usageOf_eq h]
  unfold reportedAs
  refine if_congr ?_ rfl rfl
  rw [← List.length_eq_zero_iff, ← List.length_eq_zero_iff, hfilter]

/-! ## The runs -/

/-- The governed requests of an execution's stored rounds, of a source and a kind. -/
def storedOperations (store : Store) (executionId source requestKind : String) : ℤ :=
  ((store.rounds.filter fun r => r.executionId = executionId && r.sourceName = source &&
    r.requestKind = requestKind).map RoundRow.governedRequestsUsed).sum

/-- The governed requests of an accepted call: every source and kind that an observation names has
a budget and stays within it, and the budget check, the report and the stored rounds count the same
requests, which are those of the rounds that the observations name, each round once. -/
structure BudgetConserved (L : Library) (plan : Plan) (observations : List Dict) (report : Value)
    (store : Store) : Prop where
  rounds : ((chargesOf L plan observations).map Charge.ordinal).Nodup
  budgeted : ∃ budgets, plan.sourceBudgets = .dict budgets ∧ ∀ raw ∈ observations, ∃ round,
    readRound L plan raw = .ok round ∧ round.charge ∈ chargesOf L plan observations ∧
      ∃ limit : ℤ, budgetOf budgets round.source round.requestKind = .int limit ∧ 0 ≤ limit ∧
        spent (chargesOf L plan observations) round.source round.requestKind ≤ limit
  checked : ∃ normalized, normalizeObservations L plan observations = .ok normalized ∧
    ∀ source requestKind, usageOf (roundUsage [] normalized) source requestKind =
      spent (chargesOf L plan observations) source requestKind
  reported : ∀ source requestKind, reportedOperations report source requestKind =
    reportedAs (chargesOf L plan observations) source requestKind
  stored : ∀ source requestKind, storedOperations store plan.executionId source requestKind =
    spent (chargesOf L plan observations) source requestKind

/-- The report and the stored rounds of an execution count these charges. -/
structure Accounted (charges : List Charge) (row : ReportRow) (store : Store) : Prop where
  reported : ∀ source requestKind, reportedOperations row.reportJson source requestKind =
    reportedAs charges source requestKind
  stored : ∀ source requestKind, storedOperations store row.executionId source requestKind =
    spent charges source requestKind

theorem acquire_items {items : List Item} {a : Acquisition} (h : acquire L plan items = .ok a) :
    a.observations = items ∧ a.inputHash = inputHash L plan items := by
  unfold acquire at h
  obtain ⟨candidates, -, h⟩ := bind_ok h
  obtain rfl := Except.ok.inj h
  exact ⟨rfl, rfl⟩

/-- A first execution stores its rounds and its report, and both count what its items are
charged. -/
theorem executeFirst_accounted {db db' : Database} {items : List Item} {report : Value}
    (h : executeFirst L db plan items = .ok (report, db')) (hagreed : Agreed items)
    (howned : ∀ r ∈ db.store.rounds, ∃ row ∈ db.store.reports, row.executionId = r.executionId) :
    ∃ row, db'.store.reports = db.store.reports ++ [row] ∧ row.executionId = plan.executionId ∧
      row.reportJson = report ∧ row.inputHash = inputHash L plan items ∧
      (∃ added, db'.store.rounds = db.store.rounds ++ added ∧
        ∀ r ∈ added, r.executionId = plan.executionId) ∧
      (∀ old ∈ db.store.reports, old.executionId ≠ plan.executionId) ∧
      Accounted (items.map Item.charge).dedup row db'.store := by
  obtain ⟨a, mid, store', ha, hsources, hresults, rfl, rfl⟩ := executeFirst_parts h
  obtain ⟨hitems, hhash⟩ := acquire_items ha
  have hwritten := persist_writes hsources hresults
  have hrounds := hwritten.rounds
  rw [hitems] at hrounds
  have hown : ∀ r ∈ roundRows L plan [] items, r.executionId = plan.executionId := by
    intro r hr
    obtain ⟨item, -, rfl⟩ := mem_roundRows items hr
    rfl
  refine ⟨_, hwritten.reports, rfl, rfl, hhash, ⟨_, hrounds, hown⟩, hwritten.unreported, ?_, ?_⟩
  · intro source requestKind
    rw [← hitems]
    exact reportedOperations_build (hitems ▸ hagreed) source requestKind
  · intro source requestKind
    have hnone : (db.store.rounds.filter fun r => r.executionId = plan.executionId &&
        r.sourceName = source && r.requestKind = requestKind) = [] := by
      rw [List.filter_eq_nil_iff]
      intro r hr
      obtain ⟨row, hrow, hid⟩ := howned r hr
      have hother : r.executionId ≠ plan.executionId := hid ▸ hwritten.unreported row hrow
      simp [hother]
    have hnew : ((roundRows L plan [] items).filter fun r => r.executionId = plan.executionId &&
        r.sourceName = source && r.requestKind = requestKind) =
          (roundRows L plan [] items).filter fun r =>
            r.sourceName = source && r.requestKind = requestKind := by
      apply List.filter_congr
      intro r hr
      simp [hown r hr]
    show storedOperations store' plan.executionId source requestKind = _
    unfold storedOperations
    rw [hrounds, List.filter_append, hnone, hnew, List.nil_append, roundRows_spent hagreed]

/-- A call of the run made the report. -/
def MadeBy (L : Library) (start : Database) (events : List Event) (row : ReportRow)
    (store : Store) : Prop :=
  ∃ pre plan observations post items, events = pre ++ Event.call plan observations :: post ∧
    row.executionId = plan.executionId ∧
    frozenItems L (run (Database.after L) start pre).surroundings plan observations = .ok items ∧
    row.inputHash = inputHash L plan items ∧ Accounted (items.map Item.charge).dedup row store

/-- Every report of a run was made by one of its calls, and every stored round belongs to one. -/
structure Traced (L : Library) (start : Database) (events : List Event) (store : Store) : Prop where
  reports : ∀ row ∈ store.reports, MadeBy L start events row store
  rounds : ∀ r ∈ store.rounds, ∃ row ∈ store.reports, row.executionId = r.executionId

theorem MadeBy.snoc {start : Database} {events : List Event} {row : ReportRow} {store : Store}
    (h : MadeBy L start events row store) (event : Event) :
    MadeBy L start (events ++ [event]) row store := by
  obtain ⟨pre, plan, observations, post, items, hcut, hrest⟩ := h
  exact ⟨pre, plan, observations, post ++ [event], items, by rw [hcut]; simp, hrest⟩

theorem Traced.snoc {start : Database} {events : List Event} {store : Store}
    (h : Traced L start events store) (event : Event) :
    Traced L start (events ++ [event]) store :=
  ⟨fun row hrow => (h.reports row hrow).snoc event, h.rounds⟩

theorem traced_run {start : Database} (hstart : start.store = Store.empty) (events : List Event) :
    Traced L start events (run (Database.after L) start events).store := by
  induction events using List.reverseRecOn with
  | nil =>
    rw [run_nil, hstart]
    exact ⟨fun row hrow => (nomatch hrow), fun r hr => (nomatch hr)⟩
  | append_singleton events event ih =>
    rw [run_append]
    set db := run (Database.after L) start events with hdb
    show Traced L start (events ++ [event]) (db.after L event).store
    cases event with
    | outside surroundings => exact ih.snoc _
    | call plan observations =>
      simp only [Database.after, afterCall]
      cases hrun : runCandidateAcquisition L db plan observations with
      | error fault => exact ih.snoc _
      | ok r =>
        obtain ⟨report, db'⟩ := r
        obtain ⟨-, items, hitems, ⟨_, _, _, rfl⟩ | ⟨-, hfirst⟩⟩ := run_ok hrun
        · exact ih.snoc _
        · obtain ⟨_, _, _, _, hagreed, -⟩ := frozenItems_charges hitems
          obtain ⟨row, hreports, hid, -, hhash, ⟨added, hrounds, hown⟩, hfree, haccounted⟩ :=
            executeFirst_accounted hfirst hagreed ih.rounds
          refine ⟨fun x hx => ?_, fun r hr => ?_⟩
          · rw [hreports, List.mem_append, List.mem_singleton] at hx
            rcases hx with hx | rfl
            · obtain ⟨pre, plan', observations', post, items', hcut, hid', hitems', hhash', hold⟩ :=
                (ih.reports x hx).snoc (.call plan observations)
              refine ⟨pre, plan', observations', post, items', hcut, hid', hitems', hhash',
                hold.reported, fun source requestKind => ?_⟩
              have hnone : (added.filter fun r => r.executionId = x.executionId &&
                  r.sourceName = source && r.requestKind = requestKind) = [] := by
                rw [List.filter_eq_nil_iff]
                intro r hr
                have hother : plan.executionId ≠ x.executionId := (hfree x hx).symm
                simp [hown r hr, hother]
              rw [← hold.stored source requestKind]
              unfold storedOperations
              rw [hrounds, List.filter_append, hnone, List.append_nil]
            · exact ⟨events, plan, observations, [], items, rfl, hid, hitems, hhash, haccounted⟩
          · rw [hrounds, List.mem_append] at hr
            rcases hr with hr | hr
            · obtain ⟨x, hx, hsame⟩ := ih.rounds r hr
              exact ⟨x, by rw [hreports]; simp [hx], hsame⟩
            · exact ⟨row, by rw [hreports]; simp, hid.trans (hown r hr).symm⟩

/-- The payload of an item tells its charge. -/
theorem payload_charge {a b : Item} (h : a.payload = b.payload) : a.charge = b.charge := by
  simp only [Item.payload, Content.payload, Value.dict.injEq] at h
  have hordinal := congrArg (fun d => Dict.get d "round_ordinal") h
  have hsource := congrArg (fun d => Dict.get d "source_name") h
  have hkind := congrArg (fun d => Dict.get d "request_kind") h
  have hgoverned := congrArg (fun d => Dict.get d "governed_requests_used") h
  simp only [Dict.get_set, Dict.get_cons, String.reduceEq, if_false, if_true, Value.int.injEq,
    Value.str.injEq] at hordinal hsource hkind hgoverned
  unfold Item.charge
  rw [hordinal, hsource, hkind, hgoverned]

theorem charges_of_payloads : ∀ {items items' : List Item},
    items.map Item.payload = items'.map Item.payload →
      items.map Item.charge = items'.map Item.charge
  | [], [], _ => rfl
  | [], _ :: _, h => nomatch h
  | _ :: _, [], h => nomatch h
  | item :: rest, item' :: rest', h => by
    obtain ⟨hhead, htail⟩ := List.cons.inj h
    rw [List.map_cons, List.map_cons, payload_charge hhead, charges_of_payloads htail]

theorem charges_of_input {plan' : Plan} {items items' : List Item}
    (h : inputPayload plan items = inputPayload plan' items') :
    items.map Item.charge = items'.map Item.charge := by
  simp only [inputPayload, Value.dict.injEq, List.cons.injEq, Prod.mk.injEq, Value.list.injEq,
    true_and, and_true] at h
  exact charges_of_payloads h.1

theorem conserved_of_accounted {s : Surroundings} {observations : List Dict} {items : List Item}
    {row : ReportRow} {store : Store} (hitems : frozenItems L s plan observations = .ok items)
    (hrow : row.executionId = plan.executionId)
    (haccounted : Accounted (items.map Item.charge).dedup row store) :
    BudgetConserved L plan observations row.reportJson store := by
  obtain ⟨normalized, hnormalized, hbudgets, hread, -, hnormal, hfrozen, hfound⟩ :=
    frozenItems_charges hitems
  have husage : ∀ source requestKind, usageOf (roundUsage [] normalized) source requestKind =
      spent (chargesOf L plan observations) source requestKind := fun source requestKind => by
    rw [usageOf_eq hread, spent_perm hnormal]
  refine ⟨?_, ?_, ⟨normalized, hnormalized, husage⟩, fun source requestKind => ?_,
    fun source requestKind => ?_⟩
  · have hdistinct : (((firsts ordinalOf [] normalized).map Item.charge).map Charge.ordinal).Nodup := by
      rw [List.map_map]
      exact nodup_firsts normalized []
    have hperm := ((firsts_charges hread).trans hnormal).map Charge.ordinal
    exact hperm.nodup_iff.mp hdistinct
  · obtain ⟨budgets, hplan, hwithin⟩ := checkBudgets_ok hbudgets
    refine ⟨budgets, hplan, fun raw hraw => ?_⟩
    obtain ⟨round, hround, item, hitem, hcharge⟩ := hfound raw hraw
    have hthere : round.charge ∈ chargesOf L plan observations := by
      rw [← hcharge]
      exact hnormal.subset (List.mem_dedup.mpr (List.mem_map_of_mem hitem))
    have hcounted : round.charge ∈ (firsts ordinalOf [] normalized).map Item.charge :=
      ((firsts_charges hread).trans hnormal).symm.subset hthere
    obtain ⟨first, hfirst, hsame⟩ := List.mem_map.mp hcounted
    have husagemem : (round.source, round.requestKind, round.governedRequests) ∈
        roundUsage [] normalized := by
      rw [roundUsage_eq]
      refine List.mem_map.mpr ⟨first, hfirst, ?_⟩
      have hsource : first.sourceName = round.source := congrArg Charge.source hsame
      have hkind : first.requestKind = round.requestKind := congrArg Charge.requestKind hsame
      have hgoverned : first.governedRequestsUsed = round.governedRequests :=
        congrArg Charge.governed hsame
      rw [hsource, hkind, hgoverned]
    obtain ⟨limit, hlimit, hnonneg, hle⟩ := hwithin _ husagemem
    exact ⟨round, hround, hthere, limit, hlimit, hnonneg, by rw [← husage]; exact hle⟩
  · rw [haccounted.reported, reportedAs_perm hfrozen]
  · rw [← hrow, haccounted.stored, spent_perm hfrozen]

/-- Every call that is accepted, in every state that calls and other writers of the system reach,
conserves the budgets; a replayed report is the one of an earlier call, whose input the digest
tells from this one. -/
theorem accepted_budgetConserved (L : Library) (start : Database)
    (hstart : start.store = Store.empty) (events : List Event) (plan : Plan)
    (observations : List Dict) (report : Value) (db' : Database)
    (hrun : runCandidateAcquisition L (run (Database.after L) start events) plan observations =
      .ok (report, db'))
    (hdigest : ∀ pre plan' observations' post items items',
      events = pre ++ Event.call plan' observations' :: post →
        frozenItems L (run (Database.after L) start pre).surroundings plan' observations' =
          .ok items' →
        frozenItems L (run (Database.after L) start events).surroundings plan observations =
          .ok items → Separates L (inputPayload plan items) (inputPayload plan' items')) :
    BudgetConserved L plan observations report db'.store := by
  have htraced := traced_run (L := L) hstart events
  obtain ⟨-, items, hitems, ⟨row, hrow, hreplay, rfl⟩ | ⟨-, hfirst⟩⟩ := run_ok hrun
  · obtain ⟨hhash, -, rfl⟩ := replay_ok_iff.mp hreplay
    have hmem : row ∈ (run (Database.after L) start events).store.reports :=
      List.mem_of_find?_eq_some hrow
    have hid : row.executionId = plan.executionId := by simpa using List.find?_some hrow
    obtain ⟨pre, plan', observations', post, items', hcut, -, hitems', hhash', haccounted⟩ :=
      htraced.reports row hmem
    have hinput : inputPayload plan items = inputPayload plan' items' :=
      hdigest pre plan' observations' post items items' hcut hitems' hitems (hhash.symm.trans hhash')
    rw [← charges_of_input hinput] at haccounted
    exact conserved_of_accounted hitems hid haccounted
  · obtain ⟨_, _, _, _, hagreed, -⟩ := frozenItems_charges hitems
    obtain ⟨row, -, hid, rfl, -, -, -, haccounted⟩ :=
      executeFirst_accounted hfirst hagreed htraced.rounds
    exact conserved_of_accounted hitems hid haccounted

/-- The call for the pair, and a write of the rest of the system. -/
def pairEvents : List Event :=
  [.call (samplePlan "e1") [pairObservation], .outside emptyDatabase.surroundings]

theorem surroundings_pairEvents :
    (run (Database.after checksumLibrary) emptyDatabase pairEvents).surroundings =
      emptyDatabase.surroundings :=
  rfl

/-- The call for the pair again, which is answered with the report of the first. -/
theorem accepted_budgetConserved_pair :
    ∃ report db', pairRun (run (Database.after checksumLibrary) emptyDatabase pairEvents) =
        .ok (report, db') ∧
      db'.store.reports.length = 1 ∧
      BudgetConserved checksumLibrary (samplePlan "e1") [pairObservation] report db'.store := by
  have hreplay : ((pairRun (run (Database.after checksumLibrary) emptyDatabase
      pairEvents)).toOption.any fun second => second.2.store.reports.length = 1) = true := by
    decide +kernel
  obtain ⟨⟨report, db'⟩, hrun, hone⟩ := ok_of_any hreplay
  refine ⟨report, db', hrun, of_decide_eq_true hone,
    accepted_budgetConserved checksumLibrary emptyDatabase rfl pairEvents _ _ _ _ hrun ?_⟩
  intro pre plan' observations' post items items' hcut hitems' hitems
  rw [surroundings_pairEvents] at hitems
  rcases pre with _ | ⟨first, _ | ⟨second, rest⟩⟩
  · obtain ⟨hcall, -⟩ := List.cons.inj hcut
    obtain ⟨rfl, rfl⟩ := Event.call.inj hcall
    rw [run_nil] at hitems'
    obtain rfl := Except.ok.inj (hitems.symm.trans hitems')
    exact fun _ => rfl
  · obtain ⟨-, hrest⟩ := List.cons.inj hcut
    cases (List.cons.inj hrest).1
  · have hlength := congrArg List.length hcut
    simp only [pairEvents, List.length_append, List.length_cons, List.length_nil] at hlength
    omega

end PrinterV1.Discovery
