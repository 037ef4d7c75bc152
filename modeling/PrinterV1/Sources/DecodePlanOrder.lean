import PrinterV1.Foundation.Copies
import PrinterV1.Sources.OriginCursor

/-!
# The decode queue and the order of arrival

The admission loop sees each signature on its own. What it keeps of one depends
on the order of its copies exactly where one admissible row stands beside rows
that are not finalized or that failed, for these are not remembered.
-/

namespace PrinterV1.Sources

open Python

/-- A row the loop may admit. -/
def SignatureReference.admissible (r : SignatureReference) : Bool :=
  r.confirmationStatus = "finalized" && r.err = .none

/-- The rows of one signature. -/
def copiesOf (signature : String) (rows : List SignatureReference) : List SignatureReference :=
  rows.filter fun r => r.signature = signature

theorem mem_copiesOf {signature : String} {rows : List SignatureReference} {r : SignatureReference} :
    r ∈ copiesOf signature rows ↔ r ∈ rows ∧ r.signature = signature := by
  simp [copiesOf]

theorem copiesOf_perm {rows rows' : List SignatureReference} (h : rows'.Perm rows)
    (signature : String) : (copiesOf signature rows').Perm (copiesOf signature rows) :=
  h.filter _

namespace Admission

/-- What the loop keeps of one signature. -/
def standing (a : Admission) (signature : String) : Standing SignatureReference :=
  if signature ∈ a.conflicting then .conflicting
  else
    match a.references.find? fun r => r.signature = signature with
    | some r => .held r
    | none => .unseen

theorem standing_of_eq {a b : Admission} (hreferences : b.references = a.references)
    (hconflicting : b.conflicting = a.conflicting) (signature : String) :
    b.standing signature = a.standing signature := by
  rw [standing, standing, hreferences, hconflicting]

/-- The rows that are held are held once each, and none of them is in conflict. -/
structure Kept (a : Admission) : Prop where
  distinct : (a.references.map SignatureReference.signature).Nodup
  apart : ∀ r ∈ a.references, r.signature ∉ a.conflicting
  fault : a.continuityFault = true ↔ a.conflicting ≠ []

/-- The row changes nothing that the plan reads. -/
structure Idle (a b : Admission) : Prop where
  references : b.references = a.references
  conflicting : b.conflicting = a.conflicting
  fault : b.continuityFault = a.continuityFault

/-- What one row does to the references, the conflicts and the fault. -/
inductive Considered (a : Admission) (r : SignatureReference) (b : Admission) : Prop
  | passed (h : r.signature ∈ a.conflicting) (idle : Idle a b)
  | conflict (p : SignatureReference) (hfresh : r.signature ∉ a.conflicting)
      (hfind : (a.references.find? fun x => x.signature = r.signature) = some p) (hne : p ≠ r)
      (references : b.references = a.references.filter fun x => x.signature ≠ r.signature)
      (conflicting : b.conflicting = a.conflicting ++ [r.signature])
      (fault : b.continuityFault = true)
  | repeated (hfresh : r.signature ∉ a.conflicting)
      (hfind : (a.references.find? fun x => x.signature = r.signature) = some r) (idle : Idle a b)
  | rejected (hfresh : r.signature ∉ a.conflicting)
      (hfind : (a.references.find? fun x => x.signature = r.signature) = none)
      (hbad : r.admissible = false) (idle : Idle a b)
  | admitted (hfresh : r.signature ∉ a.conflicting)
      (hfind : (a.references.find? fun x => x.signature = r.signature) = none)
      (hgood : r.admissible = true) (references : b.references = a.references ++ [r])
      (conflicting : b.conflicting = a.conflicting) (fault : b.continuityFault = a.continuityFault)

theorem considered (a : Admission) (r : SignatureReference) : Considered a r (a.consider r) := by
  unfold consider
  by_cases hconflict : a.conflicting.contains r.signature = true
  · rw [if_pos hconflict]
    exact .passed (by simpa using hconflict) ⟨rfl, rfl, rfl⟩
  have hfresh : r.signature ∉ a.conflicting := by simpa using hconflict
  rw [if_neg hconflict]
  cases hfind : a.references.find? fun x => x.signature = r.signature with
  | some p =>
    dsimp only
    by_cases hsame : p = r
    · rw [if_neg (not_not_intro hsame)]
      exact .repeated hfresh (hsame ▸ hfind) ⟨rfl, rfl, rfl⟩
    · rw [if_pos hsame]
      exact .conflict p hfresh hfind hsame rfl rfl rfl
  | none =>
    dsimp only
    by_cases hfinal : r.confirmationStatus = "finalized"
    · rw [if_neg (not_not_intro hfinal)]
      by_cases herr : r.err = .none
      · rw [if_neg (not_not_intro herr)]
        refine .admitted hfresh hfind ?_ rfl rfl rfl
        simp [SignatureReference.admissible, hfinal, herr]
      · rw [if_pos herr]
        refine .rejected hfresh hfind ?_ ⟨rfl, rfl, rfl⟩
        simp [SignatureReference.admissible, herr]
    · rw [if_pos hfinal]
      refine .rejected hfresh hfind ?_ ⟨rfl, rfl, rfl⟩
      simp [SignatureReference.admissible, hfinal]

theorem Kept.idle {a b : Admission} (h : a.Kept) (hidle : Idle a b) : b.Kept := by
  obtain ⟨hreferences, hconflicting, hfault⟩ := hidle
  refine ⟨?_, ?_, ?_⟩
  · rw [hreferences]
    exact h.distinct
  · rw [hreferences, hconflicting]
    exact h.apart
  · rw [hfault, hconflicting]
    exact h.fault

theorem Kept.consider {a : Admission} (h : a.Kept) (r : SignatureReference) :
    (a.consider r).Kept := by
  cases considered a r with
  | passed hconflict idle => exact h.idle idle
  | repeated hfresh hfind idle => exact h.idle idle
  | rejected hfresh hfind hbad idle => exact h.idle idle
  | conflict p hfresh hfind hne references conflicting fault =>
    refine ⟨?_, ?_, ?_⟩
    · rw [references]
      exact h.distinct.sublist (List.filter_sublist.map _)
    · rw [references, conflicting]
      intro x hx hmem
      obtain ⟨hx, hother⟩ := List.mem_filter.mp hx
      rcases List.mem_append.mp hmem with hmem | hmem
      · exact h.apart x hx hmem
      · simp [List.mem_singleton.mp hmem] at hother
    · rw [fault, conflicting]
      exact iff_of_true rfl (by simp)
  | admitted hfresh hfind hgood references conflicting fault =>
    have hnew : r.signature ∉ a.references.map SignatureReference.signature := by
      intro hmem
      obtain ⟨x, hx, hsignature⟩ := List.mem_map.mp hmem
      simpa [hsignature] using List.find?_eq_none.mp hfind x hx
    refine ⟨?_, ?_, ?_⟩
    · rw [references, List.map_append]
      exact List.nodup_append.mpr ⟨h.distinct, by simp, by simpa using hnew⟩
    · rw [references, conflicting]
      intro x hx
      rcases List.mem_append.mp hx with hx | hx
      · exact h.apart x hx
      · rw [List.mem_singleton.mp hx]
        exact hfresh
    · rw [fault, conflicting]
      exact h.fault

/-- A row is seen at its own signature, and nothing else moves. -/
theorem standing_consider (a : Admission) (r : SignatureReference) (signature : String) :
    (a.consider r).standing signature =
      if r.signature = signature then (a.standing signature).see SignatureReference.admissible r
      else a.standing signature := by
  have hidle : Idle a (a.consider r) → (a.consider r).standing signature = a.standing signature :=
    fun h => standing_of_eq h.references h.conflicting signature
  by_cases hsame : r.signature = signature
  · subst hsame
    rw [if_pos rfl]
    cases considered a r with
    | passed hconflict idle => rw [hidle idle, standing, if_pos hconflict, Standing.see]
    | repeated hfresh hfind idle =>
      rw [hidle idle, standing, if_neg hfresh, hfind, Standing.see, if_pos rfl]
    | rejected hfresh hfind hbad idle =>
      rw [hidle idle, standing, if_neg hfresh, hfind, Standing.see, if_neg (by simp [hbad])]
    | conflict p hfresh hfind hne references conflicting fault =>
      have hold : a.standing r.signature = .held p := by rw [standing, if_neg hfresh, hfind]
      rw [hold, Standing.see, if_neg hne, standing, conflicting, if_pos (by simp)]
    | admitted hfresh hfind hgood references conflicting fault =>
      have hold : a.standing r.signature = .unseen := by rw [standing, if_neg hfresh, hfind]
      rw [hold, Standing.see, if_pos hgood, standing, conflicting, if_neg hfresh, references,
        List.find?_append, hfind]
      simp
  · rw [if_neg hsame]
    cases considered a r with
    | passed hconflict idle => exact hidle idle
    | repeated hfresh hfind idle => exact hidle idle
    | rejected hfresh hfind hbad idle => exact hidle idle
    | conflict p hfresh hfind hne references conflicting fault =>
      have hfilter : ((a.references.filter fun x => x.signature ≠ r.signature).find?
          fun x => x.signature = signature) =
          a.references.find? fun x => x.signature = signature := by
        rw [List.find?_filter]
        congr 1
        funext x
        by_cases hx : x.signature = signature
        · simp [hx, Ne.symm hsame]
        · simp [hx]
      have hmem : signature ∈ a.conflicting ++ [r.signature] ↔ signature ∈ a.conflicting := by
        simp [Ne.symm hsame]
      rw [standing, standing, references, conflicting, hfilter]
      simp only [hmem]
    | admitted hfresh hfind hgood references conflicting fault =>
      rw [standing, standing, references, conflicting, List.find?_append]
      simp [hsame]

end Admission

section Run

variable (rows : List SignatureReference)

theorem admission_append (r : SignatureReference) :
    admission (rows ++ [r]) = (admission rows).consider r := by
  simp [admission]

theorem admission_kept : (admission rows).Kept := by
  induction rows using List.reverseRecOn with
  | nil => exact ⟨List.nodup_nil, by simp [admission], by simp [admission]⟩
  | append_singleton rows r ih =>
    rw [admission_append]
    exact ih.consider r

/-- Of each signature the loop keeps what its own copies say. -/
theorem admission_standing (signature : String) :
    (admission rows).standing signature =
      standing SignatureReference.admissible (copiesOf signature rows) := by
  induction rows using List.reverseRecOn with
  | nil => rfl
  | append_singleton rows r ih =>
    rw [admission_append, Admission.standing_consider, ih, copiesOf, copiesOf, List.filter_append]
    by_cases hsame : r.signature = signature
    · simp [hsame, standing]
    · simp [hsame]

variable {rows}

theorem mem_references {r : SignatureReference} :
    r ∈ (admission rows).references ↔
      standing SignatureReference.admissible (copiesOf r.signature rows) = .held r := by
  have hkept := admission_kept rows
  rw [← admission_standing, Admission.standing]
  constructor
  · intro hr
    rw [if_neg (hkept.apart r hr)]
    cases hfind : (admission rows).references.find? fun x => x.signature = r.signature with
    | none => simpa using List.find?_eq_none.mp hfind r hr
    | some x =>
      have hx := List.mem_of_find?_eq_some hfind
      have hsignature : x.signature = r.signature := by simpa using List.find?_some hfind
      rw [List.inj_on_of_nodup_map hkept.distinct hx hr hsignature]
  · intro hstanding
    by_cases hconflict : r.signature ∈ (admission rows).conflicting
    · rw [if_pos hconflict] at hstanding
      cases hstanding
    rw [if_neg hconflict] at hstanding
    cases hfind : (admission rows).references.find? fun x => x.signature = r.signature with
    | none =>
      rw [hfind] at hstanding
      cases hstanding
    | some x =>
      rw [hfind] at hstanding
      obtain rfl := Standing.held.inj hstanding
      exact List.mem_of_find?_eq_some hfind

theorem continuityFault_iff :
    (admission rows).continuityFault = true ↔
      ∃ signature,
        standing SignatureReference.admissible (copiesOf signature rows) = .conflicting := by
  have hsome : (admission rows).conflicting ≠ [] ↔
      ∃ signature, signature ∈ (admission rows).conflicting := by
    rw [ne_eq, List.eq_nil_iff_forall_not_mem, not_forall]
    simp only [not_not]
  rw [(admission_kept rows).fault, hsome]
  simp only [← admission_standing]
  apply exists_congr
  intro signature
  rw [Admission.standing]
  by_cases hconflict : signature ∈ (admission rows).conflicting
  · simp [hconflict]
  · rw [if_neg hconflict]
    refine iff_of_false hconflict ?_
    cases (admission rows).references.find? fun x => x.signature = signature <;> simp

end Run

section Plan

variable {rows : List SignatureReference} {prior : FinalizedOriginCursor}

theorem references_nodup (rows : List SignatureReference) : (admission rows).references.Nodup :=
  (admission_kept rows).distinct.of_map

theorem signature_of_position {a b : SignatureReference} (h : a.position = b.position) :
    a.signature = b.signature := by
  have hpair : (a.slot, a.signature) = (b.slot, b.signature) := toLex.injective h
  exact (Prod.mk.inj hpair).2

/-- Where every signature is unmixed, the same rows are admitted in every order. -/
theorem references_perm (h : ∀ signature, Unmixed SignatureReference.admissible
    (copiesOf signature rows)) {rows' : List SignatureReference} (hperm : rows'.Perm rows) :
    (admission rows').references.Perm (admission rows).references := by
  rw [List.perm_ext_iff_of_nodup (references_nodup rows') (references_nodup rows)]
  intro r
  rw [mem_references, mem_references, (h r.signature).standing_eq (copiesOf_perm hperm _)]

theorem continuityFault_eq (h : ∀ signature, Unmixed SignatureReference.admissible
    (copiesOf signature rows)) {rows' : List SignatureReference} (hperm : rows'.Perm rows) :
    (admission rows').continuityFault = (admission rows).continuityFault := by
  rw [Bool.eq_iff_iff, continuityFault_iff, continuityFault_iff]
  apply exists_congr
  intro signature
  rw [(h signature).standing_eq (copiesOf_perm hperm _)]

theorem admittedOrdered_eq (h : ∀ signature, Unmixed SignatureReference.admissible
    (copiesOf signature rows)) {rows' : List SignatureReference} (hperm : rows'.Perm rows) :
    admittedOrdered rows' = admittedOrdered rows := by
  apply sortBy_eq_of_perm (references_perm h hperm)
  intro a ha b hb hkey
  exact List.inj_on_of_nodup_map (admission_kept rows').distinct ha hb (signature_of_position hkey)

/-- The plans agree on everything but the counts of duplicates and the rejections. -/
structure AdmissionPlan.Agrees (p q : AdmissionPlan) : Prop where
  decodeQueue : p.decodeQueue = q.decodeQueue
  anchor : p.anchor = q.anchor
  stalePage : p.stalePage = q.stalePage
  admittedCount : p.admittedCount = q.admittedCount
  continuityFault : p.continuityFault = q.continuityFault

theorem plan_agrees (h : ∀ signature, Unmixed SignatureReference.admissible
    (copiesOf signature rows)) {rows' : List SignatureReference} (hperm : rows'.Perm rows) :
    (planFinalizedDecodeQueue rows' prior).Agrees (planFinalizedDecodeQueue rows prior) := by
  have hordered := admittedOrdered_eq h hperm
  have hfloor : aboveFloor rows' prior = aboveFloor rows prior := by
    rw [aboveFloor, aboveFloor, hordered]
  constructor
  · simp only [planFinalizedDecodeQueue, hfloor]
  · simp only [planFinalizedDecodeQueue, hordered]
  · simp only [planFinalizedDecodeQueue, hordered]
  · simp only [planFinalizedDecodeQueue, hordered]
  · exact continuityFault_eq h hperm

/-! ## The queue -/

theorem admittedOrdered_pairwise (rows : List SignatureReference) :
    (admittedOrdered rows).Pairwise fun a b =>
      a.position < b.position ∧ a.signature ≠ b.signature := by
  have hdistinct : ((admittedOrdered rows).map SignatureReference.signature).Nodup :=
    ((sortBy_perm _ _).map _).nodup_iff.mpr (admission_kept rows).distinct
  have hsorted := sortBy_sorted SignatureReference.position (admission rows).references
  refine (hsorted.and (List.pairwise_map.mp hdistinct)).imp ?_
  rintro a b ⟨hle, hne⟩
  exact ⟨lt_of_le_of_ne hle fun h => hne (signature_of_position h), hne⟩

theorem aboveFloor_sublist : (aboveFloor rows prior).Sublist (admittedOrdered rows) := by
  unfold aboveFloor
  cases prior.boundary with
  | none => exact List.Sublist.refl _
  | some floor => exact List.filter_sublist

/-- The queue is in order, above the boundary, and a prefix of the admitted rows above it. -/
structure QueueOrdered (rows : List SignatureReference) (prior : FinalizedOriginCursor)
    (queue : List SignatureReference) : Prop where
  distinct : (queue.map SignatureReference.signature).Nodup
  increasing : queue.Pairwise fun a b => a.position < b.position
  above : ∀ boundary, prior.boundary = some boundary → ∀ r ∈ queue,
    boundary.position < r.position
  isPrefix : queue <+: aboveFloor rows prior

theorem queueOrdered :
    QueueOrdered rows prior (planFinalizedDecodeQueue rows prior).decodeQueue := by
  have htake : (planFinalizedDecodeQueue rows prior).decodeQueue <+: aboveFloor rows prior :=
    List.take_prefix _ _
  have hpairs := (admittedOrdered_pairwise rows).sublist (htake.sublist.trans aboveFloor_sublist)
  refine ⟨?_, ?_, ?_, htake⟩
  · exact List.pairwise_map.mpr (hpairs.imp fun h => h.2)
  · exact hpairs.imp fun h => h.1
  · intro boundary hboundary r hr
    exact ((mem_aboveFloor hboundary).mp (htake.subset hr)).2

theorem mem_references_of_queue {r : SignatureReference}
    (hr : r ∈ (planFinalizedDecodeQueue rows prior).decodeQueue) :
    r ∈ (admission rows).references := by
  have hqueue : r ∈ admittedOrdered rows := aboveFloor_sublist.subset (List.mem_of_mem_take hr)
  exact mem_sortBy.mp hqueue

/-- A signature with two rows is not queued. -/
def NeverQueuesConflicts (rows : List SignatureReference) (prior : FinalizedOriginCursor) : Prop :=
  ∀ r ∈ rows, ∀ r' ∈ rows, r.signature = r'.signature → r ≠ r' →
    ∀ q ∈ (planFinalizedDecodeQueue rows prior).decodeQueue, q.signature ≠ r.signature

theorem neverQueuesConflicts (h : ∀ signature, Unmixed SignatureReference.admissible
    (copiesOf signature rows)) : NeverQueuesConflicts rows prior := by
  intro r hr r' hr' hsignature hne q hq hsame
  have hheld := mem_references.mp (mem_references_of_queue hq)
  have hmem : r ∈ copiesOf q.signature rows := mem_copiesOf.mpr ⟨hr, hsame.symm⟩
  have hmem' : r' ∈ copiesOf q.signature rows :=
    mem_copiesOf.mpr ⟨hr', hsignature.symm.trans hsame.symm⟩
  rcases (h q.signature).cases with hbad | ⟨a, -, -, hall⟩ | ⟨a, ha, b, hb, hgood, hgood', hab⟩
  · rw [standing_bad hbad] at hheld
    cases hheld
  · exact hne ((hall r hmem).trans (hall r' hmem').symm)
  · rw [standing_conflicting hgood hgood' hab _ ha hb] at hheld
    cases hheld

/-! ## Where the order shows -/

theorem copiesOf_append (signature : String) (xs ys : List SignatureReference) :
    copiesOf signature (xs ++ ys) = copiesOf signature xs ++ copiesOf signature ys :=
  List.filter_append _ _

theorem admittedCount_eq (rows : List SignatureReference) :
    (planFinalizedDecodeQueue rows prior).admittedCount = (admission rows).references.length :=
  (sortBy_perm _ _).length_eq

/-- The rows that may be admitted, and the others. -/
def goodRows (rows : List SignatureReference) : List SignatureReference :=
  rows.filter SignatureReference.admissible

def badRows (rows : List SignatureReference) : List SignatureReference :=
  rows.filter fun r => !r.admissible

theorem goodRows_append_badRows (rows : List SignatureReference) :
    (goodRows rows ++ badRows rows).Perm rows :=
  List.filter_append_perm _ rows

theorem copiesOf_goodRows {signature : String} {r : SignatureReference} :
    r ∈ copiesOf signature (goodRows rows) ↔
      r ∈ copiesOf signature rows ∧ r.admissible = true := by
  simp only [mem_copiesOf, goodRows, List.mem_filter]
  tauto

theorem copiesOf_badRows {signature : String} {r : SignatureReference} :
    r ∈ copiesOf signature (badRows rows) ↔
      r ∈ copiesOf signature rows ∧ r.admissible = false := by
  simp only [mem_copiesOf, badRows, List.mem_filter, Bool.not_eq_true']
  tauto

/-- With its bad copies in front a mixed signature is admitted, and behind them it is not. -/
theorem admittedCount_lt {signature : String} {a x : SignatureReference}
    (ha : a ∈ copiesOf signature rows) (hgood : a.admissible = true)
    (hx : x ∈ copiesOf signature rows) (hbad : x.admissible = false)
    (hall : ∀ b ∈ copiesOf signature rows, b.admissible = true → b = a) :
    (admission (goodRows rows ++ badRows rows)).references.length <
      (admission (badRows rows ++ goodRows rows)).references.length := by
  have hsignature : a.signature = signature := (mem_copiesOf.mp ha).2
  subst hsignature
  obtain ⟨hheld, hconflict⟩ := standing_mixed (copiesOf a.signature (badRows rows))
    (copiesOf a.signature (goodRows rows))
    (fun y hy => (copiesOf_badRows.mp hy).2) hgood (copiesOf_goodRows.mpr ⟨ha, hgood⟩)
    (fun y hy => hall y (copiesOf_goodRows.mp hy).1 (copiesOf_goodRows.mp hy).2)
    (copiesOf_badRows.mpr ⟨hx, hbad⟩)
  have hsubset : (admission (goodRows rows ++ badRows rows)).references ⊆
      (admission (badRows rows ++ goodRows rows)).references := by
    intro r hr
    rw [mem_references, copiesOf_append] at hr ⊢
    exact standing_bad_good _ _ (fun y hy => (copiesOf_badRows.mp hy).2)
      (fun y hy => (copiesOf_goodRows.mp hy).2) hr
  have hin : a ∈ (admission (badRows rows ++ goodRows rows)).references := by
    rw [mem_references, copiesOf_append]
    exact hheld
  have hout : a ∉ (admission (goodRows rows ++ badRows rows)).references := by
    rw [mem_references, copiesOf_append, hconflict]
    nofun
  have hnodup := List.nodup_cons.mpr ⟨hout, references_nodup _⟩
  have hlen := (List.subperm_of_subset hnodup (List.cons_subset.mpr ⟨hin, hsubset⟩)).length_le
  rwa [List.length_cons] at hlen

/-- The order of arrival is ignored, the queue is in order, and no signature with two rows is queued:
exactly where no signature has one admissible value beside rows that are not admissible. -/
theorem decodePlan_orderFree_iff (rows : List SignatureReference) (prior : FinalizedOriginCursor) :
    ((∀ rows' : List SignatureReference, rows'.Perm rows →
        (planFinalizedDecodeQueue rows' prior).Agrees (planFinalizedDecodeQueue rows prior)) ∧
      QueueOrdered rows prior (planFinalizedDecodeQueue rows prior).decodeQueue ∧
      NeverQueuesConflicts rows prior) ↔
      ∀ signature, Unmixed SignatureReference.admissible (copiesOf signature rows) := by
  constructor
  · rintro ⟨hsame, -, -⟩ signature a ha hgood x hx hbad
    by_contra hnone
    have hall : ∀ b ∈ copiesOf signature rows, b.admissible = true → b = a := by
      intro b hb hgood'
      by_contra hne
      exact hnone ⟨b, hb, hgood', hne⟩
    have hperm := goodRows_append_badRows rows
    have hfirst := (hsame _ hperm).admittedCount
    have hlast := (hsame _ (List.perm_append_comm.trans hperm)).admittedCount
    have hlt := admittedCount_lt ha hgood hx hbad hall
    rw [admittedCount_eq, admittedCount_eq] at hfirst hlast
    omega
  · intro h
    exact ⟨fun rows' hperm => plan_agrees h hperm, queueOrdered, neverQueuesConflicts h⟩

/-- One row of a backend that has it finalized, and one of a backend that has not. -/
def twoCopies : List SignatureReference :=
  [⟨"signature", 5, "finalized", .none⟩, ⟨"signature", 5, "confirmed", .none⟩]

/-- The row is admitted where its finalized copy comes second, and not where it comes first. -/
theorem not_decodePlan_orderFree_twoCopies :
    ¬∀ rows' : List SignatureReference, rows'.Perm twoCopies →
      (planFinalizedDecodeQueue rows' { boundary := none }).Agrees
        (planFinalizedDecodeQueue twoCopies { boundary := none }) := by
  intro h
  have hcount := (h twoCopies.reverse (List.reverse_perm _)).admittedCount
  revert hcount
  decide

end Plan

end PrinterV1.Sources
