import PrinterV1.Foundation.Runs
import PrinterV1.Python.Value

/-!
# Duplicates within one response

`filter_within_response_duplicates` reads the candidates of a response from the
left. A pair address that was seen is a duplicate; a mint that was seen comes
with a new pair, and passes only from a migration channel. What was seen is
kept for accepted and rejected candidates alike.
-/

namespace PrinterV1.Discovery.ResponseDuplicates

open Python

/-! ## The source -/

def stnpMigration : String := "MIGRATION"
def stnpRevival : String := "REVIVAL"
def stnpPairDrift : String := "PAIR_DRIFT"
def stnpDuplicateRecycle : String := "DUPLICATE_RECYCLE"
def stnpDistinctEvidence : String := "DISTINCT_EVIDENCE"

/-- `ALLOWED_STNP_CLASSIFICATIONS` -/
def allowedStnpClassifications : List String :=
  [stnpMigration, stnpRevival, stnpPairDrift, stnpDuplicateRecycle, stnpDistinctEvidence]

def rejectionPairDuplicate : String := "PAIR_DUPLICATE"
def rejectionPairDriftUnresolved : String := "PAIR_DRIFT_UNRESOLVED"
def rejectionStnpUnresolved : String := "STNP_UNRESOLVED"
def rejectionPairDuplicateWithinResponse : String := "PAIR_DUPLICATE_WITHIN_RESPONSE"
def rejectionStnpWithinResponseUnresolved : String := "STNP_WITHIN_RESPONSE_UNRESOLVED"

/-- `_MIGRATION_CHANNELS` -/
def migrationChannels : List String :=
  ["PUMPFUN_MIGRATION", "PUMPSWAP_GRADUATED", "PUMPSWAP_MIGRATION_POOL_REFERENCE"]

/-- A normalized candidate: the keys the filter reads, and the others. -/
structure ResponseCandidate where
  tokenMint : Option String := none
  pairAddress : Option String := none
  sourceChannel : Option String := none
  other : Dict := []
  deriving DecidableEq

/-- `candidate.get("token_mint") or ""` -/
def ResponseCandidate.mint (c : ResponseCandidate) : String := c.tokenMint.getD ""

/-- `candidate.get("pair_address") or ""` -/
def ResponseCandidate.pair (c : ResponseCandidate) : String := c.pairAddress.getD ""

/-- `classify_same_token_new_pair` -/
def classifySameTokenNewPair (classification : Option String) (sameTokenNewPair : Bool) :
    Bool × String :=
  if !sameTokenNewPair then (true, "")
  else
    match classification with
    | none => (false, rejectionStnpUnresolved)
    | some name =>
      if name ∉ allowedStnpClassifications then (false, rejectionStnpUnresolved)
      else if name = stnpPairDrift then (false, rejectionPairDriftUnresolved)
      else if name = stnpDuplicateRecycle then (false, rejectionPairDuplicate)
      else (true, "")

/-- `_classify_within_response_stnp` -/
def classifyWithinResponseStnp (c : ResponseCandidate) : Option String :=
  if c.sourceChannel.getD "" ∈ migrationChannels then some stnpMigration else none

/-- What the body of the loop decides about a candidate. -/
structure Judgement where
  rejectReason : Option String := none
  stnpClassification : Option String := none
  pairRepeat : Bool := false
  stnpEvent : Bool := false
  deriving DecidableEq, Repr

def judge (seenPairAddresses seenMints : List String) (c : ResponseCandidate) : Judgement :=
  if c.pair ≠ "" ∧ c.pair ∈ seenPairAddresses then
    { rejectReason := some rejectionPairDuplicateWithinResponse, pairRepeat := true }
  else if c.mint ≠ "" ∧ c.mint ∈ seenMints then
    let classification := classifyWithinResponseStnp c
    let gate := classifySameTokenNewPair classification true
    { rejectReason :=
        if gate.1 then none
        else if gate.2 = rejectionStnpUnresolved then some rejectionStnpWithinResponseUnresolved
        else some gate.2
      stnpClassification := classification
      stnpEvent := true }
  else {}

structure RejectionDetail where
  tokenMint : Option String
  pairAddress : Option String
  rejectReason : String
  stnpClassification : Option String
  deriving DecidableEq, Repr

/-- `{**candidate, **detail}` -/
structure RejectedCandidate where
  detail : RejectionDetail
  sourceChannel : Option String
  other : Dict
  deriving DecidableEq

/-- `text or None` -/
def orNone (text : String) : Option String := if text = "" then none else some text

/-- The detail of a candidate that is rejected. -/
def rejectionDetail (c : ResponseCandidate) (judgement : Judgement) : Option RejectionDetail :=
  judgement.rejectReason.map fun reason =>
    ⟨orNone c.mint, orNone c.pair, reason, judgement.stnpClassification⟩

def merged (c : ResponseCandidate) (detail : RejectionDetail) : RejectedCandidate :=
  ⟨detail, c.sourceChannel, c.other⟩

def RejectionDetail.isPairDuplicate (detail : RejectionDetail) : Bool :=
  detail.rejectReason = rejectionPairDuplicateWithinResponse

/-- The report beside the two lists. -/
structure IntegrityReport where
  duplicatePairCount : ℕ := 0
  duplicateMintCount : ℕ := 0
  stnpEventCount : ℕ := 0
  stnpRejections : List RejectionDetail := []
  duplicateRejections : List RejectionDetail := []
  deriving DecidableEq

/-- The variables of the loop. -/
structure Filter where
  seenPairAddresses : List String := []
  seenMints : List String := []
  clean : List ResponseCandidate := []
  rejected : List RejectedCandidate := []
  report : IntegrityReport := {}
  deriving DecidableEq

/-- A text that is empty is not tracked. -/
def track (text : String) (seen : List String) : List String :=
  if text = "" then seen else text :: seen

/-- The counts go up before the candidate is put in its list. -/
def IntegrityReport.add (report : IntegrityReport) (judgement : Judgement)
    (detail : Option RejectionDetail) : IntegrityReport :=
  { duplicatePairCount := report.duplicatePairCount + judgement.pairRepeat.toNat
    duplicateMintCount := report.duplicateMintCount + judgement.stnpEvent.toNat
    stnpEventCount := report.stnpEventCount + judgement.stnpEvent.toNat
    stnpRejections := report.stnpRejections ++ (detail.filter fun d => !d.isPairDuplicate).toList
    duplicateRejections := report.duplicateRejections ++
      (detail.filter fun d => d.isPairDuplicate).toList }

/-- One turn of the loop, and what it decided. -/
def filterStep (s : Filter) (c : ResponseCandidate) : Filter × (ResponseCandidate × Judgement) :=
  let judgement := judge s.seenPairAddresses s.seenMints c
  let detail := rejectionDetail c judgement
  ({ seenPairAddresses := track c.pair s.seenPairAddresses
     seenMints := track c.mint s.seenMints
     clean := s.clean ++ if detail.isNone then [c] else []
     rejected := s.rejected ++ (detail.map (merged c)).toList
     report := s.report.add judgement detail }, (c, judgement))

/-- `filter_within_response_duplicates` -/
def filterWithinResponseDuplicates (candidates : List ResponseCandidate) : Filter :=
  Runs.run (fun s c => (filterStep s c).1) {} candidates

/-- Every candidate with what the loop decided about it. -/
def outcomes (candidates : List ResponseCandidate) : List (ResponseCandidate × Judgement) :=
  Runs.outputs filterStep {} candidates

/-! ## What the loop tracks -/

@[simp] theorem mem_track {x text : String} {seen : List String} :
    x ∈ track text seen ↔ x ∈ seen ∨ (x ≠ "" ∧ x = text) := by
  unfold track
  split_ifs with h
  · simp only [h]
    tauto
  · rw [List.mem_cons]
    constructor
    · rintro (rfl | hx)
      · exact .inr ⟨h, rfl⟩
      · exact .inl hx
    · rintro (hx | ⟨_, rfl⟩)
      · exact .inr hx
      · exact .inl rfl

/-- The seen sets hold the non-empty texts of every candidate before, accepted or not. -/
theorem seen_run (cs : List ResponseCandidate) : ∀ s : Filter,
    let last := Runs.run (fun s c => (filterStep s c).1) s cs
    (∀ p, p ∈ last.seenPairAddresses ↔
      p ∈ s.seenPairAddresses ∨ (p ≠ "" ∧ ∃ c ∈ cs, c.pair = p)) ∧
    ∀ m, m ∈ last.seenMints ↔ m ∈ s.seenMints ∨ (m ≠ "" ∧ ∃ c ∈ cs, c.mint = m) := by
  induction cs with
  | nil => intro s; simp
  | cons c cs ih =>
    intro s
    obtain ⟨hpairs, hmints⟩ := ih (filterStep s c).1
    constructor
    · intro p
      rw [Runs.run_cons, hpairs p]
      simp only [filterStep, mem_track, List.mem_cons, exists_eq_or_imp, eq_comm (a := p)]
      tauto
    · intro m
      rw [Runs.run_cons, hmints m]
      simp only [filterStep, mem_track, List.mem_cons, exists_eq_or_imp, eq_comm (a := m)]
      tauto

theorem outcomes_fst (cs : List ResponseCandidate) : ∀ s : Filter,
    (Runs.outputs filterStep s cs).map Prod.fst = cs := by
  induction cs with
  | nil => intro s; rfl
  | cons c cs ih =>
    intro s
    rw [Runs.outputs, List.map_cons, ih]
    rfl

/-- A candidate carries the pair address of another. -/
def SamePair (a b : ResponseCandidate) : Prop := b.pair ≠ "" ∧ a.pair = b.pair

def SameMint (a b : ResponseCandidate) : Prop := b.mint ≠ "" ∧ a.mint = b.mint

instance (a b : ResponseCandidate) : Decidable (SamePair a b) :=
  inferInstanceAs (Decidable (_ ∧ _))

instance (a b : ResponseCandidate) : Decidable (SameMint a b) :=
  inferInstanceAs (Decidable (_ ∧ _))

/-- What the loop decides depends on the candidates before only. -/
theorem outcomes_at {cs : List ResponseCandidate} {before after} {o : ResponseCandidate × Judgement}
    (hcut : outcomes cs = before ++ o :: after) :
    ∃ seenPairs seenMints, o.2 = judge seenPairs seenMints o.1 ∧
      (o.1.pair ≠ "" ∧ o.1.pair ∈ seenPairs ↔ ∃ e ∈ before, SamePair e.1 o.1) ∧
      (o.1.mint ≠ "" ∧ o.1.mint ∈ seenMints ↔ ∃ e ∈ before, SameMint e.1 o.1) := by
  obtain ⟨pre, c, post, _, hbefore, ho⟩ := Runs.outputs_cut hcut
  obtain ⟨hpairs, hmints⟩ := seen_run pre {}
  have hpre : before.map Prod.fst = pre := by rw [← hbefore, outcomes_fst]
  have hlift : ∀ P : ResponseCandidate → Prop, (∃ c ∈ pre, P c) ↔ ∃ e ∈ before, P e.1 := by
    intro P
    rw [← hpre]
    simp
  have hc : o.1 = c := by rw [← ho]; rfl
  refine ⟨_, _, by rw [← ho]; rfl, ?_, ?_⟩
  · rw [hpairs, hc, ← hlift fun b => SamePair b c]
    simp only [SamePair, List.not_mem_nil, false_or]
    tauto
  · rw [hmints, hc, ← hlift fun b => SameMint b c]
    simp only [SameMint, List.not_mem_nil, false_or]
    tauto

/-! ## What the loop decides -/

/-- The gate lets a repeated mint pass from a migration channel only. -/
theorem judge_cases (seenPairs seenMints : List String) (c : ResponseCandidate) :
    ((c.pair ≠ "" ∧ c.pair ∈ seenPairs) ∧ judge seenPairs seenMints c =
      { rejectReason := some rejectionPairDuplicateWithinResponse, pairRepeat := true }) ∨
    (¬(c.pair ≠ "" ∧ c.pair ∈ seenPairs) ∧ (c.mint ≠ "" ∧ c.mint ∈ seenMints) ∧
      c.sourceChannel.getD "" ∈ migrationChannels ∧ judge seenPairs seenMints c =
        { stnpClassification := some stnpMigration, stnpEvent := true }) ∨
    (¬(c.pair ≠ "" ∧ c.pair ∈ seenPairs) ∧ (c.mint ≠ "" ∧ c.mint ∈ seenMints) ∧
      c.sourceChannel.getD "" ∉ migrationChannels ∧ judge seenPairs seenMints c =
        { rejectReason := some rejectionStnpWithinResponseUnresolved, stnpEvent := true }) ∨
    (¬(c.pair ≠ "" ∧ c.pair ∈ seenPairs) ∧ ¬(c.mint ≠ "" ∧ c.mint ∈ seenMints) ∧
      judge seenPairs seenMints c = {}) := by
  unfold judge classifyWithinResponseStnp
  by_cases hpair : c.pair ≠ "" ∧ c.pair ∈ seenPairs
  · exact .inl ⟨hpair, if_pos hpair⟩
  · by_cases hmint : c.mint ≠ "" ∧ c.mint ∈ seenMints
    · by_cases hchannel : c.sourceChannel.getD "" ∈ migrationChannels
      · refine .inr (.inl ⟨hpair, hmint, hchannel, ?_⟩)
        rw [if_neg hpair, if_pos hmint, if_pos hchannel]
        rfl
      · refine .inr (.inr (.inl ⟨hpair, hmint, hchannel, ?_⟩))
        rw [if_neg hpair, if_pos hmint, if_neg hchannel]
        rfl
    · exact .inr (.inr (.inr ⟨hpair, hmint, by rw [if_neg hpair, if_neg hmint]⟩))

/-! ## What the lists and the report hold -/

def accepted (o : ResponseCandidate × Judgement) : Bool := o.2.rejectReason.isNone

def cleanOf (out : List (ResponseCandidate × Judgement)) : List ResponseCandidate :=
  (out.filter accepted).map Prod.fst

def rejectedOf (out : List (ResponseCandidate × Judgement)) : List RejectedCandidate :=
  out.filterMap fun o => (rejectionDetail o.1 o.2).map (merged o.1)

def detailsOf (out : List (ResponseCandidate × Judgement)) : List RejectionDetail :=
  out.filterMap fun o => rejectionDetail o.1 o.2

/-- Each candidate is in one of the two lists, in its place. -/
structure Partitioned (candidates : List ResponseCandidate)
    (out : List (ResponseCandidate × Judgement)) (result : Filter) : Prop where
  candidates : out.map Prod.fst = candidates
  clean : result.clean = cleanOf out
  rejected : result.rejected = rejectedOf out

theorem lists_run (cs : List ResponseCandidate) : ∀ s : Filter,
    let last := Runs.run (fun s c => (filterStep s c).1) s cs
    let out := Runs.outputs filterStep s cs
    last.clean = s.clean ++ cleanOf out ∧ last.rejected = s.rejected ++ rejectedOf out := by
  induction cs with
  | nil => intro s; simp [Runs.outputs, cleanOf, rejectedOf]
  | cons c cs ih =>
    intro s
    obtain ⟨hclean, hrejected⟩ := ih (filterStep s c).1
    dsimp only [Runs.run_cons]
    rw [hclean, hrejected, Runs.outputs]
    cases hreason : (judge s.seenPairAddresses s.seenMints c).rejectReason with
    | none => simp [filterStep, cleanOf, rejectedOf, rejectionDetail, accepted, hreason]
    | some reason => simp [filterStep, cleanOf, rejectedOf, rejectionDetail, accepted, hreason]

theorem filterStep_report (s : Filter) (c : ResponseCandidate) :
    (filterStep s c).1.report =
      let judgement := judge s.seenPairAddresses s.seenMints c
      s.report.add judgement (rejectionDetail c judgement) := rfl

theorem filterStep_answer (s : Filter) (c : ResponseCandidate) :
    (filterStep s c).2 = (c, judge s.seenPairAddresses s.seenMints c) := rfl

theorem countP_cons_toNat {α : Type*} (p : α → Bool) (x : α) (xs : List α) :
    (x :: xs).countP p = (p x).toNat + xs.countP p := by
  rw [List.countP_cons, Nat.add_comm]
  cases p x <;> rfl

theorem filter_details (p : RejectionDetail → Bool) (detail : Option RejectionDetail)
    (front back : List RejectionDetail) :
    front ++ (detail.filter p).toList ++ back.filter p =
      front ++ (detail.toList ++ back).filter p := by
  cases detail with
  | none => simp
  | some d => cases hd : p d <;> simp [hd, Option.filter]

theorem detailsOf_cons (o : ResponseCandidate × Judgement)
    (out : List (ResponseCandidate × Judgement)) :
    detailsOf (o :: out) = (rejectionDetail o.1 o.2).toList ++ detailsOf out := by
  unfold detailsOf
  rw [List.filterMap_cons]
  cases h : rejectionDetail o.1 o.2 <;> rfl

theorem report_run (cs : List ResponseCandidate) : ∀ s : Filter,
    let last := (Runs.run (fun s c => (filterStep s c).1) s cs).report
    let out := Runs.outputs filterStep s cs
    last.duplicatePairCount = s.report.duplicatePairCount + out.countP (fun o => o.2.pairRepeat) ∧
      last.duplicateMintCount = s.report.duplicateMintCount + out.countP (fun o => o.2.stnpEvent) ∧
      last.stnpEventCount = s.report.stnpEventCount + out.countP (fun o => o.2.stnpEvent) ∧
      last.stnpRejections =
        s.report.stnpRejections ++ (detailsOf out).filter (fun d => !d.isPairDuplicate) ∧
      last.duplicateRejections =
        s.report.duplicateRejections ++ (detailsOf out).filter fun d => d.isPairDuplicate := by
  induction cs with
  | nil => intro s; simp [Runs.outputs, detailsOf]
  | cons c cs ih =>
    intro s
    obtain ⟨hpair, hmint, hevent, hstnp, hdup⟩ := ih (filterStep s c).1
    dsimp only [Runs.run_cons]
    rw [hpair, hmint, hevent, hstnp, hdup, Runs.outputs, detailsOf_cons, countP_cons_toNat,
      countP_cons_toNat]
    simp only [filterStep_report, filterStep_answer, IntegrityReport.add, Nat.add_assoc,
      filter_details, and_self]

/-- The candidates before in one list, in the order of the loop. -/
theorem pairwise_of_cuts {α : Type*} {R : α → α → Prop} {xs : List α}
    (h : ∀ before x after, xs = before ++ x :: after → ∀ e ∈ before, R e x) : xs.Pairwise R := by
  induction xs using List.reverseRecOn with
  | nil => exact List.Pairwise.nil
  | append_singleton xs x ih =>
    refine List.pairwise_append.mpr ⟨ih ?_, List.pairwise_singleton R x, ?_⟩
    · intro before y after hcut
      exact h before y (after ++ [x]) (by rw [hcut]; simp)
    · intro e he y hy
      rw [List.mem_singleton.mp hy]
      exact h xs x [] rfl e he

/-! ## What is claimed of the filter -/

/-- A candidate is rejected only after another that carries its pair address or its mint and has
the property. -/
def RejectedAfter (P : ResponseCandidate × Judgement → Prop)
    (out : List (ResponseCandidate × Judgement)) : Prop :=
  ∀ before o after, out = before ++ o :: after → accepted o = false →
    ∃ e ∈ before, P e ∧ (SamePair e.1 o.1 ∨ SameMint e.1 o.1)

/-- No pair address is accepted twice. -/
def DistinctPairs (clean : List ResponseCandidate) : Prop :=
  ((clean.map ResponseCandidate.pair).filter (· ≠ "")).Nodup

/-- The counts are the lengths of the lists of rejections. -/
structure CountsRejections (report : IntegrityReport) : Prop where
  pairs : report.duplicatePairCount = report.duplicateRejections.length
  mints : report.duplicateMintCount = report.stnpRejections.length
  events : report.stnpEventCount = report.stnpRejections.length

/-- The mint count and the event count go up for the accepted candidates of a migration channel
that repeat an earlier mint too, and for no other accepted candidate. -/
structure CountsRepeats (out : List (ResponseCandidate × Judgement)) (report : IntegrityReport) :
    Prop where
  pairRejections : report.duplicateRejections = (detailsOf out).filter fun d => d.isPairDuplicate
  stnpRejections : report.stnpRejections = (detailsOf out).filter fun d => !d.isPairDuplicate
  pairs : report.duplicatePairCount = report.duplicateRejections.length
  mints : report.duplicateMintCount = report.stnpEventCount
  events : report.stnpEventCount =
    report.stnpRejections.length + out.countP fun o => accepted o && o.2.stnpEvent
  migrations : ∀ before o after, out = before ++ o :: after → accepted o = true →
    (o.2.stnpEvent = true ↔
      o.1.sourceChannel.getD "" ∈ migrationChannels ∧ ∃ e ∈ before, SameMint e.1 o.1)

theorem rejectedAfter_outcomes (cs : List ResponseCandidate) :
    RejectedAfter (fun _ => True) (outcomes cs) := by
  intro before o after hcut hrejected
  obtain ⟨seenPairs, seenMints, hjudge, hpair, hmint⟩ := outcomes_at hcut
  unfold accepted at hrejected
  rw [hjudge] at hrejected
  obtain ⟨hseen, _⟩ | ⟨_, _, _, hj⟩ | ⟨_, hseen, _, _⟩ | ⟨_, _, hj⟩ :=
    judge_cases seenPairs seenMints o.1
  · obtain ⟨e, he, hsame⟩ := hpair.mp hseen
    exact ⟨e, he, trivial, .inl hsame⟩
  · simp [hj] at hrejected
  · obtain ⟨e, he, hsame⟩ := hmint.mp hseen
    exact ⟨e, he, trivial, .inr hsame⟩
  · simp [hj] at hrejected

theorem migrations_outcomes {cs : List ResponseCandidate} {before after}
    {o : ResponseCandidate × Judgement} (hcut : outcomes cs = before ++ o :: after)
    (haccepted : accepted o = true) :
    o.2.stnpEvent = true ↔
      o.1.sourceChannel.getD "" ∈ migrationChannels ∧ ∃ e ∈ before, SameMint e.1 o.1 := by
  obtain ⟨seenPairs, seenMints, hjudge, _, hmint⟩ := outcomes_at hcut
  unfold accepted at haccepted
  rw [hjudge] at haccepted
  rw [hjudge, ← hmint]
  obtain ⟨_, hj⟩ | ⟨_, hseen, hchannel, hj⟩ | ⟨_, _, _, hj⟩ | ⟨_, hunseen, hj⟩ :=
    judge_cases seenPairs seenMints o.1
  · simp [hj] at haccepted
  · rw [hj]
    exact iff_of_true rfl ⟨hchannel, hseen⟩
  · simp [hj] at haccepted
  · rw [hj]
    exact iff_of_false (by decide) fun h => hunseen h.2

/-- A candidate that is accepted has a pair address no candidate before it had. -/
theorem fresh_outcomes {cs : List ResponseCandidate} {before after}
    {o : ResponseCandidate × Judgement} (hcut : outcomes cs = before ++ o :: after)
    (haccepted : accepted o = true) : ∀ e ∈ before, ¬SamePair e.1 o.1 := by
  intro e he hsame
  obtain ⟨seenPairs, seenMints, hjudge, hpair, _⟩ := outcomes_at hcut
  unfold accepted at haccepted
  rw [hjudge, judge, if_pos (hpair.mpr ⟨e, he, hsame⟩)] at haccepted
  simp at haccepted

theorem distinctPairs_outcomes (cs : List ResponseCandidate) :
    DistinctPairs (cleanOf (outcomes cs)) := by
  have hall : (outcomes cs).Pairwise fun e o => accepted o = true → ¬SamePair e.1 o.1 :=
    pairwise_of_cuts fun before o after hcut e he haccepted =>
      fresh_outcomes hcut haccepted e he
  unfold DistinctPairs cleanOf List.Nodup
  rw [List.map_map, List.pairwise_filter, List.pairwise_map, List.pairwise_filter]
  apply hall.imp
  intro e o hfresh _ haccepted _ hpair hsame
  exact hfresh haccepted ⟨by simpa using hpair, hsame⟩

theorem length_filter_details (p : RejectionDetail → Bool)
    (out : List (ResponseCandidate × Judgement)) :
    ((detailsOf out).filter p).length =
      out.countP fun o => (rejectionDetail o.1 o.2).any p := by
  induction out with
  | nil => rfl
  | cons o out ih =>
    rw [detailsOf_cons, countP_cons_toNat, List.filter_append, List.length_append, ih]
    cases h : rejectionDetail o.1 o.2 with
    | none => simp
    | some d => cases hd : p d <;> simp [hd]

theorem judged {cs : List ResponseCandidate} {o : ResponseCandidate × Judgement}
    (ho : o ∈ outcomes cs) : ∃ seenPairs seenMints, o.2 = judge seenPairs seenMints o.1 := by
  obtain ⟨before, after, hcut⟩ := List.mem_iff_append.mp ho
  obtain ⟨seenPairs, seenMints, hjudge, _⟩ := outcomes_at hcut
  exact ⟨seenPairs, seenMints, hjudge⟩

theorem countP_pairRepeat (cs : List ResponseCandidate) :
    (outcomes cs).countP (fun o => o.2.pairRepeat) =
      ((detailsOf (outcomes cs)).filter fun d => d.isPairDuplicate).length := by
  rw [length_filter_details]
  apply List.countP_congr
  intro o ho
  obtain ⟨seenPairs, seenMints, hjudge⟩ := judged ho
  rw [hjudge]
  obtain ⟨_, hj⟩ | ⟨_, _, _, hj⟩ | ⟨_, _, _, hj⟩ | ⟨_, _, hj⟩ :=
    judge_cases seenPairs seenMints o.1 <;> rw [hj] <;>
    simp [rejectionDetail, RejectionDetail.isPairDuplicate, rejectionPairDuplicateWithinResponse,
      rejectionStnpWithinResponseUnresolved]

theorem countP_stnpEvent (cs : List ResponseCandidate) :
    (outcomes cs).countP (fun o => o.2.stnpEvent) =
      ((detailsOf (outcomes cs)).filter fun d => !d.isPairDuplicate).length +
        (outcomes cs).countP fun o => accepted o && o.2.stnpEvent := by
  rw [length_filter_details, List.countP_eq_countP_filter_add _ _ accepted, Nat.add_comm,
    List.countP_filter, List.countP_filter]
  congr 1
  · apply List.countP_congr
    intro o ho
    obtain ⟨seenPairs, seenMints, hjudge⟩ := judged ho
    unfold accepted
    rw [hjudge]
    obtain ⟨_, hj⟩ | ⟨_, _, _, hj⟩ | ⟨_, _, _, hj⟩ | ⟨_, _, hj⟩ :=
      judge_cases seenPairs seenMints o.1 <;> rw [hj] <;>
      simp [rejectionDetail, RejectionDetail.isPairDuplicate, rejectionPairDuplicateWithinResponse,
        rejectionStnpWithinResponseUnresolved]
  · apply List.countP_congr
    intro o _
    rw [Bool.and_comm]

theorem filter_lists (cs : List ResponseCandidate) :
    (filterWithinResponseDuplicates cs).clean = cleanOf (outcomes cs) ∧
      (filterWithinResponseDuplicates cs).rejected = rejectedOf (outcomes cs) :=
  lists_run cs {}

theorem filter_report (cs : List ResponseCandidate) :
    let report := (filterWithinResponseDuplicates cs).report
    report.duplicatePairCount = (outcomes cs).countP (fun o => o.2.pairRepeat) ∧
      report.duplicateMintCount = (outcomes cs).countP (fun o => o.2.stnpEvent) ∧
      report.stnpEventCount = (outcomes cs).countP (fun o => o.2.stnpEvent) ∧
      report.stnpRejections = (detailsOf (outcomes cs)).filter (fun d => !d.isPairDuplicate) ∧
      report.duplicateRejections = (detailsOf (outcomes cs)).filter fun d => d.isPairDuplicate := by
  have h := report_run cs {}
  unfold filterWithinResponseDuplicates outcomes
  simpa only [Nat.zero_add, List.nil_append] using h

/-- The filter splits the candidates, accepts no pair address twice, rejects a candidate only
after another with its pair address or its mint, and counts what it rejects, the accepted
migrations among the repeated mints. -/
theorem withinResponse_filter (candidates : List ResponseCandidate) :
    let result := filterWithinResponseDuplicates candidates
    let out := outcomes candidates
    Partitioned candidates out result ∧ DistinctPairs result.clean ∧
      RejectedAfter (fun _ => True) out ∧ CountsRepeats out result.report := by
  obtain ⟨hclean, hrejected⟩ := filter_lists candidates
  obtain ⟨hpairs, hmints, hevents, hstnp, hdup⟩ := filter_report candidates
  have hdistinct := distinctPairs_outcomes candidates
  rw [← hclean] at hdistinct
  refine ⟨⟨outcomes_fst candidates {}, hclean, hrejected⟩, hdistinct,
    rejectedAfter_outcomes candidates, ?_⟩
  exact
    { pairRejections := hdup
      stnpRejections := hstnp
      pairs := by rw [hpairs, hdup, countP_pairRepeat]
      mints := by rw [hmints, hevents]
      events := by rw [hevents, hstnp, countP_stnpEvent]
      migrations := fun before o after => migrations_outcomes }

/-- A candidate that was rejected hides a later one that repeats only its pair address, and a
repeated mint from a migration channel is counted without being rejected. -/
theorem not_rejectedAfter_hidden :
    ¬RejectedAfter (fun e => accepted e = true)
      (outcomes
        [{ tokenMint := some "m1", pairAddress := some "p1" },
          { tokenMint := some "m1", pairAddress := some "p2" },
          { tokenMint := some "m2", pairAddress := some "p2" }]) ∧
      ¬CountsRejections
        (filterWithinResponseDuplicates
          [{ tokenMint := some "m1", pairAddress := some "p1" },
            { tokenMint := some "m1", pairAddress := some "p2"
              sourceChannel := some "PUMPFUN_MIGRATION" }]).report := by
  constructor
  · intro h
    have hlast := h _ _ [] (by rfl : outcomes _ = [_, _] ++ [_]) (by decide)
    revert hlast
    decide
  · rintro ⟨_, hmints, _⟩
    revert hmints
    decide

end PrinterV1.Discovery.ResponseDuplicates
