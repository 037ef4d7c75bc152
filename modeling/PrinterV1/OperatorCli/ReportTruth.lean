import PrinterV1.OperatorCli.TerminalReport

/-!
# What a terminal report says of its totals

The totals of the payload and the totals of the activity block come from one of
five places. Where the activity brings totals of its own, nothing compares them
with the evidence.
-/

namespace PrinterV1.Sources

open Python

variable {R : Value.Rendering}

/-! ## Totals equal to a mapping -/

theorem get_floatedEntries (entries : Dict) (key : String) :
    Dict.get (Value.floatedEntries entries) key = (entries.get key).floated := by
  induction entries with
  | nil => rfl
  | cons e rest ih =>
    obtain ⟨k, v⟩ := e
    rw [Value.floatedEntries, Dict.get_cons, Dict.get_cons, ih]
    split_ifs <;> rfl

theorem has_floatedEntries (entries : Dict) (key : String) :
    Dict.has (Value.floatedEntries entries) key = entries.has key := by
  induction entries with
  | nil => rfl
  | cons e rest ih =>
    obtain ⟨k, v⟩ := e
    simp only [Dict.has, Value.floatedEntries, List.any_cons] at ih ⊢
    rw [ih]

/-- A value equal to an integer counts as that integer. -/
theorem toIntOrZero_of_floated {v : Value} {n : ℤ} (h : v.floated = .float n) :
    v.toIntOrZero R = .ok n := by
  cases v with
  | bool b =>
    have hb : (if b then (1 : ℚ) else 0) = n := Value.float.inj h
    cases b with
    | false =>
      obtain rfl : n = 0 := by exact_mod_cast hb.symm
      rfl
    | true =>
      obtain rfl : n = 1 := by exact_mod_cast hb.symm
      rfl
  | int m =>
    obtain rfl : m = n := by exact_mod_cast Value.float.inj h
    by_cases hm : m = 0
    · subst hm
      rfl
    · simp [Value.toIntOrZero, Value.truthy, Value.toInt, hm]
  | float q =>
    obtain rfl : q = n := Value.float.inj h
    by_cases hn : n = 0
    · subst hn
      rfl
    · simp [Value.toIntOrZero, Value.truthy, Value.toInt, hn]
  | _ => cases h

/-- A mapping equal to totals is read as these totals. -/
theorem sixUnitTotalsFromMapping_of_pyEq {v : Value} {totals : SixUnitTotals}
    (h : v.pyEq (.dict totals.toDict) = true) : sixUnitTotalsFromMapping R v = .ok totals := by
  obtain ⟨heq, -⟩ := Value.pyEq_iff.mp h
  cases v with
  | dict raw =>
    have hentries : Value.floatedEntries raw = Value.floatedEntries totals.toDict :=
      Value.dict.inj heq
    have hget : ∀ unit, (Dict.get raw unit).floated = (totals.toDict.get unit).floated := by
      intro unit
      rw [← get_floatedEntries, hentries, get_floatedEntries]
    have hhas : Dict.has raw "six_unit_totals" = false := by
      rw [← has_floatedEntries, hentries, has_floatedEntries]
      rfl
    have hraw : rawTotals raw = .dict raw := by
      rw [rawTotals, hhas]
      rfl
    rw [sixUnitTotalsFromMapping, hraw, readRawTotals, readUnits,
      toIntOrZero_of_floated (hget "SOURCE_TRANSPORT_OPERATION"), Faults.ok_bind,
      toIntOrZero_of_floated (hget "LOCAL_VALIDATION_STEP"), Faults.ok_bind,
      toIntOrZero_of_floated (hget "SCHEDULER_WORK_ITEM"), Faults.ok_bind,
      toIntOrZero_of_floated (hget "SOURCE_RESPONSE_BYTES"), Faults.ok_bind,
      toIntOrZero_of_floated (hget "NORMALIZED_SOURCE_ROWS"), Faults.ok_bind,
      toIntOrZero_of_floated (hget "LIFECYCLE_RESERVED_TRANSPORT_OPERATION"), Faults.ok_bind]
    rfl
  | _ => cases heq

theorem toDict_pyEq (totals : SixUnitTotals) :
    (Value.dict totals.toDict).pyEq (.dict totals.toDict) = true := by
  simp [Value.pyEq_iff, SixUnitTotals.toDict, Value.floated, Value.floatedEntries, Value.hasNan,
    Value.hasNanEntries]

theorem toDict_eq_iff {a b : SixUnitTotals} : a.toDict = b.toDict ↔ a = b := by
  refine ⟨fun h => ?_, fun h => by rw [h]⟩
  simp only [SixUnitTotals.toDict, List.cons.injEq, Prod.mk.injEq, true_and, Value.int.injEq,
    and_true] at h
  obtain ⟨h₁, h₂, h₃, h₄, h₅, h₆⟩ := h
  exact SixUnitTotals.ext h₆ h₂ h₄ h₅ h₃ h₁

theorem compareReportTotals_ok {totals : SixUnitTotals} {evidence : Value}
    {comparison : SixUnitComparison}
    (h : compareReportTotalsToEvidence R totals evidence = .ok comparison) :
    ∃ reconstructed, reconstructSixUnitTotalsFromEvidence R evidence = .ok reconstructed ∧
      (comparison.equal = true ↔ totals = reconstructed) := by
  obtain ⟨reconstructed, hrec, h⟩ := Faults.bind_ok h
  obtain rfl := Except.ok.inj h
  exact ⟨reconstructed, hrec, reconcile_equal_iff⟩

end PrinterV1.Sources

namespace PrinterV1.OperatorCli

open Python Sources Faults

variable {R : Value.Rendering} {utcNow : String} {args : TerminalReportArguments}

/-! ## The comparison -/

/-- What is known of the totals that were compared with the evidence. -/
structure Resolved (R : Value.Rendering) (utcNow : String) (args : TerminalReportArguments)
    (six : ResolvedSixUnits) (reconstructed : SixUnitTotals) : Prop where
  evidence : six.evidence = evidenceOf utcNow args.sixUnitEvidence
  reconstructs : reconstructSixUnitTotalsFromEvidence R (.dict six.evidence) = .ok reconstructed
  equal_iff : six.equal = true ↔ six.totals = reconstructed
  required : args.requireSixUnitEvidence = true → six.totals = reconstructed
  default : args.requireSixUnitEvidence = false → args.sixUnitTotals = .none →
    six.totals = if six.evidence.get "transport_operations" ≠ .none then reconstructed else 0

theorem resolveTotals_default {evidence : Dict} {totals reconstructed : SixUnitTotals}
    (h : resolveTotals R args evidence = .ok totals)
    (hrec : reconstructSixUnitTotalsFromEvidence R (.dict evidence) = .ok reconstructed)
    (hflag : args.requireSixUnitEvidence = false) (hnone : args.sixUnitTotals = .none) :
    totals = if evidence.get "transport_operations" ≠ .none then reconstructed else 0 := by
  rw [resolveTotals, if_neg (by simp [hflag]), if_neg (by simp [hnone]), hrec] at h
  split_ifs at h ⊢ with htransports
  · exact (Except.ok.inj h).symm
  · exact (Except.ok.inj h).symm

theorem resolveSixUnits_ok {six : ResolvedSixUnits}
    (h : resolveSixUnits R utcNow args = .ok six) :
    ∃ reconstructed, Resolved R utcNow args six reconstructed := by
  obtain ⟨-, h⟩ := check_ok h
  obtain ⟨totals, htotals, h⟩ := bind_ok h
  obtain ⟨comparison, hcompare, h⟩ := bind_ok h
  obtain ⟨hequal, h⟩ := check_ok h
  obtain rfl := Except.ok.inj h
  obtain ⟨reconstructed, hrec, hiff⟩ := compareReportTotals_ok (mapError_ok hcompare)
  refine ⟨reconstructed, rfl, hrec, hiff, ?_, resolveTotals_default htotals hrec⟩
  intro hflag
  refine hiff.mp ?_
  by_contra hne
  exact hequal ⟨hflag, by simpa using hne⟩

/-! ## The payload -/

/-- Where the totals of the payload and of its activity come from. -/
inductive TotalsPlaced (R : Value.Rendering) (args : TerminalReportArguments)
    (resolved : SixUnitTotals) : SixUnitTotals → Value → Prop
  | absent (h : args.campaignActivity = none) : TotalsPlaced R args resolved resolved .none
  | counted {activity : Dict} (h : args.campaignActivity = none)
    (hget : activity.get "six_unit_totals" = .dict resolved.toDict) :
    TotalsPlaced R args resolved resolved (.dict activity)
  | filled {activity : Dict} (h : args.campaignActivity = some activity)
    (hhas : activity.has "six_unit_totals" = false) :
    TotalsPlaced R args resolved resolved
      (.dict (activity.set "six_unit_totals" (.dict resolved.toDict)))
  | overwritten {activity : Dict} {own : SixUnitTotals} (h : args.campaignActivity = some activity)
    (hhas : activity.has "six_unit_totals" = true) (hnone : args.sixUnitTotals = .none)
    (hown : sixUnitTotalsFromMapping R (activity.get "six_unit_totals") = .ok own) :
    TotalsPlaced R args resolved own (.dict activity)
  | beside {activity : Dict} (h : args.campaignActivity = some activity)
    (hhas : activity.has "six_unit_totals" = true) (hgiven : args.sixUnitTotals ≠ .none) :
    TotalsPlaced R args resolved resolved (.dict activity)

def totalsKeys : List String :=
  ["six_unit_evidence", "six_unit_evidence_match", "six_unit_totals", "campaign_activity"]

/-- What the payload holds under these names. -/
structure Holds (payload : Dict) (evidence : Dict) (equal : Bool) (totals : SixUnitTotals)
    (activity : Value) : Prop where
  evidence : payload.get "six_unit_evidence" = .dict evidence
  equal : payload.get "six_unit_evidence_match" = .bool equal
  totals : payload.get "six_unit_totals" = .dict totals.toDict
  activity : payload.get "campaign_activity" = activity

theorem basePayload_holds (six : ResolvedSixUnits) (reconciliation terminal : Dict) :
    Holds (basePayload args six reconciliation terminal) six.evidence six.equal six.totals .none := by
  constructor <;> simp [basePayload, Dict.has]
  rfl

/-- Another item leaves them as they are. -/
theorem Holds.set {payload evidence : Dict} {equal : Bool} {totals : SixUnitTotals}
    {activity : Value} (h : Holds payload evidence equal totals activity) (key : String) (v : Value)
    (hkey : key ∉ totalsKeys) :
    Holds (payload.set key v) evidence equal totals activity := by
  simp only [totalsKeys, List.mem_cons, List.not_mem_nil, or_false, not_or] at hkey
  obtain ⟨hevidence, hequal, htotals, hactivity⟩ := hkey
  exact ⟨by rw [Dict.get_set, if_neg (Ne.symm hevidence), h.evidence],
    by rw [Dict.get_set, if_neg (Ne.symm hequal), h.equal],
    by rw [Dict.get_set, if_neg (Ne.symm htotals), h.totals],
    by rw [Dict.get_set, if_neg (Ne.symm hactivity), h.activity]⟩

theorem Holds.setActivity {payload evidence : Dict} {equal : Bool} {totals : SixUnitTotals}
    {activity : Value} (h : Holds payload evidence equal totals activity) (v : Value) :
    Holds (payload.set "campaign_activity" v) evidence equal totals v :=
  ⟨by rw [Dict.get_set, if_neg (by decide), h.evidence],
    by rw [Dict.get_set, if_neg (by decide), h.equal],
    by rw [Dict.get_set, if_neg (by decide), h.totals],
    by rw [Dict.get_set, if_pos rfl]⟩

theorem Holds.setTotals {payload evidence : Dict} {equal : Bool} {totals : SixUnitTotals}
    {activity : Value} (h : Holds payload evidence equal totals activity) (own : SixUnitTotals) :
    Holds (payload.set "six_unit_totals" (.dict own.toDict)) evidence equal own activity :=
  ⟨by rw [Dict.get_set, if_neg (by decide), h.evidence],
    by rw [Dict.get_set, if_neg (by decide), h.equal],
    by rw [Dict.get_set, if_pos rfl],
    by rw [Dict.get_set, if_neg (by decide), h.activity]⟩

theorem Holds.addThroughJson {payload payload' evidence : Dict} {equal : Bool}
    {totals : SixUnitTotals} {activity : Value} {key : String} {block : Option Dict}
    (h : Holds payload evidence equal totals activity)
    (hadd : addThroughJson key block payload = .ok payload')
    (hkey : key ∉ totalsKeys) :
    Holds payload' evidence equal totals activity := by
  cases block with
  | none =>
    obtain rfl := Except.ok.inj hadd
    exact h
  | some entries =>
    obtain ⟨image, -, hadd⟩ := bind_ok hadd
    obtain rfl := Except.ok.inj hadd
    exact h.set _ _ hkey

theorem Holds.addCount {payload payload' evidence blockedSupply : Dict} {equal : Bool}
    {totals : SixUnitTotals} {activity : Value} {key : String} {given : Option ℤ}
    (h : Holds payload evidence equal totals activity)
    (hadd : addCount R key given blockedSupply payload = .ok payload')
    (hkey : key ∉ totalsKeys) :
    Holds payload' evidence equal totals activity := by
  obtain ⟨n, -, hadd⟩ := bind_ok hadd
  obtain rfl := Except.ok.inj hadd
  exact h.set _ _ hkey

theorem Holds.addGiven {payload evidence : Dict} {equal : Bool} {totals : SixUnitTotals}
    {activity : Value} (h : Holds payload evidence equal totals activity) (key : String)
    (given : Option ℤ)
    (hkey : key ∉ totalsKeys) :
    Holds (addGiven key given payload) evidence equal totals activity := by
  cases given with
  | none => exact h
  | some n => exact h.set _ _ hkey

theorem Holds.addBlockedSupply {payload payload' evidence : Dict} {equal : Bool}
    {totals : SixUnitTotals} {activity : Value} (h : Holds payload evidence equal totals activity)
    (hadd : addBlockedSupply R args payload = .ok payload') :
    Holds payload' evidence equal totals activity := by
  unfold OperatorCli.addBlockedSupply at hadd
  cases hsupply : args.blockedSupply with
  | some blockedSupply =>
    rw [hsupply] at hadd
    obtain ⟨p₁, h₁, hadd⟩ := bind_ok hadd
    obtain ⟨p₂, h₂, hadd⟩ := bind_ok hadd
    obtain ⟨p₃, h₃, hadd⟩ := bind_ok hadd
    obtain ⟨p₄, h₄, hadd⟩ := bind_ok hadd
    obtain rfl := Except.ok.inj hadd
    have hbase := ((h.set "blocked_supply" (.dict blockedSupply) (by decide)).set
      "shortage_classification" (blockedSupply.get "shortage_classification") (by decide)).set
      "exhaustion_certificate" (blockedSupply.get "exhaustion_certificate") (by decide)
    have hcounts := (((hbase.addCount h₁ (by decide)).addCount h₂ (by decide)).addCount h₃
      (by decide)).addCount h₄ (by decide)
    exact hcounts.set _ _ (by decide)
  | none =>
    rw [hsupply] at hadd
    have hcounts := (((h.addGiven "candidates_observed" args.candidatesObserved
      (by decide)).addGiven "candidates_validated" args.candidatesValidated
      (by decide)).addGiven "eligible_candidates" args.eligibleCandidates
      (by decide)).addGiven "required_token_capacity" args.requiredTokenCapacity
      (by decide)
    cases hreason : args.blockedSupplyReason with
    | none =>
      simp only [hreason] at hadd
      obtain rfl := Except.ok.inj hadd
      exact hcounts
    | some reason =>
      simp only [hreason] at hadd
      obtain rfl := Except.ok.inj hadd
      exact hcounts.set _ _ (by decide)

/-- The block of the activity: where the totals of the payload are from then on. -/
theorem Holds.addCampaignActivity {payload payload' evidence : Dict} {equal : Bool}
    {resolved : SixUnitTotals} (h : Holds payload evidence equal resolved .none)
    (hadd : addCampaignActivity R args resolved payload = .ok payload') :
    ∃ totals activity, Holds payload' evidence equal totals activity ∧
      TotalsPlaced R args resolved totals activity := by
  unfold OperatorCli.addCampaignActivity at hadd
  cases hactivity : args.campaignActivity with
  | none =>
    simp only [hactivity] at hadd
    split_ifs at hadd with hcalls
    · obtain rfl := Except.ok.inj hadd
      have hcounts := (h.set "campaign_source_calls" (.int (args.campaignSourceCalls.getD 0))
        (by decide)).set "campaign_scheduler_calls"
        (.int (args.campaignSchedulerCalls.getD 0)) (by decide)
      exact ⟨resolved, _, hcounts.setActivity _, .counted hactivity rfl⟩
    · obtain rfl := Except.ok.inj hadd
      exact ⟨resolved, .none, h, .absent hactivity⟩
  | some activity =>
    simp only [hactivity] at hadd
    obtain ⟨middle, htotals, hadd⟩ := bind_ok hadd
    obtain ⟨sourceCalls, -, hadd⟩ := bind_ok hadd
    obtain ⟨schedulerCalls, -, hadd⟩ := bind_ok hadd
    obtain rfl := Except.ok.inj hadd
    have hplaced : ∃ totals value, Holds middle evidence equal totals value ∧
        TotalsPlaced R args resolved totals value := by
      unfold addActivityTotals at htotals
      split_ifs at htotals with hhas hnone
      · obtain rfl := Except.ok.inj htotals
        exact ⟨resolved, _, h.setActivity _, .filled hactivity hhas⟩
      · obtain ⟨own, hown, htotals⟩ := bind_ok htotals
        obtain rfl := Except.ok.inj htotals
        exact ⟨own, _, (h.setTotals own).setActivity _,
          .overwritten hactivity (by simpa using hhas) hnone (mapError_ok hown)⟩
      · obtain rfl := Except.ok.inj htotals
        exact ⟨resolved, _, h.setActivity _, .beside hactivity (by simpa using hhas) hnone⟩
    obtain ⟨totals, value, hholds, hplaced⟩ := hplaced
    exact ⟨totals, value, (hholds.set _ _ (by decide)).set _ _ (by decide), hplaced⟩

/-- What the built payload holds. -/
theorem buildCampaignTerminalReport_ok {payload : Dict}
    (h : buildCampaignTerminalReport R utcNow args = .ok payload) :
    ∃ six reconstructed totals activity, Resolved R utcNow args six reconstructed ∧
      Holds payload six.evidence six.equal totals activity ∧
      TotalsPlaced R args six.totals totals activity := by
  obtain ⟨six, hsix, h⟩ := bind_ok h
  obtain ⟨reconciliation, -, h⟩ := bind_ok h
  obtain ⟨terminal, -, h⟩ := bind_ok h
  obtain ⟨p₁, h₁, h⟩ := bind_ok h
  obtain ⟨p₂, h₂, h⟩ := bind_ok h
  obtain ⟨p₃, h₃, h⟩ := bind_ok h
  obtain ⟨reconstructed, hresolved⟩ := resolveSixUnits_ok hsix
  have hbase := ((basePayload_holds six reconciliation terminal).addThroughJson h₁
    (by decide)).addThroughJson h₂ (by decide)
  obtain ⟨totals, activity, hholds, hplaced⟩ := hbase.addCampaignActivity h₃
  exact ⟨six, reconstructed, totals, activity, hresolved, hholds.addBlockedSupply h, hplaced⟩

/-! ## What the report tells -/

/-- The totals of the payload, and those inside its activity, are what its evidence
reconstructs to, and the payload says that they match. -/
def EvidencedTotals (R : Value.Rendering) (payload : Dict) : Prop :=
  ∃ totals, reconstructSixUnitTotalsFromEvidence R (payload.get "six_unit_evidence") = .ok totals ∧
    payload.get "six_unit_totals" = .dict totals.toDict ∧
    payload.get "six_unit_evidence_match" = .bool true ∧
    ∀ activity : Dict, payload.get "campaign_activity" = .dict activity →
      activity.has "six_unit_totals" = true →
        (activity.get "six_unit_totals").pyEq (.dict totals.toDict) = true

/-- The payload says that its totals match exactly where its evidence reconstructs to them. -/
def MatchTold (R : Value.Rendering) (payload : Dict) : Prop :=
  ∃ totals, reconstructSixUnitTotalsFromEvidence R (payload.get "six_unit_evidence") = .ok totals ∧
    (payload.get "six_unit_evidence_match" = .bool true ↔
      payload.get "six_unit_totals" = .dict totals.toDict)

def TellsTotals (R : Value.Rendering) (args : TerminalReportArguments) (payload : Dict) : Prop :=
  if args.requireSixUnitEvidence = true then EvidencedTotals R payload else MatchTold R payload

/-- The totals that an activity brings: with the flag they equal the reconstruction; without it,
and where the caller gives no totals, they do so exactly where the default totals do. -/
def ActivityAgrees (R : Value.Rendering) (utcNow : String) (args : TerminalReportArguments) :
    Prop :=
  ∀ (activity : Dict) (totals : SixUnitTotals), args.campaignActivity = some activity →
    activity.has "six_unit_totals" = true →
    reconstructSixUnitTotalsFromEvidence R (.dict (evidenceOf utcNow args.sixUnitEvidence)) =
      .ok totals →
    if args.requireSixUnitEvidence = true then
      (activity.get "six_unit_totals").pyEq (.dict totals.toDict) = true
    else args.sixUnitTotals = .none →
      (sixUnitTotalsFromMapping R (activity.get "six_unit_totals") = .ok totals ↔
        (evidenceOf utcNow args.sixUnitEvidence).get "transport_operations" ≠ .none ∨ totals = 0)

section Told

variable {payload : Dict} {six : ResolvedSixUnits} {reconstructed totals : SixUnitTotals}
  {activity : Value}

theorem evidencedTotals_iff (hresolved : Resolved R utcNow args six reconstructed)
    (hholds : Holds payload six.evidence six.equal totals activity) :
    EvidencedTotals R payload ↔ totals = reconstructed ∧ six.totals = reconstructed ∧
      ∀ entries : Dict, activity = .dict entries → entries.has "six_unit_totals" = true →
        (entries.get "six_unit_totals").pyEq (.dict reconstructed.toDict) = true := by
  rw [EvidencedTotals, hholds.evidence, hholds.equal, hholds.totals, hholds.activity,
    hresolved.reconstructs, ← hresolved.equal_iff]
  constructor
  · rintro ⟨totals', hrec, htotals, hequal, hinside⟩
    obtain rfl := Except.ok.inj hrec
    exact ⟨toDict_eq_iff.mp (Value.dict.inj htotals), Value.bool.inj hequal, hinside⟩
  · rintro ⟨rfl, hequal, hinside⟩
    exact ⟨totals, rfl, rfl, by rw [hequal], hinside⟩

theorem matchTold_iff (hresolved : Resolved R utcNow args six reconstructed)
    (hholds : Holds payload six.evidence six.equal totals activity) :
    MatchTold R payload ↔ (six.totals = reconstructed ↔ totals = reconstructed) := by
  rw [MatchTold, hholds.evidence, hholds.equal, hholds.totals, hresolved.reconstructs,
    ← hresolved.equal_iff]
  simp [toDict_eq_iff]

/-- With the flag. -/
theorem evidencedTotals_iff_agrees (hresolved : Resolved R utcNow args six reconstructed)
    (hholds : Holds payload six.evidence six.equal totals activity)
    (hplaced : TotalsPlaced R args six.totals totals activity)
    (hflag : args.requireSixUnitEvidence = true) :
    EvidencedTotals R payload ↔ ActivityAgrees R utcNow args := by
  have hsix := hresolved.required hflag
  have hrec := hresolved.reconstructs
  rw [hresolved.evidence] at hrec
  rw [evidencedTotals_iff hresolved hholds, ActivityAgrees]
  simp only [hrec, hflag, if_true, Except.ok.injEq]
  rw [hsix] at hplaced
  cases hplaced with
  | absent hnone =>
    refine iff_of_true ⟨rfl, hsix, by simp⟩ ?_
    intro entries _ hsome
    rw [hnone] at hsome
    cases hsome
  | counted hnone hget =>
    refine iff_of_true ⟨rfl, hsix, ?_⟩ ?_
    · intro entries hentries _
      obtain rfl := Value.dict.inj hentries
      rw [hget]
      exact toDict_pyEq reconstructed
    · intro entries _ hsome
      rw [hnone] at hsome
      cases hsome
  | @filled given hsome hhas =>
    refine iff_of_true ⟨rfl, hsix, ?_⟩ ?_
    · intro entries hentries _
      obtain rfl := Value.dict.inj hentries
      rw [Dict.get_set, if_pos rfl]
      exact toDict_pyEq reconstructed
    · intro entries _ hentries hhas'
      obtain rfl := Option.some.inj (hsome.symm.trans hentries)
      rw [hhas] at hhas'
      cases hhas'
  | @overwritten given own hsome hhas hnone hown =>
    constructor
    · rintro ⟨-, -, hinside⟩ entries totals' hentries _ rfl
      obtain rfl := Option.some.inj (hsome.symm.trans hentries)
      exact hinside given rfl hhas
    · intro hagrees
      have heq := hagrees given reconstructed hsome hhas rfl
      refine ⟨?_, hsix, ?_⟩
      · exact Except.ok.inj (hown.symm.trans (sixUnitTotalsFromMapping_of_pyEq heq))
      · intro entries hentries _
        obtain rfl := Value.dict.inj hentries
        exact heq
  | @beside given hsome hhas hgiven =>
    constructor
    · rintro ⟨-, -, hinside⟩ entries totals' hentries _ rfl
      obtain rfl := Option.some.inj (hsome.symm.trans hentries)
      exact hinside given rfl hhas
    · intro hagrees
      refine ⟨rfl, hsix, ?_⟩
      intro entries hentries _
      obtain rfl := Value.dict.inj hentries
      exact hagrees given reconstructed hsome hhas rfl

/-- Without it. -/
theorem matchTold_iff_agrees (hresolved : Resolved R utcNow args six reconstructed)
    (hholds : Holds payload six.evidence six.equal totals activity)
    (hplaced : TotalsPlaced R args six.totals totals activity)
    (hflag : args.requireSixUnitEvidence = false) :
    MatchTold R payload ↔ ActivityAgrees R utcNow args := by
  have hrec := hresolved.reconstructs
  rw [hresolved.evidence] at hrec
  rw [matchTold_iff hresolved hholds, ActivityAgrees]
  simp only [hrec, hflag, Bool.false_eq_true, if_false, Except.ok.injEq]
  cases hplaced with
  | absent hnone | counted hnone hget =>
    refine iff_of_true Iff.rfl ?_
    intro entries _ hsome
    rw [hnone] at hsome
    cases hsome
  | @filled given hsome hhas =>
    refine iff_of_true Iff.rfl ?_
    intro entries _ hentries hhas'
    obtain rfl := Option.some.inj (hsome.symm.trans hentries)
    rw [hhas] at hhas'
    cases hhas'
  | @overwritten given own hsome hhas hnone hown =>
    -- the totals that were compared are the default ones
    have hdefault : six.totals = reconstructed ↔
        (evidenceOf utcNow args.sixUnitEvidence).get "transport_operations" ≠ .none ∨
          reconstructed = 0 := by
      rw [hresolved.default hflag hnone, hresolved.evidence]
      split_ifs with htransports
      · exact iff_of_true rfl (.inl htransports)
      · rw [or_iff_right htransports, eq_comm]
    rw [hdefault]
    constructor
    · rintro hiff entries totals' hentries _ rfl _
      obtain rfl := Option.some.inj (hsome.symm.trans hentries)
      rw [hown, Except.ok.injEq]
      exact hiff.symm
    · intro hagrees
      have hiff := hagrees given reconstructed hsome hhas rfl hnone
      rw [hown, Except.ok.injEq] at hiff
      exact hiff.symm
  | @beside given hsome hhas hgiven =>
    exact iff_of_true Iff.rfl fun _ _ _ _ _ hnone => absurd hnone hgiven

end Told

/-- A built report tells the truth about its six totals exactly where the activity's own totals
agree with its evidence. -/
theorem buildCampaignTerminalReport_tells_iff {payload : Dict}
    (h : buildCampaignTerminalReport R utcNow args = .ok payload) :
    TellsTotals R args payload ↔ ActivityAgrees R utcNow args := by
  obtain ⟨six, reconstructed, totals, activity, hresolved, hholds, hplaced⟩ :=
    buildCampaignTerminalReport_ok h
  unfold TellsTotals
  by_cases hflag : args.requireSixUnitEvidence = true
  · rw [if_pos hflag]
    exact evidencedTotals_iff_agrees hresolved hholds hplaced hflag
  · rw [if_neg hflag]
    exact matchTold_iff_agrees hresolved hholds hplaced (by simpa using hflag)

/-- A report of a campaign that started no lifecycle. -/
def plainReport (evidence activity : Dict) : TerminalReportArguments where
  identity := ⟨"c", "g", "r", "y", "p", none, "e"⟩
  terminalStatus := "COMPLETED"
  terminalCause := "DONE"
  runStatus := none
  lifecycleStarted := false
  reconciliation := []
  campaignActivity := some activity
  campaignSourceCalls := some 0
  campaignSchedulerCalls := some 0
  sixUnitEvidence := .dict evidence
  requireSixUnitEvidence := true

def plainRendering : Value.Rendering := ⟨fun _ => "", fun _ => ""⟩

/-- Evidence of one operation, and of all six units. -/
def busyEvidence : Dict :=
  [("evidence_kind", .str evidenceKind),
    ("transport_operations", .list
      [.dict [("stage", .str "discovery"), ("source_name", .str "solana_rpc"),
        ("within_request_ordinal", .int 1), ("response_bytes", .int 512),
        ("normalized_rows", .int 4)]]),
    ("local_validations", .int 2), ("scheduler_work_items", .int 3),
    ("lifecycle_reservations", .int 1)]

def busyTotals : SixUnitTotals := ⟨1, 2, 3, 512, 4, 1⟩

def busyReport : TerminalReportArguments :=
  plainReport busyEvidence [("six_unit_totals", .dict busyTotals.toDict)]

theorem activityAgrees_busy : ActivityAgrees plainRendering "t" busyReport := by
  intro activity totals hactivity _ htotals
  obtain rfl := Option.some.inj hactivity
  have hbusy : reconstructSixUnitTotalsFromEvidence plainRendering
      (.dict (evidenceOf "t" busyReport.sixUnitEvidence)) = .ok busyTotals := by
    decide
  obtain rfl := Except.ok.inj (htotals.symm.trans hbusy)
  rw [if_pos (by decide)]
  decide

theorem buildCampaignTerminalReport_tells_iff_busy :
    ∃ payload, buildCampaignTerminalReport plainRendering "t" busyReport = .ok payload ∧
      TellsTotals plainRendering busyReport payload := by
  have hbuilt : (buildCampaignTerminalReport plainRendering "t" busyReport).toOption.isSome =
      true := by
    decide
  cases h : buildCampaignTerminalReport plainRendering "t" busyReport with
  | error e =>
    rw [h] at hbuilt
    cases hbuilt
  | ok payload =>
    exact ⟨payload, rfl, (buildCampaignTerminalReport_tells_iff h).mpr activityAgrees_busy⟩

/-- An activity that claims five operations. -/
def claimedActivity : Dict :=
  [("six_unit_totals", .dict [("SOURCE_TRANSPORT_OPERATION", .int 5)])]

def claimedPayload : Dict :=
  (buildCampaignTerminalReport plainRendering "t" (plainReport [] claimedActivity)).toOption.getD []

/-- The payload shows the five operations of the activity beside evidence of none. -/
theorem not_tellsTotals_claimedActivity :
    ¬∀ (R : Value.Rendering) (utcNow : String) (args : TerminalReportArguments) (payload : Dict),
      buildCampaignTerminalReport R utcNow args = .ok payload → TellsTotals R args payload := by
  intro htells
  have hbuilt : buildCampaignTerminalReport plainRendering "t" (plainReport [] claimedActivity) =
      .ok claimedPayload := by
    decide
  have hshown : claimedPayload.get "six_unit_totals" =
      .dict (⟨5, 0, 0, 0, 0, 0⟩ : SixUnitTotals).toDict := by
    decide
  have hevidence : reconstructSixUnitTotalsFromEvidence plainRendering
      (claimedPayload.get "six_unit_evidence") = .ok 0 := by
    decide
  obtain ⟨totals, hrec, htotals, -, -⟩ := htells _ _ _ _ hbuilt
  rw [hevidence, Except.ok.injEq] at hrec
  subst hrec
  rw [hshown, Value.dict.injEq, toDict_eq_iff] at htotals
  exact absurd htotals (by decide)

end PrinterV1.OperatorCli
