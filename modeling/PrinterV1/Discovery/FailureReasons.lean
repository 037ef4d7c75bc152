import PrinterV1.Discovery.Admission
import PrinterV1.Discovery.Selection

/-!
# Reasons of failures

Every stage that fails names its reason, and so does every failure of an
execution: the text behind it is never empty.
-/

namespace PrinterV1.Discovery

open Python

variable {L : Library}

theorem int_ne_empty (n : ℤ) : toString n ≠ "" := by
  rw [Int.toString_eq_repr, Int.repr_eq_if]
  split_ifs
  · exact Nat.repr_ne_empty
  · simp [String.append_eq_empty_iff]

/-- The texts of values are never empty; an empty string is the one that is not true. -/
theorem text_ne_empty {R : Value.Rendering} (hR : ∀ v, R.str v ≠ "") {v : Value}
    (h : v.truthy = true) : v.text R ≠ "" := by
  cases v with
  | none => cases h
  | bool b => cases b <;> simp [Value.text]
  | int n => exact int_ne_empty n
  | float q => exact hR _
  | inf negative => cases negative <;> simp [Value.text]
  | nan => simp [Value.text]
  | str s => exact of_decide_eq_true h
  | list xs => exact hR _
  | dict entries => exact hR _

section Verdicts

variable (hR : ∀ v, L.rendering.str v ≠ "") {facts : List Dict}
include hR

omit hR in
theorem categoricalStatus_reason (L : Library) (facts : List Dict) (key : String) :
    (categoricalStatus L facts key).2 ≠ "" := by
  unfold categoricalStatus
  dsimp only
  split_ifs <;> simp [String.append_eq_empty_iff]

theorem preciseStatus_reason {statusKey reasonKey conflict : String} (hconflict : conflict ≠ "") :
    (preciseStatus L facts statusKey reasonKey conflict).2 ≠ "" := by
  have hgeneric := categoricalStatus_reason L facts statusKey
  have hprecise : ∀ reason ∈ preciseReasons L facts statusKey reasonKey, reason ≠ "" := by
    intro reason hreason
    obtain ⟨fact, _, hfact⟩ := List.mem_filterMap.mp (List.mem_dedup.mp hreason)
    split_ifs at hfact with hfails
    obtain rfl := Option.some.inj hfact
    exact text_ne_empty hR hfails.2
  unfold preciseStatus
  dsimp only
  split_ifs
  · exact hgeneric
  · split
    · exact hgeneric
    · rename_i reason hreasons
      exact hprecise reason (by simp [hreasons])
    · exact hconflict

theorem mintCategoricalStatus_reason (mint : String) :
    (mintCategoricalStatus L facts mint).2 ≠ "" := by
  unfold mintCategoricalStatus
  split
  · rename_i reason hreason
    obtain ⟨fact, _, hfault⟩ := List.exists_of_findSome?_eq_some hreason
    unfold mintEvidenceFault at hfault
    dsimp only at hfault
    split_ifs at hfault <;> obtain rfl := Option.some.inj hfault <;> decide
  · exact preciseStatus_reason hR (by decide)

theorem poolQuoteVerdict_reason (i : Identity) : (poolQuoteVerdict L i facts).2 ≠ "" := by
  unfold poolQuoteVerdict poolCategoricalStatus
  dsimp only
  split_ifs
  all_goals first
    | decide
    | exact preciseStatus_reason hR (by decide)

theorem lineageGate_reason (lineage : LineageState) : (lineageGate L lineage facts).2 ≠ "" := by
  have hrefused : (refusedLineage L lineage facts).2 ≠ "" := by
    unfold refusedLineage
    dsimp only
    split
    · simp [String.append_eq_empty_iff]
    · rename_i reason hreasons
      have hmem : reason ∈ ([reason] : List String) := List.mem_singleton.mpr rfl
      rw [← hreasons] at hmem
      obtain ⟨fact, _, hfact⟩ := List.mem_filterMap.mp (List.mem_dedup.mp hmem)
      split_ifs at hfact with htruthy
      obtain rfl := Option.some.inj hfact
      exact text_ne_empty hR htruthy
    · decide
  unfold lineageGate
  split_ifs
  · decide
  · cases lineage with
    | pumpOriginConfirmed =>
      dsimp only [bondingCurveGate]
      split_ifs <;> decide
    | pumpGraduationConfirmed =>
      dsimp only [graduationGate]
      split_ifs <;> decide
    | nonPumpPoolConfirmed => simp [String.append_eq_empty_iff]
    | unknownOrigin => simp [String.append_eq_empty_iff]
    | conflictingLineage => exact hrefused
    | unsupportedLineage => exact hrefused

/-- Every stage names a reason. -/
theorem stageVerdict_reason (i : Identity) (stale : Bool) (stage : StageName) :
    (stageVerdict L i facts stale stage).2 ≠ "" := by
  cases stage with
  | chainMintValid => exact mintCategoricalStatus_reason hR i.mint
  | tokenProgramValid =>
    dsimp only [stageVerdict]
    split_ifs
    · decide
    · exact categoricalStatus_reason L facts _
  | identityAvailable =>
    dsimp only [stageVerdict]
    split_ifs
    · cases i.identityStatus <;> decide
    · exact categoricalStatus_reason L facts _
  | poolQuoteValid => exact poolQuoteVerdict_reason hR i
  | marketFresh =>
    dsimp only [stageVerdict]
    split_ifs
    · decide
    · exact categoricalStatus_reason L facts _
  | lineageValid => exact lineageGate_reason hR i.lineageState
  | ageValid => exact categoricalStatus_reason L facts _
  | holderAcceptable => exact categoricalStatus_reason L facts _
  | safetyAcceptable => exact categoricalStatus_reason L facts _
  | liquidityTradeabilityValid => exact categoricalStatus_reason L facts _
  | routeTradeabilityValid => exact categoricalStatus_reason L facts _

end Verdicts

/-- The stages of a way through the funnel carry the reasons of their verdicts. -/
theorem evaluateStages_reason {verdict : StageName → Verdict} (hverdict : ∀ s, (verdict s).2 ≠ "")
    (names : List StageName) : ∀ {ordinal : ℕ} {prior : Option String} {stage : Stage},
    stage ∈ evaluateStages verdict ordinal prior names → stage.reasonCode ≠ "" := by
  induction names with
  | nil =>
    intro ordinal prior stage hstage
    cases prior <;> cases hstage
  | cons name rest ih =>
    intro ordinal prior stage hstage
    cases prior with
    | some reason =>
      rcases List.mem_cons.mp hstage with rfl | hstage
      · simp
      · exact ih hstage
    | none =>
      rcases List.mem_cons.mp hstage with rfl | hstage
      · exact hverdict name
      · exact ih hstage

theorem soleReason_ne_empty {reasons : List String} (h : ∀ reason ∈ reasons, reason ≠ "")
    {several : String} (hseveral : several ≠ "") : soleReason reasons several ≠ "" := by
  unfold soleReason
  split
  · exact h _ (by simp)
  · exact hseveral

/-- A failure has a reason where the stages of its candidates have one. -/
theorem failureFamily_reason {items : List Item} {candidates : List Candidate}
    (h : ∀ c ∈ candidates, ∀ stage ∈ c.stages, stage.reasonCode ≠ "") :
    (failureFamily L items candidates).reason ≠ "" := by
  have hfailed : ∀ p : Stage → Bool, ∀ reason ∈ failedReasons candidates p, reason ≠ "" := by
    intro p reason hreason
    obtain ⟨stage, hstage, rfl⟩ := List.mem_map.mp (mem_sortedSet.mp hreason)
    obtain ⟨c, hc, hstage⟩ := List.mem_flatMap.mp (List.mem_of_mem_filter hstage)
    exact h c hc stage hstage
  unfold failureFamily
  split
  · rename_i failure hfailure
    obtain ⟨entry, hentry, rfl⟩ := Option.map_eq_some_iff.mp hfailure
    have hnamed : ∀ entry ∈ failurePrecedence, entry.1 ≠ "" := by decide
    exact hnamed entry (List.mem_of_find?_eq_some hentry)
  · split
    · rename_i failure hfailure
      obtain ⟨family, _, rfl⟩ := Option.map_eq_some_iff.mp hfailure
      split
      · rename_i reason hreasons
        have hmem : reason ∈ pumpReasons (pumpFailures L candidates) family := by simp [hreasons]
        obtain ⟨entry, hentry, rfl⟩ := List.mem_map.mp (mem_sortedSet.mp hmem)
        have hkept := (List.mem_filter.mp hentry).2
        simp only [Bool.and_eq_true, decide_eq_true_eq] at hkept
        exact hkept.2
      · simp
    · split
      · rename_i failure hfailure
        unfold mintFailure at hfailure
        dsimp only at hfailure
        split_ifs at hfailure with hnone
        · obtain rfl := Option.some.inj hfailure
          cases hreasons : failedReasons candidates fun stage => stage.stageName = .chainMintValid with
          | nil => exact absurd hreasons hnone
          | cons reason rest => exact hfailed _ reason (hreasons ▸ List.mem_cons_self)
        · obtain rfl := Option.some.inj hfailure
          exact soleReason_ne_empty (hfailed _) (by decide)
      · split_ifs
        · decide
        · unfold admissionFailure
          dsimp only
          split_ifs
          · exact soleReason_ne_empty (hfailed _) (by decide)
          · exact soleReason_ne_empty (hfailed _) (by decide)
        · decide

end PrinterV1.Discovery
