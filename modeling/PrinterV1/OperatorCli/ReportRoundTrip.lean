import PrinterV1.OperatorCli.ReportImage
import PrinterV1.OperatorCli.ReportStore

/-!
# The round trip of a terminal report

A report that was written stays in the store, whatever is written after it. Its replay
succeeds, with the report, its hash and its file, exactly where the members of its text
are in the order of their keys and its evidence is read again.
-/

namespace PrinterV1.OperatorCli.CampaignReport

open Python Faults
open Sources (SixUnitTotals)

variable {host : ReportHost}

/-! ## What a write leaves -/

/-- The row and the file of the report are there. -/
structure Stored (host : ReportHost) (store : ReportStore) (call : WriteCall) (document : Value) :
    Prop where
  named : idError (rowOf host call document) = none
  row : ∃ old, store.reports.find? call.reportId = some old ∧
    samePayload old (rowOf host call document) = true
  artifact : store.artifacts.find? (artifactName call.reportId) = some (artifactOf call document)

/-- Rows and files that are there stay. -/
structure Grown (store store' : ReportStore) : Prop where
  reports : store.reports.rows <+: store'.reports.rows
  artifacts : store.artifacts.rows <+: store'.artifacts.rows

theorem Grown.refl (store : ReportStore) : Grown store store :=
  ⟨List.prefix_rfl, List.prefix_rfl⟩

theorem find?_of_prefix {ρ κ : Type} {key : ρ → κ} [DecidableEq κ] {t t' : Table key}
    {k : κ} {r : ρ}
    (h : t.rows <+: t'.rows) (hfind : t.find? k = some r) : t'.find? k = some r := by
  rw [Table.find?_eq_some_iff] at hfind ⊢
  exact ⟨h.subset hfind.1, hfind.2⟩

theorem Stored.grown {store store' : ReportStore} {call : WriteCall} {document : Value}
    (h : Stored host store call document) (hgrown : Grown store store') :
    Stored host store' call document := by
  obtain ⟨old, hfind, hsame⟩ := h.row
  exact ⟨h.named, ⟨old, find?_of_prefix hgrown.reports hfind, hsame⟩,
    find?_of_prefix hgrown.artifacts h.artifact⟩

theorem writeArtifact_grown (host : ReportHost) (store : ReportStore) (call : WriteCall)
    (document : Value) :
    Grown store (writeArtifact host store call document).1 := by
  have hfiles : store.artifacts.rows <+: (WriteOnce.writeRow store.artifacts artifactWriter
      (artifactOf call document) none).2.rows := WriteOnce.writeRow_prefix
  unfold writeArtifact
  dsimp only
  split <;> exact ⟨List.prefix_rfl, hfiles⟩

theorem grown_reports {store : ReportStore} {reports : Table CampaignReportRow.reportId}
    (h : store.reports.rows <+: reports.rows) : Grown store { store with reports := reports } :=
  ⟨h, List.prefix_rfl⟩

theorem Grown.trans {a b c : ReportStore} (hab : Grown a b) (hbc : Grown b c) : Grown a c :=
  ⟨hab.reports.trans hbc.reports, hab.artifacts.trans hbc.artifacts⟩

theorem afterWrite_grown (store : ReportStore) (call : WriteCall) :
    Grown store (afterWrite host store call) := by
  unfold afterWrite writeCampaignTerminalReport
  split
  · exact Grown.refl store
  · rename_i document _
    have hrows : Grown store { store with
        reports := (WriteOnce.writeRow store.reports reportWriter (rowOf host call document)
          (refusal store call)).2 } := grown_reports WriteOnce.writeRow_prefix
    dsimp only
    split
    · exact hrows
    · split
      · exact hrows
      · exact hrows.trans (writeArtifact_grown host _ call document)

/-- A report that was stored stays, whatever is written after it. -/
theorem Stored.run {store : ReportStore} {call : WriteCall} {document : Value}
    (h : Stored host store call document) (later : List WriteCall) :
    Stored host (Runs.run (afterWrite host) store later) call document := by
  induction later generalizing store with
  | nil => exact h
  | cons next later ih => exact ih (h.grown (afterWrite_grown store next))

/-! ## A write that was accepted -/

theorem samePayload_iff {record row : CampaignReportRow} :
    samePayload record row = true ↔ { record with createdAt := row.createdAt } = row :=
  decide_eq_true_iff

theorem writeArtifact_ok {store store' : ReportStore} {call : WriteCall} {document : Value}
    {written : WrittenReport}
    (h : writeArtifact host store call document = (store', .ok written)) :
    store'.reports = store.reports ∧
      store'.artifacts.find? (artifactName call.reportId) = some (artifactOf call document) ∧
      ∃ created, writtenReport host store' call document created = .ok written := by
  unfold writeArtifact at h
  dsimp only at h
  split at h
  · cases (Prod.mk.inj h).2
  · rename_i hok
    obtain ⟨rfl, hwritten⟩ := Prod.mk.inj h
    refine ⟨rfl, ?_, _, hwritten⟩
    cases hfind : store.artifacts.find? (artifactOf call document).name with
    | some existing =>
      rw [WriteOnce.writeRow_found rfl hfind] at hok ⊢
      have hagrees : artifactWriter.agrees existing (artifactOf call document) = true := by
        by_contra hno
        rw [if_neg hno] at hok
        cases hok
      have htext : existing.text = (artifactOf call document).text := of_decide_eq_true hagrees
      have hname := (Table.find?_eq_some_iff.mp hfind).2
      obtain ⟨name, text⟩ := existing
      subst htext hname
      exact hfind
    | none =>
      obtain ⟨-, ⟨hinstead, -⟩ | hmem⟩ := WriteOnce.writeRow_fresh hfind hok
      · cases hinstead
      · exact Table.find?_eq_some_iff.mpr ⟨hmem, rfl⟩

theorem write_ok {store store' : ReportStore} {call : WriteCall} {written : WrittenReport}
    (h : writeCampaignTerminalReport host store call = (store', .ok written)) :
    ∃ document created, reportDocument host call = .ok document ∧
      Stored host store' call document ∧
      writtenReport host store' call document created = .ok written := by
  unfold writeCampaignTerminalReport at h
  cases hdocument : reportDocument host call with
  | error e =>
    rw [hdocument] at h
    cases (Prod.mk.inj h).2
  | ok document =>
    rw [hdocument] at h
    dsimp only at h
    split at h
    · cases (Prod.mk.inj h).2
    · rename_i hash hok
      split at h
      · cases (Prod.mk.inj h).2
      · obtain ⟨hreports, hartifact, created, hwritten⟩ := writeArtifact_ok h
        refine ⟨document, created, rfl, ?_, hwritten⟩
        cases hfind : store.reports.find? (rowOf host call document).reportId with
        | some old =>
          obtain ⟨hgate, hagrees⟩ := (WriteOnce.writeRow_repeated hfind).mp ⟨hash, hok⟩
          refine ⟨hgate, ⟨old, ?_, hagrees⟩, hartifact⟩
          simp only [hreports, WriteOnce.writeRow_found hgate hfind]
          exact hfind
        | none =>
          obtain ⟨hgate, ⟨hinstead, -⟩ | hmem⟩ := WriteOnce.writeRow_fresh hfind hok
          · cases hinstead
          · refine ⟨hgate, ⟨rowOf host call document, ?_, samePayload_iff.mpr rfl⟩, hartifact⟩
            simp only [hreports]
            exact Table.find?_eq_some_iff.mpr ⟨hmem, rfl⟩

/-! ## Writing again -/

variable {store : ReportStore} {call : WriteCall} {document : Value}

theorem idError_createdAt (row : CampaignReportRow) (now : String) :
    idError { row with createdAt := now } = idError row := rfl

theorem samePayload_createdAt {record row : CampaignReportRow} (h : samePayload record row = true)
    (now : String) : samePayload record { row with createdAt := now } = true := by
  rw [samePayload_iff] at h ⊢
  rw [← h]

/-- The same report finds its row and its file. -/
theorem Stored.again (h : Stored host store call document)
    (hdocument : reportDocument host call = .ok document) (now : String) :
    writeCampaignTerminalReport host store { call with now := now } =
      (store, writtenReport host store call document false) := by
  obtain ⟨old, hfind, hsame⟩ := h.row
  have hnow : rowOf host { call with now := now } document =
      { rowOf host call document with createdAt := now } := rfl
  have hgate : reportWriter.gate (rowOf host { call with now := now } document) = none := by
    rw [hnow]
    exact (idError_createdAt _ now).trans h.named
  have hagrees : reportWriter.agrees old (rowOf host { call with now := now } document) = true := by
    rw [hnow]
    exact samePayload_createdAt hsame now
  have hrow : WriteOnce.writeRow store.reports reportWriter
      (rowOf host { call with now := now } document) (refusal store { call with now := now }) =
        (.ok (some (host.hexdigest document)), store.reports) := by
    rw [WriteOnce.writeRow_found hgate hfind, if_pos hagrees]
    rfl
  have hsame : artifactWriter.agrees (artifactOf call document)
      (artifactOf { call with now := now } document) = true := decide_eq_true rfl
  have hfile : WriteOnce.writeRow store.artifacts artifactWriter
      (artifactOf { call with now := now } document) none = (.ok (), store.artifacts) := by
    rw [WriteOnce.writeRow_found rfl h.artifact, if_pos hsame]
  have hdocument' : reportDocument host { call with now := now } = .ok document := hdocument
  unfold writeCampaignTerminalReport
  rw [hdocument']
  simp only [hrow, ne_eq, not_true_eq_false, if_false, writeArtifact, hfile, h.artifact]
  rfl

/-- A report with another text under the same id is refused, and nothing changes. -/
theorem Stored.differs (h : Stored host store call document) {call' : WriteCall}
    (hid : call'.reportId = call.reportId) (hdiffers : reportDocument host call' ≠ .ok document) :
    ∃ fault, writeCampaignTerminalReport host store call' = (store, .error fault) := by
  obtain ⟨old, hfind, hsame⟩ := h.row
  unfold writeCampaignTerminalReport
  cases hdocument : reportDocument host call' with
  | error e => exact ⟨e, rfl⟩
  | ok document' =>
    have hrefused : ∃ text, WriteOnce.writeRow store.reports reportWriter
        (rowOf host call' document') (refusal store call') = (.error text, store.reports) := by
      cases hgate : idError (rowOf host call' document') with
      | some e => exact ⟨e, by rw [WriteOnce.writeRow,
          show reportWriter.gate _ = some e from hgate]⟩
      | none =>
        have hgate' : reportWriter.gate (rowOf host call' document') = none := hgate
        have hfind' : store.reports.find? (rowOf host call' document').reportId = some old := by
          rw [← hfind, ← hid]
          rfl
        refine ⟨reportWriter.conflict, ?_⟩
        rw [WriteOnce.writeRow_found hgate' hfind', if_neg]
        intro hagrees
        have hnew := congrArg CampaignReportRow.reportJson (samePayload_iff.mp hagrees)
        have hold := congrArg CampaignReportRow.reportJson (samePayload_iff.mp hsame)
        have hjson := hold.symm.trans hnew
        have hsame : document = document' := ReportText.json.inj (Option.some.inj hjson)
        exact hdiffers (by rw [hdocument, hsame])
    obtain ⟨text, hrefused⟩ := hrefused
    simp only [hrefused]
    exact ⟨_, rfl⟩

/-! ## The replay of what is stored -/

theorem reportDocument_ok (h : reportDocument host call = .ok document) :
    document = .dict (call.report.document host.floats) ∧
      (PyObject.dict call.report).serialisable = true ∧
      (call.requireSixUnitEvidence = true →
        assertReportSixUnitEvidence host.rendering call.report = .ok ()) := by
  unfold reportDocument PyObject.dumps at h
  by_cases hserial : (PyObject.dict call.report).serialisable = true
  · rw [if_pos hserial] at h
    by_cases hrequire : call.requireSixUnitEvidence = true
    · rw [if_pos hrequire] at h
      obtain ⟨u, hassert, h⟩ := bind_ok h
      exact ⟨(Except.ok.inj h).symm, hserial, fun _ => hassert⟩
    · rw [if_neg hrequire] at h
      exact ⟨(Except.ok.inj h).symm, hserial, fun hyes => absurd hyes hrequire⟩
  · rw [if_neg hserial] at h
    by_cases hrequire : call.requireSixUnitEvidence = true
    · rw [if_pos hrequire] at h
      obtain ⟨u, -, h⟩ := bind_ok h
      cases h
    · rw [if_neg hrequire] at h
      cases h

/-- The row of a stored report. -/
theorem Stored.terminalRow (h : Stored host store call document) :
    ∃ row, terminalRow store call.reportId call.campaignId call.configurationId = .ok row ∧
      row.reportJson = some (.json document) ∧
      row.reportHash = some (host.hexdigest document) := by
  obtain ⟨old, hfind, hsame⟩ := h.row
  obtain ⟨hmem, hid⟩ := Table.find?_eq_some_iff.mp hfind
  have hrow := samePayload_iff.mp hsame
  have hcampaign : old.campaignId = call.campaignId := congrArg CampaignReportRow.campaignId hrow
  have hconfiguration : old.configurationId = call.configurationId :=
    congrArg CampaignReportRow.configurationId hrow
  have hkind : old.reportKind = "TERMINAL" := congrArg CampaignReportRow.reportKind hrow
  have hstate : old.reportState = "REPORT_TERMINAL" := congrArg CampaignReportRow.reportState hrow
  refine ⟨old, ?_, congrArg CampaignReportRow.reportJson hrow,
    congrArg CampaignReportRow.reportHash hrow⟩
  have hone : store.reports.rows.filter (fun row => row.reportId = call.reportId ∧
      row.campaignId = call.campaignId ∧ row.configurationId = call.configurationId) = [old] := by
    refine Table.filter_eq_singleton hmem (by simp [hid, hcampaign, hconfiguration]) ?_
    intro x _ hx
    rw [hid]
    exact (of_decide_eq_true hx).1
  unfold CampaignReport.terminalRow
  rw [hone]
  simp [hkind, hstate]

/-- The stored text is read again exactly where it is in order. -/
theorem storedReport_ok {row : CampaignReportRow} {doc : Dict}
    (hjson : row.reportJson = some (.json (.dict doc)))
    (hhash : row.reportHash = some (host.hexdigest (.dict doc)))
    (hserial : (PyObject.ofValue (.dict doc)).serialisable = true)
    (hord : Ordered (.dict doc)) : storedReport host row = .ok (doc, .dict doc) := by
  unfold storedReport
  rw [hjson]
  simp only [loads_of_ordered _ hord, PyObject.dumps, hserial, if_true, image_ofValue _ hord,
    hhash, ne_eq, not_true_eq_false, if_false]

theorem ordered_of_storedReport {row : CampaignReportRow} {doc : Dict} {read : Dict × Value}
    (hjson : row.reportJson = some (.json (.dict doc)))
    (h : storedReport host row = .ok read) : Ordered (.dict doc) := by
  unfold storedReport at h
  rw [hjson] at h
  have hread : loads (.dict doc) = .dict (loadsEntries doc) := rfl
  have hord := ordered_loads (.dict doc)
  rw [hread] at hord
  simp only [hread, PyObject.dumps] at h
  by_cases hserial : (PyObject.ofValue (.dict (loadsEntries doc))).serialisable = true
  · simp only [hserial, if_true, image_ofValue _ hord] at h
    by_cases hsame : Value.dict (loadsEntries doc) = .dict doc
    · rw [← hsame]
      exact hord
    · rw [if_pos hsame] at h
      cases h
  · simp [hserial] at h

theorem isNone_iff {F : FloatText} {x : PyObject} : x.image F = .none ↔ isNone x = true := by
  cases x with
  | scalar s => cases s <;> simp [PyObject.image, Scalar.value, isNone]
  | _ => simp [PyObject.image, isNone]

/-- A count of the stored report is that of the report. -/
theorem storedCount_document {report : Entries} {key : String} {n : ℤ}
    (hkey : isField key = true) (hord : Ordered (.dict (report.document host.floats)))
    (h : campaignCount host report key = .ok n) :
    storedCount host (report.document host.floats) key = .ok n := by
  have hread : ∀ {x : PyObject}, (!isNone x) = true ↔ x.image host.floats ≠ .none := by
    intro x
    rw [ne_eq, isNone_iff, Bool.not_eq_true', Bool.not_eq_true]
  unfold storedCount
  unfold campaignCount at h
  rw [get_document hkey hord.1, get_document (by decide) hord.1]
  by_cases hown : (!isNone (report.get key)) = true
  · rw [if_pos hown] at h
    rw [if_pos (hread.mp hown)]
    exact toInt_image.mpr h
  · rw [if_neg hown] at h
    rw [if_neg (fun hne => hown (hread.mpr hne))]
    have hactivity : Ordered ((report.get "campaign_activity").image host.floats) :=
      Entries.ordered_get hord
    generalize report.get "campaign_activity" = activity at h hactivity ⊢
    cases activity with
    | dict activity =>
      simp only [PyObject.image_dict, get_document hkey hactivity.1] at h ⊢
      by_cases hinner : (!isNone (Entries.get activity key)) = true
      · rw [if_pos hinner] at h
        rw [if_pos (hread.mp hinner)]
        exact toInt_image.mpr h
      · rw [if_neg hinner] at h
        rw [if_neg (fun hne => hinner (hread.mpr hne))]
        exact h
    | scalar s => cases s <;> exact h
    | list xs => exact h
    | tuple xs => exact h

theorem Stored.replay {doc : Dict} {totals reconstructed : SixUnitTotals} {evidence : Dict}
    {sourceCalls schedulerCalls : ℤ} (h : Stored host store call (.dict doc))
    (hserial : (PyObject.ofValue (.dict doc)).serialisable = true) (hord : Ordered (.dict doc))
    (hsource : storedCount host doc "campaign_source_calls" = .ok sourceCalls)
    (hscheduler : storedCount host doc "campaign_scheduler_calls" = .ok schedulerCalls)
    (hsix : readSixUnits host doc = .ok (totals, evidence, reconstructed)) :
    ∃ replayed, replayCampaignTerminalReport host store call.reportId call.campaignId
        call.configurationId = .ok replayed ∧
      replayed.report = doc ∧ replayed.reportHash = host.hexdigest (.dict doc) ∧
      replayed.artifactMatches = true ∧
      (replayed.sixUnitReportReplayEqual = true ↔ totals = reconstructed) := by
  obtain ⟨row, hrow, hjson, hhash⟩ := h.terminalRow
  refine ⟨replayedReport host store call.reportId doc (.dict doc) sourceCalls schedulerCalls
    (totals, evidence, reconstructed), ?_, rfl, rfl, ?_, Sources.reconcile_equal_iff⟩
  · rw [replayCampaignTerminalReport, hrow, ok_bind, storedReport_ok hjson hhash hserial hord,
      ok_bind]
    simp only [hsource, hscheduler, hsix, Except.mapError, ok_bind]
    rfl
  · rw [replayedReport, h.artifact]
    exact decide_eq_true rfl

theorem Stored.of_replay {doc : Dict} {replayed : ReplayedReport}
    (h : Stored host store call (.dict doc))
    (hok : replayCampaignTerminalReport host store call.reportId call.campaignId
      call.configurationId = .ok replayed) : Ordered (.dict doc) := by
  obtain ⟨row, hrow, hjson, -⟩ := h.terminalRow
  rw [replayCampaignTerminalReport, hrow, ok_bind] at hok
  obtain ⟨read, hread, -⟩ := bind_ok hok
  exact ordered_of_storedReport hjson hread

theorem Stored.six_of_replay {doc : Dict} {replayed : ReplayedReport}
    (h : Stored host store call (.dict doc))
    (hserial : (PyObject.ofValue (.dict doc)).serialisable = true) (hord : Ordered (.dict doc))
    (hok : replayCampaignTerminalReport host store call.reportId call.campaignId
      call.configurationId = .ok replayed) :
    ∃ totals evidence reconstructed,
      readSixUnits host doc = .ok (totals, evidence, reconstructed) ∧
      (replayed.sixUnitReportReplayEqual = true ↔ totals = reconstructed) := by
  obtain ⟨row, hrow, hjson, hhash⟩ := h.terminalRow
  rw [replayCampaignTerminalReport, hrow, ok_bind, storedReport_ok hjson hhash hserial hord,
    ok_bind] at hok
  obtain ⟨source, -, hok⟩ := bind_ok hok
  obtain ⟨scheduler, -, hok⟩ := bind_ok hok
  obtain ⟨⟨totals, evidence, reconstructed⟩, hsix, hok⟩ := bind_ok hok
  obtain rfl := Except.ok.inj hok
  exact ⟨totals, evidence, reconstructed, hsix, Sources.reconcile_equal_iff⟩

/-! ## The evidence that is read again -/

theorem readSixUnits_ok {doc evidence : Dict} {totals reconstructed : SixUnitTotals} :
    readSixUnits host doc = .ok (totals, evidence, reconstructed) ↔
      Sources.sixUnitTotalsFromMapping host.rendering (doc.get "six_unit_totals") = .ok totals ∧
        storedEvidence host (doc.get "six_unit_evidence") = .ok evidence ∧
        Sources.reconstructEntries host.rendering evidence = .ok reconstructed := by
  constructor
  · intro h
    obtain ⟨totals', htotals, h⟩ := bind_ok h
    obtain ⟨evidence', hevidence, h⟩ := bind_ok h
    obtain ⟨reconstructed', hreconstructed, h⟩ := bind_ok h
    obtain ⟨rfl, hrest⟩ := Prod.mk.inj (Except.ok.inj h)
    obtain ⟨rfl, rfl⟩ := Prod.mk.inj hrest
    exact ⟨mapError_ok htotals, mapError_ok hevidence, mapError_ok hreconstructed⟩
  · rintro ⟨htotals, hevidence, hreconstructed⟩
    have hread : Sources.reconstructSixUnitTotalsFromEvidence host.rendering (.dict evidence) =
        .ok reconstructed := hreconstructed
    simp only [readSixUnits, htotals, hevidence, hread, Except.mapError, ok_bind]
    rfl

theorem textItems_ofEntries {F : FloatText} {entries : Dict} (h : OrderedEntries entries) :
    textItems F (PyObject.ofEntries entries) = entries := by
  induction entries with
  | nil => rfl
  | cons e rest ih =>
    obtain ⟨key, x⟩ := e
    have hrest := ih h.2
    unfold textItems at hrest ⊢
    rw [PyObject.ofEntries, List.filterMap_cons]
    simp only [hrest, image_ofValue x h.1]

/-- Evidence that was a mapping is read as it was written. -/
theorem storedEvidence_dict {evidence : Dict} (hord : Ordered (.dict evidence))
    (hne : evidence ≠ []) : storedEvidence host (.dict evidence) = .ok evidence := by
  cases evidence with
  | nil => exact absurd rfl hne
  | cons e rest =>
    obtain ⟨key, x⟩ := e
    have htruthy : (Value.dict ((key, x) :: rest)).truthy = true := by simp [Value.truthy]
    have hitems := textItems_ofEntries (F := host.floats) hord.2
    rw [storedEvidence, if_pos htruthy]
    exact congrArg Except.ok hitems

/-- The evidence of the report counts nothing. -/
def CountsNothing (R : Value.Rendering) (report : Entries) : Prop :=
  ∃ evidence, report.get "six_unit_evidence" = .dict evidence ∧
    reconstructSixUnitTotals R evidence = .ok 0

/-- No identity in the evidence of the report is a tuple. -/
def FlatReport (report : Entries) : Prop :=
  ∀ evidence, report.get "six_unit_evidence" = .dict evidence → FlatEvidence evidence

/-- Behind the guard, the totals of the stored report are those of its evidence where no identity
is a tuple, and the totals are a mapping or nothing. -/
theorem readSixUnits_guarded {report : Entries}
    (hassert : assertReportSixUnitEvidence host.rendering report = .ok ())
    (hord : Ordered (.dict (report.document host.floats))) :
    (∃ totals evidence, readSixUnits host (report.document host.floats) =
        .ok (totals, evidence, totals)) ↔
      FlatReport report ∧ (MappingTotals (report.get "six_unit_totals") ∨
        CountsNothing host.rendering report) := by
  obtain ⟨evidence, totals, stored, hevidence, hne, hreconstruct, hstored, hread⟩ :=
    assertReportSixUnitEvidence_ok hassert
  have hordEvidence : Ordered ((report.get "six_unit_evidence").image host.floats) :=
    Entries.ordered_get hord
  have hordTotals : Ordered ((report.get "six_unit_totals").image host.floats) :=
    Entries.ordered_get hord
  rw [hevidence, PyObject.image_dict] at hordEvidence
  have hget : (report.document host.floats).get "six_unit_evidence" =
      .dict (evidence.document host.floats) := by
    rw [get_document (by decide) hord.1, hevidence, PyObject.image_dict]
  have hdocument : evidence.document host.floats ≠ [] := by
    rw [ne_eq, document_eq_nil_iff]
    exact hne
  have hsix : ∀ {t r : SixUnitTotals} {e : Dict},
      readSixUnits host (report.document host.floats) = .ok (t, e, r) ↔
        Sources.sixUnitTotalsFromMapping host.rendering
            ((report.get "six_unit_totals").image host.floats) = .ok t ∧
          evidence.document host.floats = e ∧
          Sources.reconstructEntries host.rendering e = .ok r := by
    intro t r e
    rw [readSixUnits_ok, hget, storedEvidence_dict hordEvidence hdocument,
      get_document (by decide) hord.1, Except.ok.injEq]
  have hflat : FlatReport report ↔ FlatEvidence evidence := by
    constructor
    · exact fun h => h evidence hevidence
    · intro h evidence' hevidence'
      obtain rfl := PyObject.dict.inj (hevidence.symm.trans hevidence')
      exact h
  constructor
  · rintro ⟨t, e, h⟩
    obtain ⟨ht, rfl, hr⟩ := hsix.mp h
    have hflat' := flat_of_reconstructEntries hordEvidence hreconstruct hr
    refine ⟨hflat.mpr hflat', ?_⟩
    by_cases hmapping : MappingTotals (report.get "six_unit_totals")
    · exact .inl hmapping
    · rw [reconstructEntries_document hordEvidence hreconstruct hflat'] at hr
      rw [totals_of_not_mapping hordTotals hmapping] at ht
      have hzero : totals = 0 := (Except.ok.inj hr).trans (Except.ok.inj ht).symm
      exact .inr ⟨evidence, hevidence, hzero ▸ hreconstruct⟩
  · rintro ⟨hflat', hmapping⟩
    have hr := reconstructEntries_document hordEvidence hreconstruct (hflat.mp hflat')
    refine ⟨totals, _, hsix.mpr ⟨?_, rfl, hr⟩⟩
    by_cases hmap : MappingTotals (report.get "six_unit_totals")
    · exact totals_of_mapping hordTotals hstored hread hmap
    · obtain ⟨evidence', hevidence', hnothing⟩ := hmapping.resolve_left hmap
      obtain rfl := PyObject.dict.inj (hevidence.symm.trans hevidence')
      rw [hreconstruct] at hnothing
      rw [Except.ok.inj hnothing]
      exact totals_of_not_mapping hordTotals hmap

/-! ## The round trip -/

/-- The JSON image of a report. -/
def jsonImage (host : ReportHost) (report : Entries) : Option Dict :=
  match (PyObject.dict report).dumps host.floats with
  | some document =>
    match loads document with
    | .dict stored => some stored
    | _ => none
  | none => none

/-- What a report that was written promises, whatever is written after it: its replay returns it,
it is not written twice, and no other report is written under its id. -/
structure RoundTrip (host : ReportHost) (store : ReportStore) (call : WriteCall)
    (written : WrittenReport) : Prop where
  replays : ∀ later : List WriteCall, ∃ replayed,
    replayCampaignTerminalReport host (Runs.run (afterWrite host) store later) call.reportId
        call.campaignId call.configurationId = .ok replayed ∧
      jsonImage host call.report = some replayed.report ∧
      replayed.reportHash = written.reportHash ∧ replayed.artifactMatches = true ∧
      (call.requireSixUnitEvidence = true → replayed.sixUnitReportReplayEqual = true)
  again : ∀ (later : List WriteCall) (now : String), ∃ again,
    writeCampaignTerminalReport host (Runs.run (afterWrite host) store later)
        { call with now := now } =
      (Runs.run (afterWrite host) store later, .ok again) ∧ again.artifactCreated = false
  differs : ∀ (later : List WriteCall) (call' : WriteCall), call'.reportId = call.reportId →
    jsonImage host call'.report ≠ jsonImage host call.report → ∃ fault,
      writeCampaignTerminalReport host (Runs.run (afterWrite host) store later) call' =
        (Runs.run (afterWrite host) store later, .error fault)

/-- The totals and the evidence of a stored report can be read. -/
def ReadableSixUnits (host : ReportHost) (stored : Dict) : Prop :=
  (∃ totals, Sources.sixUnitTotalsFromMapping host.rendering (stored.get "six_unit_totals") =
      .ok totals) ∧
    ∃ evidence, storedEvidence host (stored.get "six_unit_evidence") = .ok evidence ∧
      ∃ reconstructed, Sources.reconstructEntries host.rendering evidence = .ok reconstructed

/-- The reports that are replayed. -/
structure Replayable (host : ReportHost) (call : WriteCall) : Prop where
  ordered : Ordered (.dict (call.report.document host.floats))
  guarded : call.requireSixUnitEvidence = true → FlatReport call.report ∧
    (MappingTotals (call.report.get "six_unit_totals") ∨
      CountsNothing host.rendering call.report)
  unguarded : call.requireSixUnitEvidence = false →
    ReadableSixUnits host (call.report.document host.floats)

/-- With texts for keys, it is the evidence alone that decides. -/
theorem replayable_iff_of_textKeys (h : TextKeys (.dict call.report)) :
    Replayable host call ↔
      (call.requireSixUnitEvidence = true → FlatReport call.report ∧
        (MappingTotals (call.report.get "six_unit_totals") ∨
          CountsNothing host.rendering call.report)) ∧
      (call.requireSixUnitEvidence = false →
        ReadableSixUnits host (call.report.document host.floats)) :=
  ⟨fun hreplayable => ⟨hreplayable.guarded, hreplayable.unguarded⟩,
    fun hevidence => ⟨ordered_image _ h, hevidence.1, hevidence.2⟩⟩

/-- The totals, the evidence and the reconstruction that the replay reads. -/
theorem Replayable.six (h : Replayable host call)
    (hassert : call.requireSixUnitEvidence = true →
      assertReportSixUnitEvidence host.rendering call.report = .ok ()) :
    ∃ totals evidence reconstructed, readSixUnits host (call.report.document host.floats) =
        .ok (totals, evidence, reconstructed) ∧
      (call.requireSixUnitEvidence = true → totals = reconstructed) := by
  cases hrequire : call.requireSixUnitEvidence with
  | true =>
    obtain ⟨totals, evidence, hsix⟩ :=
      (readSixUnits_guarded (hassert hrequire) h.ordered).mpr (h.guarded hrequire)
    exact ⟨totals, evidence, totals, hsix, fun _ => rfl⟩
  | false =>
    obtain ⟨⟨totals, htotals⟩, evidence, hevidence, reconstructed, hreconstructed⟩ :=
      h.unguarded hrequire
    exact ⟨totals, evidence, reconstructed,
      readSixUnits_ok.mpr ⟨htotals, hevidence, hreconstructed⟩,
      fun hno => by cases hno⟩

theorem jsonImage_of_ordered {report : Entries}
    (hserial : (PyObject.dict report).serialisable = true)
    (hord : Ordered (.dict (report.document host.floats))) :
    jsonImage host report = some (report.document host.floats) := by
  unfold jsonImage
  rw [PyObject.dumps, if_pos hserial, PyObject.image_dict]
  simp only [loads_of_ordered _ hord]

/-- A report with another image has another text. -/
theorem reportDocument_ne {call' : WriteCall} (hdocument : reportDocument host call = .ok document)
    (h : jsonImage host call'.report ≠ jsonImage host call.report) :
    reportDocument host call' ≠ .ok document := by
  intro hsame
  obtain ⟨hdoc, hserial, -⟩ := reportDocument_ok hdocument
  obtain ⟨hdoc', hserial', -⟩ := reportDocument_ok hsame
  refine h ?_
  unfold jsonImage
  rw [PyObject.dumps, PyObject.dumps, if_pos hserial, if_pos hserial', PyObject.image_dict,
    PyObject.image_dict, ← hdoc, ← hdoc']

/-- A report that was written makes the round trip exactly where it is replayable. -/
theorem writeCampaignTerminalReport_roundTrip_iff {store' : ReportStore} {written : WrittenReport}
    (h : writeCampaignTerminalReport host store call = (store', .ok written)) :
    RoundTrip host store' call written ↔ Replayable host call := by
  obtain ⟨document, created, hdocument, hstored, hwritten⟩ := write_ok h
  obtain ⟨rfl, hserial, hassert⟩ := reportDocument_ok hdocument
  have hserial' : (PyObject.ofValue (.dict (call.report.document host.floats))).serialisable =
      true :=
    serialisable_image (.dict call.report) hserial
  obtain ⟨source, hsource, hcounts⟩ := bind_ok hwritten
  obtain ⟨scheduler, hscheduler, hcounts⟩ := bind_ok hcounts
  have hhash : written.reportHash =
      host.hexdigest (.dict (call.report.document host.floats)) := by
    rw [← Except.ok.inj hcounts]
  constructor
  · intro hround
    obtain ⟨replayed, hreplay, -, -, -, hequal⟩ := hround.replays []
    have hord := hstored.of_replay hreplay
    obtain ⟨totals, evidence, reconstructed, hsix, hiff⟩ :=
      hstored.six_of_replay hserial' hord hreplay
    refine ⟨hord, fun hrequire => ?_, fun _ => ?_⟩
    · obtain rfl := hiff.mp (hequal hrequire)
      exact (readSixUnits_guarded (hassert hrequire) hord).mp ⟨totals, evidence, hsix⟩
    · obtain ⟨htotals, hevidence, hreconstructed⟩ := readSixUnits_ok.mp hsix
      exact ⟨⟨totals, htotals⟩, evidence, hevidence, reconstructed, hreconstructed⟩
  · intro hreplayable
    have hord := hreplayable.ordered
    obtain ⟨totals, evidence, reconstructed, hsix, hequal⟩ := hreplayable.six hassert
    refine ⟨fun later => ?_, fun later now => ?_, fun later call' hid himage => ?_⟩
    · obtain ⟨replayed, hreplay, hreport, hdigest, hartifact, hiff⟩ :=
        (hstored.run later).replay hserial' hord
          (storedCount_document (by decide) hord (mapError_ok hsource))
          (storedCount_document (by decide) hord (mapError_ok hscheduler)) hsix
      refine ⟨replayed, hreplay, ?_, by rw [hdigest, hhash], hartifact,
        fun hrequire => hiff.mpr (hequal hrequire)⟩
      rw [jsonImage_of_ordered hserial hord, hreport]
    · rw [(hstored.run later).again hdocument now]
      simp only [writtenReport, hsource, hscheduler, ok_bind]
      exact ⟨_, rfl, rfl⟩
    · exact (hstored.run later).differs hid (reportDocument_ne hdocument himage)

/-! ## A store -/

theorem passed_of_isSome {σ ε α : Type} {answer : σ × Except ε α}
    (h : answer.2.toOption.isSome = true) : ∃ s a, answer = (s, .ok a) := by
  obtain ⟨s, result⟩ := answer
  cases result with
  | error e => cases h
  | ok a => exact ⟨s, a, rfl⟩

def sampleFloats : FloatText where
  text _ := "0.0"
  numeric _ := by decide

/-- A host on which the text of the sample report has the hash. -/
def sampleReportHost (hash : String) : ReportHost where
  rendering := ⟨fun _ => "", fun _ => ""⟩
  floats := sampleFloats
  hexdigest _ := hash
  utcNow := "2026-01-01T00:00:00+00:00"

def sampleStore : ReportStore where
  campaigns := ["campaign"]
  configurations := [("configuration", "campaign")]
  reports := Table.empty
  artifacts := Table.empty

def sampleWrite (report : Entries) : WriteCall where
  reportId := "report"
  campaignId := "campaign"
  configurationId := "configuration"
  report := report
  now := "2026-01-01T00:00:00+00:00"

/-- A report with mappings and a list inside, whose keys are texts. -/
def sampleDone : Entries :=
  [(.str "status", .scalar (.str "done")),
    (.str "blocked_supply", .dict
      [(.str "shortage_classification", .scalar (.str "NONE")),
        (.str "candidates", .list
          [.dict [(.str "mint", .scalar (.str "A")), (.str "slot", .scalar (.int 2))],
            .dict [(.str "mint", .scalar (.str "B")), (.str "slot", .scalar (.int 10))]])]),
    (.str "campaign_activity", .dict
      [(.str "campaign_source_calls", .scalar (.int 3)),
        (.str "campaign_scheduler_calls", .scalar (.int 1))])]

theorem textKeys_sampleDone : TextKeys (.dict sampleDone) := by
  simp [sampleDone, TextKeys, TextKeysEntries, TextKeysList, Scalar.isStr]

theorem replayable_sampleDone (hash : String) :
    Replayable (sampleReportHost hash) (sampleWrite sampleDone) := by
  refine (replayable_iff_of_textKeys textKeys_sampleDone).mpr ⟨fun h => (by cases h), fun _ => ?_⟩
  have hdocument : ((sampleWrite sampleDone).report.document sampleFloats).get "six_unit_totals" =
      .none ∧ ((sampleWrite sampleDone).report.document sampleFloats).get "six_unit_evidence" =
        .none := by decide
  refine ⟨⟨0, ?_⟩, Sources.emptySixUnitEvidence (sampleReportHost hash).utcNow, ?_, 0, rfl⟩
  · exact congrArg (Sources.sixUnitTotalsFromMapping _) hdocument.1
  · exact congrArg (storedEvidence (sampleReportHost hash)) hdocument.2

/-- The report is written with the hash of its text, and makes the round trip. -/
theorem writeCampaignTerminalReport_roundTrip_iff_done :
    ∃ host store' written,
      writeCampaignTerminalReport host sampleStore (sampleWrite sampleDone) =
          (store', .ok written) ∧
        RoundTrip host store' (sampleWrite sampleDone) written := by
  have hpassed : (writeCampaignTerminalReport
      (sampleReportHost "e80f6c349252a517e9078a6220af6a20c8ed84410610d4e38fb461c9f2b52f1f")
      sampleStore (sampleWrite sampleDone)).2.toOption.isSome = true := by decide
  obtain ⟨store', written, hwrite⟩ := passed_of_isSome hpassed
  exact ⟨_, store', written, hwrite,
    (writeCampaignTerminalReport_roundTrip_iff hwrite).mpr (replayable_sampleDone _)⟩

/-- Numbers for keys, whose texts are in another order. -/
def sampleSlots : Entries := [(.int 2, .scalar (.str "open")), (.int 10, .scalar (.str "closed"))]

theorem not_roundTrip_slots :
    ¬ ∀ host store call store' written,
      writeCampaignTerminalReport host store call = (store', .ok written) →
        RoundTrip host store' call written := by
  intro hround
  have hpassed : (writeCampaignTerminalReport
      (sampleReportHost "17c8456b1d415b8674d55c73dce9aec896f826be233512f64a3f80635223dbb2")
      sampleStore (sampleWrite [(.str "slots", .dict sampleSlots)])).2.toOption.isSome = true := by
    decide
  obtain ⟨store', written, hwrite⟩ := passed_of_isSome hpassed
  obtain ⟨document, -, hdocument, hstored, -⟩ := write_ok hwrite
  obtain ⟨rfl, -, -⟩ := reportDocument_ok hdocument
  obtain ⟨replayed, hreplay, -⟩ := (hround _ _ _ store' written hwrite).replays []
  have hslots : Ordered ((Entries.get (sampleWrite [(.str "slots", .dict sampleSlots)]).report
      "slots").image sampleFloats) := Entries.ordered_get (hstored.of_replay hreplay)
  have hkeys : (sampleSlots.document sampleFloats).map Prod.fst = ["2", "10"] := by
    decide
  have hascending : Ascending (sampleSlots.document sampleFloats) := hslots.1
  rw [Ascending, hkeys] at hascending
  exact absurd hascending (by decide)

end PrinterV1.OperatorCli.CampaignReport
