import PrinterV1.OperatorCli.LaneQ
import PrinterV1.Python.IsoZulu

/-!
# What a valid window has proven

Every requested id stands in one of the two lists. A valid window has passed the
check of its row; whether its cadence is proven depends on its lane having a
policy, on the two readings of its ends, and on the snapshots the query matches.
-/

namespace PrinterV1.OperatorCli.LaneQ

open Python Snapshots Snapshots.Cadence Faults

/-! ## The property -/

/-- The snapshots of the window's own token and pair between its snapshot ids. -/
def ownSnapshots (db : Database) (row : WindowRow) : List SnapshotRow :=
  match db.snapshots with
  | none => []
  | some snapshots =>
    snapshots.rows.filter fun s => s.tokenId = row.tokenId ∧ s.pairId = row.pairId ∧
      between row.snapshotStartId row.snapshotEndId s.id

/-- The policy passes the window's own snapshots on a host in UTC. -/
def OwnCadencePasses (db : Database) (allowDisabled : Bool) (row : WindowRow)
    (p : SnapshotCadencePolicy) : Prop :=
  statusOf (evaluateCadencePolicy .utc ((ownSnapshots db row).map fun s => .text s.capturedAt)
    (stored row.windowStartAt) (stored row.windowEndAt) (some p) true allowDisabled) = some .pass

/-- Both steps read the stored text, and they read one instant in it, without an offset that of
UTC. -/
def Denotes (value : Option String) (t : Instant) : Prop :=
  Cadence.parseTs .utc (stored value) = some t ∧
    ∃ s d, value = some s ∧ parseTs s = some d ∧ d.instantUtc = t

/-- The ends of the window denote instants at least the minimum of its kind apart. -/
def LongEnough (row : WindowRow) : Prop :=
  ∃ start stop minimum, Denotes row.windowStartAt start ∧ Denotes row.windowEndAt stop ∧
    minElapsedByWindow.lookup row.windowKind = some minimum ∧ seconds minimum ≤ stop - start

structure Proven (db : Database) (allowDisabled : Bool) (row : WindowRow) : Prop where
  long : LongEnough row
  cadence : ∃ p, getPolicy row.windowKind (getTokenTrackingLane db row.tokenId) = some p ∧
    OwnCadencePasses db allowDisabled row p

/-- Each requested id is in one of the lists, and a valid one is that of a proven window. -/
structure PromotesProven (db : Database) (allowDisabled : Bool) (windowIds : List ℤ)
    (report : GuardReport) : Prop where
  sorted : ∀ id ∈ windowIds, Xor (id ∈ report.validWindowIds) (id ∈ report.blockedWindowIds)
  proven : ∀ id ∈ report.validWindowIds, ∃ windows row, db.windows = some windows ∧
    row ∈ windows.rows ∧ row.id = id ∧ Proven db allowDisabled row

/-! ## The check of a row -/

/-- A row whose check found nothing. -/
structure Intact (row : WindowRow) (s e : Datetime) (minimum : ℤ) : Prop where
  start : ∃ text, row.windowStartAt = some text ∧ parseTs text = some s
  stop : ∃ text, row.windowEndAt = some text ∧ parseTs text = some e
  kind : minElapsedByWindow.lookup row.windowKind = some minimum
  elapsed : seconds minimum ≤ elapsedSeconds s e

theorem readBoundary_nil {field : String} {value : Option String}
    (h : (readBoundary field value).1 = []) :
    ∃ text d, value = some text ∧ parseTs text = some d ∧
      (readBoundary field value).2 = some d := by
  cases value with
  | none => cases h
  | some text =>
    unfold readBoundary at h ⊢
    dsimp only at h ⊢
    split_ifs at h ⊢ with hempty
    cases hparse : parseTs text with
    | none =>
      rw [hparse] at h
      cases h
    | some d => exact ⟨text, d, rfl, hparse, rfl⟩

theorem checkWindowIntegrity_valid {row : WindowRow}
    (h : (checkWindowIntegrity row).laneQStatus = .valid) :
    ∃ s e minimum, Intact row s e minimum := by
  have hnone : (integrityReasons row).1 = [] := by
    by_contra hsome
    simp [checkWindowIntegrity, hsome] at h
  simp only [integrityReasons, List.append_eq_nil_iff] at hnone
  obtain ⟨⟨⟨⟨⟨⟨hkind, -⟩, -⟩, hstart⟩, hstop⟩, helapsed⟩, -⟩ := hnone
  obtain ⟨a, s, ha, hs, hs'⟩ := readBoundary_nil hstart
  obtain ⟨b, e, hb, he, he'⟩ := readBoundary_nil hstop
  rw [hs', he'] at helapsed
  cases hminimum : minElapsedByWindow.lookup row.windowKind with
  | none => simp [hminimum] at hkind
  | some minimum =>
    refine ⟨s, e, minimum, ⟨a, ha, hs⟩, ⟨b, hb, he⟩, hminimum, ?_⟩
    simp only [elapsedReasons, hminimum] at helapsed
    split_ifs at helapsed with hshort
    exact not_lt.mp hshort

/-! ## The verdict of a row -/

variable {host : Host} {db : Database} {allowDisabled : Bool}

def coverageStatus (host : Host) (db : Database) (allowDisabled : Bool) (row : WindowRow) :
    Option CadenceStatus :=
  statusOf (evaluateCoverageForWindow host db row true allowDisabled)

@[simp] theorem checkWindowIntegrity_windowId (row : WindowRow) :
    (checkWindowIntegrity row).windowId = row.id := rfl

theorem withCoverage_valid_iff {verdict : Verdict} (h : verdict.laneQStatus = .valid)
    (evaluation : CadenceEvaluation) :
    (withCoverage verdict evaluation).windowId = verdict.windowId ∧
      ((withCoverage verdict evaluation).laneQStatus = .valid ↔
        evaluation.cadencePolicyStatus = .pass ∨ evaluation.cadencePolicyStatus = .unknown) := by
  unfold withCoverage
  split_ifs with hstatus
  · refine ⟨rfl, iff_of_false (by simp) ?_⟩
    rcases hstatus with hstatus | hstatus <;> simp [hstatus]
  · refine ⟨rfl, iff_of_true h ?_⟩
    cases hcase : evaluation.cadencePolicyStatus <;> simp_all

/-- A row is judged where its check finds a fault or its cadence is evaluated. -/
theorem judgeWindow_ok {row : WindowRow} {verdict : Verdict}
    (h : judgeWindow host db true allowDisabled row = .ok verdict) :
    verdict.windowId = row.id ∧
      (verdict.laneQStatus = .valid ↔ (checkWindowIntegrity row).laneQStatus = .valid ∧
        (coverageStatus host db allowDisabled row = some .pass ∨
          coverageStatus host db allowDisabled row = some .unknown)) := by
  unfold judgeWindow at h
  dsimp only at h
  split_ifs at h with hvalid
  · obtain ⟨evaluation, heval, h⟩ := bind_ok h
    obtain rfl := Except.ok.inj h
    obtain ⟨hid, hiff⟩ := withCoverage_valid_iff hvalid evaluation
    refine ⟨hid, ?_⟩
    rw [hiff, coverageStatus, mapError_ok heval]
    simp [hvalid, statusOf, Except.toOption]
  · obtain rfl := Except.ok.inj h
    exact ⟨rfl, by simp [hvalid]⟩

theorem judgeWindow_ok_iff {row : WindowRow} :
    (∃ verdict, judgeWindow host db true allowDisabled row = .ok verdict) ↔
      ((checkWindowIntegrity row).laneQStatus = .valid →
        ∃ evaluation, evaluateCoverageForWindow host db row true allowDisabled = .ok evaluation) := by
  unfold judgeWindow
  dsimp only
  split_ifs with hvalid
  · simp only [hvalid, forall_const]
    cases evaluateCoverageForWindow host db row true allowDisabled with
    | error e => simp [Except.mapError, bind, Except.bind]
    | ok evaluation => simp [Except.mapError, bind, Except.bind, pure, Except.pure]
  · simp [hvalid]

/-! ## The two lists -/

/-- What makes the id of a stored window a valid one. -/
def Validated (host : Host) (db : Database) (allowDisabled : Bool) (row : WindowRow) : Prop :=
  (checkWindowIntegrity row).laneQStatus = .valid ∧
    (coverageStatus host db allowDisabled row = some .pass ∨
      coverageStatus host db allowDisabled row = some .unknown)

def verdictOf (host : Host) (db : Database) (allowDisabled : Bool) (row : WindowRow) : Verdict :=
  (judgeWindow host db true allowDisabled row).toOption.getD (missingVerdict row.id)

theorem verdictOf_eq {row : WindowRow} {verdict : Verdict}
    (h : judgeWindow host db true allowDisabled row = .ok verdict) :
    verdictOf host db allowDisabled row = verdict := by
  rw [verdictOf, h]
  rfl

theorem mem_idsOf {status : LaneQStatus} {verdicts : List Verdict} {id : ℤ} :
    id ∈ idsOf status verdicts ↔ ∃ v ∈ verdicts, v.laneQStatus = status ∧ v.windowId = id := by
  simp [idsOf, and_assoc]

theorem laneQStatus_blocked_iff {status : LaneQStatus} : status = .blocked ↔ ¬status = .valid := by
  cases status <;> simp

variable {windowIds : List ℤ} {path : String} {report : GuardReport}

/-- The rows that a run reads, and the ids that it puts into its lists. -/
structure Ran (host : Host) (db : Database) (allowDisabled : Bool) (windowIds : List ℤ)
    (rows : List WindowRow) (report : GuardReport) : Prop where
  fetched : fetchWindows host db windowIds = .ok rows
  judged : ∀ row ∈ rows, ∃ verdict, judgeWindow host db true allowDisabled row = .ok verdict
  valid_iff : ∀ id, id ∈ report.validWindowIds ↔
    ∃ row ∈ rows, Validated host db allowDisabled row ∧ row.id = id
  blocked_iff : ∀ id, id ∈ report.blockedWindowIds ↔
    (∃ row ∈ rows, ¬Validated host db allowDisabled row ∧ row.id = id) ∨
      (id ∈ windowIds ∧ ∀ row ∈ rows, row.id ≠ id)

theorem guardDatabase_ok (h : guardDatabase host path db windowIds true allowDisabled = .ok report) :
    ∃ rows, Ran host db allowDisabled windowIds rows report := by
  obtain ⟨rows, hrows, h⟩ := bind_ok h
  obtain ⟨verdicts, hverdicts, h⟩ := bind_ok h
  obtain rfl := Except.ok.inj h
  obtain ⟨hjudged, rfl⟩ := (mapM_ok_iff fun _ _ => verdictOf_eq).mp hverdicts
  have hids : ∀ status id, id ∈ idsOf status (rows.map (verdictOf host db allowDisabled)) ↔
      ∃ row ∈ rows, (verdictOf host db allowDisabled row).laneQStatus = status ∧ row.id = id := by
    intro status id
    rw [mem_idsOf]
    simp only [List.mem_map, exists_exists_and_eq_and]
    constructor
    · rintro ⟨row, hrow, hstatus, hid⟩
      exact ⟨row, hrow, hstatus, (judgeWindow_ok (hjudged row hrow)).1.symm.trans hid⟩
    · rintro ⟨row, hrow, hstatus, hid⟩
      exact ⟨row, hrow, hstatus, (judgeWindow_ok (hjudged row hrow)).1.trans hid⟩
  have hvalidated : ∀ row ∈ rows, ((verdictOf host db allowDisabled row).laneQStatus = .valid ↔
      Validated host db allowDisabled row) :=
    fun row hrow => (judgeWindow_ok (hjudged row hrow)).2
  refine ⟨rows, hrows, fun row hrow => ⟨_, hjudged row hrow⟩, ?_, ?_⟩
  · intro id
    rw [hids]
    constructor
    · rintro ⟨row, hrow, hstatus, hid⟩
      exact ⟨row, hrow, (hvalidated row hrow).mp hstatus, hid⟩
    · rintro ⟨row, hrow, hvalid, hid⟩
      exact ⟨row, hrow, (hvalidated row hrow).mpr hvalid, hid⟩
  · intro id
    rw [List.mem_append, hids]
    apply or_congr
    · constructor
      · rintro ⟨row, hrow, hstatus, hid⟩
        exact ⟨row, hrow, fun hvalid =>
          laneQStatus_blocked_iff.mp hstatus ((hvalidated row hrow).mpr hvalid), hid⟩
      · rintro ⟨row, hrow, hnot, hid⟩
        exact ⟨row, hrow, laneQStatus_blocked_iff.mpr fun hvalid =>
          hnot ((hvalidated row hrow).mp hvalid), hid⟩
    · simp [missingVerdict]

theorem guardDatabase_returns (path : String) {rows : List WindowRow}
    (hrows : fetchWindows host db windowIds = .ok rows)
    (hjudged : ∀ row ∈ rows, ∃ verdict, judgeWindow host db true allowDisabled row = .ok verdict) :
    ∃ report, guardDatabase host path db windowIds true allowDisabled = .ok report := by
  have hverdicts : rows.mapM (judgeWindow host db true allowDisabled) =
      .ok (rows.map (verdictOf host db allowDisabled)) := by
    refine (mapM_ok_iff fun _ _ => verdictOf_eq).mpr ⟨?_, rfl⟩
    intro row hrow
    obtain ⟨verdict, hverdict⟩ := hjudged row hrow
    rw [hverdict, verdictOf_eq hverdict]
  unfold guardDatabase
  rw [hrows, ok_bind, hverdicts, ok_bind]
  exact ⟨_, rfl⟩

/-- The rows that are read are the stored ones under the requested ids. -/
theorem mem_fetchWindows {rows : List WindowRow} (h : fetchWindows host db windowIds = .ok rows)
    {row : WindowRow} : row ∈ rows ↔ ∃ windows, db.windows = some windows ∧ row ∈ windows.rows ∧
      row.id ∈ windowIds := by
  unfold fetchWindows at h
  by_cases hempty : windowIds = []
  · rw [if_pos hempty] at h
    obtain rfl := Except.ok.inj h
    simp [hempty]
  · rw [if_neg hempty] at h
    cases hwindows : db.windows with
    | none =>
      rw [hwindows] at h
      cases h
    | some windows =>
      rw [hwindows] at h
      dsimp only at h
      split_ifs at h
      obtain rfl := Except.ok.inj h
      simp

theorem Ran.eq_of_id {rows : List WindowRow}
    (h : Ran host db allowDisabled windowIds rows report) {a b : WindowRow} (ha : a ∈ rows)
    (hb : b ∈ rows) (hid : a.id = b.id) : a = b := by
  obtain ⟨windows, hwindows, hrow, -⟩ := (mem_fetchWindows h.fetched).mp ha
  obtain ⟨windows', hwindows', hrow', -⟩ := (mem_fetchWindows h.fetched).mp hb
  obtain rfl := Option.some.inj (hwindows.symm.trans hwindows')
  exact windows.eq_of_key hrow hrow' hid

/-! ## What validity proves -/

/-- The two steps read a text alike. -/
theorem denotes_of_parse {value : Option String} {s : String} {d : Datetime} {t : Instant}
    (hvalue : value = some s) (hparse : parseTs s = some d)
    (hread : Cadence.parseTs .utc (stored value) = some t) : Denotes value t := by
  refine ⟨hread, s, d, hvalue, hparse, ?_⟩
  rw [hvalue] at hread
  have hbind : (fromisoformat (replaceZulu (strip s))).bind (Datetime.instantOn .utc) = some t :=
    hread
  obtain ⟨d', hd', ht⟩ := Option.bind_eq_some_iff.mp hbind
  rw [← fromisoformat_replaceZulu hparse hd']
  exact Datetime.instantOn_utc ht

/-- Where both texts have an offset, or neither has, the elapsed time is that of the instants. -/
theorem elapsedSeconds_eq {s e : Datetime}
    (h : s.utcoffset.isSome = e.utcoffset.isSome) :
    elapsedSeconds s e = e.instantUtc - s.instantUtc :=
  if_pos h

/-! ## The window's own snapshots -/

/-- The times the evaluation of a row reads. -/
def windowTimes (db : Database) (row : WindowRow) : List TimeValue :=
  stored row.windowStartAt :: stored row.windowEndAt ::
    (fetchWindowSnapshots db row).map fun s => .text s.capturedAt

/-- The host reads a time of the row otherwise than UTC does, or the query takes a snapshot of
another pair for one of the window's. -/
def Foreign (host : Host) (db : Database) (row : WindowRow) : Prop :=
  (∃ value ∈ windowTimes db row, Cadence.parseTs host.clock value ≠ Cadence.parseTs .utc value) ∨
    ∃ s ∈ fetchWindowSnapshots db row, s.pairId ≠ row.pairId

theorem mem_fetchWindowSnapshots {row : WindowRow} {s : SnapshotRow} :
    s ∈ fetchWindowSnapshots db row ↔ ∃ snapshots, db.snapshots = some snapshots ∧
      s ∈ snapshots.rows ∧ s.tokenId = row.tokenId ∧
        coalescePair s.pairId = coalescePair row.pairId ∧
          between row.snapshotStartId row.snapshotEndId s.id = true := by
  unfold fetchWindowSnapshots
  cases db.snapshots with
  | none => simp
  | some snapshots => simp

theorem fetchWindowSnapshots_perm {row : WindowRow}
    (h : ∀ s ∈ fetchWindowSnapshots db row, s.pairId = row.pairId) :
    (ownSnapshots db row).Perm (fetchWindowSnapshots db row) := by
  simp only [mem_fetchWindowSnapshots] at h
  unfold ownSnapshots fetchWindowSnapshots
  cases hsnapshots : db.snapshots with
  | none => exact .refl _
  | some snapshots =>
    refine .trans (.of_eq ?_) (sortBy_perm _ _).symm
    apply List.filter_congr
    intro s hs
    rw [decide_eq_decide]
    constructor
    · rintro ⟨htoken, hpair, hbetween⟩
      exact ⟨htoken, congrArg coalescePair hpair, hbetween⟩
    · rintro ⟨htoken, hpair, hbetween⟩
      exact ⟨htoken, h s ⟨snapshots, hsnapshots, hs, htoken, hpair, hbetween⟩, hbetween⟩

/-- Where nothing is foreign, a pass of the evaluation is one of the window's own snapshots. -/
theorem ownCadencePasses {row : WindowRow} {p : SnapshotCadencePolicy}
    (hforeign : ¬Foreign host db row)
    (hp : getPolicy row.windowKind (getTokenTrackingLane db row.tokenId) = some p)
    (hpass : coverageStatus host db allowDisabled row = some .pass) :
    OwnCadencePasses db allowDisabled row p := by
  simp only [Foreign, not_or, not_exists, not_and, not_not] at hforeign
  obtain ⟨htimes, hpairs⟩ := hforeign
  unfold OwnCadencePasses
  rw [evaluate_perm ((fetchWindowSnapshots_perm hpairs).map _), ← evaluate_congr
    (fun value hvalue => htimes value (by simp [windowTimes, hvalue]))
    (htimes _ (by simp [windowTimes])) (htimes _ (by simp [windowTimes]))]
  rw [coverageStatus, evaluateCoverageForWindow, hp] at hpass
  exact hpass

/-- On a host in UTC without the pair id that stands for `NULL`, nothing is foreign. -/
theorem not_foreign_of_utc {row : WindowRow} (hclock : host.clock = .utc)
    (hrow : row.pairId ≠ some (-1))
    (hsnapshots : ∀ s ∈ fetchWindowSnapshots db row, s.pairId ≠ some (-1)) :
    ¬Foreign host db row := by
  rintro (⟨value, -, hvalue⟩ | ⟨s, hs, hpair⟩)
  · rw [hclock] at hvalue
    exact hvalue rfl
  · have hnull := hsnapshots s hs
    obtain ⟨-, -, -, -, hsame, -⟩ := mem_fetchWindowSnapshots.mp hs
    apply hpair
    cases hs' : s.pairId with
    | none =>
      cases hr : row.pairId with
      | none => rfl
      | some id =>
        rw [hs', hr] at hsame
        exact absurd (hr.trans (congrArg some hsame.symm)) hrow
    | some id =>
      cases hr : row.pairId with
      | none =>
        rw [hs', hr] at hsame
        exact absurd (hs'.trans (congrArg some hsame)) hnull
      | some id' =>
        rw [hs', hr] at hsame
        exact congrArg some hsame

/-- A stored row that the guard judges rightly once its check found nothing. -/
structure Reliable (host : Host) (db : Database) (allowDisabled : Bool) (row : WindowRow) :
    Prop where
  evaluated : ∃ evaluation,
    evaluateCoverageForWindow host db row true allowDisabled = .ok evaluation
  policy : (getPolicy row.windowKind (getTokenTrackingLane db row.tokenId)).isSome = true
  apart : coverageStatus host db allowDisabled row = some .pass →
    ∀ s e minimum, Intact row s e minimum → s.utcoffset.isSome ≠ e.utcoffset.isSome →
      seconds minimum ≤ e.instantUtc - s.instantUtc
  own : Foreign host db row → coverageStatus host db allowDisabled row = some .pass →
    ∀ p, getPolicy row.windowKind (getTokenTrackingLane db row.tokenId) = some p →
      OwnCadencePasses db allowDisabled row p

theorem coverageStatus_ne_unknown {row : WindowRow}
    (h : (getPolicy row.windowKind (getTokenTrackingLane db row.tokenId)).isSome = true) :
    coverageStatus host db allowDisabled row ≠ some .unknown := by
  obtain ⟨p, hp⟩ := Option.isSome_iff_exists.mp h
  rw [coverageStatus, evaluateCoverageForWindow, hp]
  exact evaluateCadencePolicy_ne_unknown

theorem Reliable.proven {row : WindowRow} (h : Reliable host db allowDisabled row)
    (hvalid : Validated host db allowDisabled row) : Proven db allowDisabled row := by
  obtain ⟨hcheck, hstatus⟩ := hvalid
  have hpass : coverageStatus host db allowDisabled row = some .pass := by
    rcases hstatus with hpass | hunknown
    · exact hpass
    · exact absurd hunknown (coverageStatus_ne_unknown h.policy)
  obtain ⟨p, hp⟩ := Option.isSome_iff_exists.mp h.policy
  have hown : OwnCadencePasses db allowDisabled row p := by
    by_cases hforeign : Foreign host db row
    · exact h.own hforeign hpass p hp
    · exact ownCadencePasses hforeign hp hpass
  obtain ⟨q, start, stop, hevaluated, -⟩ := Evaluated.of_status (by decide) (by decide) hown
  obtain ⟨s, e, minimum, hintact⟩ := checkWindowIntegrity_valid hcheck
  obtain ⟨a, ha, hs⟩ := hintact.start
  obtain ⟨b, hb, he⟩ := hintact.stop
  have hstart := denotes_of_parse ha hs hevaluated.start_eq
  have hstop := denotes_of_parse hb he hevaluated.end_eq
  have hinstants : s.instantUtc = start ∧ e.instantUtc = stop := by
    obtain ⟨-, a', s', ha', hs', rfl⟩ := hstart
    obtain ⟨-, b', e', hb', he', rfl⟩ := hstop
    obtain rfl := Option.some.inj (ha.symm.trans ha')
    obtain rfl := Option.some.inj (hb.symm.trans hb')
    exact ⟨by rw [Option.some.inj (hs.symm.trans hs')], by rw [Option.some.inj (he.symm.trans he')]⟩
  refine ⟨⟨start, stop, minimum, hstart, hstop, hintact.kind, ?_⟩, p, hp, hown⟩
  rw [← hinstants.1, ← hinstants.2]
  by_cases hsame : s.utcoffset.isSome = e.utcoffset.isSome
  · rw [← elapsedSeconds_eq hsame]
    exact hintact.elapsed
  · exact h.apart hpass s e minimum hintact hsame

/-- A valid row that is proven was reliable. -/
theorem Reliable.of_proven {row : WindowRow}
    (hevaluated : ∃ evaluation,
      evaluateCoverageForWindow host db row true allowDisabled = .ok evaluation)
    (hcheck : (checkWindowIntegrity row).laneQStatus = .valid)
    (hproven : Validated host db allowDisabled row → Proven db allowDisabled row) :
    Reliable host db allowDisabled row := by
  have hpolicy : (getPolicy row.windowKind (getTokenTrackingLane db row.tokenId)).isSome = true := by
    by_contra hnone
    have hunknown : coverageStatus host db allowDisabled row = some .unknown := by
      rw [coverageStatus, evaluateCoverageForWindow, Option.not_isSome_iff_eq_none.mp hnone]
      rfl
    obtain ⟨p, hp, -⟩ := (hproven ⟨hcheck, .inr hunknown⟩).cadence
    rw [hp] at hnone
    exact hnone rfl
  refine ⟨hevaluated, hpolicy, ?_, ?_⟩
  · intro hpass s e minimum hintact _
    obtain ⟨start, stop, minimum', hstart, hstop, hkind, hlong⟩ :=
      (hproven ⟨hcheck, .inl hpass⟩).long
    obtain ⟨-, a, d, ha, hd, rfl⟩ := hstart
    obtain ⟨-, b, f, hb, hf, rfl⟩ := hstop
    obtain ⟨a', ha', hs⟩ := hintact.start
    obtain ⟨b', hb', he⟩ := hintact.stop
    obtain rfl := Option.some.inj (ha.symm.trans ha')
    obtain rfl := Option.some.inj (hb.symm.trans hb')
    obtain rfl := Option.some.inj (hs.symm.trans hd)
    obtain rfl := Option.some.inj (he.symm.trans hf)
    obtain rfl := Option.some.inj (hintact.kind.symm.trans hkind)
    exact hlong
  · intro _ hpass p hp
    obtain ⟨q, hq, hown⟩ := (hproven ⟨hcheck, .inl hpass⟩).cadence
    obtain rfl := Option.some.inj (hp.symm.trans hq)
    exact hown

/-- The query can be put, and each requested row that passes its check is reliable. -/
def Judgeable (host : Host) (db : Database) (windowIds : List ℤ) (allowDisabled : Bool) : Prop :=
  (∃ rows, fetchWindows host db windowIds = .ok rows) ∧
    ∀ windows, db.windows = some windows → ∀ row ∈ windows.rows, row.id ∈ windowIds →
      (checkWindowIntegrity row).laneQStatus = .valid → Reliable host db allowDisabled row

/-- An approved guard in production sorts the requested ids and promotes proven windows alone,
exactly where the requested rows can be judged. -/
theorem guardCandidateWindows_promotes_iff (hopen : host.open? path = some db)
    (windowIds : List ℤ) (allowDisabled : Bool) :
    (∃ report, guardCandidateWindows host (some path) windowIds true true allowDisabled =
        .ok report ∧ PromotesProven db allowDisabled windowIds report) ↔
      Judgeable host db windowIds allowDisabled := by
  have hguard : guardCandidateWindows host (some path) windowIds true true allowDisabled =
      guardDatabase host path db windowIds true allowDisabled := by
    simp [guardCandidateWindows, hopen]
  rw [hguard]
  constructor
  · rintro ⟨report, hreport, hpromotes⟩
    obtain ⟨rows, hran⟩ := guardDatabase_ok hreport
    refine ⟨⟨rows, hran.fetched⟩, ?_⟩
    intro windows hwindows row hrow hid hcheck
    have hmem : row ∈ rows := (mem_fetchWindows hran.fetched).mpr ⟨windows, hwindows, hrow, hid⟩
    refine Reliable.of_proven (judgeWindow_ok_iff.mp (hran.judged row hmem) hcheck) hcheck ?_
    intro hvalid
    obtain ⟨windows', row', hwindows', hrow', hid', hproven⟩ :=
      hpromotes.proven row.id ((hran.valid_iff row.id).mpr ⟨row, hmem, hvalid, rfl⟩)
    obtain rfl := Option.some.inj (hwindows.symm.trans hwindows')
    rwa [windows.eq_of_key hrow' hrow hid'] at hproven
  · rintro ⟨⟨rows, hrows⟩, hreliable⟩
    have hstored : ∀ row ∈ rows, (checkWindowIntegrity row).laneQStatus = .valid →
        Reliable host db allowDisabled row := by
      intro row hmem hcheck
      obtain ⟨windows, hwindows, hrow, hid⟩ := (mem_fetchWindows hrows).mp hmem
      exact hreliable windows hwindows row hrow hid hcheck
    obtain ⟨report, hreport⟩ := guardDatabase_returns path hrows fun row hmem =>
      judgeWindow_ok_iff.mpr fun hcheck => (hstored row hmem hcheck).evaluated
    obtain ⟨rows', hran⟩ := guardDatabase_ok hreport
    obtain rfl := Except.ok.inj (hrows.symm.trans hran.fetched)
    refine ⟨report, hreport, ?_, ?_⟩
    · intro id hid
      rw [hran.valid_iff, hran.blocked_iff]
      by_cases hvalid : ∃ row ∈ rows, Validated host db allowDisabled row ∧ row.id = id
      · refine .inl ⟨hvalid, ?_⟩
        obtain ⟨row, hmem, hvalidated, rfl⟩ := hvalid
        rintro (⟨row', hmem', hnot, hid'⟩ | ⟨-, hmissing⟩)
        · rw [hran.eq_of_id hmem' hmem hid'] at hnot
          exact hnot hvalidated
        · exact hmissing row hmem rfl
      · refine .inr ⟨?_, hvalid⟩
        by_cases hfound : ∃ row ∈ rows, row.id = id
        · obtain ⟨row, hmem, rfl⟩ := hfound
          exact .inl ⟨row, hmem, fun hvalidated => hvalid ⟨row, hmem, hvalidated, rfl⟩, rfl⟩
        · exact .inr ⟨hid, fun row hmem hrow => hfound ⟨row, hmem, hrow⟩⟩
    · intro id hid
      obtain ⟨row, hmem, hvalid, rfl⟩ := (hran.valid_iff id).mp hid
      obtain ⟨windows, hwindows, hrow, -⟩ := (mem_fetchWindows hrows).mp hmem
      exact ⟨windows, row, hwindows, hrow, rfl, (hstored row hmem hvalid.1).proven hvalid⟩

/-! A window of a token that is tracked on no lane of the table. -/

def quarterHour : WindowRow where
  id := 1
  tokenId := 1
  pairId := none
  windowKind := "WINDOW_15M"
  dataQualityLabel := "CLEAN_DATA"
  doNotTrain := 0
  memoryStatus := "PARTIAL_MEMORY"
  memoryQualityLabel := none
  windowStartAt := some "2024-01-01T00:00:00"
  windowEndAt := some "2024-01-01T00:15:00"
  snapshotStartId := some 1
  snapshotEndId := some 2

def unmappedLane : Database where
  windows := some ⟨[quarterHour], by decide⟩
  tokens := some ⟨[⟨1, some "TRACKING"⟩], by decide⟩
  snapshots := some Table.empty

def demoHost : Host where
  open? := fun _ => some unmappedLane
  clock := .utc
  variableLimit := 32766

theorem guardCandidateWindows_promotes_iff_unmappedLane :
    (∃ report, guardCandidateWindows demoHost (some "p") [1] true true false = .ok report ∧
        PromotesProven unmappedLane false [1] report) ↔
      Judgeable demoHost unmappedLane [1] false :=
  guardCandidateWindows_promotes_iff rfl [1] false

/-- The window is valid without a policy and without a single snapshot. -/
theorem not_promotesProven_unmappedLane :
    ¬∀ (host : Host) (path : String) (db : Database) (windowIds : List ℤ),
      host.open? path = some db →
        ∃ report, guardCandidateWindows host (some path) windowIds true true false = .ok report ∧
          PromotesProven db false windowIds report := by
  intro hall
  obtain ⟨report, hreport, hpromotes⟩ := hall demoHost "p" unmappedLane [1] rfl
  have hvalid : (guardCandidateWindows demoHost (some "p") [1] true true false).map
      GuardReport.validWindowIds = .ok [1] := by
    decide
  rw [hreport, Except.map, Except.ok.injEq] at hvalid
  obtain ⟨windows, row, hwindows, hrow, -, hproven⟩ := hpromotes.proven 1 (by simp [hvalid])
  obtain rfl := Option.some.inj hwindows
  obtain rfl := List.mem_singleton.mp hrow
  obtain ⟨p, hp, -⟩ := hproven.cadence
  have hnone : getPolicy quarterHour.windowKind
      (getTokenTrackingLane unmappedLane quarterHour.tokenId) = none := by
    decide
  rw [hnone] at hp
  cases hp

end PrinterV1.OperatorCli.LaneQ
