import Mathlib.Data.List.ReduceOption
import Mathlib.Tactic.Linarith
import PrinterV1.Foundation.Runs
import PrinterV1.OperatorCli.OneHourClose

/-!
# What a one hour window says

The writer compares the mints without case, takes any start snapshot, and calls
a continuation eligible for the length of its own bounds. A start it cannot
find is asked for in vain, so a second call writes a second row.
-/

namespace PrinterV1.OperatorCli.OneHourClose

open Python Snapshots Snapshots.FirstHour

/-! ## The property -/

/-- The time of a text. -/
def moment (text : String) : Option Instant := (fromisoformat text).map Datetime.instantUtc

/-- The second time is so long after the first. -/
def LaterBy (least : ℤ) (startText endText : String) : Prop :=
  ∃ s e, moment startText = some s ∧ moment endText = some e ∧ least ≤ e - s

/-- What a call that wrote a row says: of the row, the snapshot that closes it and the one that
starts it. -/
structure Truthful (db db' : Db) (call : Call) (audit : Created) : Prop where
  mint : ∃ snapshot token, loadSnapshotWithToken db call.snapshotId = some (snapshot, token) ∧
    token.tokenMint = call.approvedMint
  start : ∃ row, db'.windows.find? audit.windowId = some row ∧
    ∀ sid, row.snapshotStartId = some sid → ∃ start closing,
      db.snapshots.find? sid = some start ∧ db.snapshots.find? call.snapshotId = some closing ∧
        start.tokenId = closing.tokenId ∧ start.pairId = closing.pairId ∧
          LaterBy 0 start.capturedAt closing.capturedAt
  elapsed : audit.laneQIntegrityEligible = true → ∃ row windowStartAt closing,
    db'.windows.find? audit.windowId = some row ∧ row.windowStartAt = some windowStartAt ∧
      db.snapshots.find? call.snapshotId = some closing ∧
        LaterBy (seconds minElapsedSeconds) windowStartAt closing.capturedAt

/-! ## The calls that go wrong -/

section Defects

variable (clock : LocalClock) (lower : String → String) (db : Db) (call : Call)

/-- The mints differ in their case. -/
def CaseVariant : Prop :=
  ∃ snapshot token, loadSnapshotWithToken db call.snapshotId = some (snapshot, token) ∧
    lower token.tokenMint = lower call.approvedMint ∧ token.tokenMint ≠ call.approvedMint

/-- The start is of another token or pair, or it is not before the closing snapshot. -/
def ForeignStart : Prop :=
  ∃ sid start closing, call.snapshotStartId = some sid ∧ db.snapshots.find? sid = some start ∧
    db.snapshots.find? call.snapshotId = some closing ∧
      ¬(start.tokenId = closing.tokenId ∧ start.pairId = closing.pairId ∧
        LaterBy 0 start.capturedAt closing.capturedAt)

/-- A continuation is closed before its deadline. The close of its predecessor is read as it
stands to a time no later than the one the deadline is taken from. -/
def EarlyClose : Prop :=
  ∃ fifteenM closeAt s t closing, call.continuationOf15m = some fifteenM ∧
    fifteenM.closeAt = some closeAt ∧ moment closeAt = some s ∧
      Cadence.parseTs clock (.text closeAt) = some t ∧ s ≤ t ∧
        db.snapshots.find? call.snapshotId = some closing ∧
          ¬LaterBy (seconds minElapsedSeconds) closeAt closing.capturedAt

/-- Only one of the two snapshots has an offset, and only their clocks are far enough apart. -/
def ClocksApart : Prop :=
  ∃ sid start closing s e, call.continuationOf15m = none ∧ call.snapshotStartId = some sid ∧
    db.snapshots.find? sid = some start ∧ db.snapshots.find? call.snapshotId = some closing ∧
      fromisoformat start.capturedAt = some s ∧ fromisoformat closing.capturedAt = some e ∧
        s.utcoffset.isSome ≠ e.utcoffset.isSome ∧ seconds minElapsedSeconds ≤ e.wall - s.wall ∧
          e.instantUtc - s.instantUtc < seconds minElapsedSeconds

end Defects

/-! ## Elapsed times -/

theorem instantUtc_of_naive {d : Datetime} (h : d.utcoffset.isSome = false) :
    d.instantUtc = d.wall := by
  cases hoffset : d.utcoffset with
  | none => simp [Datetime.instantUtc, hoffset]
  | some offset => simp [hoffset] at h

theorem longEnough_iff {startTs endTs : String} :
    longEnough (computeElapsedSeconds startTs endTs) = true ↔
      ∃ s e, fromisoformat startTs = some s ∧ fromisoformat endTs = some e ∧
        seconds minElapsedSeconds ≤
          if s.utcoffset.isSome = e.utcoffset.isSome then e.instantUtc - s.instantUtc
          else e.wall - s.wall := by
  unfold longEnough computeElapsedSeconds
  cases hs : fromisoformat startTs with
  | none => simp
  | some s =>
    cases he : fromisoformat endTs with
    | none => simp
    | some e =>
      by_cases hsame : s.utcoffset.isSome = e.utcoffset.isSome <;> simp [hsame]

theorem laterBy_iff {least : ℤ} {startText endText : String} :
    LaterBy least startText endText ↔
      ∃ s e, fromisoformat startText = some s ∧ fromisoformat endText = some e ∧
        least ≤ e.instantUtc - s.instantUtc := by
  simp only [LaterBy, moment, Option.map_eq_some_iff]
  constructor
  · rintro ⟨_, _, ⟨s, hs, rfl⟩, ⟨e, he, rfl⟩, hle⟩
    exact ⟨s, e, hs, he, hle⟩
  · rintro ⟨s, e, hs, he, hle⟩
    exact ⟨_, _, ⟨s, hs, rfl⟩, ⟨e, he, rfl⟩, hle⟩

/-- A time with the length asked for behind it, but only by the clocks. -/
theorem longEnough_not_laterBy_iff {startTs endTs : String} :
    (longEnough (computeElapsedSeconds startTs endTs) = true ∧
        ¬LaterBy (seconds minElapsedSeconds) startTs endTs) ↔
      ∃ s e, fromisoformat startTs = some s ∧ fromisoformat endTs = some e ∧
        s.utcoffset.isSome ≠ e.utcoffset.isSome ∧ seconds minElapsedSeconds ≤ e.wall - s.wall ∧
          e.instantUtc - s.instantUtc < seconds minElapsedSeconds := by
  rw [longEnough_iff, laterBy_iff]
  constructor
  · rintro ⟨⟨s, e, hs, he, hlong⟩, hnot⟩
    have hshort : e.instantUtc - s.instantUtc < seconds minElapsedSeconds :=
      not_le.mp fun hle => hnot ⟨s, e, hs, he, hle⟩
    by_cases hsame : s.utcoffset.isSome = e.utcoffset.isSome
    · rw [if_pos hsame] at hlong
      exact absurd hlong (not_le.mpr hshort)
    · rw [if_neg hsame] at hlong
      exact ⟨s, e, hs, he, hsame, hlong, hshort⟩
  · rintro ⟨s, e, hs, he, hmixed, hlong, hshort⟩
    refine ⟨⟨s, e, hs, he, by rw [if_neg hmixed]; exact hlong⟩, ?_⟩
    rintro ⟨s', e', hs', he', hle⟩
    cases hs.symm.trans hs'
    cases he.symm.trans he'
    exact absurd hle (not_le.mpr hshort)

/-- Up to a time written in UTC the elapsed time is the real one. -/
theorem elapsed_to_utc (s : Datetime) (i : Instant) :
    (if s.utcoffset.isSome = (⟨i, some 0⟩ : Datetime).utcoffset.isSome then
      (⟨i, some 0⟩ : Datetime).instantUtc - s.instantUtc else i - s.wall) = i - s.instantUtc := by
  split_ifs with hsame
  · simp [Datetime.instantUtc]
  · have hnaive : s.utcoffset.isSome = false := by simpa using hsame
    rw [instantUtc_of_naive hnaive]

/-- The bounds of a continuation are long enough where the close is read as it stands, to a time
no later than the one the deadline is taken from. -/
theorem anchored_longEnough_iff {closeAt : String} {t : Instant}
    (hrange : InRange (t + seconds continuation1hSeconds)) :
    longEnough
        (computeElapsedSeconds closeAt (isoformat (t + seconds continuation1hSeconds))) = true ↔
      ∃ s, moment closeAt = some s ∧ s ≤ t := by
  have hdeadline := fromisoformat_isoformat hrange
  have hlength : ∀ s : Instant,
      seconds minElapsedSeconds ≤ t + seconds continuation1hSeconds - s ↔ s ≤ t := by
    intro s
    have hsame : seconds continuation1hSeconds = seconds minElapsedSeconds := rfl
    rw [hsame]
    constructor
    · intro h
      linarith
    · intro h
      linarith
  rw [longEnough_iff]
  simp only [moment, Option.map_eq_some_iff]
  constructor
  · rintro ⟨s, e, hs, he, hlong⟩
    cases hdeadline.symm.trans he
    rw [elapsed_to_utc, hlength] at hlong
    exact ⟨s.instantUtc, ⟨s, hs, rfl⟩, hlong⟩
  · rintro ⟨_, ⟨s, hs, rfl⟩, hle⟩
    refine ⟨s, _, hs, hdeadline, ?_⟩
    rw [elapsed_to_utc, hlength]
    exact hle

/-! ## The calls that write -/

theorem bind_eq_ok {α β : Type} {x : Except String α} {f : α → Except String β} {b : β} :
    x.bind f = .ok b ↔ ∃ a, x = .ok a ∧ f a = .ok b := by
  cases x <;> simp [Except.bind]

theorem compute1hContinuationDeadline_some {closeAt : Option String} {deadline : Instant}
    (h : compute1hContinuationDeadline clock closeAt = .ok (some deadline)) :
    ∃ text t, closeAt = some text ∧ Cadence.parseTs clock (.text text) = some t ∧
      deadline = t + seconds continuation1hSeconds ∧ InRange deadline := by
  unfold compute1hContinuationDeadline at h
  obtain ⟨close, hread, h⟩ := bind_eq_ok.mp h
  cases close with
  | none => cases h
  | some t =>
    dsimp only at h
    split_ifs at h with hrange
    cases h
    unfold readTs at hread
    dsimp only at hread
    split_ifs at hread
    cases closeAt with
    | none => cases hread
    | some text => exact ⟨text, t, rfl, Except.ok.inj hread, rfl, hrange⟩

/-- A continuation that is not blocked has a deadline and a first snapshot. -/
theorem evaluate_open {fifteenM : FifteenM} {oneH : OneH} {lane : String} {consumed : List ℤ}
    {r : ContinuityResult} (hlane : lane ∈ ["TRACK_FAST", "TRACK_NORMAL"])
    (h : evaluate15mTo1hContinuity clock fifteenM oneH lane consumed = .ok r)
    (hopen : r.status ≠ .blocked) :
    (∃ deadline, compute1hContinuationDeadline clock fifteenM.closeAt = .ok (some deadline)) ∧
      oneH.linkedFirstSnapshotId ≠ none := by
  unfold evaluate15mTo1hContinuity at h
  rw [if_neg (not_not.mpr hlane)] at h
  obtain ⟨expected, hexpected, h⟩ := bind_eq_ok.mp h
  obtain ⟨actual, _, h⟩ := bind_eq_ok.mp h
  obtain ⟨gap, _, h⟩ := bind_eq_ok.mp h
  by_cases hreasons : linkReasons fifteenM oneH lane consumed expected actual = []
  · simp only [linkReasons, List.append_eq_nil_iff] at hreasons
    obtain ⟨⟨_, hfirst⟩, hdeadline⟩ := hreasons
    constructor
    · cases expected with
      | none => cases hdeadline
      | some deadline => exact ⟨deadline, hexpected⟩
    · intro hnone
      rw [if_pos hnone] at hfirst
      cases hfirst
  · rw [if_pos hreasons] at h
    cases h
    exact absurd rfl hopen

theorem lane_and_mint_of_passed {lower : String → String} {call : Call} {snapshot : SnapshotRow}
    {token : TokenRow} (h : blockedReasons lower call snapshot token = []) :
    snapshot.trackingLane ∈ ["TRACK_FAST", "TRACK_NORMAL"] ∧
      lower token.tokenMint = lower call.approvedMint := by
  simp only [blockedReasons, List.append_eq_nil_iff] at h
  obtain ⟨⟨⟨⟨_, hlane⟩, _⟩, hmint⟩, _⟩ := h
  constructor
  · by_contra hnot
    rw [if_pos hnot] at hlane
    cases hlane
  · by_contra hnot
    rw [if_pos hnot] at hmint
    cases hmint

/-- How the bounds of a written row came about: from its snapshots, or from the window it
continues. -/
inductive BoundsOf (clock : LocalClock) (db : Db) (call : Call) (snapshot : SnapshotRow) :
    Bounds → Prop
  | snapshots (h : call.continuationOf15m = none) :
    BoundsOf clock db call snapshot (snapshotBounds db call snapshot)
  | anchored {fifteenM : FifteenM} {closeAt : String} {t : Instant}
    (h : call.continuationOf15m = some fifteenM) (hclose : fifteenM.closeAt = some closeAt)
    (hread : Cadence.parseTs clock (.text closeAt) = some t)
    (hrange : InRange (t + seconds continuation1hSeconds))
    (hfirst : (snapshotBounds db call snapshot).snapshotStartId ≠ none) :
    BoundsOf clock db call snapshot (anchoredBounds (snapshotBounds db call snapshot) (some closeAt)
      (some (t + seconds continuation1hSeconds)))

/-- A call that wrote a row: its snapshot passed, no window was found, and the row is new. -/
structure Wrote (clock : LocalClock) (lower : String → String) (db db' : Db) (call : Call)
    (audit : Created) (snapshot : SnapshotRow) (token : TokenRow) (bounds : Bounds) : Prop where
  loaded : loadSnapshotWithToken db call.snapshotId = some (snapshot, token)
  passed : blockedReasons lower call snapshot token = []
  fresh : findExisting1hWindow db snapshot.tokenId snapshot.pairId call.snapshotStartId = none
  bounded : BoundsOf clock db call snapshot bounds
  wrote : ∃ continuity, (db', audit) = insert1hMemoryWindow db call snapshot bounds continuity

theorem Wrote.of_created {clock : LocalClock} {lower : String → String} {db db' : Db} {call : Call}
    {audit : Created}
    (h : close1hMemoryWindowFromSnapshot clock lower db call = (db', .ok (.created audit))) :
    ∃ snapshot token bounds, Wrote clock lower db db' call audit snapshot token bounds := by
  unfold close1hMemoryWindowFromSnapshot at h
  cases hload : loadSnapshotWithToken db call.snapshotId with
  | none =>
    rw [hload] at h
    simp at h
  | some loaded =>
    obtain ⟨snapshot, token⟩ := loaded
    rw [hload] at h
    dsimp only at h
    split_ifs at h with hpassed
    · simp at h
    · have hpassed : blockedReasons lower call snapshot token = [] := not_not.mp hpassed
      cases hfresh : findExisting1hWindow db snapshot.tokenId snapshot.pairId
          call.snapshotStartId with
      | some existing =>
        rw [hfresh] at h
        simp at h
      | none =>
        rw [hfresh] at h
        cases hcontinuation : call.continuationOf15m with
        | none =>
          rw [hcontinuation] at h
          obtain ⟨rfl, haudit⟩ := Prod.mk.inj h
          cases haudit
          exact ⟨snapshot, token, _, hload, hpassed, hfresh, .snapshots hcontinuation, none, rfl⟩
        | some fifteenM =>
          rw [hcontinuation] at h
          dsimp only at h
          cases hcontinue : continueFrom clock call snapshot (snapshotBounds db call snapshot)
              fifteenM with
          | error e =>
            rw [hcontinue] at h
            simp at h
          | ok judged =>
            obtain ⟨continuity, anchored⟩ := judged
            rw [hcontinue] at h
            dsimp only at h
            split_ifs at h with hblocked
            · simp at h
            · obtain ⟨rfl, haudit⟩ := Prod.mk.inj h
              cases haudit
              obtain ⟨deadline, hdeadline, hcontinue⟩ := bind_eq_ok.mp hcontinue
              obtain ⟨continuity', hevaluate, hcontinue⟩ := bind_eq_ok.mp hcontinue
              cases hcontinue
              obtain ⟨⟨deadline', hsome⟩, hfirst⟩ :=
                evaluate_open (lane_and_mint_of_passed hpassed).1 hevaluate hblocked
              cases Except.ok.inj (hdeadline.symm.trans hsome)
              obtain ⟨closeAt, t, hclose, hread, rfl, hrange⟩ :=
                compute1hContinuationDeadline_some hsome
              rw [hclose]
              exact ⟨snapshot, token, _, hload, hpassed, hfresh,
                .anchored hcontinuation hclose hread hrange hfirst, some _, rfl⟩

/-! ## The row that was written -/

section Written

variable {clock : LocalClock} {lower : String → String} {db db' : Db} {call : Call}
  {audit : Created} {snapshot : SnapshotRow} {token : TokenRow} {bounds : Bounds}

theorem Wrote.closing (h : Wrote clock lower db db' call audit snapshot token bounds) :
    db.snapshots.find? call.snapshotId = some snapshot := by
  obtain ⟨s, hs, hrest⟩ := Option.bind_eq_some_iff.mp h.loaded
  obtain ⟨t, _, hpair⟩ := Option.bind_eq_some_iff.mp hrest
  cases hpair
  exact hs

/-- The row stands in the table with the bounds, and the audit repeats them. -/
theorem Wrote.stored (h : Wrote clock lower db db' call audit snapshot token bounds) :
    ∃ row, db'.windows.find? audit.windowId = some row ∧
      row.tokenId = snapshot.tokenId ∧ row.pairId = snapshot.pairId ∧
        row.windowKind = windowKind1h ∧ row.snapshotStartId = bounds.snapshotStartId ∧
          row.windowStartAt = bounds.windowStartAt ∧
            audit.laneQIntegrityEligible = bounds.laneQIntegrityEligible ∧
              audit.tokenId = snapshot.tokenId ∧ audit.pairId = snapshot.pairId ∧
                ∀ x, x ∈ db'.windows.rows ↔ x ∈ db.windows.rows ∨ x = row := by
  obtain ⟨continuity, hwrote⟩ := h.wrote
  obtain ⟨rfl, rfl⟩ := Prod.mk.inj hwrote
  have hfresh := windowRow_fresh db call snapshot bounds continuity
  refine ⟨windowRow db call snapshot bounds continuity, ?_, rfl, rfl, rfl, rfl, rfl, rfl, rfl, rfl,
    fun x => Table.mem_insert (h := hfresh)⟩
  exact Table.find?_eq_some_iff.mpr ⟨(Table.mem_insert (h := hfresh)).mpr (Or.inr rfl), rfl⟩

theorem snapshotBounds_start_iff {sid : ℤ} :
    (snapshotBounds db call snapshot).snapshotStartId = some sid ↔
      call.snapshotStartId = some sid ∧ ∃ start, db.snapshots.find? sid = some start := by
  unfold snapshotBounds loadSnapshotCapturedAt
  cases hrequested : call.snapshotStartId with
  | none => simp
  | some requested =>
    cases hstart : db.snapshots.find? requested with
    | none =>
      simp only [hstart, Option.map_none, reduceCtorEq, Option.some_inj, false_iff, not_and,
        not_exists]
      rintro rfl
      simp [hstart]
    | some start =>
      simp only [hstart, Option.map_some, Option.some_inj]
      constructor
      · rintro rfl
        exact ⟨rfl, start, hstart⟩
      · exact And.left

theorem BoundsOf.start_iff (h : BoundsOf clock db call snapshot bounds) {sid : ℤ} :
    bounds.snapshotStartId = some sid ↔
      call.snapshotStartId = some sid ∧ ∃ start, db.snapshots.find? sid = some start := by
  cases h with
  | snapshots _ => exact snapshotBounds_start_iff
  | anchored _ _ _ _ _ => exact snapshotBounds_start_iff

/-- The audit calls the row eligible though its closing snapshot is not late enough. -/
def Overstated (bounds : Bounds) (closing : SnapshotRow) : Prop :=
  bounds.laneQIntegrityEligible = true ∧
    ¬∃ windowStartAt, bounds.windowStartAt = some windowStartAt ∧
      LaterBy (seconds minElapsedSeconds) windowStartAt closing.capturedAt

theorem snapshotBounds_overstated_iff {closing : SnapshotRow} :
    Overstated (snapshotBounds db call closing) closing ↔
      ∃ sid start, call.snapshotStartId = some sid ∧ db.snapshots.find? sid = some start ∧
        longEnough (computeElapsedSeconds start.capturedAt closing.capturedAt) = true ∧
          ¬LaterBy (seconds minElapsedSeconds) start.capturedAt closing.capturedAt := by
  unfold Overstated snapshotBounds loadSnapshotCapturedAt
  cases hrequested : call.snapshotStartId with
  | none => simp
  | some requested =>
    cases hstart : db.snapshots.find? requested with
    | none => simp [hstart]
    | some start => simp [hstart]

/-- A continuation is eligible whenever its close was read, so it is overstated when it is closed
early. -/
theorem anchored_overstated_iff {closeAt : String} {t : Instant} {closing : SnapshotRow}
    (hrange : InRange (t + seconds continuation1hSeconds)) :
    Overstated (anchoredBounds bounds (some closeAt)
        (some (t + seconds continuation1hSeconds))) closing ↔
      (∃ s, moment closeAt = some s ∧ s ≤ t) ∧
        ¬LaterBy (seconds minElapsedSeconds) closeAt closing.capturedAt := by
  unfold Overstated anchoredBounds
  dsimp only
  rw [anchored_longEnough_iff hrange]
  simp

theorem BoundsOf.overstated_iff (h : BoundsOf clock db call snapshot bounds)
    (hclosing : db.snapshots.find? call.snapshotId = some snapshot) :
    Overstated bounds snapshot ↔ EarlyClose clock db call ∨ ClocksApart db call := by
  cases h with
  | snapshots hnone =>
    rw [snapshotBounds_overstated_iff]
    simp only [longEnough_not_laterBy_iff]
    constructor
    · rintro ⟨sid, start, hrequested, hstart, s, e, hs, he, hmixed, hlong, hshort⟩
      exact Or.inr ⟨sid, start, snapshot, s, e, hnone, hrequested, hstart, hclosing, hs, he, hmixed,
        hlong, hshort⟩
    · rintro (⟨fifteenM, _, _, _, _, hsome, _⟩ | ⟨sid, start, closing, s, e, _, hrequested, hstart,
        hclosing', hs, he, hmixed, hlong, hshort⟩)
      · cases hnone.symm.trans hsome
      · cases hclosing.symm.trans hclosing'
        exact ⟨sid, start, hrequested, hstart, s, e, hs, he, hmixed, hlong, hshort⟩
  | anchored hsome hclose hread hrange _ =>
    rw [anchored_overstated_iff hrange]
    constructor
    · rintro ⟨⟨s, hs, hle⟩, hearly⟩
      exact Or.inl ⟨_, _, s, _, snapshot, hsome, hclose, hs, hread, hle, hclosing, hearly⟩
    · rintro (⟨fifteenM, closeAt, s, t, closing, hsome', hclose', hs, hread', hle, hclosing',
        hearly⟩ | ⟨_, _, _, _, _, hnone, _⟩)
      · cases hsome.symm.trans hsome'
        cases hclose.symm.trans hclose'
        cases hread.symm.trans hread'
        cases hclosing.symm.trans hclosing'
        exact ⟨⟨s, hs, hle⟩, hearly⟩
      · cases hnone.symm.trans hsome

/-- A call that wrote a row is truthful exactly when it is none of the four. -/
theorem Wrote.truthful_iff (h : Wrote clock lower db db' call audit snapshot token bounds) :
    Truthful db db' call audit ↔
      ¬CaseVariant lower db call ∧ ¬ForeignStart db call ∧ ¬EarlyClose clock db call ∧
        ¬ClocksApart db call := by
  have hclosing := h.closing
  have hoverstated := h.bounded.overstated_iff hclosing
  obtain ⟨row, hrow, _, _, _, hstartId, hstartAt, heligible, _⟩ := h.stored
  rw [← not_or (p := EarlyClose clock db call), ← hoverstated]
  constructor
  · rintro ⟨hmint, hstart, helapsed⟩
    refine ⟨?_, ?_, ?_⟩
    · rintro ⟨_, _, hload, _, hne⟩
      obtain ⟨_, _, hload', heq⟩ := hmint
      cases hload.symm.trans hload'
      exact hne heq
    · rintro ⟨sid, start, closing, hrequested, hfound, hclosing', hforeign⟩
      obtain ⟨row', hrow', hnamed⟩ := hstart
      cases hrow.symm.trans hrow'
      obtain ⟨start', closing', hfound', hclosing'', hsame⟩ := hnamed sid
        (hstartId.trans (h.bounded.start_iff.mpr ⟨hrequested, start, hfound⟩))
      cases hfound.symm.trans hfound'
      cases hclosing'.symm.trans hclosing''
      exact hforeign hsame
    · rintro ⟨hclaimed, hnot⟩
      obtain ⟨row', w, closing, hrow', hw, hclosing', hlater⟩ :=
        helapsed (heligible.trans hclaimed)
      cases hrow.symm.trans hrow'
      cases hclosing.symm.trans hclosing'
      exact hnot ⟨w, hstartAt.symm.trans hw, hlater⟩
  · rintro ⟨hcase, hforeign, hhonest⟩
    refine ⟨⟨snapshot, token, h.loaded, ?_⟩, ⟨row, hrow, ?_⟩, ?_⟩
    · by_contra hne
      exact hcase ⟨snapshot, token, h.loaded, (lane_and_mint_of_passed h.passed).2, hne⟩
    · intro sid hsid
      obtain ⟨hrequested, start, hfound⟩ := h.bounded.start_iff.mp (hstartId.symm.trans hsid)
      refine ⟨start, snapshot, hfound, hclosing, ?_⟩
      by_contra hnot
      exact hforeign ⟨sid, start, snapshot, hrequested, hfound, hclosing, hnot⟩
    · intro hclaimed
      by_contra hnone
      apply hhonest
      refine ⟨heligible.symm.trans hclaimed, ?_⟩
      rintro ⟨w, hw, hlater⟩
      exact hnone ⟨row, w, snapshot, hrow, hstartAt.trans hw, hclosing, hlater⟩

end Written

/-! ## Runs -/

/-- A call, with the tokens and the snapshots it finds. -/
structure Visit where
  tokens : Table TokenRow.id
  snapshots : Table SnapshotRow.id
  call : Call

def Visit.db (v : Visit) (windows : Table WindowRow.id) : Db := ⟨v.tokens, v.snapshots, windows⟩

/-- What a row was created for: its token, its pair and the start that was asked for. -/
structure WindowKey where
  tokenId : ℤ
  pairId : Option ℤ
  snapshotStartId : Option ℤ
  deriving DecidableEq, Repr

section Visits

variable (clock : LocalClock) (lower : String → String)

/-- One call of a run: the windows after it, and the key of the row it created. -/
def visit (windows : Table WindowRow.id) (v : Visit) : Table WindowRow.id × Option WindowKey :=
  match close1hMemoryWindowFromSnapshot clock lower (v.db windows) v.call with
  | (db', .ok (.created audit)) =>
    (db'.windows, some ⟨audit.tokenId, audit.pairId, v.call.snapshotStartId⟩)
  | (db', _) => (db'.windows, none)

/-- The keys of the rows that a run created, in order. -/
def createdKeys (windows : Table WindowRow.id) (visits : List Visit) : List WindowKey :=
  (Runs.outputs (visit clock lower) windows visits).reduceOption

/-- Every call of a run that creates a row has the property. -/
def CreatesWith (P : Db → Db → Call → Created → Prop) (windows : Table WindowRow.id)
    (visits : List Visit) : Prop :=
  Runs.Along (fun windows v => (visit clock lower windows v).1)
    (fun windows v => ∀ db' audit,
      close1hMemoryWindowFromSnapshot clock lower (v.db windows) v.call =
          (db', .ok (.created audit)) →
        P (v.db windows) db' v.call audit) windows visits

/-- The rows of a run are truthful, and no two have one key. -/
structure SoundRun (windows : Table WindowRow.id) (visits : List Visit) : Prop where
  truthful : CreatesWith clock lower Truthful windows visits
  once : (createdKeys clock lower windows visits).Nodup

end Visits

/-- The start that is asked for is a stored snapshot; a continuation without one is blocked. -/
def NamesStart (v : Visit) : Prop :=
  v.call.continuationOf15m ≠ none ∨
    ∃ sid start, v.call.snapshotStartId = some sid ∧ v.snapshots.find? sid = some start

/-- A row of the key is there. -/
def Stored (windows : Table WindowRow.id) (key : WindowKey) : Prop :=
  ∃ sid, key.snapshotStartId = some sid ∧
    ∃ row ∈ windows.rows, row.isFor key.tokenId key.pairId sid = true

theorem close_keeps (clock : LocalClock) (lower : String → String) (db : Db) (call : Call)
    {row : WindowRow} (h : row ∈ db.windows.rows) :
    row ∈ (close1hMemoryWindowFromSnapshot clock lower db call).1.windows.rows := by
  have hinsert : ∀ snapshot bounds continuity,
      row ∈ (insert1hMemoryWindow db call snapshot bounds continuity).1.windows.rows :=
    fun snapshot bounds continuity =>
      (Table.mem_insert (h := windowRow_fresh db call snapshot bounds continuity)).mpr (Or.inl h)
  unfold close1hMemoryWindowFromSnapshot
  split
  · exact h
  · dsimp only
    split_ifs
    · exact h
    · split
      · exact h
      · split
        · exact hinsert _ _ _
        · split
          · exact h
          · split_ifs
            · exact h
            · exact hinsert _ _ _

theorem visit_keeps (clock : LocalClock) (lower : String → String) (windows : Table WindowRow.id)
    (v : Visit) : windows.rows ⊆ (visit clock lower windows v).1.rows := by
  intro row hrow
  have hkept := close_keeps clock lower (v.db windows) v.call hrow
  unfold visit
  split
  · rename_i hclose
    rw [hclose] at hkept
    exact hkept
  · rename_i hclose
    rw [hclose] at hkept
    exact hkept

/-- A row is created under a key of which none is stored, and then one is. -/
theorem visit_created {clock : LocalClock} {lower : String → String}
    {windows : Table WindowRow.id} {v : Visit} {key : WindowKey} (hnames : NamesStart v)
    (h : (visit clock lower windows v).2 = some key) :
    ¬Stored windows key ∧ Stored (visit clock lower windows v).1 key := by
  unfold visit at h ⊢
  split at h
  · rename_i db' audit hclose
    cases h
    obtain ⟨snapshot, token, bounds, hwrote⟩ := Wrote.of_created hclose
    obtain ⟨row, _, htoken, hpair, hkind, hstart, _, _, hauditToken, hauditPair, hrows⟩ :=
      hwrote.stored
    rw [hauditToken, hauditPair]
    constructor
    · rintro ⟨sid, hsid, old, hold, hfor⟩
      have hfresh := hwrote.fresh
      rw [show v.call.snapshotStartId = some sid from hsid] at hfresh
      simp only [findExisting1hWindow, Option.map_eq_none_iff, List.find?_eq_none] at hfresh
      exact hfresh old hold hfor
    · have hsome : ∃ sid, bounds.snapshotStartId = some sid := by
        rcases hnames with hcontinues | ⟨sid, start, hrequested, hfound⟩
        · cases hwrote.bounded with
          | snapshots hnone => exact absurd hnone hcontinues
          | anchored _ _ _ _ hfirst => exact Option.ne_none_iff_exists'.mp hfirst
        · exact ⟨sid, hwrote.bounded.start_iff.mpr ⟨hrequested, start, hfound⟩⟩
      obtain ⟨sid, hsid⟩ := hsome
      refine ⟨sid, (hwrote.bounded.start_iff.mp hsid).1, row, (hrows row).mpr (Or.inr rfl), ?_⟩
      simp [WindowRow.isFor, htoken, hpair, hkind, hstart, hsid]
  · cases h

theorem createdKeys_fresh {clock : LocalClock} {lower : String → String} {visits : List Visit} :
    ∀ {windows : Table WindowRow.id}, (∀ v ∈ visits, NamesStart v) →
      (createdKeys clock lower windows visits).Nodup ∧
        ∀ key ∈ createdKeys clock lower windows visits, ¬Stored windows key := by
  induction visits with
  | nil =>
    intro windows _
    simp [createdKeys, Runs.outputs]
  | cons v visits ih =>
    intro windows hnames
    obtain ⟨hv, hrest⟩ := List.forall_mem_cons.mp hnames
    have hafter : (createdKeys clock lower (visit clock lower windows v).1 visits).Nodup ∧
        ∀ key ∈ createdKeys clock lower (visit clock lower windows v).1 visits,
          ¬Stored (visit clock lower windows v).1 key := ih hrest
    obtain ⟨hnodup, hnew⟩ := hafter
    have hmono : ∀ key, Stored windows key → Stored (visit clock lower windows v).1 key := by
      rintro key ⟨sid, hsid, row, hrow, hfor⟩
      exact ⟨sid, hsid, row, visit_keeps clock lower windows v hrow, hfor⟩
    have hlater : ∀ key ∈ createdKeys clock lower (visit clock lower windows v).1 visits,
        ¬Stored windows key := fun key hkey hstored => hnew key hkey (hmono key hstored)
    unfold createdKeys at *
    rw [Runs.outputs]
    cases hkey : (visit clock lower windows v).2 with
    | none =>
      rw [List.reduceOption_cons_of_none]
      exact ⟨hnodup, hlater⟩
    | some key =>
      obtain ⟨hfresh, hstored⟩ := visit_created hv hkey
      rw [List.reduceOption_cons_of_some, List.nodup_cons]
      refine ⟨⟨fun hmem => hnew key hmem hstored, hnodup⟩, ?_⟩
      exact List.forall_mem_cons.mpr ⟨hfresh, hlater⟩

/-- The rows of a run are truthful exactly when none of the calls that create them goes wrong, and
where every call names a stored start no two have one key either. -/
theorem closeRuns_iff (clock : LocalClock) (lower : String → String) (windows : Table WindowRow.id)
    (visits : List Visit) :
    (CreatesWith clock lower Truthful windows visits ↔
      CreatesWith clock lower (fun db _ call _ => ¬CaseVariant lower db call ∧
        ¬ForeignStart db call ∧ ¬EarlyClose clock db call ∧ ¬ClocksApart db call)
        windows visits) ∧
      ((∀ v ∈ visits, NamesStart v) →
        (SoundRun clock lower windows visits ↔
          CreatesWith clock lower Truthful windows visits)) := by
  constructor
  · apply Runs.along_congr
    intro windows v
    apply forall_congr'
    intro db'
    apply forall_congr'
    intro audit
    apply imp_congr_right
    intro hclose
    obtain ⟨snapshot, token, bounds, hwrote⟩ := Wrote.of_created hclose
    exact hwrote.truthful_iff
  · intro hnames
    exact ⟨SoundRun.truthful, fun htruthful => ⟨htruthful, (createdKeys_fresh hnames).1⟩⟩

/-- A call for a start of the one snapshot there is. -/
def visitFor (snapshotStartId : ℤ) : Visit where
  tokens := ⟨[⟨1, "Mint", "solana"⟩], by simp⟩
  snapshots := ⟨[⟨7, 1, some 3, "2024-01-01T01:00:00+00:00", "TRACK_FAST", "MAIN", "COMPLETE",
    "CLEAN_DATA"⟩], by simp⟩
  call :=
    { snapshotId := 7
      approvedMint := "Mint"
      snapshotStartId := some snapshotStartId
      now := "2024-01-01T01:00:05+00:00" }

/-- Of two calls for one stored start the second finds the row of the first. -/
theorem closeRuns_iff_twice :
    (∀ v ∈ [visitFor 7, visitFor 7], NamesStart v) ∧
      createdKeys .utc lower Table.empty [visitFor 7, visitFor 7] = [⟨1, some 3, some 7⟩] ∧
        (SoundRun .utc lower Table.empty [visitFor 7, visitFor 7] ↔
          CreatesWith .utc lower Truthful Table.empty [visitFor 7, visitFor 7]) := by
  have hnames : ∀ v ∈ [visitFor 7, visitFor 7], NamesStart v := by
    simp [NamesStart, visitFor, Table.find?]
  exact ⟨hnames, by decide,
    (closeRuns_iff .utc lower Table.empty [visitFor 7, visitFor 7]).2 hnames⟩

/-- Two calls for a start that is not stored write two rows. -/
theorem not_soundRun_missingStart :
    ¬SoundRun .utc lower Table.empty [visitFor 99, visitFor 99] := by
  intro hsound
  exact absurd hsound.once (by decide)

end PrinterV1.OperatorCli.OneHourClose
