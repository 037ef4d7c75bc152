import PrinterV1.Discovery.AcquisitionFrames
import PrinterV1.Foundation.Runs

/-!
# Replaying an execution

A later call finds the report of an execution by its id and returns it when the
hash of its input is the one that was stored. That hash is taken behind the
recheck, which reads the tracking queue and the rotation state as they are at
the later call: the replay goes through exactly when they answer as before.
-/

namespace PrinterV1.Discovery

open Python Faults

variable {L : Library} {plan : Plan}

/-- Another call, or a write of the rest of the system to the tables around. -/
inductive Event
  | call (plan : Plan) (observations : List Dict)
  | outside (surroundings : Surroundings)

def Database.after (L : Library) (db : Database) : Event → Database
  | .call plan observations => afterCall L db (plan, observations)
  | .outside surroundings => { db with surroundings }

/-- No event removes or changes a report. -/
theorem after_reports (db : Database) (event : Event) :
    db.store.reports <+: (db.after L event).store.reports := by
  cases event with
  | outside surroundings => exact List.prefix_rfl
  | call plan observations =>
    simp only [Database.after, afterCall]
    cases hrun : runCandidateAcquisition L db plan observations with
    | error fault => exact List.prefix_rfl
    | ok r =>
      obtain ⟨report, db'⟩ := r
      obtain ⟨_, _, _, ⟨_, _, _, rfl⟩ | ⟨_, hfirst⟩⟩ := run_ok hrun
      · exact List.prefix_rfl
      · obtain ⟨a, _, hreports⟩ := executeFirst_reports hfirst
        exact ⟨[reportRow L plan a report], hreports.symm⟩

theorem events_reports (db : Database) (events : List Event) :
    db.store.reports <+: (Runs.run (Database.after L) db events).store.reports :=
  Runs.invariant (I := fun later => db.store.reports <+: later.store.reports)
    (fun later event hlater => hlater.trans (after_reports later event)) List.prefix_rfl events

theorem reportOf_of_prefix {store later : Store} {executionId : String} {row : ReportRow}
    (happended : store.reports <+: later.reports) (hrow : store.reportOf executionId = some row) :
    later.reportOf executionId = some row := by
  obtain ⟨more, hmore⟩ := happended
  unfold Store.reportOf at hrow ⊢
  rw [← hmore, List.find?_append, hrow]
  rfl

theorem replay_ok_iff {hash : String} {row : ReportRow} {report : Value} :
    replay L hash row = .ok report ↔
      row.inputHash = hash ∧ sha L row.reportJson = row.reportHash ∧ row.reportJson = report := by
  unfold replay
  split_ifs with hconflict
  · refine iff_of_false (by simp) ?_
    rintro ⟨hhash, hsha, _⟩
    rcases hconflict with hne | hne
    · exact hne hhash
    · exact hne hsha
  · simp only [not_or, not_not] at hconflict
    simp [hconflict]

/-- After a call that returned, its report stands under the execution's id with
the hash of its input. -/
theorem reportOf_of_run {db db' : Database} {observations : List Dict} {report : Value}
    {items : List Item} (hrun : runCandidateAcquisition L db plan observations = .ok (report, db'))
    (hitems : frozenItems L db.surroundings plan observations = .ok items) :
    ∃ row, db'.store.reportOf plan.executionId = some row ∧
      replay L (inputHash L plan items) row = .ok report := by
  obtain ⟨_, items', hitems', hcases⟩ := run_ok hrun
  obtain rfl : items = items' := Except.ok.inj (hitems.symm.trans hitems')
  rcases hcases with ⟨row, hrow, hreplay, rfl⟩ | ⟨hnone, hfirst⟩
  · exact ⟨row, hrow, hreplay⟩
  · obtain ⟨a, hhash, hreports⟩ := executeFirst_reports hfirst
    refine ⟨reportRow L plan a report, ?_, replay_ok_iff.mpr ⟨hhash, rfl, rfl⟩⟩
    unfold Store.reportOf at hnone ⊢
    rw [hreports, List.find?_append, hnone]
    simp [reportRow]

/-- A call on a database with the row of its execution returns the row's report
exactly when the hash of its input is the row's. -/
theorem rerun_iff {db : Database} {observations : List Dict} {items : List Item}
    {row : ReportRow} {report : Value} (hplan : validatePlan L plan = .ok plan)
    (hitems : frozenItems L db.surroundings plan observations = .ok items)
    (hrow : db.store.reportOf plan.executionId = some row) :
    runCandidateAcquisition L db plan observations = .ok (report, db) ↔
      replay L (inputHash L plan items) row = .ok report := by
  rw [run_eq hplan, hitems]
  simp only [bind, Except.bind, hrow]
  cases replay L (inputHash L plan items) row with
  | error fault => simp
  | ok found => simp [pure, Except.pure]

/-- The surroundings answer the recheck alike for every observation with a mint
and a pool: the next batch and the reasons of refusal are the same. -/
def SameGate (plan : Plan) (normalized : List Item) (s s' : Surroundings) : Prop :=
  ∀ instant, iso plan.cutoffAt = .ok instant → ∀ item ∈ normalized, ∀ mint pool,
    item.mint = some mint → item.pool = some pool →
      s.nextBatchSeq = s'.nextBatchSeq ∧ s.refusals mint pool instant = s'.refusals mint pool instant

@[simp] theorem recheckItem_mint (s : Surroundings) (assessedAt : String) (instant : Instant)
    (executionId : String) (item : Item) :
    (recheckItem L s assessedAt instant executionId item).mint = item.mint := by
  unfold recheckItem
  split <;> rfl

@[simp] theorem recheckItem_pool (s : Surroundings) (assessedAt : String) (instant : Instant)
    (executionId : String) (item : Item) :
    (recheckItem L s assessedAt instant executionId item).pool = item.pool := by
  unfold recheckItem
  split <;> rfl

theorem recheckItem_congr {s s' : Surroundings} {assessedAt : String} {instant : Instant}
    {executionId : String} {item : Item}
    (h : ∀ mint pool, item.mint = some mint → item.pool = some pool →
      s.nextBatchSeq = s'.nextBatchSeq ∧
        s.refusals mint pool instant = s'.refusals mint pool instant) :
    recheckItem L s assessedAt instant executionId item =
      recheckItem L s' assessedAt instant executionId item := by
  unfold recheckItem
  split
  · rename_i mint pool hmint hpool
    obtain ⟨hseq, hreasons⟩ := h mint pool hmint hpool
    rw [hseq, hreasons]
  · rfl

/-- The facts of a gate tell its reasons and its batch. -/
theorem gateFacts_inj {reasons reasons' : List String} {assessedAt : String} {seq seq' : ℤ}
    {facts facts' : Dict}
    (h : gateFacts reasons assessedAt seq facts = gateFacts reasons' assessedAt seq' facts') :
    seq = seq' ∧ reasons = reasons' := by
  have hseq := congrArg (fun d => Dict.get d "selection_cooldown_batch_seq") h
  have hreasons := congrArg (fun d => Dict.get d "tracking_atomic_recheck_reasons") h
  simp only [gateFacts, Dict.get_set, String.reduceEq, if_false, if_true, Value.int.injEq,
    Value.list.injEq] at hseq hreasons
  constructor
  · exact hseq
  · exact (List.map_injective_iff.mpr fun _ _ => Value.str.inj) hreasons

/-- The payload of an item tells its facts, its mint and its pool. -/
theorem payload_facts {a b : Item} (h : a.payload = b.payload) :
    a.facts = b.facts ∧ a.mint = b.mint ∧ a.pool = b.pool := by
  simp only [Item.payload, Content.payload, Value.dict.injEq] at h
  have hfacts := congrArg (fun d => Dict.get d "facts") h
  have hmint := congrArg (fun d => Dict.get d "mint") h
  have hpool := congrArg (fun d => Dict.get d "pool") h
  simp only [Dict.get_set, Dict.get_cons, String.reduceEq, if_false, if_true, Value.dict.injEq,
    optionalText_inj] at hfacts hmint hpool
  exact ⟨hfacts, hmint, hpool⟩

/-- The digest tells two values apart. -/
def Separates (L : Library) (x y : Value) : Prop := sha L x = sha L y → x = y

/-- The hash of the input is the same exactly when the gate is. -/
theorem inputHash_eq_iff {s s' : Surroundings} {observations : List Dict}
    {normalized items items' : List Item}
    (hnormalized : normalizeObservations L plan observations = .ok normalized)
    (hitems : frozenItems L s plan observations = .ok items)
    (hitems' : frozenItems L s' plan observations = .ok items')
    (hdigest : Separates L (inputPayload plan items) (inputPayload plan items')) :
    inputHash L plan items = inputHash L plan items' ↔ SameGate plan normalized s s' := by
  obtain ⟨read, instant, hread, hinstant, rfl⟩ := frozenItems_ok_iff.mp hitems
  obtain ⟨read', instant', hread', hinstant', rfl⟩ := frozenItems_ok_iff.mp hitems'
  obtain rfl : read = normalized := Except.ok.inj (hread.symm.trans hnormalized)
  obtain rfl : read' = read := Except.ok.inj (hread'.symm.trans hnormalized)
  obtain rfl : instant = instant' := Except.ok.inj (hinstant.symm.trans hinstant')
  constructor
  · intro hhash at_ hat item hitem mint pool hmint hpool
    obtain rfl : instant = at_ := Except.ok.inj (hinstant.symm.trans hat)
    have hpayload := hdigest hhash
    simp only [inputPayload, Value.dict.injEq, List.cons.injEq, Prod.mk.injEq, Value.list.injEq,
      true_and, and_true] at hpayload
    have hmem : (recheckItem L s plan.cutoffAt instant plan.executionId item).payload ∈
        (sortBy Item.sortKey
          (read'.map (recheckItem L s' plan.cutoffAt instant plan.executionId))).map Item.payload := by
      rw [← hpayload]
      exact List.mem_map_of_mem (mem_sortBy.mpr (List.mem_map_of_mem hitem))
    obtain ⟨bound, hbound, hsame⟩ := List.mem_map.mp hmem
    obtain ⟨other, _, rfl⟩ := List.mem_map.mp (mem_sortBy.mp hbound)
    obtain ⟨hfacts, hmints, hpools⟩ := payload_facts hsame
    rw [recheckItem_mint, recheckItem_mint, hmint] at hmints
    rw [recheckItem_pool, recheckItem_pool, hpool] at hpools
    rw [recheckItem_facts hmints hpools, recheckItem_facts hmint hpool] at hfacts
    obtain ⟨hseq, hreasons⟩ := gateFacts_inj hfacts
    exact ⟨hseq.symm, hreasons.symm⟩
  · intro hgate
    have hmap : read'.map (recheckItem L s plan.cutoffAt instant plan.executionId) =
        read'.map (recheckItem L s' plan.cutoffAt instant plan.executionId) := by
      apply List.map_congr_left
      intro item hitem
      exact recheckItem_congr (hgate instant hinstant item hitem)
    rw [hmap]

/-- Whatever happened in between, the later call returns the report and writes
nothing exactly when the recheck answers as it did at the first. -/
theorem replays_iff_sameGate {db db' later : Database} {observations : List Dict} {report : Value}
    {events : List Event}
    (hrun : runCandidateAcquisition L db plan observations = .ok (report, db'))
    (hlater : later = Runs.run (Database.after L) db' events)
    (hdigest : ∀ items items', frozenItems L db.surroundings plan observations = .ok items →
      frozenItems L later.surroundings plan observations = .ok items' →
        Separates L (inputPayload plan items) (inputPayload plan items')) :
    runCandidateAcquisition L later plan observations = .ok (report, later) ↔
      ∀ normalized, normalizeObservations L plan observations = .ok normalized →
        SameGate plan normalized db.surroundings later.surroundings := by
  obtain ⟨hplan, items, hitems, _⟩ := run_ok hrun
  obtain ⟨row, hrow, hreplay⟩ := reportOf_of_run hrun hitems
  obtain ⟨normalized, instant, hnormalized, hinstant, _⟩ := frozenItems_ok_iff.mp hitems
  have hkept : later.store.reportOf plan.executionId = some row := by
    rw [hlater]
    exact reportOf_of_prefix (events_reports db' events) hrow
  have hitems' : ∃ items', frozenItems L later.surroundings plan observations = .ok items' :=
    ⟨_, frozenItems_ok_iff.mpr ⟨normalized, instant, hnormalized, hinstant, rfl⟩⟩
  obtain ⟨items', hitems'⟩ := hitems'
  obtain ⟨hhash, hsha, hreport⟩ := replay_ok_iff.mp hreplay
  calc runCandidateAcquisition L later plan observations = .ok (report, later)
      ↔ replay L (inputHash L plan items') row = .ok report := rerun_iff hplan hitems' hkept
    _ ↔ inputHash L plan items = inputHash L plan items' := by
        rw [replay_ok_iff, hhash]
        exact ⟨fun h => h.1, fun h => ⟨h, hsha, hreport⟩⟩
    _ ↔ SameGate plan normalized db.surroundings later.surroundings :=
        inputHash_eq_iff hnormalized hitems hitems' (hdigest items items' hitems hitems')
    _ ↔ ∀ read, normalizeObservations L plan observations = .ok read →
          SameGate plan read db.surroundings later.surroundings := by
        simp [hnormalized]

/-- A database with no rows. -/
def emptyDatabase : Database where
  surroundings := ⟨[], [], Table.empty, [], fun _ => 0⟩
  cursorTable := true
  store := Store.empty

/-- An observation of the chain for a mint and a pool. -/
def pairObservation : Dict :=
  [("expires_at", .str "2026-07-29T13:00:00+00:00"), ("mint", .str "A"),
    ("observed_at", .str "2026-07-29T12:00:00+00:00"), ("pool", .str "POOL"),
    ("request_kind", .str "onchain_reference"), ("round_ordinal", .int 1),
    ("source_name", .str "solana_rpc")]

/-- A call on a database with the observation of the pair. -/
def pairRun (db : Database) : Except Fault (Value × Database) :=
  runCandidateAcquisition checksumLibrary db (samplePlan "e1") [pairObservation]

/-- The empty surroundings, once another pair was selected in batch 4. -/
def selectedSurroundings : Surroundings :=
  { emptyDatabase.surroundings with rotation := [⟨"B", "OTHER", some 4⟩] }

/-- The call and, after the selection of another pair, the call again. -/
theorem pairRun_rotated :
    ((pairRun emptyDatabase).toOption.any fun first =>
      (pairRun (first.2.after checksumLibrary (.outside selectedSurroundings))).toOption.isNone) =
        true := by
  decide +kernel

theorem replays_iff_sameGate_pair :
    ∃ report db', pairRun emptyDatabase = .ok (report, db') ∧
      pairRun (db'.after checksumLibrary (.outside emptyDatabase.surroundings)) =
        .ok (report, db'.after checksumLibrary (.outside emptyDatabase.surroundings)) := by
  obtain ⟨⟨report, db'⟩, hrun, _⟩ := ok_of_any pairRun_rotated
  have hlater : db'.after checksumLibrary (.outside emptyDatabase.surroundings) =
      Runs.run (Database.after checksumLibrary) db' [.outside emptyDatabase.surroundings] := rfl
  refine ⟨report, db', hrun, (replays_iff_sameGate hrun hlater ?_).mpr ?_⟩
  · intro items items' hitems hitems' _
    obtain rfl := Except.ok.inj (hitems.symm.trans hitems')
    rfl
  · intro normalized _ instant _ item _ mint pool _ _
    exact ⟨rfl, rfl⟩

/-- The selection of another pair alone makes the replay of a report raise. -/
theorem rotatedBatch_not_replayed :
    ∃ report db', pairRun emptyDatabase = .ok (report, db') ∧
      ¬pairRun (db'.after checksumLibrary (.outside selectedSurroundings)) =
        .ok (report, db'.after checksumLibrary (.outside selectedSurroundings)) := by
  obtain ⟨⟨report, db'⟩, hrun, hraises⟩ := ok_of_any pairRun_rotated
  refine ⟨report, db', hrun, fun hreplayed => ?_⟩
  dsimp only at hraises
  rw [hreplayed] at hraises
  cases hraises

end PrinterV1.Discovery
