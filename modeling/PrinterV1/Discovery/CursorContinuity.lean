import PrinterV1.Discovery.Replay

/-!
# Cursor heads over a history

The heads are validated before an execution, ranges are persisted by round, and
heads are advanced by namespace. In each loop the first range counts, and the
items come in one order, so the range that moves a head is the one that was
checked against it. Over a history every move of a head continues the one
before it, and its version counts the moves.
-/

namespace PrinterV1.Discovery

open Python Faults

variable {L : Library} {plan : Plan}

/-! ## Heads -/

theorem find?_upsertHead_other {cursors : List CursorRow} {row : CursorRow} {ns : Namespace}
    (h : row.namespaceKey ≠ ns) :
    (upsertHead cursors row).find? (fun head => head.namespaceKey = ns) =
      cursors.find? fun head => head.namespaceKey = ns := by
  unfold upsertHead
  split_ifs with hany
  · clear hany
    induction cursors with
    | nil => rfl
    | cons head rest ih =>
      rw [List.map_cons, List.find?_cons, List.find?_cons, ih]
      by_cases hhead : head.namespaceKey = row.namespaceKey
      · simp [hhead, h]
      · simp [hhead]
  · simp [List.find?_append, h]

theorem find?_upsertHead_self (cursors : List CursorRow) (row : CursorRow) :
    (upsertHead cursors row).find? (fun head => head.namespaceKey = row.namespaceKey) =
      some row := by
  unfold upsertHead
  split_ifs with hany
  · induction cursors with
    | nil => simp at hany
    | cons head rest ih =>
      rw [List.map_cons, List.find?_cons]
      by_cases hhead : head.namespaceKey = row.namespaceKey
      · simp [hhead]
      · have hrest : (rest.any fun old => decide (old.namespaceKey = row.namespaceKey)) = true := by
          simpa [hhead] using hany
        simpa [hhead] using ih hrest
  · have hnone : cursors.find? (fun head => head.namespaceKey = row.namespaceKey) = none := by
      simpa using hany
    simp [List.find?_append, hnone]

/-- An upsert moves the head of its own namespace and no other. -/
theorem head?_upsertHead (store : Store) (row : CursorRow) (ns : Namespace) :
    ({ store with cursors := upsertHead store.cursors row } : Store).head? ns =
      if row.namespaceKey = ns then some row else store.head? ns := by
  unfold Store.head?
  split_ifs with hns
  · subst hns
    exact find?_upsertHead_self store.cursors row
  · exact find?_upsertHead_other hns

/-- The first range of a namespace, with its round. -/
def firstRange (L : Library) (network : String) (items : List Item) (ns : Namespace) :
    Option (ℤ × Dict) :=
  items.findSome? fun item => (itemCursor item).bind fun cursor =>
    if cursorNamespace L network cursor = ns then some (item.roundOrdinal, cursor) else none

theorem firstRange_cons (network : String) (item : Item) (rest : List Item) (ns : Namespace) :
    firstRange L network (item :: rest) ns =
      match itemCursor item with
      | none => firstRange L network rest ns
      | some cursor =>
        if cursorNamespace L network cursor = ns then some (item.roundOrdinal, cursor)
        else firstRange L network rest ns := by
  unfold firstRange
  rw [List.findSome?_cons]
  cases itemCursor item with
  | none => rfl
  | some cursor =>
    dsimp only [Option.bind_some]
    split_ifs with hns <;> rfl

/-- The first range of a namespace is one of the items, and in the namespace. -/
theorem firstRange_some {network : String} {items : List Item} {ns : Namespace} {ordinal : ℤ}
    {cursor : Dict} (h : firstRange L network items ns = some (ordinal, cursor)) :
    cursorNamespace L network cursor = ns ∧
      ∃ item ∈ items, item.roundOrdinal = ordinal ∧ item.cursorRange = some cursor := by
  obtain ⟨item, hitem, hrange⟩ := List.exists_of_findSome?_eq_some h
  obtain ⟨found, hfound, hns⟩ := Option.bind_eq_some_iff.mp hrange
  split_ifs at hns with heq
  obtain ⟨rfl, rfl⟩ := Prod.mk.inj (Option.some.inj hns)
  exact ⟨heq, item, hitem, rfl, (Option.filter_eq_some_iff.mp hfound).1⟩

/-- Where the heads were validated, the first range of each namespace starts at
its head. -/
theorem validate_startsAtHead {store : Store} {items : List Item} :
    ∀ {seen : List (Namespace × List Value)},
      validateCurrentCursorHeads L store seen items = .ok () → ∀ {ns : Namespace},
        seen.lookup ns = none → ∀ {ordinal : ℤ} {cursor : Dict},
          firstRange L solanaMainnet items ns = some (ordinal, cursor) →
            ∀ head, store.head? ns = some head → startsAtHead cursor head = true := by
  induction items with
  | nil =>
    intro seen _ ns _ ordinal cursor hrange
    cases hrange
  | cons item rest ih =>
    intro seen h ns hseen ordinal cursor hrange head hhead
    rw [firstRange_cons] at hrange
    simp only [validateCurrentCursorHeads] at h
    cases hcursor : itemCursor item with
    | none =>
      rw [hcursor] at h hrange
      exact ih h hseen hrange head hhead
    | some own =>
      rw [hcursor] at h hrange
      dsimp only at h hrange
      by_cases hns : cursorNamespace L solanaMainnet own = ns
      · rw [if_pos hns] at hrange
        obtain ⟨rfl, rfl⟩ := Prod.mk.inj (Option.some.inj hrange)
        rw [hns, hseen] at h
        dsimp only at h
        rw [hhead] at h
        by_contra hstart
        have hfalse : startsAtHead own head = false := by simpa using hstart
        simp [hfalse] at h
      · rw [if_neg hns] at hrange
        cases hlookup : seen.lookup (cursorNamespace L solanaMainnet own) with
        | some identity =>
          rw [hlookup] at h
          dsimp only at h
          split_ifs at h
          exact ih h hseen hrange head hhead
        | none =>
          rw [hlookup] at h
          dsimp only at h
          split_ifs at h
          apply ih h _ hrange head hhead
          have hne : (ns == cursorNamespace L solanaMainnet own) = false :=
            beq_false_of_ne (Ne.symm hns)
          rw [List.lookup_cons, hne]
          exact hseen

/-- How the heads are advanced: the first range of each namespace moves its head
when it is marked advanced, and nothing else does. -/
theorem advance_head? {items : List Item} : ∀ {seen : List Namespace} {store store' : Store},
    advanceCurrentCursorHeads L plan seen items store = .ok store' → ∀ ns : Namespace,
      store'.head? ns = store.head? ns ∨
        ∃ ordinal cursor, ns ∉ seen ∧
          firstRange L plan.network items ns = some (ordinal, cursor) ∧
          (cursor.get "cursor_advanced").truthy = true ∧
          cursor.get "continuity_state" = .str "CONTIGUOUS" ∧
          (∃ r ∈ store.ranges, r.rangeId = rangeId L plan ordinal cursor) ∧
          store'.head? ns = some (advancedHead L plan ordinal cursor ns (store.head? ns)) := by
  induction items with
  | nil =>
    intro seen store store' h ns
    obtain rfl := Except.ok.inj h
    exact .inl rfl
  | cons item rest ih =>
    intro seen store store' h ns
    rw [firstRange_cons]
    simp only [advanceCurrentCursorHeads] at h
    cases hcursor : itemCursor item with
    | none =>
      rw [hcursor] at h
      exact ih h ns
    | some own =>
      rw [hcursor] at h
      dsimp only at h ⊢
      by_cases hns : cursorNamespace L plan.network own = ns
      · rw [hns] at h
        rw [if_pos hns]
        by_cases hmem : ns ∈ seen
        · rw [if_pos hmem] at h
          rcases ih h ns with hsame | ⟨_, _, hnot, _⟩
          · exact .inl hsame
          · exact absurd hmem hnot
        · rw [if_neg hmem] at h
          by_cases hadvanced : (own.get "cursor_advanced").truthy = false
          · rw [if_pos hadvanced] at h
            rcases ih h ns with hsame | ⟨_, _, hnot, _⟩
            · exact .inl hsame
            · exact absurd List.mem_cons_self hnot
          · rw [if_neg hadvanced] at h
            obtain ⟨mid, hmid, hrest⟩ := bind_ok h
            obtain ⟨hcontiguous, hrange, rfl⟩ := advanceHead_ok hmid
            right
            refine ⟨item.roundOrdinal, own, hmem, rfl, ?_, hcontiguous, hrange, ?_⟩
            · simpa using hadvanced
            · rcases ih hrest ns with hsame | ⟨_, _, hnot, _⟩
              · rw [hsame, head?_upsertHead]
                simp [advancedHead]
              · exact absurd List.mem_cons_self hnot
      · rw [if_neg hns]
        split_ifs at h with hmem hadvanced
        · exact ih h ns
        · rcases ih h ns with hsame | ⟨ordinal, cursor, hnot, hmove⟩
          · exact .inl hsame
          · exact .inr ⟨ordinal, cursor, fun h => hnot (List.mem_cons_of_mem _ h), hmove⟩
        · obtain ⟨mid, hmid, hrest⟩ := bind_ok h
          obtain ⟨_, _, rfl⟩ := advanceHead_ok hmid
          have hkept := head?_upsertHead store
            (advancedHead L plan item.roundOrdinal own (cursorNamespace L plan.network own)
              (store.head? (cursorNamespace L plan.network own))) ns
          rw [if_neg (by exact hns)] at hkept
          rcases ih hrest ns with hsame | ⟨ordinal, cursor, hnot, hmove⟩
          · exact .inl (hsame.trans hkept)
          · rw [hkept] at hmove
            exact .inr ⟨ordinal, cursor, fun h => hnot (List.mem_cons_of_mem _ h), hmove⟩

/-! ## The ranges of a history -/

/-- A cursor range an observation of a call carries. -/
structure PlannedRange where
  plan : Plan
  ordinal : ℤ
  cursor : Dict

def PlannedRange.payload (t : PlannedRange) : Dict := cursorPayload t.plan t.ordinal t.cursor

def PlannedRange.row (L : Library) (t : PlannedRange) : RangeRow :=
  rangeRow L t.plan t.ordinal t.cursor

/-- The payload names the execution it is made for. -/
def PlannedRange.OwnExecution (t : PlannedRange) : Prop :=
  t.payload.get "execution_id" = .str t.plan.executionId

/-- The ranges a call may persist. -/
def eventRanges (L : Library) : Event → List PlannedRange
  | .call plan observations =>
    ((normalizeObservations L plan observations).toOption.getD []).filterMap fun item =>
      item.cursorRange.map fun cursor => ⟨plan, item.roundOrdinal, cursor⟩
  | .outside _ => []

/-- The identifiers of the ranges tell their payloads apart. -/
def RangeIdsDistinguish (L : Library) (ranges : List PlannedRange) : Prop :=
  ∀ a ∈ ranges, ∀ b ∈ ranges, (a.row L).rangeId = (b.row L).rangeId → a.payload = b.payload

@[simp] theorem recheckItem_roundOrdinal (s : Surroundings) (assessedAt : String)
    (instant : Instant) (executionId : String) (item : Item) :
    (recheckItem L s assessedAt instant executionId item).roundOrdinal = item.roundOrdinal := by
  unfold recheckItem
  split <;> rfl

@[simp] theorem recheckItem_cursorRange (s : Surroundings) (assessedAt : String)
    (instant : Instant) (executionId : String) (item : Item) :
    (recheckItem L s assessedAt instant executionId item).cursorRange = item.cursorRange := by
  unfold recheckItem
  split <;> rfl

theorem mem_eventRanges {s : Surroundings} {observations : List Dict} {items : List Item}
    (hitems : frozenItems L s plan observations = .ok items) {item : Item} (hitem : item ∈ items)
    {cursor : Dict} (hcursor : item.cursorRange = some cursor) :
    ⟨plan, item.roundOrdinal, cursor⟩ ∈ eventRanges L (.call plan observations) := by
  obtain ⟨normalized, instant, hnormalized, _, rfl⟩ := frozenItems_ok_iff.mp hitems
  obtain ⟨source, hsource, rfl⟩ := List.mem_map.mp (mem_sortBy.mp hitem)
  rw [recheckItem_cursorRange] at hcursor
  rw [recheckItem_roundOrdinal]
  simp only [eventRanges, hnormalized, Except.toOption, Option.getD_some]
  exact List.mem_filterMap.mpr ⟨source, hsource, by rw [hcursor]; rfl⟩

theorem cursorPayload_get {ordinal : ℤ} {cursor : Dict} {key : String}
    (hid : key ≠ "execution_id") (hround : key ≠ "round_ordinal") :
    (cursorPayload plan ordinal cursor).get key = cursor.get key := by
  rw [cursorPayload, Dict.get_merge]
  split_ifs with hhas
  · rfl
  · have hnone : cursor.get key = .none := Dict.get_of_not_has (by simpa using hhas)
    rw [hnone, Dict.get_cons, Dict.get_cons, if_neg hid, if_neg hround]
    rfl

/-- Ranges with one payload, each made for its own execution, have one row. -/
theorem row_eq_of_payload {a b : PlannedRange} (ha : a.OwnExecution) (hb : b.OwnExecution)
    (hnetwork : a.plan.network = b.plan.network) (h : a.payload = b.payload) :
    a.row L = b.row L := by
  have hexecution : a.plan.executionId = b.plan.executionId := by
    unfold PlannedRange.OwnExecution at ha hb
    rw [h, hb] at ha
    exact (Value.str.inj ha).symm
  have hget : ∀ key, key ≠ "execution_id" → key ≠ "round_ordinal" →
      a.cursor.get key = b.cursor.get key := by
    intro key hid hround
    have hkey := congrArg (fun payload => Dict.get payload key) h
    simp only [PlannedRange.payload, cursorPayload_get hid hround] at hkey
    exact hkey
  unfold PlannedRange.payload at h
  simp [PlannedRange.row, rangeRow, rangeId, h, hexecution, hnetwork, hget]

/-! ## One event -/

/-- A head was moved by a range of the execution: one in its namespace, found
contiguous and marked advanced, that starts where the head stood. The head now
stands at its end, one version later, and names its row. -/
structure Advance (L : Library) (plan : Plan) (db db' : Database) (ns : Namespace) (ordinal : ℤ)
    (cursor : Dict) : Prop where
  namespaceKey : cursorNamespace L plan.network cursor = ns
  advanced : (cursor.get "cursor_advanced").truthy = true
  contiguous : cursor.get "continuity_state" = .str "CONTIGUOUS"
  starts : ∀ head, db.store.head? ns = some head → startsAtHead cursor head = true
  moved : db'.store.head? ns = some (advancedHead L plan ordinal cursor ns (db.store.head? ns))
  persisted : rangeRow L plan ordinal cursor ∈ db'.store.ranges

/-- The event leaves the head of every namespace where it is, or it is a call
that commits a first execution and moves it by a range of its own. -/
def ContinuousStep (L : Library) (db : Database) (event : Event) : Prop :=
  ∀ ns, (db.after L event).store.head? ns = db.store.head? ns ∨
    ∃ plan observations report ordinal cursor, event = .call plan observations ∧
      runCandidateAcquisition L db plan observations = .ok (report, db.after L event) ∧
      db.store.reportOf plan.executionId = none ∧
      Advance L plan db (db.after L event) ns ordinal cursor

/-- Every head names a range row that its own execution persisted. -/
def HeadsBacked (db : Database) : Prop :=
  ∀ ns head, db.store.head? ns = some head →
    ∃ r ∈ db.store.ranges, r.rangeId = head.lastRangeId ∧ r.executionId = head.lastExecutionId

/-- The rows of the range table are ranges of the history. -/
def RowsPlanned (L : Library) (ranges : List PlannedRange) (db : Database) : Prop :=
  ∀ r ∈ db.store.ranges, ∃ t ∈ ranges, t.plan.network = solanaMainnet ∧ r = t.row L

/-- What a first execution does to the range table and to each head. -/
theorem executeFirst_heads {db db' : Database} {items : List Item} {report : Value}
    (hnetwork : plan.network = solanaMainnet)
    (h : executeFirst L db plan items = .ok (report, db')) :
    (∃ added, db'.store.ranges = db.store.ranges ++ added ∧ ∀ r ∈ added, r.isOf L plan items) ∧
      ∀ ns, db'.store.head? ns = db.store.head? ns ∨
        ∃ ordinal cursor, firstRange L plan.network items ns = some (ordinal, cursor) ∧
          (cursor.get "cursor_advanced").truthy = true ∧
          cursor.get "continuity_state" = .str "CONTIGUOUS" ∧
          (∀ head, db.store.head? ns = some head → startsAtHead cursor head = true) ∧
          (∃ r ∈ db'.store.ranges, r.rangeId = rangeId L plan ordinal cursor) ∧
          db'.store.head? ns =
            some (advancedHead L plan ordinal cursor ns (db.store.head? ns)) := by
  obtain ⟨a, mid, store', rfl, _, hvalid, hsources, hresults, rfl⟩ := executeFirst_ok h
  obtain ⟨added, ranged, hranged, hadded, hnoTable, htable⟩ := persistSources_ok hsources
  have hranges : ranged.ranges = db.store.ranges ++ added := congrArg Journal.ranges hranged
  have hcursors : ranged.cursors = db.store.cursors := congrArg Journal.cursors hranged
  have hfinal : store'.ranges = mid.ranges ∧ store'.cursors = mid.cursors :=
    ⟨congrArg Journal.ranges hresults, congrArg Journal.cursors hresults⟩
  have hhead : ∀ ns, store'.head? ns = mid.head? ns := by
    intro ns
    unfold Store.head?
    rw [hfinal.2]
  have hbefore : ∀ ns, ranged.head? ns = db.store.head? ns := by
    intro ns
    unfold Store.head?
    rw [hcursors]
  cases hcursorTable : db.cursorTable with
  | false =>
    obtain rfl := hnoTable hcursorTable
    refine ⟨⟨added, by rw [hfinal.1, hranges], hadded⟩, fun ns => .inl ?_⟩
    exact (hhead ns).trans (hbefore ns)
  | true =>
    have hadvance := htable hcursorTable
    have hmid : mid.ranges = ranged.ranges := by
      obtain ⟨_, hwrites⟩ := advanceCurrentCursorHeads_writes hadvance
      rw [hwrites]
    refine ⟨⟨added, by rw [hfinal.1, hmid, hranges], hadded⟩, fun ns => ?_⟩
    rcases advance_head? hadvance ns with hsame | ⟨ordinal, cursor, _, hfirst, hmove⟩
    · exact .inl (((hhead ns).trans hsame).trans (hbefore ns))
    · obtain ⟨hmarked, hcontiguous, ⟨r, hr, hid⟩, hmoved⟩ := hmove
      right
      refine ⟨ordinal, cursor, hfirst, hmarked, hcontiguous, ?_, ⟨r, ?_, hid⟩, ?_⟩
      · rw [hnetwork] at hfirst
        exact validate_startsAtHead (hvalid hcursorTable) rfl hfirst
      · rw [hfinal.1, hmid]
        exact hr
      · rw [hhead ns, hmoved, hbefore ns]

/-! ## A history -/

section History

variable {ranges : List PlannedRange}

/-- What one event does, where the rows so far are ranges of the history and the
event adds only such ranges. -/
theorem after_continuous (hown : ∀ t ∈ ranges, t.OwnExecution)
    (hids : RangeIdsDistinguish L ranges) {db : Database} {event : Event}
    (hrows : RowsPlanned L ranges db) (hevent : ∀ t ∈ eventRanges L event, t ∈ ranges) :
    RowsPlanned L ranges (db.after L event) ∧
      (∀ r ∈ db.store.ranges, r ∈ (db.after L event).store.ranges) ∧
      ContinuousStep L db event := by
  cases event with
  | outside surroundings => exact ⟨hrows, fun r hr => hr, fun ns => .inl rfl⟩
  | call plan observations =>
    simp only [ContinuousStep, Database.after, afterCall]
    cases hrun : runCandidateAcquisition L db plan observations with
    | error fault => exact ⟨hrows, fun r hr => hr, fun ns => .inl rfl⟩
    | ok result =>
      obtain ⟨report, db'⟩ := result
      dsimp only
      obtain ⟨hplan, items, hitems, ⟨row, _, _, rfl⟩ | ⟨hfresh, hfirst⟩⟩ := run_ok hrun
      · exact ⟨hrows, fun r hr => hr, fun ns => .inl rfl⟩
      · have hnetwork := (validatePlan_valid hplan).network
        obtain ⟨⟨added, hadded, hnew⟩, hheads⟩ := executeFirst_heads hnetwork hfirst
        have hrows' : RowsPlanned L ranges db' := by
          intro r hr
          rw [hadded] at hr
          rcases List.mem_append.mp hr with hr | hr
          · exact hrows r hr
          · obtain ⟨item, hitem, cursor, hcursor, rfl⟩ := hnew r hr
            exact ⟨_, hevent _ (mem_eventRanges hitems hitem hcursor), hnetwork, rfl⟩
        refine ⟨hrows', fun r hr => by rw [hadded]; exact List.mem_append_left _ hr, fun ns => ?_⟩
        rcases hheads ns with hsame | ⟨ordinal, cursor, hrange, hmarked, hcontiguous, hstarts, hrow,
          hmoved⟩
        · exact .inl hsame
        · obtain ⟨hns, item, hitem, rfl, hcursor⟩ := firstRange_some hrange
          have hplanned := hevent _ (mem_eventRanges hitems hitem hcursor)
          obtain ⟨r, hr, hid⟩ := hrow
          obtain ⟨t, ht, htnetwork, rfl⟩ := hrows' r hr
          have hpayload := hids t ht _ hplanned hid
          have hsame := row_eq_of_payload (L := L) (hown t ht) (hown _ hplanned)
            (htnetwork.trans hnetwork.symm) hpayload
          rw [hsame] at hr
          exact .inr ⟨plan, observations, report, item.roundOrdinal, cursor, rfl, hrun, hfresh, hns,
            hmarked, hcontiguous, hstarts, hmoved, hr⟩

theorem headsBacked_of_step {db : Database} {event : Event} (hbacked : HeadsBacked db)
    (hkept : ∀ r ∈ db.store.ranges, r ∈ (db.after L event).store.ranges)
    (hstep : ContinuousStep L db event) : HeadsBacked (db.after L event) := by
  intro ns head hhead
  rcases hstep ns with hsame | ⟨plan, _, _, ordinal, cursor, _, _, _, hmove⟩
  · rw [hsame] at hhead
    obtain ⟨r, hr, hid⟩ := hbacked ns head hhead
    exact ⟨r, hkept r hr, hid⟩
  · rw [hmove.moved] at hhead
    obtain rfl := Option.some.inj hhead
    exact ⟨rangeRow L plan ordinal cursor, hmove.persisted, rfl, rfl⟩

/-- The version of a head, 0 where there is none. -/
def headVersion (db : Database) (ns : Namespace) : ℕ :=
  ((db.store.head? ns).map CursorRow.cursorVersion).getD 0

/-- How many of the events move the head of a namespace. -/
def moves (L : Library) (ns : Namespace) : Database → List Event → ℕ
  | _, [] => 0
  | db, event :: rest =>
    (if (db.after L event).store.head? ns = db.store.head? ns then 0 else 1) +
      moves L ns (db.after L event) rest

theorem headVersion_after {db : Database} {event : Event} (hstep : ContinuousStep L db event)
    (ns : Namespace) :
    headVersion (db.after L event) ns = headVersion db ns +
      if (db.after L event).store.head? ns = db.store.head? ns then 0 else 1 := by
  rcases hstep ns with hsame | ⟨plan, _, _, ordinal, cursor, _, _, _, hmove⟩
  · rw [if_pos hsame, headVersion, headVersion, hsame]
    omega
  · have hversion : headVersion (db.after L event) ns = headVersion db ns + 1 := by
      rw [headVersion, hmove.moved]
      rfl
    have hmoved : ¬(db.after L event).store.head? ns = db.store.head? ns := by
      intro hsame
      have hstill : headVersion (db.after L event) ns = headVersion db ns := by
        rw [headVersion, headVersion, hsame]
      omega
    rw [if_neg hmoved]
    exact hversion

theorem headVersion_run {events : List Event} : ∀ {db : Database},
    Runs.Along (Database.after L) (ContinuousStep L) db events → ∀ ns,
      headVersion (Runs.run (Database.after L) db events) ns =
        headVersion db ns + moves L ns db events := by
  induction events with
  | nil => intro db _ ns; rfl
  | cons event rest ih =>
    intro db halong ns
    rw [Runs.run_cons, ih halong.2 ns, headVersion_after halong.1 ns, moves]
    omega

/-- From empty tables, where no range names another execution: every move of a
head continues the one before it, every head names a row of its own execution,
and its version counts its moves. -/
theorem heads_continuous {db : Database} {events : List Event}
    (hempty : db.store.ranges = [] ∧ db.store.cursors = [])
    (hown : ∀ t ∈ events.flatMap (eventRanges L), t.OwnExecution)
    (hids : RangeIdsDistinguish L (events.flatMap (eventRanges L))) :
    Runs.Along (Database.after L) (ContinuousStep L) db events ∧
      Runs.Throughout (Database.after L) HeadsBacked db events ∧
      ∀ pre, pre <+: events → ∀ ns,
        headVersion (Runs.run (Database.after L) db pre) ns = moves L ns db pre := by
  let planned := events.flatMap (eventRanges L)
  let Inv := fun db => RowsPlanned L planned db ∧ HeadsBacked db
  let Planned := fun (_ : Database) event => ∀ t ∈ eventRanges L event, t ∈ planned
  have hstart : Inv db := by
    constructor
    · intro r hr
      rw [hempty.1] at hr
      cases hr
    · intro ns head hhead
      rw [Store.head?, hempty.2] at hhead
      cases hhead
  have hstep : ∀ db event, Inv db → Planned db event → Inv (db.after L event) := by
    intro db event hinv hevent
    obtain ⟨hrows, hkept, hcontinuous⟩ := after_continuous hown hids hinv.1 hevent
    exact ⟨hrows, headsBacked_of_step hinv.2 hkept hcontinuous⟩
  have hplanned : Runs.Along (Database.after L) Planned db events := by
    rw [Runs.along_iff_forall]
    rintro pre event post hcut t ht
    exact List.mem_flatMap.mpr ⟨event, by rw [hcut]; simp, ht⟩
  have halong : Runs.Along (Database.after L) (ContinuousStep L) db events :=
    Runs.along_of_invariant hstep
      (fun db event hinv hevent => (after_continuous hown hids hinv.1 hevent).2.2) hstart hplanned
  refine ⟨halong, fun pre hpre => ?_, ?_⟩
  · exact (Runs.throughout_along hstep hstart hplanned pre hpre).2
  · rintro pre ⟨post, rfl⟩ ns
    have hzero : headVersion db ns = 0 := by
      rw [headVersion, Store.head?, hempty.2]
      rfl
    rw [headVersion_run ((Runs.along_append _).mp halong).1 ns, hzero]
    omega

end History

/-- A range of one slot that is contiguous and advances its cursor. -/
def sampleCursor (address : String) : Dict :=
  [("continuity_state", .str "CONTIGUOUS"), ("contract_pin", .str "PIN"),
    ("cursor_advanced", .bool true), ("decoder_version", .str "1"), ("direction", .str "FORWARD"),
    ("end_slot", .int 5), ("indexed_address", .str address), ("start_slot", .int 5)]

def cursorObservation (cursor : Dict) : Dict :=
  [("cursor_range", .dict cursor), ("expires_at", .str "2026-07-29T13:00:00+00:00"),
    ("observed_at", .str "2026-07-29T12:00:00+00:00"), ("request_kind", .str "onchain_reference"),
    ("round_ordinal", .int 1), ("source_name", .str "solana_rpc")]

/-- An execution that moves the head of an address. -/
def firstAdvance : Event :=
  .call (samplePlan "e1") [cursorObservation (sampleCursor "E")]

/-- A second execution, with a range of another address before one that names the
first execution. The observations of a round are in the order of their digests;
those of the two addresses are in the same order under the checksum and SHA-256. -/
def borrowedAdvance : Event :=
  .call (samplePlan "e2")
    [cursorObservation (sampleCursor "D"),
      cursorObservation
        ((Dict.set (sampleCursor "E") "execution_id" (.str "e1")).set "round_ordinal" (.int 1))]

def sampleNamespace : Namespace := cursorNamespace checksumLibrary solanaMainnet (sampleCursor "E")

theorem heads_continuous_first :
    HeadsBacked (Runs.run (Database.after checksumLibrary) emptyDatabase [firstAdvance]) ∧
      ∀ ns, headVersion (Runs.run (Database.after checksumLibrary) emptyDatabase [firstAdvance]) ns =
        moves checksumLibrary ns emptyDatabase [firstAdvance] := by
  have hown : ∀ t ∈ [firstAdvance].flatMap (eventRanges checksumLibrary), t.OwnExecution := by
    unfold PlannedRange.OwnExecution
    decide +kernel
  have hids : RangeIdsDistinguish checksumLibrary
      ([firstAdvance].flatMap (eventRanges checksumLibrary)) := by
    unfold RangeIdsDistinguish
    decide +kernel
  have hempty : emptyDatabase.store.ranges = [] ∧ emptyDatabase.store.cursors = [] := ⟨rfl, rfl⟩
  obtain ⟨_, hbacked, hversions⟩ := heads_continuous hempty hown hids
  exact ⟨hbacked _ List.prefix_rfl, hversions _ List.prefix_rfl⟩

theorem not_backed_of_any {db : Database} (ns : Namespace)
    (h : ((db.store.head? ns).any fun head => !db.store.ranges.any fun r =>
      r.rangeId = head.lastRangeId && r.executionId = head.lastExecutionId) = true) :
    ¬HeadsBacked db := by
  intro hbacked
  cases hhead : db.store.head? ns with
  | none => simp [hhead] at h
  | some head =>
    obtain ⟨r, hr, hid, hexecution⟩ := hbacked ns head hhead
    simp only [hhead, Option.any_some, Bool.not_eq_true', List.any_eq_false] at h
    exact h r hr (by simp [hid, hexecution])

/-- The second execution leaves the head of the address with the row of the
first and its own name. -/
theorem borrowedRange_not_backed :
    ¬Runs.Throughout (Database.after checksumLibrary) HeadsBacked emptyDatabase
      [firstAdvance, borrowedAdvance] := by
  intro hbacked
  apply not_backed_of_any sampleNamespace _ (hbacked _ List.prefix_rfl)
  decide +kernel

end PrinterV1.Discovery
