import PrinterV1.Foundation.Runs
import PrinterV1.Foundation.SlidingWindow
import PrinterV1.Python.IsoOrder
import PrinterV1.Sources.GovernedExecution

/-!
# The rate limit over runs of governed requests

The governor admits a request while fewer than the limit were consumed in the last
minute. What was consumed is read off the rows of responses and failures, so the
limit holds of the executions as long as every one of them leaves a row that counts.
-/

namespace PrinterV1.Sources

open Python Runs SlidingWindow

/-! ## Runs -/

/-- The ledger, and the executions of adapters with the stamps of their requests. -/
structure GovernedState where
  db : SourceDb
  executions : List (String × Instant)

def GovernedState.start : GovernedState := ⟨SourceDb.empty, []⟩

/-- One governed request, stamped with the clock, and what its adapter comes to. -/
structure GovernedCall where
  sourceName : String
  requestKind : String
  requestKey : Option String
  trackingPriority : Option ℤ
  now : { i : Instant // InRange i }
  outcome : AdapterOutcome
  utcNow : String

def GovernedCall.request (c : GovernedCall) : SourceRequest where
  sourceName := c.sourceName
  requestKind := c.requestKind
  requestedAt := isoformat c.now
  requestKey := c.requestKey
  trackingPriority := c.trackingPriority

/-- The governor's decision under the count that is taken at the time of the call. -/
def GovernedCall.decision (s : GovernedState) (c : GovernedCall) : SourceRequestDecision :=
  canRequestSource c.sourceName c.requestKind
    (countRecentSourceRequests s.db c.sourceName defaultWindowSeconds c.now)

/-- The count and the call. Where the cutoff is no datetime the count raises. -/
def governedStep (s : GovernedState) (c : GovernedCall) : GovernedState :=
  if InRange (c.now - seconds defaultWindowSeconds) then
    let r := executeSourceRequestWithGovernor s.db c.request
      (countRecentSourceRequests s.db c.sourceName defaultWindowSeconds c.now) c.outcome c.utcNow
    ⟨r.1, if r.2 then s.executions ++ [(c.sourceName, c.now.val)] else s.executions⟩
  else s

def GovernedState.timesOf (s : GovernedState) (sourceName : String) : List Instant :=
  (s.executions.filter fun e => e.1 = sourceName).map (·.2)

/-- No minute holds more executions of a source than its limit. -/
def RateLimited (s : GovernedState) : Prop :=
  ∀ d ∈ sourceRegistry,
    Limited (seconds defaultWindowSeconds) d.defaultRateLimitPerMinute (s.timesOf d.sourceName)

/-- The rows of responses and failures of a request. -/
def SourceDb.answers (db : SourceDb) (id : ℤ) : ℕ :=
  (db.responses.filter fun r => r.sourceRequestId = id).length +
    (db.failures.filter fun f => f.sourceRequestId = some id).length

/-- Every request has exactly one response or failure. -/
def Answered (db : SourceDb) : Prop := ∀ r ∈ db.requests.rows, db.answers r.id = 1

/-- A request that the governor rejects reaches no adapter and leaves every count as it is. -/
def RejectedFree (s : GovernedState) (c : GovernedCall) : Prop :=
  (c.decision s).allowed = false → (governedStep s c).executions = s.executions ∧
    ∀ sourceName windowSeconds now,
      countRecentSourceRequests (governedStep s c).db sourceName windowSeconds now =
        countRecentSourceRequests s.db sourceName windowSeconds now

/-- The outcome leaves a row that counts. -/
def AdapterOutcome.counted : AdapterOutcome → Bool
  | .raises => false
  | .returns result recordable =>
    recordable && (result.isResponse || countsFailure result.failureKind)

/-- An adapter that is executed leaves a row that counts. -/
def Counted (s : GovernedState) (c : GovernedCall) : Prop :=
  (c.decision s).allowed = true → c.outcome.counted = true

instance (s : GovernedState) (c : GovernedCall) : Decidable (Counted s c) :=
  inferInstanceAs (Decidable (_ → _))

/-! ## The ledger grows by one request and its answer -/

/-- The request consumed an attempt. -/
def SourceDb.consumed (db : SourceDb) (id : ℤ) : Bool :=
  (∃ resp ∈ db.responses, resp.sourceRequestId = id) ∨
    ∃ f ∈ db.failures, f.sourceRequestId = some id ∧ countsFailure f.failureType = true

/-- Every answer is one to a recorded request. -/
structure Known (db : SourceDb) : Prop where
  responses : ∀ resp ∈ db.responses, ∃ r ∈ db.requests.rows, r.id = resp.sourceRequestId
  failures : ∀ f ∈ db.failures, ∃ r ∈ db.requests.rows, f.sourceRequestId = some r.id

/-- `db'` is `db` with one more request and one answer to it. -/
structure Answers (db db' : SourceDb) (row : SourceRequestRow) (responses : List SourceResponseRow)
    (failures : List SourceFailureRow) : Prop where
  fresh : row.id = db.nextRequestId
  requests : db'.requests.rows = db.requests.rows ++ [row]
  responses_eq : db'.responses = db.responses ++ responses
  failures_eq : db'.failures = db.failures ++ failures
  response : ∀ resp ∈ responses, resp.sourceRequestId = row.id
  failure : ∀ f ∈ failures, f.sourceRequestId = some row.id
  one : responses.length + failures.length = 1

section Ledger

variable {db db' : SourceDb} {row : SourceRequestRow} {responses : List SourceResponseRow}
variable {failures : List SourceFailureRow}

theorem Answers.ne (h : Answers db db' row responses failures) {r : SourceRequestRow}
    (hr : r ∈ db.requests.rows) : r.id ≠ row.id := by
  have hlt : r.id < db.nextRequestId := lt_nextRowid (List.mem_map_of_mem hr)
  rw [h.fresh]
  omega

theorem Answers.known (h : Answers db db' row responses failures) (hknown : Known db) :
    Known db' := by
  refine ⟨fun resp hresp => ?_, fun f hf => ?_⟩
  · rw [h.responses_eq, List.mem_append] at hresp
    rw [h.requests]
    rcases hresp with hold | hnew
    · obtain ⟨r, hr, hid⟩ := hknown.responses resp hold
      exact ⟨r, List.mem_append_left _ hr, hid⟩
    · exact ⟨row, by simp, (h.response resp hnew).symm⟩
  · rw [h.failures_eq, List.mem_append] at hf
    rw [h.requests]
    rcases hf with hold | hnew
    · obtain ⟨r, hr, hid⟩ := hknown.failures f hold
      exact ⟨r, List.mem_append_left _ hr, hid⟩
    · exact ⟨row, by simp, h.failure f hnew⟩

/-- The answers of the requests that were there are the same. -/
theorem Answers.answers_old (h : Answers db db' row responses failures) {r : SourceRequestRow}
    (hr : r ∈ db.requests.rows) : db'.answers r.id = db.answers r.id := by
  have hne := h.ne hr
  have hresponses : (responses.filter fun x => x.sourceRequestId = r.id) = [] := by
    refine List.filter_eq_nil_iff.mpr fun x hx hid => hne ?_
    rw [← h.response x hx, of_decide_eq_true hid]
  have hfailures : (failures.filter fun x => x.sourceRequestId = some r.id) = [] := by
    refine List.filter_eq_nil_iff.mpr fun x hx hid => hne ?_
    exact Option.some.inj ((of_decide_eq_true hid).symm.trans (h.failure x hx))
  simp [SourceDb.answers, h.responses_eq, h.failures_eq, hresponses, hfailures]

theorem Answers.consumed_old (h : Answers db db' row responses failures) {r : SourceRequestRow}
    (hr : r ∈ db.requests.rows) : db'.consumed r.id = db.consumed r.id := by
  have hne := h.ne hr
  have hresponse : ∀ x ∈ responses, x.sourceRequestId ≠ r.id := by
    intro x hx hid
    exact hne (hid.symm.trans (h.response x hx))
  have hfailure : ∀ x ∈ failures, x.sourceRequestId ≠ some r.id := by
    intro x hx hid
    exact hne (Option.some.inj (hid.symm.trans (h.failure x hx)))
  unfold SourceDb.consumed
  rw [h.responses_eq, h.failures_eq]
  rw [decide_eq_decide]
  constructor
  · rintro (⟨x, hx, hid⟩ | ⟨x, hx, hid, hcounts⟩)
    · rcases List.mem_append.mp hx with hx | hx
      · exact Or.inl ⟨x, hx, hid⟩
      · exact absurd hid (hresponse x hx)
    · rcases List.mem_append.mp hx with hx | hx
      · exact Or.inr ⟨x, hx, hid, hcounts⟩
      · exact absurd hid (hfailure x hx)
  · rintro (⟨x, hx, hid⟩ | ⟨x, hx, hid, hcounts⟩)
    · exact Or.inl ⟨x, List.mem_append_left _ hx, hid⟩
    · exact Or.inr ⟨x, List.mem_append_left _ hx, hid, hcounts⟩

/-- The new request has its answer only. -/
theorem Answers.answers_new (h : Answers db db' row responses failures) (hknown : Known db) :
    db'.answers row.id = 1 := by
  have hresponses : (db.responses.filter fun x => x.sourceRequestId = row.id) = [] := by
    refine List.filter_eq_nil_iff.mpr fun x hx hid => ?_
    obtain ⟨r, hr, hrid⟩ := hknown.responses x hx
    exact h.ne hr (hrid.trans (of_decide_eq_true hid))
  have hfailures : (db.failures.filter fun x => x.sourceRequestId = some row.id) = [] := by
    refine List.filter_eq_nil_iff.mpr fun x hx hid => ?_
    obtain ⟨r, hr, hrid⟩ := hknown.failures x hx
    exact h.ne hr (Option.some.inj (hrid.symm.trans (of_decide_eq_true hid)))
  have hall : (responses.filter fun x => x.sourceRequestId = row.id) = responses :=
    List.filter_eq_self.mpr fun x hx => decide_eq_true (h.response x hx)
  have hall' : (failures.filter fun x => x.sourceRequestId = some row.id) = failures :=
    List.filter_eq_self.mpr fun x hx => decide_eq_true (h.failure x hx)
  simp only [SourceDb.answers, h.responses_eq, h.failures_eq, List.filter_append, hresponses,
    hfailures, hall, hall', List.nil_append]
  exact h.one

theorem Answers.consumed_new (h : Answers db db' row responses failures) (hknown : Known db) :
    db'.consumed row.id = decide (responses ≠ [] ∨
      ∃ f ∈ failures, countsFailure f.failureType = true) := by
  unfold SourceDb.consumed
  rw [decide_eq_decide]
  constructor
  · rintro (⟨x, hx, hid⟩ | ⟨x, hx, hid, hcounts⟩)
    · rw [h.responses_eq] at hx
      rcases List.mem_append.mp hx with hx | hx
      · obtain ⟨r, hr, hrid⟩ := hknown.responses x hx
        exact absurd (hrid.trans hid) (h.ne hr)
      · exact Or.inl (List.ne_nil_of_mem hx)
    · rw [h.failures_eq] at hx
      rcases List.mem_append.mp hx with hx | hx
      · obtain ⟨r, hr, hrid⟩ := hknown.failures x hx
        exact absurd (Option.some.inj (hrid.symm.trans hid)) (h.ne hr)
      · exact Or.inr ⟨x, hx, hcounts⟩
  · rintro (hne | ⟨x, hx, hcounts⟩)
    · obtain ⟨x, hx⟩ := List.exists_mem_of_ne_nil _ hne
      exact Or.inl ⟨x, by rw [h.responses_eq]; exact List.mem_append_right _ hx, h.response x hx⟩
    · exact Or.inr ⟨x, by rw [h.failures_eq]; exact List.mem_append_right _ hx, h.failure x hx,
        hcounts⟩

theorem Answers.answered (h : Answers db db' row responses failures) (hknown : Known db)
    (hanswered : Answered db) : Answered db' := by
  intro r hr
  rw [h.requests, List.mem_append, List.mem_singleton] at hr
  rcases hr with hr | rfl
  · rw [h.answers_old hr]
    exact hanswered r hr
  · exact h.answers_new hknown

/-- The consumed requests after one more. -/
theorem Answers.filter_consumed (h : Answers db db' row responses failures) (hknown : Known db) :
    (db'.requests.rows.filter fun r => db'.consumed r.id) =
      (db.requests.rows.filter fun r => db.consumed r.id) ++
        if responses ≠ [] ∨ ∃ f ∈ failures, countsFailure f.failureType = true then [row]
        else [] := by
  have hold : (db.requests.rows.filter fun r => db'.consumed r.id) =
      db.requests.rows.filter fun r => db.consumed r.id :=
    List.filter_congr fun r hr => h.consumed_old hr
  rw [h.requests, List.filter_append, hold, List.filter_singleton, h.consumed_new hknown]
  simp

/-- Where every request has one answer, the count is one of consumed requests. -/
theorem countRecent_eq (hanswered : Answered db) (sourceName : String) (windowSeconds : ℤ)
    (now : Instant) :
    countRecentSourceRequests db sourceName windowSeconds now =
      ((db.requests.rows.filter fun r => db.consumed r.id).filter fun r =>
        r.sourceName = sourceName ∧
          isoformat (now - seconds windowSeconds) ≤ r.requestedAt).length := by
  unfold countRecentSourceRequests countResponseAttempts countFailureAttempts Table.countWhere
  rw [List.filter_filter]
  have hsplit : ∀ rows : List SourceRequestRow, (∀ r ∈ rows, db.answers r.id = 1) →
      (rows.filter fun r => r.sourceName = sourceName ∧
          isoformat (now - seconds windowSeconds) ≤ r.requestedAt ∧
          ∃ resp ∈ db.responses, resp.sourceRequestId = r.id).length +
        (rows.filter fun r => r.sourceName = sourceName ∧
          isoformat (now - seconds windowSeconds) ≤ r.requestedAt ∧
          ∃ f ∈ db.failures, f.sourceRequestId = some r.id ∧
            countsFailure f.failureType = true).length =
      (rows.filter fun r => decide (r.sourceName = sourceName ∧
        isoformat (now - seconds windowSeconds) ≤ r.requestedAt) && db.consumed r.id).length := by
    intro rows
    induction rows with
    | nil => intro _; rfl
    | cons r rows ih =>
      intro hrows
      have hone := hrows r (by simp)
      have hrest := ih fun x hx => hrows x (by simp [hx])
      have hdisjoint : ¬((∃ resp ∈ db.responses, resp.sourceRequestId = r.id) ∧
          ∃ f ∈ db.failures, f.sourceRequestId = some r.id ∧
            countsFailure f.failureType = true) := by
        rintro ⟨⟨x, hx, hid⟩, f, hf, hfid, _⟩
        have hresponse : 0 < (db.responses.filter fun r' => r'.sourceRequestId = r.id).length :=
          List.length_pos_of_mem (List.mem_filter.mpr ⟨hx, decide_eq_true hid⟩)
        have hfailure : 0 < (db.failures.filter fun f => f.sourceRequestId = some r.id).length :=
          List.length_pos_of_mem (List.mem_filter.mpr ⟨hf, decide_eq_true hfid⟩)
        unfold SourceDb.answers at hone
        omega
      simp only [List.filter_cons, SourceDb.consumed, Bool.and_eq_true,
        decide_eq_true_eq] at hrest ⊢
      by_cases hrow : r.sourceName = sourceName ∧
          isoformat (now - seconds windowSeconds) ≤ r.requestedAt
      · by_cases hresponse : ∃ resp ∈ db.responses, resp.sourceRequestId = r.id
        · have hfailure := not_and.mp hdisjoint hresponse
          simp only [hrow, hresponse, hfailure, and_self, true_and, or_false, if_true, if_false,
            List.length_cons]
          omega
        · by_cases hfailure : ∃ f ∈ db.failures, f.sourceRequestId = some r.id ∧
              countsFailure f.failureType = true
          · simp only [hrow, hresponse, hfailure, and_self, and_false, or_true, if_true, if_false,
              List.length_cons]
            omega
          · simp only [hrow, hresponse, hfailure, and_false, or_self, if_false]
            exact hrest
      · have hnot : ∀ P : Prop, ¬(r.sourceName = sourceName ∧
            isoformat (now - seconds windowSeconds) ≤ r.requestedAt ∧ P) :=
          fun P h => hrow ⟨h.1, h.2.1⟩
        simp only [hnot, hrow, false_and, if_false]
        exact hrest
  exact hsplit db.requests.rows hanswered

end Ledger

/-! ## What the ledger knows of the executions -/

/-- The consumed requests are the executions, and every request has one answer. -/
structure Faithful (s : GovernedState) : Prop where
  known : Known s.db
  answered : Answered s.db
  consumed : ((s.db.requests.rows.filter fun r => s.db.consumed r.id).map fun r =>
    (r.sourceName, r.requestedAt)) = s.executions.map fun e => (e.1, isoformat e.2)
  inRange : ∀ e ∈ s.executions, InRange e.2

theorem faithful_start : Faithful GovernedState.start where
  known := ⟨by simp [GovernedState.start, SourceDb.empty],
    by simp [GovernedState.start, SourceDb.empty]⟩
  answered := by simp [Answered, GovernedState.start, SourceDb.empty]
  consumed := rfl
  inRange := by simp [GovernedState.start]

/-- The count is that of the executions that are no longer ago than the window. -/
theorem Faithful.count {s : GovernedState} (h : Faithful s) {now : Instant} {windowSeconds : ℤ}
    (hcutoff : InRange (now - seconds windowSeconds)) (sourceName : String) :
    countRecentSourceRequests s.db sourceName windowSeconds now =
      (recent (s.timesOf sourceName) now (seconds windowSeconds)).length := by
  rw [countRecent_eq h.answered]
  set cutoff := isoformat (now - seconds windowSeconds) with hcut
  have hpairs : ((s.db.requests.rows.filter fun r => s.db.consumed r.id).filter fun r =>
      r.sourceName = sourceName ∧ cutoff ≤ r.requestedAt).length =
      (((s.db.requests.rows.filter fun r => s.db.consumed r.id).map fun r =>
        (r.sourceName, r.requestedAt)).filter fun p => p.1 = sourceName ∧ cutoff ≤ p.2).length := by
    rw [List.filter_map, List.length_map]
    rfl
  rw [hpairs, h.consumed, List.filter_map, List.length_map, recent, GovernedState.timesOf,
    List.filter_map, List.length_map, List.filter_filter]
  congr 1
  refine List.filter_congr fun e he => ?_
  have hle : cutoff ≤ isoformat e.2 ↔ now - seconds windowSeconds ≤ e.2 :=
    isoformat_le_iff hcutoff (h.inRange e he)
  simp only [Function.comp, hle]
  rw [← Bool.decide_and, decide_eq_decide]
  exact and_comm

/-! ## One call -/

theorem countsFailure_preAdapter : ∀ reason ∈ preAdapterFailureTypes,
    countsFailure reason = false := by decide +kernel

/-- The reasons of the governor are among those that no count takes for an attempt. -/
theorem countsFailure_reason {sourceName requestKind : String} {count : ℤ}
    (h : (canRequestSource sourceName requestKind count).allowed = false) :
    countsFailure (canRequestSource sourceName requestKind count).reason = false := by
  refine countsFailure_preAdapter _ ?_
  unfold canRequestSource at h ⊢
  cases hd : getSourceDefinition sourceName with
  | none => simp [rejected, preAdapterFailureTypes]
  | some d =>
    rw [hd] at h
    dsimp only at h ⊢
    split_ifs at h ⊢ <;> simp [rejected, preAdapterFailureTypes]

/-- The row that a governed request is recorded in. -/
def GovernedCall.row (s : GovernedState) (c : GovernedCall) : SourceRequestRow where
  toSourceRequest := c.request
  id := s.db.nextRequestId
  sourceStatus := (c.decision s).sourceStatus
  dataQualityLabel := (c.decision s).dataQualityLabel

/-- A call whose cutoff is no datetime leaves everything as it is; a rejected one is answered
with a failure that does not count; any other is executed, and answered with a row that
counts where its outcome does. -/
theorem governedStep_cases (s : GovernedState) (c : GovernedCall) (hcounted : Counted s c) :
    (¬ InRange (c.now - seconds defaultWindowSeconds) ∧ governedStep s c = s) ∨
    (InRange (c.now - seconds defaultWindowSeconds) ∧ (c.decision s).allowed = false ∧
      (governedStep s c).executions = s.executions ∧
      ∃ f, Answers s.db (governedStep s c).db (c.row s) [] [f] ∧
        countsFailure f.failureType = false) ∨
    (InRange (c.now - seconds defaultWindowSeconds) ∧ (c.decision s).allowed = true ∧
      (governedStep s c).executions = s.executions ++ [(c.sourceName, c.now.val)] ∧
      ∃ responses failures, Answers s.db (governedStep s c).db (c.row s) responses failures ∧
        (responses ≠ [] ∨ ∃ f ∈ failures, countsFailure f.failureType = true)) := by
  by_cases hcutoff : InRange (c.now - seconds defaultWindowSeconds)
  swap
  · exact Or.inl ⟨hcutoff, if_neg hcutoff⟩
  refine Or.inr ?_
  unfold governedStep
  rw [if_pos hcutoff]
  unfold executeSourceRequestWithGovernor
  cases hallowed : (c.decision s).allowed with
  | false =>
    refine Or.inl ⟨hcutoff, rfl, ?_⟩
    have hdecision : (canRequestSource c.request.sourceName c.request.requestKind
        (countRecentSourceRequests s.db c.sourceName defaultWindowSeconds c.now)).allowed =
          false := hallowed
    simp only [hdecision, Bool.not_false, if_true, Bool.false_eq_true, if_false, true_and]
    refine ⟨_, ⟨rfl, rfl, (List.append_nil _).symm, rfl, by simp, ?_, rfl⟩,
      countsFailure_reason hdecision⟩
    simp [rejectionRow, GovernedCall.row]
  | true =>
    refine Or.inr ⟨hcutoff, rfl, ?_⟩
    have hdecision : (canRequestSource c.request.sourceName c.request.requestKind
        (countRecentSourceRequests s.db c.sourceName defaultWindowSeconds c.now)).allowed =
          true := hallowed
    have houtcome := hcounted hallowed
    cases hresult : c.outcome with
    | raises => simp [hresult, AdapterOutcome.counted] at houtcome
    | returns result recordable =>
      rw [hresult] at houtcome
      obtain ⟨rfl, hkind⟩ : recordable = true ∧
          (result.isResponse = true ∨ countsFailure result.failureKind = true) := by
        simpa [AdapterOutcome.counted] using houtcome
      by_cases hresponse : result.isResponse = true
      · simp only [hdecision, hresponse, Bool.not_true, Bool.false_eq_true, if_false, if_true,
          true_and]
        refine ⟨[_], [], ⟨rfl, rfl, rfl, (List.append_nil _).symm, ?_, by simp, rfl⟩, by simp⟩
        simp [GovernedCall.row]
      · simp only [hdecision, hresponse, Bool.not_true, Bool.false_eq_true, if_false, if_true,
          true_and]
        refine ⟨[], [_], ⟨rfl, rfl, (List.append_nil _).symm, rfl, by simp, ?_, rfl⟩, ?_⟩
        · simp [failureRow, GovernedCall.row]
        · exact Or.inr ⟨_, List.mem_singleton_self _, hkind.resolve_left hresponse⟩

theorem Faithful.step {s : GovernedState} (h : Faithful s) {c : GovernedCall}
    (hcounted : Counted s c) : Faithful (governedStep s c) := by
  rcases governedStep_cases s c hcounted with ⟨_, hsame⟩ | ⟨_, _, hexec, f, hanswers, hfree⟩ |
    ⟨_, _, hexec, responses, failures, hanswers, hcounts⟩
  · rw [hsame]
    exact h
  · refine ⟨hanswers.known h.known, hanswers.answered h.known h.answered, ?_, ?_⟩
    · rw [hanswers.filter_consumed h.known, hexec, if_neg (by simp [hfree]), List.append_nil]
      exact h.consumed
    · rw [hexec]
      exact h.inRange
  · refine ⟨hanswers.known h.known, hanswers.answered h.known h.answered, ?_, ?_⟩
    · rw [hanswers.filter_consumed h.known, hexec, if_pos hcounts, List.map_append,
        List.map_append, h.consumed]
      rfl
    · intro e he
      rw [hexec, List.mem_append, List.mem_singleton] at he
      rcases he with he | rfl
      · exact h.inRange e he
      · exact c.now.property

/-- A rejected request leaves every count as it is. -/
theorem Faithful.rejectedFree {s : GovernedState} (h : Faithful s) {c : GovernedCall}
    (hcounted : Counted s c) : RejectedFree s c := by
  intro hrejected
  rcases governedStep_cases s c hcounted with ⟨_, hsame⟩ | ⟨_, _, hexec, f, hanswers, hfree⟩ |
    ⟨_, hallowed, _⟩
  · rw [hsame]
    exact ⟨rfl, fun _ _ _ => rfl⟩
  · refine ⟨hexec, fun sourceName windowSeconds now => ?_⟩
    rw [countRecent_eq (h.step hcounted).answered, countRecent_eq h.answered,
      hanswers.filter_consumed h.known, if_neg (by simp [hfree]), List.append_nil]
  · rw [hrejected] at hallowed
    cases hallowed

/-! ## The limit -/

theorem registry_unique : ∀ d ∈ sourceRegistry, ∀ d' ∈ sourceRegistry,
    d.sourceName = d'.sourceName → d = d' := by decide

theorem registry_limit_nonneg : ∀ d ∈ sourceRegistry, 0 ≤ d.defaultRateLimitPerMinute := by
  decide

theorem rateLimited_start : RateLimited GovernedState.start :=
  fun d hd => limited_nil (registry_limit_nonneg d hd)

theorem RateLimited.step {s : GovernedState} (hlimited : RateLimited s) (h : Faithful s)
    {c : GovernedCall} (hcounted : Counted s c) : RateLimited (governedStep s c) := by
  intro d hd
  rcases governedStep_cases s c hcounted with ⟨_, hsame⟩ | ⟨_, _, hexec, _⟩ |
    ⟨hcutoff, hallowed, hexec, _⟩
  · rw [hsame]
    exact hlimited d hd
  · rw [GovernedState.timesOf, hexec]
    exact hlimited d hd
  · rw [GovernedState.timesOf, hexec, List.filter_append, List.map_append]
    by_cases hsource : c.sourceName = d.sourceName
    · obtain ⟨d', hd', hname, _, hroom⟩ := canRequestSource_allowed hallowed
      obtain rfl := registry_unique d' hd' d hd (hname.trans hsource)
      rw [h.count hcutoff, hsource] at hroom
      have hnew : (([(c.sourceName, c.now.val)].filter fun e => e.1 = d'.sourceName).map (·.2)) =
          [c.now.val] := by simp [hsource]
      rw [hnew]
      exact (hlimited d' hd).append hroom
    · have hnone : (([(c.sourceName, c.now.val)].filter fun e => e.1 = d.sourceName).map (·.2)) =
          [] := by simp [hsource]
      rw [hnone, List.append_nil]
      exact hlimited d hd

/-- Where every executed adapter leaves a row that counts, the limit holds in every window,
every request is answered once, and rejected requests are free. -/
theorem governed_runs {calls : List GovernedCall}
    (hcounted : Along governedStep Counted GovernedState.start calls) :
    Throughout governedStep (fun s => RateLimited s ∧ Answered s.db) GovernedState.start calls ∧
      Along governedStep RejectedFree GovernedState.start calls := by
  have hstep : ∀ s c, (Faithful s ∧ RateLimited s) → Counted s c →
      Faithful (governedStep s c) ∧ RateLimited (governedStep s c) :=
    fun s c h hc => ⟨h.1.step hc, h.2.step h.1 hc⟩
  refine ⟨fun pre hpre => ?_, ?_⟩
  · have hall := throughout_along hstep ⟨faithful_start, rateLimited_start⟩ hcounted pre hpre
    exact ⟨hall.2, hall.1.answered⟩
  · exact along_of_invariant hstep (fun s c h hc => h.1.rejectedFree hc)
      ⟨faithful_start, rateLimited_start⟩ hcounted

/-- A request for the newest pools, at one second past the epoch. -/
def poolCall (outcome : AdapterOutcome) : GovernedCall where
  sourceName := "geckoterminal"
  requestKind := "geckoterminal_new_pool_discovery"
  requestKey := none
  trackingPriority := none
  now := ⟨seconds 62135596801, by decide⟩
  outcome := outcome
  utcNow := "1970-01-01T00:00:01+00:00"

def poolResult : NormalizedSourceResult where
  sourceName := "geckoterminal"
  requestKind := "geckoterminal_new_pool_discovery"
  sourceStatus := .complete
  dataQualityLabel := .cleanData
  normalizedPayload := []
  statusCode := some 200
  failureType := none
  failureMessage := none
  retryAfterAt := none
  receivedAt := "1970-01-01T00:00:01+00:00"

theorem governed_runs_pool :
    Throughout governedStep (fun s => RateLimited s ∧ Answered s.db) GovernedState.start
        (List.replicate 12 (poolCall (.returns poolResult true))) ∧
      Along governedStep RejectedFree GovernedState.start
        (List.replicate 12 (poolCall (.returns poolResult true))) :=
  governed_runs (by decide +kernel)

/-- Requests whose adapter raises have no answer, and are not counted: the eleventh of a
minute is executed as the first was. -/
theorem not_rateLimited_raising :
    ¬ RateLimited (run governedStep GovernedState.start
        (List.replicate 11 (poolCall .raises))) ∧
      ¬ Answered (run governedStep GovernedState.start [poolCall .raises]).db := by
  constructor
  · intro h
    have hmany := h ⟨"geckoterminal", false, .yes, _, 10, 60, none⟩
      (List.mem_cons_of_mem _ List.mem_cons_self) (seconds 62135596801)
    exact absurd hmany (by decide +kernel)
  · unfold Answered
    decide

end PrinterV1.Sources
