import PrinterV1.Discovery.AcquisitionEffects
import PrinterV1.Foundation.Transactions

/-!
# The write sequence of an execution

The transaction of a first execution as the list of its statements, any of which
may fail for a reason of its own. Performed in a row they are the two parts of
the transaction.
-/

namespace PrinterV1.Discovery

open Python Faults Transactions

variable (L : Library)

/-- The rounds and the observations, in the order of the loop. -/
def roundStatements (plan : Plan) :
    List (ℤ × String) → List Item → List (Statement Store Fault)
  | _, [] => []
  | roundIds, item :: rest =>
    match roundIds.lookup item.roundOrdinal with
    | some roundId =>
      insertObservation plan item roundId :: roundStatements plan roundIds rest
    | none =>
      let roundId := identifier L "carnd" (roundPayload plan item)
      insertRound L plan item :: insertObservation plan item roundId ::
        roundStatements plan ((item.roundOrdinal, roundId) :: roundIds) rest

/-- The first cursor range of every round. -/
def rangeStatements (plan : Plan) : List ℤ → List Item → List (Statement Store Fault)
  | _, [] => []
  | persisted, item :: rest =>
    match item.cursorRange with
    | none => rangeStatements plan persisted rest
    | some cursor =>
      if item.roundOrdinal ∈ persisted then rangeStatements plan persisted rest
      else insertRange L plan item.roundOrdinal cursor ::
        rangeStatements plan (item.roundOrdinal :: persisted) rest

/-- The heads that the items advance. -/
def headStatements (plan : Plan) : List Namespace → List Item → List (Statement Store Fault)
  | _, [] => []
  | seen, item :: rest =>
    match itemCursor item with
    | none => headStatements plan seen rest
    | some cursor =>
      let ns := cursorNamespace L plan.network cursor
      if ns ∈ seen then headStatements plan seen rest
      else if (cursor.get "cursor_advanced").truthy = false then
        headStatements plan (ns :: seen) rest
      else advanceHead L plan item cursor ns :: headStatements plan (ns :: seen) rest

def candidateStatements (plan : Plan) (c : Candidate) : List (Statement Store Fault) :=
  insertIdentity plan c :: (c.observations.map fun item store => insertLink c store item) ++
    (c.stages.map fun stage store => insertEvidence L c store stage) ++
    [insertCertificate plan c, reserveCandidate c]

/-- The item of a manifest, before the claim on its pair. -/
def insertManifestItem (manifestId : String) (item : SelectedItem) (store : Store) :
    Except Fault Store :=
  match item.pool with
  | none => .error (.database "constraint failed")
  | some _ => do
    let manifestItems ← insertRow store.manifestItems ⟨manifestId, item⟩
      (fun old => old.manifestId = manifestId && (old.item.itemOrdinal = item.itemOrdinal ||
        old.item.mint = item.mint || old.item.pool = item.pool ||
        old.item.itemHash = item.itemHash)) true
    return { store with manifestItems }

/-- The claim on the pair of an item. -/
def claimPair (manifestId : String) (item : SelectedItem) (store : Store) : Except Fault Store :=
  .ok { store with reserve := store.reserve.map (claimedRow manifestId [item]) }

def manifestStatements (plan : Plan) (a : Acquisition) : List (Statement Store Fault) :=
  match a.failure, a.manifest with
  | none, some m =>
    insertManifest plan (manifestId L m) m a.selected :: a.selected.flatMap fun item =>
      [insertManifestItem (manifestId L m) item, claimPair (manifestId L m) item]
  | _, _ => []

def failureStatements (plan : Plan) (a : Acquisition) : List (Statement Store Fault) :=
  match a.failure with
  | some failure =>
    if failure.reason ≠ "" then [insertFailure L plan failure a.admitted.length] else []
  | none => []

/-- Everything that an execution writes, up to its report. -/
def acquisitionStatements (cursorTable : Bool) (plan : Plan) (a : Acquisition) (report : Value) :
    List (Statement Store Fault) :=
  [fun store => .ok (insertPolicy plan store), insertExecution (executionRow L plan a)] ++
    roundStatements L plan [] a.observations ++ rangeStatements L plan [] a.observations ++
    (if cursorTable then headStatements L plan [] a.observations else []) ++
    a.candidates.flatMap (candidateStatements L plan) ++ manifestStatements L plan a ++
    failureStatements L plan a ++ [insertReport (reportRow L plan a report)]

/-- What a call found out before it writes: the report of an earlier execution, or an
acquisition with its report. -/
def prepareRun (db : Database) (plan : Plan) (observations : List Dict) :
    Except Fault (Value ⊕ Acquisition × Value) := do
  let frozenPlan ← validatePlan L plan
  let normalized ← normalizeObservations L frozenPlan observations
  let items ← atomicTrackingAndCooldownRecheck L db.surroundings normalized frozenPlan.cutoffAt
    frozenPlan.executionId
  match db.store.reportOf frozenPlan.executionId with
  | some row => do
    let report ← replay L (inputHash L frozenPlan items) row
    return .inl report
  | none => do
    if db.cursorTable then validateCurrentCursorHeads L db.store [] items else pure ()
    let a ← acquire L frozenPlan items
    return .inr (a, buildReport L frozenPlan a (capabilityDeltas db.surroundings db.surroundings))

/-- A call: the database behind it, and what it returns or raises. `fails` says which of its
statements fails from outside, or whether the commit does. -/
def attemptAcquisition (fails : ℕ → Option Fault) (db : Database) (plan : Plan)
    (observations : List Dict) : Database × Except Fault Value :=
  match prepareRun L db plan observations with
  | .error fault => (db, .error fault)
  | .ok (.inl report) => (db, .ok report)
  | .ok (.inr (a, report)) =>
    let r := transact fails (acquisitionStatements L db.cursorTable plan a report) db.store
    ({ db with store := r.1 }, r.2.map fun _ => report)

section Sequence

variable {L} {plan : Plan}

theorem performAll_roundStatements (items : List Item) : ∀ (roundIds : List (ℤ × String))
    (store : Store), performAll (roundStatements L plan roundIds items) store =
      insertRounds L plan roundIds items store := by
  induction items with
  | nil =>
    intro roundIds store
    rfl
  | cons item rest ih =>
    intro roundIds store
    cases hlookup : roundIds.lookup item.roundOrdinal with
    | some roundId =>
      simp only [roundStatements, insertRounds, hlookup, performAll_cons]
      exact congrArg (insertObservation plan item roundId store >>= ·) (funext (ih roundIds))
    | none =>
      simp only [roundStatements, insertRounds, hlookup, performAll_cons]
      refine congrArg (insertRound L plan item store >>= ·) (funext fun mid => ?_)
      exact congrArg (insertObservation plan item _ mid >>= ·) (funext (ih _))

theorem performAll_rangeStatements (items : List Item) : ∀ (persisted : List ℤ) (store : Store),
    performAll (rangeStatements L plan persisted items) store =
      insertRanges L plan persisted items store := by
  induction items with
  | nil =>
    intro persisted store
    rfl
  | cons item rest ih =>
    intro persisted store
    cases hcursor : item.cursorRange with
    | none =>
      simp only [rangeStatements, insertRanges, hcursor]
      exact ih persisted store
    | some cursor =>
      by_cases hseen : item.roundOrdinal ∈ persisted
      · simp only [rangeStatements, insertRanges, hcursor, if_pos hseen]
        exact ih persisted store
      · simp only [rangeStatements, insertRanges, hcursor, if_neg hseen, performAll_cons]
        exact congrArg (insertRange L plan item.roundOrdinal cursor store >>= ·) (funext (ih _))

theorem performAll_headStatements (items : List Item) : ∀ (seen : List Namespace) (store : Store),
    performAll (headStatements L plan seen items) store =
      advanceCurrentCursorHeads L plan seen items store := by
  induction items with
  | nil =>
    intro seen store
    rfl
  | cons item rest ih =>
    intro seen store
    cases hcursor : itemCursor item with
    | none =>
      simp only [headStatements, advanceCurrentCursorHeads, hcursor]
      exact ih seen store
    | some cursor =>
      simp only [headStatements, advanceCurrentCursorHeads, hcursor]
      split_ifs
      · exact ih seen store
      · exact ih _ store
      · rw [performAll_cons]
        exact congrArg (advanceHead L plan item cursor _ store >>= ·) (funext (ih _))

theorem performAll_candidateStatements (c : Candidate) (store : Store) :
    performAll (candidateStatements L plan c) store = insertCandidate L plan store c := by
  unfold candidateStatements insertCandidate
  rw [performAll_append, performAll_append, performAll_cons, bind_assoc, bind_assoc]
  refine congrArg (insertIdentity plan c store >>= ·) (funext fun store₁ => ?_)
  rw [performAll_map]
  refine congrArg (c.observations.foldlM (insertLink c) store₁ >>= ·) (funext fun store₂ => ?_)
  rw [performAll_map]
  refine congrArg (c.stages.foldlM (insertEvidence L c) store₂ >>= ·) (funext fun store₃ => ?_)
  rw [performAll_cons]
  refine congrArg (insertCertificate plan c store₃ >>= ·) (funext fun store₄ => ?_)
  exact performAll_singleton _ store₄

/-- The insertion of an item and the claim on its pair are one step of the manifest. -/
theorem performAll_claimItem (manifestId : String) (item : SelectedItem) (store : Store) :
    performAll [insertManifestItem manifestId item, claimPair manifestId item] store =
      claimItem manifestId store item := by
  rw [performAll_cons]
  unfold insertManifestItem claimItem
  cases hpool : item.pool with
  | none => rfl
  | some pool =>
    rw [bind_assoc]
    refine congrArg (insertRow _ _ _ _ >>= ·) (funext fun manifestItems => ?_)
    rw [pure_bind, performAll_singleton, claimPair, funext (claimedRow_of_pool hpool)]
    rfl

theorem performAll_manifestStatements (a : Acquisition) (store : Store) :
    performAll (manifestStatements L plan a) store = persistManifest L plan a store := by
  cases hfailure : a.failure with
  | some failure => simp [manifestStatements, persistManifest, hfailure]
  | none =>
    cases hmanifest : a.manifest with
    | none => simp [manifestStatements, persistManifest, hfailure, hmanifest]
    | some m =>
      simp only [manifestStatements, persistManifest, hfailure, hmanifest, performAll_cons]
      refine congrArg (insertManifest plan (manifestId L m) m a.selected store >>= ·)
        (funext fun mid => ?_)
      exact performAll_flatMap (performAll_claimItem _) a.selected mid

theorem performAll_failureStatements (a : Acquisition) (store : Store) :
    performAll (failureStatements L plan a) store = persistFailure L plan a store := by
  cases hfailure : a.failure with
  | none => simp [failureStatements, persistFailure, hfailure]
  | some failure =>
    by_cases hreason : failure.reason = ""
    · simp [failureStatements, persistFailure, hfailure, hreason]
    · simp [failureStatements, persistFailure, hfailure, hreason, performAll_singleton]

/-- The statements of an execution are the two parts of its transaction. -/
theorem performAll_acquisitionStatements (cursorTable : Bool) (a : Acquisition) (report : Value)
    (store : Store) :
    performAll (acquisitionStatements L cursorTable plan a report) store =
      persistSources L cursorTable plan a store >>= persistResults L plan a report := by
  have hheads : performAll (if cursorTable then headStatements L plan [] a.observations else []) =
      fun store => if cursorTable then advanceCurrentCursorHeads L plan [] a.observations store
        else .ok store := by
    funext store
    cases cursorTable with
    | false => rfl
    | true => exact performAll_headStatements _ _ store
  have hcandidates : performAll (a.candidates.flatMap (candidateStatements L plan)) =
      fun store => a.candidates.foldlM (insertCandidate L plan) store :=
    funext (performAll_flatMap performAll_candidateStatements a.candidates)
  have hreport : performAll [insertReport (reportRow L plan a report)] =
      insertReport (reportRow L plan a report) := funext (performAll_singleton _)
  unfold acquisitionStatements persistSources persistResults
  simp only [performAll_append, performAll_cons, bind_assoc, hheads, hcandidates, hreport,
    funext (performAll_roundStatements _ _),
    funext (performAll_rangeStatements _ _), funext (performAll_manifestStatements a),
    funext (performAll_failureStatements a)]
  rfl

end Sequence

end PrinterV1.Discovery
