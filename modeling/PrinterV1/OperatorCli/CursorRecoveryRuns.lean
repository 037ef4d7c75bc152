import PrinterV1.OperatorCli.CursorRecoveryPages

/-!
# Executions of a recovery, one after another

Whatever the transport answers and wherever the executions end, the next one
loads the states that the one before had in memory. What is proved of one
committed page therefore holds of all the pages of the history.
-/

namespace PrinterV1.OperatorCli.CursorRecovery

open Python Discovery Faults

variable {H : Hashes} {s after : State} {localPage : ℕ} {rpc : Rpc} {ns : Namespace}
  {states : States}

theorem executePage_idle (h : executePage H s localPage rpc = (after, .idle)) : after = s := by
  unfold executePage at h
  split_ifs at h
  · exact (Prod.mk.inj h).1.symm
  · split at h <;> cases (Prod.mk.inj h).2

theorem executePage_failed {code : String}
    (h : executePage H s localPage rpc = (after, .failed code)) :
    after = { s with terminalCategory := code } := by
  unfold executePage at h
  split_ifs at h
  · cases (Prod.mk.inj h).2
  · split at h
    · obtain ⟨rfl, hcode⟩ := Prod.mk.inj h
      obtain rfl := Outcome.failed.inj hcode
      rfl
    · cases (Prod.mk.inj h).2

theorem forward_of_mem (h : ns ∈ cursorNamespaces) : ns.direction = "FORWARD" := by
  simp only [cursorNamespaces, List.mem_cons, List.not_mem_nil, or_false] at h
  rcases h with rfl | rfl <;> rfl

theorem namespace_executePage {a : Artifact} (hs : Ready ns s)
    (h : executePage H s localPage rpc = (after, .committed a)) : a.page.namespaceKey = ns := by
  have hready := hs.executePage h
  obtain ⟨-, rows, advanced, -, -, rfl⟩ := executePage_committed h
  exact hready.key

theorem loadPage_executePage {a : Artifact} (hns : ns ∈ cursorNamespaces)
    (hs : Ready ns (states ns))
    (h : executePage H (states ns) localPage rpc = (after, .committed a)) :
    loadPage H states a = .ok (Function.update states ns after) := by
  unfold loadPage
  rw [namespace_executePage hs h, if_pos hns,
    validatePageArtifact_executePage hs (forward_of_mem hns) h]
  rfl

section Equations

variable {ops : List ((ℕ × Namespace) × Rpc)}

theorem performOperations_failed {code : String}
    (h : executePage H (states ns) localPage rpc = (after, .failed code)) :
    performOperations H states (((localPage, ns), rpc) :: ops) =
      (Function.update states ns { states ns with terminalCategory := code }, [none],
        some code) := by
  obtain rfl := executePage_failed h
  simp only [performOperations, h]

theorem performOperations_idle
    (h : executePage H (states ns) localPage rpc = (after, .idle)) :
    performOperations H states (((localPage, ns), rpc) :: ops) =
      ((performOperations H states ops).1, none :: (performOperations H states ops).2.1,
        (performOperations H states ops).2.2) := by
  obtain rfl := executePage_idle h
  simp only [performOperations, h, Function.update_eq_self]

theorem performOperations_committed {a : Artifact}
    (h : executePage H (states ns) localPage rpc = (after, .committed a)) :
    performOperations H states (((localPage, ns), rpc) :: ops) =
      let result := performOperations H (Function.update states ns after) ops
      (result.1, some a :: result.2.1, result.2.2) := by
  simp only [performOperations, h]

end Equations

/-- The pages of a namespace in the rows of work. -/
def ownPages (work : List (Option Artifact)) (ns : Namespace) : List Artifact :=
  (work.filterMap id).filter fun a => a.page.namespaceKey = ns

theorem ownPages_cons_none (work : List (Option Artifact)) (ns : Namespace) :
    ownPages (none :: work) ns = ownPages work ns := rfl

theorem ownPages_cons_some {a : Artifact} (ha : a.page.namespaceKey = ns)
    (work : List (Option Artifact)) : ownPages (some a :: work) ns = a :: ownPages work ns := by
  simp [ownPages, ha]

theorem ownPages_cons_other {a : Artifact} (ha : a.page.namespaceKey ≠ ns)
    (work : List (Option Artifact)) : ownPages (some a :: work) ns = ownPages work ns := by
  simp [ownPages, ha]

theorem ownPages_append (work more : List (Option Artifact)) (ns : Namespace) :
    ownPages (work ++ more) ns = ownPages work ns ++ ownPages more ns := by
  simp [ownPages]

variable {W : Type*} {step : W → Rpc → W → Prop} {I : W → Namespace → List Artifact → State → Prop}

/-- Operations that are answered in a world which changes meanwhile. -/
inductive Served (step : W → Rpc → W → Prop) : W → List Rpc → W → Prop
  | done (w : W) : Served step w [] w
  | answer {w w' w'' : W} {rpc : Rpc} {rest : List Rpc} :
    step w rpc w' → Served step w' rest w'' → Served step w (rpc :: rest) w''

theorem Served.split {xs ys : List Rpc} : ∀ {w w'' : W}, Served step w (xs ++ ys) w'' →
    ∃ w', Served step w xs w' ∧ Served step w' ys w'' := by
  induction xs with
  | nil => exact fun {w w''} h => ⟨w, .done w, h⟩
  | cons x xs ih =>
    intro w w'' h
    cases h with
    | answer hstep hrest =>
      obtain ⟨w', hxs, hys⟩ := ih hrest
      exact ⟨w', .answer hstep hxs, hys⟩

/-- What is to be shown of one page. -/
structure Preserved (H : Hashes) (step : W → Rpc → W → Prop)
    (I : W → Namespace → List Artifact → State → Prop) : Prop where
  ready : ∀ {w ns pages s}, I w ns pages s → Ready ns s
  mono : ∀ {w w' rpc ns pages s}, step w rpc w' → I w ns pages s → I w' ns pages s
  page : ∀ {w w' rpc ns pages s localPage after a}, ns ∈ cursorNamespaces → step w rpc w' →
    I w ns pages s → executePage H s localPage rpc = (after, .committed a) →
      I w' ns (pages ++ [a]) after

theorem Served.mono (hI : Preserved H step I) {transports : List Rpc} {w w' : W}
    (h : Served step w transports w') {pages : List Artifact} (hs : I w ns pages s) :
    I w' ns pages s := by
  induction h with
  | done w => exact hs
  | answer hstep _ ih => exact ih (hI.mono hstep hs)

/-- A committed page keeps the invariant of every namespace, its own and the others. -/
theorem Preserved.committed (hI : Preserved H step I) {w w' : W} {rpc : Rpc}
    {pages : Namespace → List Artifact} {localPage : ℕ} {after : State} {a : Artifact}
    (hns : ns ∈ cursorNamespaces) (hstep : step w rpc w')
    (hstates : ∀ ns ∈ cursorNamespaces, I w ns (pages ns) (states ns))
    (h : executePage H (states ns) localPage rpc = (after, .committed a)) :
    ∀ ns' ∈ cursorNamespaces, I w' ns' (Function.update pages ns (pages ns ++ [a]) ns')
      (Function.update states ns after ns') := by
  intro ns' hns'
  rcases eq_or_ne ns' ns with rfl | hne
  · rw [Function.update_self, Function.update_self]
    exact hI.page hns hstep (hstates ns' hns) h
  · rw [Function.update_of_ne hne, Function.update_of_ne hne]
    exact hI.mono hstep (hstates ns' hns')

/-- No operation that is answered fails. -/
def Unfailing (H : Hashes) (step : W → Rpc → W → Prop)
    (I : W → Namespace → List Artifact → State → Prop) : Prop :=
  ∀ {w w' rpc ns pages s localPage after code}, ns ∈ cursorNamespaces → step w rpc w' →
    I w ns pages s → executePage H s localPage rpc ≠ (after, .failed code)

/-- What operations leave: states that the rows of their work lead to, but for the code of the
operation that failed, and the invariant of each namespace and its pages. -/
structure Performed (H : Hashes) (step : W → Rpc → W → Prop)
    (I : W → Namespace → List Artifact → State → Prop) (w' : W)
    (pages : Namespace → List Artifact) (states : States)
    (result : States × List (Option Artifact) × Option String) (loaded : States) : Prop where
  chain : (result.2.1.filterMap id).foldlM (loadPage H) states = .ok loaded
  memory : ∀ ns, result.1 ns =
    { loaded ns with terminalCategory := (result.1 ns).terminalCategory }
  unfailed : result.2.2 = none → loaded = result.1
  kept : ∀ ns ∈ cursorNamespaces, I w' ns (pages ns ++ ownPages result.2.1 ns) (loaded ns)
  sure : Unfailing H step I → result.2.2 = none

theorem performed_nothing (hI : Preserved H step I) {transports : List Rpc} {w w' : W}
    (hserved : Served step w transports w') {pages : Namespace → List Artifact}
    (hstates : ∀ ns ∈ cursorNamespaces, I w ns (pages ns) (states ns)) :
    Performed H step I w' pages states (states, [], none) states where
  chain := rfl
  memory _ := rfl
  unfailed _ := rfl
  kept ns hns := by
    rw [ownPages, List.filterMap_nil, List.filter_nil, List.append_nil]
    exact hserved.mono hI (hstates ns hns)
  sure _ := rfl

theorem performOperations_performed (hI : Preserved H step I) {ops : List (ℕ × Namespace)}
    (hops : ∀ op ∈ ops, op.2 ∈ cursorNamespaces) : ∀ {transports : List Rpc} {w w' : W}
    {states : States} {pages : Namespace → List Artifact}, Served step w transports w' →
      (∀ ns ∈ cursorNamespaces, I w ns (pages ns) (states ns)) →
        ∃ loaded, Performed H step I w' pages states
          (performOperations H states (ops.zip transports)) loaded := by
  induction ops with
  | nil =>
    intro transports w w' states pages hserved hstates
    exact ⟨states, performed_nothing hI hserved hstates⟩
  | cons op ops ih =>
    intro transports w w' states pages hserved hstates
    obtain ⟨localPage, ns⟩ := op
    have hns : ns ∈ cursorNamespaces := hops _ List.mem_cons_self
    have hrest : ∀ op ∈ ops, op.2 ∈ cursorNamespaces :=
      fun op hop => hops op (List.mem_cons_of_mem _ hop)
    cases hserved with
    | done => exact ⟨states, performed_nothing hI (.done w) hstates⟩
    | answer hstep hserved =>
      rename_i w₁ rpc transports
      rw [List.zip_cons_cons]
      cases hpage : executePage H (states ns) localPage rpc with
      | mk state outcome =>
        cases outcome with
        | failed code =>
          rw [performOperations_failed hpage]
          refine ⟨states, ⟨rfl, fun ns' => ?_, (fun h => nomatch h), fun ns' hns' => ?_,
            fun hsure => absurd hpage (hsure hns hstep (hstates ns hns))⟩⟩
          · rcases eq_or_ne ns' ns with rfl | hne
            · simp only [Function.update_self]
            · simp only [Function.update_of_ne hne]
          · rw [ownPages_cons_none, ownPages, List.filterMap_nil, List.filter_nil, List.append_nil]
            exact hserved.mono hI (hI.mono hstep (hstates ns' hns'))
        | idle =>
          rw [performOperations_idle hpage]
          obtain ⟨loaded, h⟩ :=
            ih hrest hserved fun ns' hns' => hI.mono hstep (hstates ns' hns')
          exact ⟨loaded, h.chain, h.memory, h.unfailed, h.kept, h.sure⟩
        | committed a =>
          rw [performOperations_committed hpage]
          have hready := hI.ready (hstates ns hns)
          have hkey := namespace_executePage hready hpage
          obtain ⟨loaded, h⟩ := ih hrest hserved (hI.committed hns hstep hstates hpage)
          refine ⟨loaded, ⟨?_, h.memory, h.unfailed, fun ns' hns' => ?_, h.sure⟩⟩
          · simp only [List.filterMap_cons, id_eq, List.foldlM_cons,
              loadPage_executePage hns hready hpage, ok_bind]
            exact h.chain
          · have hkept := h.kept ns' hns'
            rcases eq_or_ne ns' ns with rfl | hne
            · rw [Function.update_self, List.append_assoc] at hkept
              rw [ownPages_cons_some hkey]
              exact hkept
            · rw [Function.update_of_ne hne] at hkept
              rw [ownPages_cons_other (hkey.trans_ne hne.symm)]
              exact hkept

/-- The key that executions are read in the order of. -/
def Execution.key (e : Execution) : String × String := (e.startedAt, e.integrationId)

def Call.key (c : Call) : String × String := (c.now, c.integrationId)

def KeyBefore (a b : String × String) : Prop := a.1 < b.1 ∨ (a.1 = b.1 ∧ a.2 ≤ b.2)

instance (a b : String × String) : Decidable (KeyBefore a b) :=
  inferInstanceAs (Decidable (a.1 < b.1 ∨ (a.1 = b.1 ∧ a.2 ≤ b.2)))

theorem before_iff {a b : Execution} : a.before b = true ↔ KeyBefore a.key b.key := by
  simp [Execution.before, KeyBefore, Execution.key]

variable {heads : Namespace → Option Head} {recoveryId : String} {executions : List Execution}

/-- The pages of the executions, as they were written. -/
def storedPages (executions : List Execution) (ns : Namespace) : List Artifact :=
  ownPages (executions.flatMap Execution.work) ns

def chainOf (H : Hashes) (heads : Namespace → Option Head) (recoveryId : String)
    (executions : List Execution) : Except Fault States :=
  ((executions.flatMap Execution.work).filterMap id).foldlM (loadPage H)
    (initialStates heads recoveryId)

/-- Executions of one recovery that stand in the order of their starts are read as they stand. -/
theorem loadRecoveryChain_ordered (hown : ∀ e ∈ executions, e.recoveryId = recoveryId)
    (hordered : (executions.map Execution.key).Pairwise KeyBefore) :
    loadRecoveryChain H executions heads recoveryId =
      (chainOf H heads recoveryId executions).map fun states => (states, executions.length) := by
  have hfilter : (executions.filter fun e => e.recoveryId = recoveryId) = executions :=
    List.filter_eq_self.mpr fun e he => decide_eq_true (hown e he)
  have hsorted : executions.mergeSort Execution.before = executions := by
    refine List.mergeSort_of_pairwise ?_
    exact (List.pairwise_map.mp hordered).imp fun h => before_iff.mpr h
  have hpages : (executions.flatMap fun e => e.work.filterMap id) =
      (executions.flatMap Execution.work).filterMap id := by
    rw [List.filterMap_flatMap]
  unfold loadRecoveryChain chainOf
  simp only [hfilter, hsorted, hpages]
  cases ((executions.flatMap Execution.work).filterMap id).foldlM (loadPage H)
    (initialStates heads recoveryId) <;> rfl

theorem chainOf_append (e : Execution) (h : chainOf H heads recoveryId executions = .ok states) :
    chainOf H heads recoveryId (executions ++ [e]) =
      (e.work.filterMap id).foldlM (loadPage H) states := by
  have hwork : (executions ++ [e]).flatMap Execution.work =
      executions.flatMap Execution.work ++ e.work := by simp
  unfold chainOf at h ⊢
  rw [hwork, List.filterMap_append, List.foldlM_append, h]
  rfl

/-- The executions of the calls, one after another on an empty table. -/
def history (H : Hashes) (heads : Namespace → Option Head) (calls : List Call) : Db :=
  calls.foldl (fun db call => (runCursorContinuityRecovery H db call).1) ⟨heads, []⟩

theorem history_append (calls : List Call) (call : Call) :
    history H heads (calls ++ [call]) =
      (runCursorContinuityRecovery H (history H heads calls) call).1 :=
  List.foldl_append

/-- A table of executions of one recovery, and the states that are loaded from it. -/
structure Holds (H : Hashes) (heads : Namespace → Option Head) (db : Db) (calls : List Call)
    (states : States) : Prop where
  sameHeads : db.heads = heads
  own : ∀ e ∈ db.executions, e.recoveryId = recoveryIdentity H heads
  keys : db.executions.map Execution.key = calls.map Call.key
  chain : chainOf H heads (recoveryIdentity H heads) db.executions = .ok states

theorem Holds.length {db : Db} {calls : List Call} (h : Holds H heads db calls states) :
    db.executions.length = calls.length := by
  have hlength := congrArg List.length h.keys
  simpa using hlength

theorem Holds.load {db : Db} {calls : List Call} (h : Holds H heads db calls states)
    (hordered : (calls.map Call.key).Pairwise KeyBefore) :
    loadRecoveryChain H db.executions heads (recoveryIdentity H heads) =
      .ok (states, calls.length) := by
  rw [loadRecoveryChain_ordered h.own (h.keys ▸ hordered), h.chain, h.length]
  rfl

/-- The work of the next execution, which is none where there were too many. -/
def nextWork (H : Hashes) (states : States) (count : ℕ) (call : Call) : List (Option Artifact) :=
  if recoveryMaxExecutions < count then [] else (performCall H states call).2.1

/-- A row of the next execution leads on from the states that are loaded. -/
theorem Holds.append {db : Db} {calls : List Call} {loaded : States}
    (h : Holds H heads db calls states) (call : Call) {work : List (Option Artifact)}
    (hwork : (work.filterMap id).foldlM (loadPage H) states = .ok loaded) :
    Holds H heads { db with executions := db.executions ++
      [⟨call.now, call.integrationId, recoveryIdentity H heads, work⟩] } (calls ++ [call])
        loaded := by
  refine ⟨h.sameHeads, fun e he => ?_, ?_, ?_⟩
  · rcases List.mem_append.mp he with he | he
    · exact h.own e he
    · obtain rfl := List.mem_singleton.mp he
      rfl
  · simp [h.keys, Execution.key, Call.key]
  · rw [chainOf_append _ h.chain]
    exact hwork

theorem Holds.enter {db : Db} {calls : List Call} {call : Call} (h : Holds H heads db calls states)
    (hordered : ((calls ++ [call]).map Call.key).Pairwise KeyBefore) :
    loadRecoveryChain H (db.executions ++
      [⟨call.now, call.integrationId, recoveryIdentity H heads, []⟩]) heads
        (recoveryIdentity H heads) = .ok (states, (calls ++ [call]).length) := by
  have hrow : Holds H heads { db with executions := db.executions ++
      [⟨call.now, call.integrationId, recoveryIdentity H heads, []⟩] } (calls ++ [call]) states :=
    h.append call rfl
  exact hrow.load hordered

/-- The next execution loads the states, works from them and writes its row. -/
theorem Holds.run {db : Db} {calls : List Call} {call : Call} {loaded : States}
    (h : Holds H heads db calls states)
    (hordered : ((calls ++ [call]).map Call.key).Pairwise KeyBefore)
    (hwork : ((nextWork H states (calls.length + 1) call).filterMap id).foldlM (loadPage H)
      states = .ok loaded) :
    Holds H heads (runCursorContinuityRecovery H db call).1 (calls ++ [call]) loaded ∧
      (runCursorContinuityRecovery H db call).1.executions = db.executions ++
        [⟨call.now, call.integrationId, recoveryIdentity H heads,
          nextWork H states (calls.length + 1) call⟩] := by
  have hload := h.enter hordered
  have hrun : (runCursorContinuityRecovery H db call).1 = { db with executions := db.executions ++
      [⟨call.now, call.integrationId, recoveryIdentity H heads,
        nextWork H states (calls.length + 1) call⟩] } := by
    unfold runCursorContinuityRecovery nextWork
    simp only [h.sameHeads, hload, List.length_append, List.length_singleton]
    split_ifs <;> rfl
  refine ⟨?_, by rw [hrun]⟩
  rw [hrun]
  exact h.append call hwork

/-- What the next execution ends with. -/
theorem Holds.outcome {db : Db} {calls : List Call} {call : Call}
    (h : Holds H heads db calls states)
    (hordered : ((calls ++ [call]).map Call.key).Pairwise KeyBefore) :
    (runCursorContinuityRecovery H db call).2 =
      if recoveryMaxExecutions < calls.length + 1 then some recoveryBoundExhausted
      else
        match (performCall H states call).2.2 with
        | some code => some code
        | none =>
          if call.transports.length < (openOperations states).length then none
          else some (terminalCause (performCall H states call).1 (calls.length + 1)) := by
  have hload := h.enter hordered
  unfold runCursorContinuityRecovery
  simp only [h.sameHeads, hload, List.length_append, List.length_singleton]
  split_ifs <;> rfl

theorem operations_mem : ∀ op ∈ operations, op.2 ∈ cursorNamespaces := by
  intro op hop
  obtain ⟨i, -, hop⟩ := List.mem_flatMap.mp hop
  obtain ⟨ns, hns, rfl⟩ := List.mem_map.mp hop
  exact hns

theorem openOperations_mem : ∀ op ∈ openOperations states, op.2 ∈ cursorNamespaces := by
  intro op hop
  unfold openOperations at hop
  split_ifs at hop
  · cases hop
  · exact operations_mem op hop

/-- An execution that is served keeps the invariant of every namespace. -/
theorem performCall_performed (hI : Preserved H step I) {w w' : W} {call : Call}
    {pages : Namespace → List Artifact} (hserved : Served step w call.transports w')
    (hstates : ∀ ns ∈ cursorNamespaces, I w ns (pages ns) (states ns)) :
    ∃ loaded, Performed H step I w' pages states (performCall H states call) loaded :=
  performOperations_performed hI openOperations_mem hserved hstates

theorem Served.init {calls : List Call} {call : Call} {w w' : W}
    (h : Served step w ((calls ++ [call]).flatMap Call.transports) w') :
    ∃ mid, Served step w (calls.flatMap Call.transports) mid ∧
      Served step mid call.transports w' := by
  rw [List.flatMap_append, List.flatMap_singleton] at h
  exact h.split

theorem ordered_init {calls : List Call} {call : Call}
    (h : ((calls ++ [call]).map Call.key).Pairwise KeyBefore) :
    (calls.map Call.key).Pairwise KeyBefore := by
  rw [List.map_append] at h
  exact (List.pairwise_append.mp h).1

/-- What every committed page keeps holds of the states that are loaded after any history. -/
theorem history_holds (hI : Preserved H step I) {w : W}
    (hinitial : ∀ ns ∈ cursorNamespaces,
      I w ns [] (initialStates heads (recoveryIdentity H heads) ns))
    {calls : List Call} : ∀ {w' : W}, (calls.map Call.key).Pairwise KeyBefore →
      Served step w (calls.flatMap Call.transports) w' →
        ∃ states, Holds H heads (history H heads calls) calls states ∧ ∀ ns ∈ cursorNamespaces,
          I w' ns (storedPages (history H heads calls).executions ns) (states ns) := by
  induction calls using List.reverseRecOn with
  | nil =>
    intro w' _ hserved
    cases hserved
    refine ⟨initialStates heads (recoveryIdentity H heads), ⟨rfl, ?_, rfl, rfl⟩, hinitial⟩
    intro e he
    cases he
  | append_singleton calls call ih =>
    intro w' hordered hserved
    obtain ⟨w₁, hbefore, hcall⟩ := hserved.init
    obtain ⟨states, hholds, hstates⟩ := ih (ordered_init hordered) hbefore
    rw [history_append]
    by_cases hmany : recoveryMaxExecutions < calls.length + 1
    · have hnone : nextWork H states (calls.length + 1) call = [] := if_pos hmany
      obtain ⟨hnext, hexecutions⟩ := hholds.run hordered (by rw [hnone]; rfl)
      refine ⟨states, hnext, fun ns hns => ?_⟩
      rw [hexecutions, hnone, storedPages, List.flatMap_append, List.flatMap_singleton,
        List.append_nil]
      exact hcall.mono hI (hstates ns hns)
    · have hsome : nextWork H states (calls.length + 1) call = (performCall H states call).2.1 :=
        if_neg hmany
      obtain ⟨loaded, hperformed⟩ := performCall_performed hI hcall hstates
      obtain ⟨hnext, hexecutions⟩ := hholds.run hordered (by rw [hsome]; exact hperformed.chain)
      refine ⟨loaded, hnext, fun ns hns => ?_⟩
      rw [hexecutions, hsome, storedPages, List.flatMap_append, List.flatMap_singleton,
        ownPages_append]
      exact hperformed.kept ns hns

end PrinterV1.OperatorCli.CursorRecovery
