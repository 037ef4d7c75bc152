import PrinterV1.OperatorCli.CursorRecoveryRuns

/-!
# Recovery with any transport

The transport may answer anything, and an execution may end between any two of
its operations. The next execution still goes on where the one before was, and
the rows collected so far are those of one walk back from the tip.
-/

namespace PrinterV1.OperatorCli.CursorRecovery

open Python Discovery Faults

variable {H : Hashes} {s after : State} {localPage : ℕ} {rpc : Rpc} {ns : Namespace}

/-- A transport may answer anything. -/
def anyAnswer (_ : Unit) (_ : Rpc) (_ : Unit) : Prop := True

theorem served_anyAnswer (transports : List Rpc) : Served anyAnswer () transports () := by
  induction transports with
  | nil => exact .done ()
  | cons rpc rest ih => exact .answer (show anyAnswer () rpc () from trivial) ih

theorem preserved_ready : Preserved H anyAnswer fun _ ns _ s => Ready ns s where
  ready h := h
  mono _ h := h
  page _ _ hs h := hs.executePage h

/-- Executions that start one after another, those of one time in the order of their ids: what the
last operation with a row of its work leaves in memory is what the next execution loads, whatever
the transport answered and wherever the execution ended; only the code it failed with is gone. An
operation that was cut off before its row is written is lost with its page. -/
theorem recovery_resumes (H : Hashes) (heads : Namespace → Option Head) (calls : List Call)
    (call : Call) (hordered : ((calls ++ [call]).map Call.key).Pairwise KeyBefore)
    (hfew : calls.length < recoveryMaxExecutions) :
    ∃ before after,
      loadRecoveryChain H (history H heads calls).executions heads (recoveryIdentity H heads) =
          .ok (before, calls.length) ∧
        loadRecoveryChain H (history H heads (calls ++ [call])).executions heads
            (recoveryIdentity H heads) = .ok (after, calls.length + 1) ∧
        (∀ ns, (performCall H before call).1 ns = { after ns with
          terminalCategory := ((performCall H before call).1 ns).terminalCategory }) ∧
        ((performCall H before call).2.2 = none → after = (performCall H before call).1) := by
  have hfirst := ordered_init hordered
  obtain ⟨before, hholds, hready⟩ : ∃ before, Holds H heads (history H heads calls) calls before ∧
      ∀ ns ∈ cursorNamespaces, Ready ns (before ns) :=
    history_holds preserved_ready (fun ns _ => ready_initialState ns _ _) hfirst
      (served_anyAnswer _)
  obtain ⟨after, hperformed⟩ : ∃ after, Performed H anyAnswer (fun _ ns _ s => Ready ns s) ()
      (fun _ => []) before (performCall H before call) after :=
    performCall_performed preserved_ready (served_anyAnswer _) hready
  have hwork : nextWork H before (calls.length + 1) call = (performCall H before call).2.1 :=
    if_neg (by omega)
  obtain ⟨hnext, -⟩ := hholds.run hordered (by rw [hwork]; exact hperformed.chain)
  refine ⟨before, after, hholds.load hfirst, ?_, hperformed.memory, hperformed.unfailed⟩
  rw [history_append, hnext.load hordered, List.length_append, List.length_singleton]

/-- Hashes that tell nothing apart. -/
def flatHashes : Hashes := ⟨fun _ => "", fun _ => ""⟩

def someHeads (_ : Namespace) : Option Head := some ⟨3, "a", 1⟩

/-- A transport that answers with two signatures above the head. -/
def onePage : Rpc
  | .getTransaction _ => .ok (.dict [])
  | .getSignaturesForAddress _ _ _ =>
    .ok (.list [.dict [("signature", .str "c"), ("slot", .int 7)],
      .dict [("signature", .str "b"), ("slot", .int 5)]])

/-- An execution that is cut off behind its first page. -/
def cutCall : Call := ⟨"1", "i", [onePage]⟩

theorem loadRecoveryChain_nil (H : Hashes) (heads : Namespace → Option Head) (recoveryId : String) :
    loadRecoveryChain H [] heads recoveryId = .ok (initialStates heads recoveryId, 0) := by
  simp [loadRecoveryChain, pure, Except.pure, bind, Except.bind]

/-- The next execution goes on behind the page of the first namespace. -/
theorem recovery_resumes_cut :
    ∃ after,
      loadRecoveryChain flatHashes (history flatHashes someHeads ([] ++ [cutCall])).executions
          someHeads (recoveryIdentity flatHashes someHeads) = .ok (after, 1) ∧
        (cursorNamespaces.map fun ns => (after ns).continuation) = [some ⟨5, "b"⟩, none] := by
  obtain ⟨before, after, hbefore, hafter, -, hmemory⟩ :=
    recovery_resumes flatHashes someHeads [] cutCall (by decide) (by decide)
  have hinitial : before = initialStates someHeads (recoveryIdentity flatHashes someHeads) :=
    (congrArg Prod.fst (Except.ok.inj ((loadRecoveryChain_nil _ _ _).symm.trans hbefore))).symm
  subst hinitial
  refine ⟨after, hafter, ?_⟩
  rw [hmemory (by decide +kernel)]
  decide +kernel

/-- The rows of pages. -/
def rowsOf (pages : List Artifact) : List SignatureRow := pages.flatMap fun a => a.page.pageRows

/-- What a state says of the rows that were collected for it: they are each there once and do not
go forward, none is behind the head, and the head is reached with the last of them. -/
structure Collected (head : Option Head) (rows : List SignatureRow) (s : State) : Prop where
  start : s.authoritativeStart = head
  tip : s.recoveryTip = rows.head?.map SignatureRow.position
  continuation : s.continuation = rows.getLast?.map SignatureRow.position
  seen : ∀ k, k ∈ s.seenSignatures ↔ k ∈ rows.map SignatureRow.signature
  distinct : (rows.map SignatureRow.signature).Nodup
  slots : rows.Pairwise fun a b => b.slot ≤ a.slot
  inside : ∀ h ∈ head, ∀ r ∈ rows, r.signature = h.boundarySignature ∨ h.boundarySlot ≤ r.slot
  boundary : ∀ h ∈ head, ∀ r ∈ rows, r.signature = h.boundarySignature →
    s.boundaryReached = true ∧ rows.getLast? = some r
  reached : s.boundaryReached = true → ∀ h ∈ head, ∃ r ∈ rows, r.signature = h.boundarySignature

theorem collected_initialState (head : Option Head) (recoveryId : String) :
    Collected head [] (initialState ns head recoveryId) where
  start := rfl
  tip := rfl
  continuation := rfl
  seen _ := Iff.rfl
  distinct := List.nodup_nil
  slots := List.Pairwise.nil
  inside _ _ _ hr := nomatch hr
  boundary _ _ _ hr := nomatch hr
  reached h := nomatch h

theorem last_le {rows : List SignatureRow} (h : rows.Pairwise fun a b => b.slot ≤ a.slot)
    {l : SignatureRow} (hl : rows.getLast? = some l) : ∀ r ∈ rows, l.slot ≤ r.slot := by
  obtain ⟨front, rfl⟩ := List.getLast?_eq_some_iff.mp hl
  intro r hr
  rcases List.mem_append.mp hr with hr | hr
  · exact (List.pairwise_append.mp h).2.2 r hr l (List.mem_singleton.mpr rfl)
  · obtain rfl := List.mem_singleton.mp hr
    exact le_rfl

theorem Collected.advance {head : Option Head} {rows more : List SignatureRow} {found : Bool}
    (hs : Collected head rows s) (hopen : s.boundaryReached = false)
    (hscanned : Scanned s.authoritativeStart s.seenSignatures (s.continuation.map Position.slot)
      more found) (hmore : more ≠ []) (ordinal : ℕ) :
    Collected head (rows ++ more) { s.advance more found with recoveryPageOrdinal := ordinal } := by
  obtain ⟨hnew, hnodup, hslots⟩ := checkRows_ok hscanned.checked
  rw [hs.start] at hscanned
  have hlast : (rows ++ more).getLast? = more.getLast? := by
    rw [List.getLast?_append]
    obtain ⟨l, hl⟩ := Option.isSome_iff_exists.mp (List.getLast?_isSome.mpr hmore)
    rw [hl]
    rfl
  constructor
  · exact hs.start
  · change (s.recoveryTip.orElse fun _ => more.head?.map SignatureRow.position) = _
    rw [hs.tip]
    cases rows <;> rfl
  · rw [hlast]
    rfl
  · intro k
    change k ∈ sortedSignatures _ ↔ _
    rw [mem_sortedSignatures, List.mem_append, List.mem_reverse, hs.seen, List.map_append,
      List.mem_append]
    exact or_comm
  · rw [List.map_append]
    refine List.nodup_append.mpr ⟨hs.distinct, hnodup, fun k hk k' hk' heq => ?_⟩
    obtain ⟨r, hr, rfl⟩ := List.mem_map.mp hk'
    exact (hnew r hr).1 ((hs.seen _).mpr (heq ▸ hk))
  · refine List.pairwise_append.mpr ⟨hs.slots, hslots, fun r hr r' hr' => ?_⟩
    obtain ⟨l, hl⟩ := Option.isSome_iff_exists.mp
      (List.getLast?_isSome.mpr (List.ne_nil_of_mem hr))
    have hcontinuation : l.slot ∈ s.continuation.map Position.slot := by
      rw [hs.continuation, hl]
      rfl
    exact ((hnew r' hr').2 l.slot hcontinuation).trans (last_le hs.slots hl r hr)
  · intro h hh r hr
    rcases List.mem_append.mp hr with hr | hr
    · exact hs.inside h hh r hr
    · exact hscanned.inside h hh r hr
  · intro h hh r hr heq
    rcases List.mem_append.mp hr with hr | hr
    · have hreached := (hs.boundary h hh r hr heq).1
      rw [hopen] at hreached
      cases hreached
    · obtain ⟨rfl, hend⟩ := hscanned.boundary h hh r hr heq
      exact ⟨rfl, hlast.trans hend⟩
  · intro hreached h hh
    have hfound : found = true := by
      change (found || s.authoritativeStart.isNone) = true at hreached
      rw [hs.start, Option.mem_def.mp hh] at hreached
      simpa using hreached
    obtain ⟨h', hh', r, hr, heq⟩ := hscanned.found hfound
    rw [Option.mem_def.mp hh] at hh'
    obtain rfl := Option.some.inj hh'
    exact ⟨r, List.mem_append_right _ hr, heq⟩

theorem Collected.executePage {head : Option Head} {rows : List SignatureRow} {a : Artifact}
    (hs : Collected head rows s) (h : executePage H s localPage rpc = (after, .committed a)) :
    Collected head (rows ++ a.page.pageRows) after := by
  obtain ⟨hopen, more, advanced, hread, rfl, rfl⟩ := executePage_committed h
  obtain ⟨raw, -, ⟨-, hstart, rfl, rfl⟩ | ⟨found, -, hscanned, hmore, rfl⟩⟩ := readPage_ok hread
  · have hnone : head = none := hs.start.symm.trans hstart
    subst hnone
    change Collected none (rows ++ []) _
    rw [List.append_nil]
    exact ⟨hs.start, hs.tip, hs.continuation, hs.seen, hs.distinct, hs.slots,
      (fun h hh => nomatch hh), (fun h hh => nomatch hh), fun _ h hh => nomatch hh⟩
  · exact hs.advance hopen hscanned hmore _

theorem preserved_collected (heads : Namespace → Option Head) :
    Preserved H anyAnswer fun _ ns pages s =>
      Ready ns s ∧ Collected (heads ns) (rowsOf pages) s where
  ready h := h.1
  mono _ h := h
  page _ _ hs h := by
    refine ⟨hs.1.executePage h, ?_⟩
    have hpages := hs.2.executePage h
    simpa [rowsOf] using hpages

/-- Whatever the transport answered and wherever the executions ended, the pages that are stored
are read without an error, and the states say of their rows what is asked of a collection, if the
executions start one after another, those of one time in the order of their ids. -/
theorem recovery_collects (H : Hashes) (heads : Namespace → Option Head) (calls : List Call)
    (hordered : (calls.map Call.key).Pairwise KeyBefore) :
    ∃ states, loadRecoveryChain H (history H heads calls).executions heads
        (recoveryIdentity H heads) = .ok (states, calls.length) ∧
      ∀ ns ∈ cursorNamespaces, Collected (heads ns)
        (rowsOf (storedPages (history H heads calls).executions ns)) (states ns) := by
  obtain ⟨states, hholds, hstates⟩ : ∃ states, Holds H heads (history H heads calls) calls states ∧
      ∀ ns ∈ cursorNamespaces, Ready ns (states ns) ∧
        Collected (heads ns) (rowsOf (storedPages (history H heads calls).executions ns))
          (states ns) :=
    history_holds (preserved_collected heads)
      (fun ns _ => ⟨ready_initialState ns _ _, collected_initialState _ _⟩) hordered
      (served_anyAnswer _)
  exact ⟨states, hholds.load hordered, fun ns hns => (hstates ns hns).2⟩

/-- What a first execution stores. -/
theorem executions_single (H : Hashes) (heads : Namespace → Option Head) (call : Call) :
    (history H heads [call]).executions.flatMap Execution.work =
      (performCall H (initialStates heads (recoveryIdentity H heads)) call).2.1 := by
  simp [history, runCursorContinuityRecovery, loadRecoveryChain, recoveryMaxExecutions, pure,
    Except.pure, bind, Except.bind]

theorem recovery_collects_cut :
    ∃ states, loadRecoveryChain flatHashes (history flatHashes someHeads [cutCall]).executions
        someHeads (recoveryIdentity flatHashes someHeads) = .ok (states, 1) ∧
      (∀ ns ∈ cursorNamespaces, Collected (someHeads ns) (rowsOf (storedPages
        (history flatHashes someHeads [cutCall]).executions ns)) (states ns)) ∧
      (cursorNamespaces.map fun ns => (rowsOf (storedPages
        (history flatHashes someHeads [cutCall]).executions ns)).map SignatureRow.signature) =
          [["c", "b"], []] := by
  obtain ⟨states, hload, hcollected⟩ :=
    recovery_collects flatHashes someHeads [cutCall] (by decide)
  refine ⟨states, hload, hcollected, ?_⟩
  simp only [storedPages, executions_single]
  decide +kernel

end PrinterV1.OperatorCli.CursorRecovery
