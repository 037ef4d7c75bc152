import PrinterV1.OperatorCli.CursorRecoveryExact

/-!
# Recovery to its end

With a provider that keeps to the chain, executions that may end anywhere
collect exactly the segment of each namespace, and executions that end by
themselves reach its end after a number of them that its length bounds.
-/

namespace PrinterV1.OperatorCli.CursorRecovery

open Python Discovery Faults Paging

variable {H : Hashes} {s after : State} {localPage : ℕ} {rpc : Rpc} {ns : Namespace}
  {heads : Namespace → Option Head} {origin chains chains' : Chains} {calls : List Call}

/-- What the pages and the state of a namespace have to do with its chain. -/
def Followed (origin : Chains) (heads : Namespace → Option Head) (chains : Chains) (ns : Namespace)
    (pages : List Artifact) (s : State) : Prop :=
  Ready ns s ∧ Collected (heads ns) (rowsOf pages) s ∧
    ∃ base, Exact (origin ns) (heads ns) (chains ns) pages s base

theorem preserved_followed
    (hheads : ∀ ns ∈ cursorNamespaces, ∀ h ∈ heads ns, h.position ∈ origin ns) :
    Preserved H Moves (Followed origin heads) where
  ready h := h.1
  mono hstep h := by
    obtain ⟨hready, hcollected, base, hexact⟩ := h
    exact ⟨hready, hcollected, base, hexact.mono (hstep.grown _)⟩
  page hns hstep hs h := by
    obtain ⟨hready, hcollected, base, hexact⟩ := hs
    refine ⟨hready.executePage h, ?_,
      hexact.page hcollected hready.key hns hstep (hheads _ hns) h⟩
    rw [rowsOf_append]
    exact hcollected.executePage h

theorem unfailing_followed
    (hheads : ∀ ns ∈ cursorNamespaces, ∀ h ∈ heads ns, h.position ∈ origin ns) :
    Unfailing H Moves (Followed origin heads) := by
  intro chains chains' rpc ns pages s localPage after code hns hstep hs
  obtain ⟨hready, hcollected, base, hexact⟩ := hs
  exact hexact.unfailing hcollected hready.key hns hstep (hheads _ hns)

theorem followed_initialState (origin : Chains) (heads : Namespace → Option Head)
    (recoveryId : String) (ns : Namespace) :
    Followed origin heads origin ns [] (initialStates heads recoveryId ns) :=
  ⟨ready_initialState ns _ _, collected_initialState _ _, origin ns,
    exact_initialState _ _ (List.suffix_refl _)⟩

/-- The chains of a history: what the provider holds before it and behind it, with the heads in the
chains and every answer from them. The executions start one after another, those of one time in
the order of their ids. -/
structure Honest (heads : Namespace → Option Head) (chains : Chains) (calls : List Call)
    (chains' : Chains) : Prop where
  ok : ∀ ns ∈ cursorNamespaces, ChainOk (chains ns)
  heads : ∀ ns ∈ cursorNamespaces, ∀ h ∈ heads ns, h.position ∈ chains ns
  ordered : (calls.map Call.key).Pairwise KeyBefore
  served : Served Moves chains (calls.flatMap Call.transports) chains'

theorem chainOk_of_served {transports : List Rpc} (h : Served Moves chains transports chains')
    (hok : ∀ ns ∈ cursorNamespaces, ChainOk (chains ns)) :
    ∀ ns ∈ cursorNamespaces, ChainOk (chains' ns) := by
  induction h with
  | done => exact hok
  | answer hstep _ ih => exact ih hstep.ok

theorem Honest.chainOk (h : Honest heads chains calls chains') (hns : ns ∈ cursorNamespaces) :
    ChainOk (chains' ns) := chainOk_of_served h.served h.ok ns hns

theorem Honest.followed (h : Honest heads chains calls chains') (H : Hashes) :
    ∃ states, Holds H heads (history H heads calls) calls states ∧ ∀ ns ∈ cursorNamespaces,
      Followed chains heads chains' ns (storedPages (history H heads calls).executions ns)
        (states ns) :=
  history_holds (preserved_followed h.heads) (fun ns _ => followed_initialState chains heads _ ns)
    h.ordered h.served

/-- Where the head is reached, the segment is there as a whole. -/
theorem Exact.complete {began chain base : List Position} {head : Option Head}
    {pages : List Artifact} (h : Exact began head chain pages s base)
    (hs : Collected head (rowsOf pages) s) (hchain : ChainOk chain)
    (hheads : ∀ h ∈ head, h.position ∈ began) (hreached : s.boundaryReached = true) :
    (rowsOf pages).map SignatureRow.position = segment head base := by
  rw [h.rows]
  refine List.take_of_length_le ?_
  cases head with
  | none =>
    have hpages := List.length_pos_iff.mpr (h.paged hreached)
    rw [segment, List.length_take]
    exact (Nat.min_le_left _ _).trans (Nat.le_mul_of_pos_right _ hpages)
  | some hd =>
    obtain ⟨pre, post, hsplit, hfresh⟩ :=
      (hchain.of_suffix h.within).split (h.began.mem (hheads hd rfl))
    rw [hsplit, segment_of_split hfresh]
    by_contra hshort
    obtain ⟨r, hr, hsame⟩ := hs.reached hreached hd rfl
    have hmem : r.position ∈ (rowsOf pages).map SignatureRow.position := List.mem_map_of_mem hr
    rw [List.length_append, List.length_singleton] at hshort
    rw [h.rows, hsplit, segment_of_split hfresh, List.take_append_of_le_length (by omega)] at hmem
    exact hfresh r.position (List.mem_of_mem_take hmem) hsame

theorem length_segment_le {base chain : List Position} {hd : Head} (hbase : base <:+ chain)
    (hchain : ChainOk chain) (hmem : hd.position ∈ base) :
    (segment (some hd) base).length ≤ (segment (some hd) chain).length := by
  obtain ⟨new, rfl⟩ := hbase
  obtain ⟨pre, post, rfl⟩ := List.append_of_mem hmem
  have hnodup := hchain.distinct
  rw [← List.append_assoc] at hnodup
  have hfresh : ∀ p ∈ new ++ pre, p.signature ≠ hd.boundarySignature := fresh_of_nodup hnodup
  rw [segment_of_split fun p hp => hfresh p (List.mem_append_right _ hp), ← List.append_assoc,
    segment_of_split hfresh]
  simp

section Counts

variable {W : Type*} {step : W → Rpc → W → Prop} {I : W → Namespace → List Artifact → State → Prop}

/-- A namespace that is reached stays so. -/
theorem performOperations_reached {ops : List ((ℕ × Namespace) × Rpc)} : ∀ {states : States},
    (states ns).boundaryReached = true →
      ((performOperations H states ops).1 ns).boundaryReached = true := by
  induction ops with
  | nil => exact fun h => h
  | cons op ops ih =>
    intro states h
    obtain ⟨⟨localPage, ns'⟩, rpc⟩ := op
    cases hpage : executePage H (states ns') localPage rpc with
    | mk state outcome =>
      cases outcome with
      | failed code =>
        rw [performOperations_failed hpage]
        rcases eq_or_ne ns ns' with rfl | hne
        · simpa only [Function.update_self] using h
        · simpa only [Function.update_of_ne hne] using h
      | idle =>
        rw [performOperations_idle hpage]
        exact ih h
      | committed a =>
        rw [performOperations_committed hpage]
        refine ih ?_
        rcases eq_or_ne ns ns' with rfl | hne
        · rw [executePage_reached h] at hpage
          cases (Prod.mk.inj hpage).2
        · rwa [Function.update_of_ne hne]

/-- Operations that do not fail each commit a page of their namespace, until it is reached. -/
theorem performOperations_count (hI : Preserved H step I) (hsure : Unfailing H step I)
    {ops : List (ℕ × Namespace)} (hops : ∀ op ∈ ops, op.2 ∈ cursorNamespaces) :
    ∀ {transports : List Rpc} {w w' : W} {states : States} {pages : Namespace → List Artifact},
      Served step w transports w' → ops.length ≤ transports.length →
        (∀ ns ∈ cursorNamespaces, I w ns (pages ns) (states ns)) →
          ((performOperations H states (ops.zip transports)).1 ns).boundaryReached = true ∨
            (ownPages (performOperations H states (ops.zip transports)).2.1 ns).length =
              ops.countP fun op => op.2 = ns := by
  induction ops with
  | nil =>
    intro transports w w' states pages _ _ _
    exact Or.inr rfl
  | cons op ops ih =>
    intro transports w w' states pages hserved hlength hstates
    obtain ⟨localPage, ns'⟩ := op
    have hns : ns' ∈ cursorNamespaces := hops _ List.mem_cons_self
    have hrest : ∀ op ∈ ops, op.2 ∈ cursorNamespaces :=
      fun op hop => hops op (List.mem_cons_of_mem _ hop)
    cases hserved with
    | done => cases hlength
    | answer hstep hserved =>
      rename_i w₁ rpc transports
      have hlength' : ops.length ≤ transports.length := Nat.le_of_succ_le_succ hlength
      rw [List.zip_cons_cons]
      cases hpage : executePage H (states ns') localPage rpc with
      | mk state outcome =>
        cases outcome with
        | failed code => exact absurd hpage (hsure hns hstep (hstates ns' hns))
        | idle =>
          rw [performOperations_idle hpage]
          rcases eq_or_ne ns' ns with rfl | hne
          · exact Or.inl (performOperations_reached (reached_of_idle hpage))
          · rw [ownPages_cons_none, List.countP_cons_of_neg (by simpa using hne)]
            exact ih hrest hserved hlength' fun ns hns => hI.mono hstep (hstates ns hns)
        | committed a =>
          rw [performOperations_committed hpage]
          have hkey := namespace_executePage (hI.ready (hstates ns' hns)) hpage
          have hstates' := hI.committed hns hstep hstates hpage
          refine (ih hrest hserved hlength' hstates').imp id fun hcount => ?_
          rcases eq_or_ne ns' ns with rfl | hne
          · rw [ownPages_cons_some hkey, List.length_cons, hcount,
              List.countP_cons_of_pos (by simp)]
          · rw [ownPages_cons_other (hkey.trans_ne hne), hcount,
              List.countP_cons_of_neg (by simpa using hne)]

theorem Holds.unique {db : Db} {states states' : States} (h : Holds H heads db calls states)
    (h' : Holds H heads db calls states') : states = states' :=
  Except.ok.inj (h.chain.symm.trans h'.chain)

theorem countP_operations (hns : ns ∈ cursorNamespaces) :
    (operations.countP fun op => op.2 = ns) = recoveryPagesPerNamespace := by
  simp only [cursorNamespaces, List.mem_cons, List.not_mem_nil, or_false] at hns
  rcases hns with rfl | rfl <;> decide

/-- Executions that end by themselves leave four pages each, until the namespace is reached. -/
theorem history_count (hI : Preserved H step I) (hsure : Unfailing H step I) {w : W}
    (hinitial : ∀ ns ∈ cursorNamespaces,
      I w ns [] (initialStates heads (recoveryIdentity H heads) ns))
    (hns : ns ∈ cursorNamespaces) {calls : List Call} : ∀ {w' : W} {states : States},
      (calls.map Call.key).Pairwise KeyBefore → Served step w (calls.flatMap Call.transports) w' →
        (∀ call ∈ calls, operations.length ≤ call.transports.length) →
          calls.length ≤ recoveryMaxExecutions →
            Holds H heads (history H heads calls) calls states →
              (states ns).boundaryReached = true ∨ recoveryPagesPerNamespace * calls.length ≤
                (storedPages (history H heads calls).executions ns).length := by
  induction calls using List.reverseRecOn with
  | nil =>
    intro w' states _ _ _ _ _
    exact Or.inr (Nat.zero_le _)
  | append_singleton calls call ih =>
    intro w' states hordered hserved hlong hfew hholds
    obtain ⟨w₁, hbefore, hcall⟩ := hserved.init
    have hfirst := ordered_init hordered
    rw [List.length_append, List.length_singleton] at hfew
    obtain ⟨before, hholds₀, hbeforeI⟩ := history_holds hI hinitial hfirst hbefore
    obtain ⟨loaded, hperformed⟩ := performCall_performed hI hcall hbeforeI
    have hwork : nextWork H before (calls.length + 1) call = (performCall H before call).2.1 :=
      if_neg (by omega)
    obtain ⟨hnext, hexecutions⟩ :=
      hholds₀.run hordered (by rw [hwork]; exact hperformed.chain)
    rw [history_append] at hholds ⊢
    obtain rfl := hholds.unique hnext
    rw [hperformed.unfailed (hperformed.sure hsure)]
    have hlongCall : operations.length ≤ call.transports.length :=
      hlong call (List.mem_append_right _ (List.mem_singleton.mpr rfl))
    rcases ih hfirst hbefore (fun c hc => hlong c (List.mem_append_left _ hc)) (by omega) hholds₀
      with hreached | hcount
    · exact Or.inl (performOperations_reached hreached)
    · by_cases hall : allReached before = true
      · exact Or.inl (performOperations_reached (List.all_eq_true.mp hall ns hns))
      · have hopen : openOperations before = operations := if_neg hall
        have hpages : ((performOperations H before (operations.zip call.transports)).1
            ns).boundaryReached = true ∨ (ownPages (performOperations H before
              (operations.zip call.transports)).2.1 ns).length =
                operations.countP fun op => op.2 = ns :=
          performOperations_count hI hsure operations_mem hcall hlongCall hbeforeI
        rw [← hopen] at hpages
        refine hpages.imp id fun hown => ?_
        rw [hopen, countP_operations hns] at hown
        rw [hexecutions, hwork, storedPages, List.flatMap_append, List.flatMap_singleton,
          ownPages_append, List.length_append, List.length_append, List.length_singleton]
        rw [storedPages] at hcount
        change _ ≤ _ + (ownPages (performOperations H before
          ((openOperations before).zip call.transports)).2.1 ns).length
        rw [hopen, hown, Nat.mul_add, Nat.mul_one]
        exact Nat.add_le_add_right hcount _

end Counts

def rawOf (p : Position) : Dict := [("signature", .str p.signature), ("slot", .int p.slot)]

/-- The transport of a chain that does not grow. -/
def answering (chain : List Position) : Rpc
  | .getTransaction _ => .ok (.dict [])
  | .getSignaturesForAddress _ before limit =>
    .ok (.list ((((behind Position.signature before chain).take limit).map rawOf).map .dict))

theorem identity?_rawOf {p : Position} (hsignature : p.signature ≠ "") (hslot : 0 ≤ p.slot) :
    identity? (rawOf p) = some p := by
  have hgetSignature : (rawOf p).get "signature" = .str p.signature := rfl
  have hgetSlot : (rawOf p).get "slot" = .int p.slot := rfl
  simp only [identity?, hgetSignature, hgetSlot, ne_eq, hsignature, not_false_eq_true, hslot,
    and_self, if_true]

theorem behind_subset {before : Option String} {chain : List Position} :
    ∀ p ∈ behind Position.signature before chain, p ∈ chain := by
  intro p hp
  cases before with
  | none => exact hp
  | some k => exact (List.dropWhile_sublist _).mem (List.mem_of_mem_tail hp)

theorem moves_answering {chain : List Position} (hchain : ChainOk chain)
    (hslots : ∀ p ∈ chain, 0 ≤ p.slot) :
    Moves (fun _ => chain) (answering chain) fun _ => chain where
  grown _ := List.suffix_refl _
  ok _ _ := hchain
  answers :=
    { transaction := fun _ _ _ _ => ⟨[], rfl⟩
      page := fun ns _ before limit => by
        refine ⟨((behind Position.signature before chain).take limit).map rawOf, rfl, ?_⟩
        rw [List.map_map]
        refine List.map_congr_left fun p hp => ?_
        have hmem := behind_subset p (List.mem_of_mem_take hp)
        exact identity?_rawOf (hchain.signatures p hmem) (hslots p hmem) }

theorem served_replicate {W : Type*} {step : W → Rpc → W → Prop} {w : W} (h : step w rpc w)
    (n : ℕ) : Served step w (List.replicate n rpc) w := by
  induction n with
  | zero => exact .done w
  | succ n ih => exact .answer h ih

/-- Two new signatures above the head, in one execution. -/
def twoNew : List Position := [⟨7, "c"⟩, ⟨5, "b"⟩, ⟨3, "a"⟩]

def twoNewCall : Call := ⟨"1", "i", List.replicate operations.length (answering twoNew)⟩

def twoNewHeads (_ : Namespace) : Option Head := some ⟨3, "a", 1⟩

theorem honest_twoNew : Honest twoNewHeads (fun _ => twoNew) ([] ++ [twoNewCall])
    fun _ => twoNew where
  ok _ _ := ⟨by decide, by decide, by decide⟩
  heads := by
    intro ns _ h hh
    obtain rfl := Option.some.inj hh
    decide
  ordered := by simp
  served := by
    have hmoves : Moves (fun _ => twoNew) (answering twoNew) fun _ => twoNew :=
      moves_answering ⟨by decide, by decide, by decide⟩ (by decide)
    simpa [twoNewCall] using served_replicate hmoves operations.length

/-- Wherever the executions ended, what is stored of a namespace is its segment, cut off after the
pages that were read; and all of it, once the head is reached. As everything about an honest
history, it is about executions in the order of their starts. -/
theorem recovery_exact (H : Hashes) (h : Honest heads chains calls chains') :
    ∃ states, loadRecoveryChain H (history H heads calls).executions heads
        (recoveryIdentity H heads) = .ok (states, calls.length) ∧
      ∀ ns ∈ cursorNamespaces, ∃ base, chains ns <:+ base ∧ base <:+ chains' ns ∧
        let pages := storedPages (history H heads calls).executions ns
        (rowsOf pages).map SignatureRow.position =
            (segment (heads ns) base).take (recoverySignaturesPerPage * pages.length) ∧
          ((states ns).boundaryReached = true →
            (rowsOf pages).map SignatureRow.position = segment (heads ns) base) := by
  obtain ⟨states, hholds, hfollowed⟩ := h.followed H
  refine ⟨states, hholds.load h.ordered, fun ns hns => ?_⟩
  obtain ⟨-, hcollected, base, hexact⟩ := hfollowed ns hns
  exact ⟨base, hexact.began, hexact.within, hexact.rows,
    hexact.complete hcollected (h.chainOk hns) (h.heads ns hns)⟩

theorem recovery_exact_twoNew :
    ∃ states, loadRecoveryChain flatHashes (history flatHashes twoNewHeads [twoNewCall]).executions
        twoNewHeads (recoveryIdentity flatHashes twoNewHeads) = .ok (states, 1) ∧
      ∀ ns ∈ cursorNamespaces, ∃ base, twoNew <:+ base ∧ base <:+ twoNew ∧
        ((states ns).boundaryReached = true →
          (rowsOf (storedPages (history flatHashes twoNewHeads [twoNewCall]).executions ns)).map
            SignatureRow.position = segment (twoNewHeads ns) base) := by
  obtain ⟨states, hload, hexact⟩ := recovery_exact flatHashes honest_twoNew
  refine ⟨states, hload, fun ns hns => ?_⟩
  obtain ⟨base, hbegan, hwithin, -, hwhole⟩ := hexact ns hns
  exact ⟨base, hbegan, hwithin, hwhole⟩

/-- Executions in the order of their starts say that there is nothing new of a namespace, once its
head is reached, exactly where the number of new signatures is a multiple of the page. -/
theorem recovery_no_new_iff (H : Hashes) (h : Honest heads chains calls chains') :
    ∃ states, loadRecoveryChain H (history H heads calls).executions heads
        (recoveryIdentity H heads) = .ok (states, calls.length) ∧
      ∀ ns ∈ cursorNamespaces, (states ns).boundaryReached = true →
        let rows := rowsOf (storedPages (history H heads calls).executions ns)
        (heads ns = none → ((states ns).noNewSignatures = true ↔ rows = [])) ∧
          ∀ hd ∈ heads ns, ((states ns).noNewSignatures = true ↔
            recoverySignaturesPerPage ∣ rows.length - 1) := by
  obtain ⟨states, hholds, hfollowed⟩ := h.followed H
  refine ⟨states, hholds.load h.ordered, fun ns hns hreached => ?_⟩
  obtain ⟨-, hcollected, base, hexact⟩ := hfollowed ns hns
  have hrows := hexact.complete hcollected (h.chainOk hns) (h.heads ns hns) hreached
  refine ⟨fun hnone => ?_, fun hd hhd => ?_⟩
  · rw [hexact.newNone hreached hnone, ← List.map_eq_nil_iff (f := SignatureRow.position), hrows,
      hnone, segment, List.take_eq_nil_iff]
    exact (or_iff_right (by decide)).symm
  · have hlength := congrArg List.length hrows
    rw [List.length_map] at hlength
    rw [hexact.new hreached hd hhd, hlength]

theorem recovery_no_new_twoNew :
    ∃ states, loadRecoveryChain flatHashes (history flatHashes twoNewHeads [twoNewCall]).executions
        twoNewHeads (recoveryIdentity flatHashes twoNewHeads) = .ok (states, 1) ∧
      ∀ ns ∈ cursorNamespaces, (states ns).boundaryReached = true →
        ((states ns).noNewSignatures = true ↔ recoverySignaturesPerPage ∣
          (rowsOf (storedPages (history flatHashes twoNewHeads [twoNewCall]).executions ns)).length -
            1) := by
  obtain ⟨states, hload, hnew⟩ := recovery_no_new_iff flatHashes honest_twoNew
  exact ⟨states, hload, fun ns hns hreached => (hnew ns hns hreached).2 _ rfl⟩

theorem Honest.init {call : Call} (h : Honest heads chains (calls ++ [call]) chains') :
    ∃ mid, Honest heads chains calls mid ∧ Served Moves mid call.transports chains' := by
  obtain ⟨mid, hbefore, hcall⟩ := h.served.init
  exact ⟨mid, ⟨h.ok, h.heads, ordered_init h.ordered, hbefore⟩, hcall⟩

/-- No execution of those in the order of their starts ends with the code of a failed operation or of
a broken chain. -/
theorem recovery_never_fails (H : Hashes) {call : Call}
    (h : Honest heads chains (calls ++ [call]) chains') :
    ∀ code ∈ (runCursorContinuityRecovery H (history H heads calls) call).2,
      code ∈ [recoveryComplete, recoveryNoNew, recoveryIncomplete, recoveryBoundExhausted] := by
  obtain ⟨mid, hbefore, hcall⟩ := h.init
  obtain ⟨states, hholds, hfollowed⟩ := hbefore.followed H
  obtain ⟨loaded, hperformed⟩ := performCall_performed (preserved_followed h.heads) hcall hfollowed
  have hnone : (performCall H states call).2.2 = none :=
    hperformed.sure (unfailing_followed h.heads)
  intro code hcode
  rw [hholds.outcome h.ordered, hnone] at hcode
  dsimp only at hcode
  split_ifs at hcode
  · obtain rfl := Option.some.inj hcode
    decide
  · cases hcode
  · obtain rfl := Option.some.inj hcode
    unfold terminalCause
    split_ifs <;> decide

theorem recovery_never_fails_twoNew :
    twoNewCall.transports.length = 8 ∧
      ∀ code ∈ (runCursorContinuityRecovery flatHashes (history flatHashes twoNewHeads [])
        twoNewCall).2,
        code ∈ [recoveryComplete, recoveryNoNew, recoveryIncomplete, recoveryBoundExhausted] :=
  ⟨by decide, recovery_never_fails flatHashes honest_twoNew⟩

/-- Executions that start in order and end by themselves reach every head, when there are enough of
them for the signatures above it. -/
theorem recovery_completes (H : Hashes) (h : Honest heads chains calls chains')
    (hlong : ∀ call ∈ calls, operations.length ≤ call.transports.length) (hcalls : calls ≠ [])
    (hfew : calls.length ≤ recoveryMaxExecutions)
    (hshort : ∀ ns ∈ cursorNamespaces, ∀ hd ∈ heads ns, (segment (some hd) (chains' ns)).length ≤
      recoverySignaturesPerPage * (recoveryPagesPerNamespace * calls.length)) :
    ∃ states, loadRecoveryChain H (history H heads calls).executions heads
        (recoveryIdentity H heads) = .ok (states, calls.length) ∧ allReached states = true := by
  obtain ⟨states, hholds, hfollowed⟩ := h.followed H
  refine ⟨states, hholds.load h.ordered, List.all_eq_true.mpr fun ns hns => ?_⟩
  rcases history_count (preserved_followed h.heads) (unfailing_followed h.heads)
    (fun ns _ => followed_initialState chains heads _ ns) hns h.ordered h.served hlong hfew hholds
    with hreached | hcount
  · exact hreached
  · by_contra hopen
    rw [Bool.not_eq_true] at hopen
    obtain ⟨-, hcollected, base, hexact⟩ := hfollowed ns hns
    have hchain := h.chainOk hns
    cases hhead : heads ns with
    | none =>
      have hzero : (storedPages (history H heads calls).executions ns).length = 0 := by
        rw [hexact.single hhead hopen, List.length_nil]
      have hpos := List.length_pos_iff.mpr hcalls
      rw [hzero, recoveryPagesPerNamespace] at hcount
      omega
    | some hd =>
      have hmem := h.heads ns hns hd hhead
      obtain ⟨pre, post, hsplit, hfresh, hlength⟩ :=
        hexact.front hcollected hchain hopen hhead hmem
      have hsegment := length_segment_le hexact.within hchain (hexact.began.mem hmem)
      rw [hsplit, segment_of_split hfresh, List.length_append, List.length_singleton] at hsegment
      have hbound := hsegment.trans (hshort ns hns hd hhead)
      have hpages := Nat.mul_le_mul_left recoverySignaturesPerPage hcount
      omega

theorem recovery_completes_twoNew :
    ∃ states, loadRecoveryChain flatHashes (history flatHashes twoNewHeads [twoNewCall]).executions
        twoNewHeads (recoveryIdentity flatHashes twoNewHeads) = .ok (states, 1) ∧
      allReached states = true := by
  refine recovery_completes flatHashes honest_twoNew (fun call hcall => ?_) (by decide) (by decide)
    fun ns _ hd hhd => ?_
  · obtain rfl := List.mem_singleton.mp hcall
    exact (List.length_replicate).ge
  · obtain rfl := Option.some.inj hhd
    decide

end PrinterV1.OperatorCli.CursorRecovery
