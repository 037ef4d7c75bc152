import PrinterV1.Foundation.Paging
import PrinterV1.OperatorCli.CursorRecoveryResume

/-!
# Recovery from a provider that keeps to the chain

The signatures of an address only grow at the tip, and every response is a page
of them as they are then. No operation fails, and what is collected is the part
of the chain from a tip down to the head, cut off after the pages that were
read.
-/

namespace PrinterV1.OperatorCli.CursorRecovery

open Python Discovery Faults Paging

variable {H : Hashes} {s after : State} {localPage : ℕ} {rpc : Rpc} {ns : Namespace}

/-- The signatures of each namespace, from the newest on. -/
abbrev Chains := Namespace → List Position

structure ChainOk (chain : List Position) : Prop where
  signatures : ∀ p ∈ chain, p.signature ≠ ""
  distinct : (chain.map Position.signature).Nodup
  descending : chain.Pairwise fun a b => b.slot ≤ a.slot

/-- A transport that answers from the chains. -/
structure Answers (chains : Chains) (rpc : Rpc) : Prop where
  transaction : ∀ ns ∈ cursorNamespaces, ∀ p ∈ chains ns,
    ∃ tx, rpc (.getTransaction p.signature) = .ok (.dict tx)
  page : ∀ ns ∈ cursorNamespaces, ∀ before limit, ∃ raw : List Dict,
    rpc (.getSignaturesForAddress ns.indexedAddress before limit) =
        .ok (.list (raw.map .dict)) ∧
      raw.map identity? =
        ((behind Position.signature before (chains ns)).take limit).map some

/-- The chains grow, and then the transport answers from them. -/
structure Moves (chains : Chains) (rpc : Rpc) (chains' : Chains) : Prop where
  grown : ∀ ns, chains ns <:+ chains' ns
  ok : ∀ ns ∈ cursorNamespaces, ChainOk (chains' ns)
  answers : Answers chains' rpc

/-! ## The rows of an answer -/

/-- The part of a list that the loop over it keeps. -/
def untilBoundary : Option Head → List Position → List Position
  | none, ps => ps
  | some head, ps => downTo Position.signature head.boundarySignature ps

theorem rawRows_map (raw : List Dict) : rawRows (raw.map .dict) = some raw := by
  induction raw with
  | nil => rfl
  | cons r raw ih => simp [rawRows, ih]

/-- The loop takes rows that are new, do not go forward and stay in front of the head. -/
theorem scanRows_served {start : Option Head} {raw : List Dict} : ∀ {known : List String}
    {previous : Option ℤ} {ps : List Position}, raw.map identity? = ps.map some →
      (∀ p ∈ ps, p.signature ∉ known ∧ ∀ slot ∈ previous, p.slot ≤ slot) →
      (ps.map Position.signature).Nodup → (ps.Pairwise fun a b => b.slot ≤ a.slot) →
      (∀ head ∈ start, ∀ p ∈ untilBoundary start ps,
        p.signature = head.boundarySignature ∨ head.boundarySlot ≤ p.slot) →
        ∃ rows found, scanRows start known previous raw = .ok (rows, found) ∧
          rows.map SignatureRow.position = untilBoundary start ps := by
  induction raw with
  | nil =>
    intro known previous ps hraw _ _ _ _
    obtain rfl := List.map_eq_nil_iff.mp hraw.symm
    refine ⟨[], false, rfl, ?_⟩
    cases start <;> rfl
  | cons item rest ih =>
    intro known previous ps hraw hnew hnodup hslots hinside
    cases ps with
    | nil => cases hraw
    | cons p ps =>
      rw [List.map_cons, List.map_cons] at hraw
      obtain ⟨hitem, hrest⟩ := List.cons.inj hraw
      obtain ⟨hp, hps⟩ := List.forall_mem_cons.mp hnew
      obtain ⟨hpnew, hnodup⟩ := List.nodup_cons.mp hnodup
      obtain ⟨hple, hslots⟩ := List.pairwise_cons.mp hslots
      have hforward : ¬previous.any (fun slot => slot < p.slot) = true := by
        intro h
        obtain ⟨slot, hslot, hlt⟩ := (Option.any_eq_true _ _).mp h
        exact absurd (hp.2 slot hslot) (not_le.mpr (of_decide_eq_true hlt))
      have hfirst : p ∈ untilBoundary start (p :: ps) := by
        cases start with
        | none => exact List.mem_cons_self
        | some head =>
          by_cases hsame : p.signature = head.boundarySignature
          · rw [untilBoundary, downTo_cons_self hsame]
            exact List.mem_cons_self
          · rw [untilBoundary, downTo_cons_ne hsame]
            exact List.mem_cons_self
      have hskip : ¬start.any (fun head => p.slot < head.boundarySlot ∧
          p.signature ≠ head.boundarySignature) = true := by
        intro h
        obtain ⟨head, hhead, hout⟩ := (Option.any_eq_true _ _).mp h
        obtain ⟨hlt, hne⟩ := of_decide_eq_true hout
        rcases hinside head hhead p hfirst with heq | hle
        · exact hne heq
        · exact absurd hle (not_le.mpr hlt)
      simp only [scanRows, hitem, if_neg hp.1, if_neg hforward, if_neg hskip]
      by_cases hboundary : start.any (fun head => p.signature = head.boundarySignature) = true
      · rw [if_pos hboundary]
        refine ⟨_, _, rfl, ?_⟩
        obtain ⟨head, hhead, hsame⟩ := (Option.any_eq_true _ _).mp hboundary
        obtain rfl := hhead
        rw [untilBoundary, downTo_cons_self (of_decide_eq_true hsame)]
        rfl
      · rw [if_neg hboundary]
        have hcons : untilBoundary start (p :: ps) = p :: untilBoundary start ps := by
          cases start with
          | none => rfl
          | some head => exact downTo_cons_ne fun heq => hboundary (by simp [heq])
        rw [hcons] at hinside ⊢
        have hnext : ∀ q ∈ ps, q.signature ∉ p.signature :: known ∧
            ∀ slot ∈ some p.slot, q.slot ≤ slot := by
          intro q hq
          refine ⟨fun hmem => ?_, fun slot hslot => ?_⟩
          · rcases List.mem_cons.mp hmem with heq | hmem
            · exact hpnew (heq ▸ List.mem_map_of_mem hq)
            · exact (hps q hq).1 hmem
          · obtain rfl := Option.some.inj hslot
            exact hple q hq
        obtain ⟨rows, found, hscan, hrows⟩ := ih hrest hnext hnodup hslots
          fun head hhead q hq => hinside head hhead q (List.mem_cons_of_mem _ hq)
        rw [hscan]
        refine ⟨_, _, rfl, ?_⟩
        rw [List.map_cons, hrows]
        rfl

/-! ## Requests -/

theorem ChainOk.of_suffix {base chain : List Position} (h : ChainOk chain)
    (hbase : base <:+ chain) : ChainOk base where
  signatures p hp := h.signatures p (hbase.mem hp)
  distinct := h.distinct.sublist (hbase.sublist.map _)
  descending := h.descending.sublist hbase.sublist

/-- A page is fetched from a transport that knows the head and answers with mappings. -/
theorem fetchPage_served {raw : List Dict}
    (hhead : ∀ head ∈ s.authoritativeStart, ∃ tx,
      rpc (.getTransaction head.boundarySignature) = .ok (.dict tx))
    (hcontinuation : ∀ p ∈ s.continuation, p.signature ≠ "")
    (hpage : rpc (.getSignaturesForAddress s.namespaceKey.indexedAddress
      (s.continuation.map Position.signature) recoverySignaturesPerPage) =
        .ok (.list (raw.map .dict))) : fetchPage s localPage rpc = .ok raw := by
  have hbefore : ((s.continuation.map Position.signature).filter fun signature =>
      decide (signature ≠ "")) = s.continuation.map Position.signature := by
    cases hs : s.continuation with
    | none => rfl
    | some p => simp [Option.filter, hcontinuation p hs]
  have hrows := rawRows_map raw
  unfold fetchPage
  cases hstart : s.authoritativeStart with
  | none =>
    simp only [hbefore, hpage, ok_bind, hrows]
    rfl
  | some head =>
    obtain ⟨tx, htx⟩ := hhead head hstart
    dsimp only
    split_ifs
    · simp only [hbefore, hpage, htx, ok_bind, hrows]
      rfl
    · simp only [hbefore, hpage, ok_bind, hrows]
      rfl

/-! ## The segment of a recovery -/

/-- What there is to collect of a chain: all down to the head, and one page where there is none. -/
def segment : Option Head → List Position → List Position
  | none, chain => chain.take recoverySignaturesPerPage
  | some head, chain => downTo Position.signature head.boundarySignature chain

def Head.position (head : Head) : Position := ⟨head.boundarySlot, head.boundarySignature⟩

theorem segment_of_split {pre post : List Position} {hd : Head}
    (h : ∀ p ∈ pre, p.signature ≠ hd.boundarySignature) :
    segment (some hd) (pre ++ hd.position :: post) = pre ++ [hd.position] :=
  downTo_of_split (e := hd.position) h

/-- A chain is cut at the head, whose signature is not in front of it. -/
theorem ChainOk.split {chain : List Position} (h : ChainOk chain) {hd : Head}
    (hmem : hd.position ∈ chain) : ∃ pre post, chain = pre ++ hd.position :: post ∧
      ∀ p ∈ pre, p.signature ≠ hd.boundarySignature := by
  obtain ⟨pre, post, hsplit⟩ := List.append_of_mem hmem
  have hnodup := h.distinct
  rw [hsplit] at hnodup
  exact ⟨pre, post, hsplit, fresh_of_nodup hnodup⟩

/-- The pages of a namespace are those of a chain that the first of them was taken from. -/
structure Exact (start : List Position) (head : Option Head) (chain : List Position)
    (pages : List Artifact) (s : State) (base : List Position) : Prop where
  began : start <:+ base
  within : base <:+ chain
  rows : (rowsOf pages).map SignatureRow.position =
    (segment head base).take (recoverySignaturesPerPage * pages.length)
  paged : s.boundaryReached = true → pages ≠ []
  single : head = none → s.boundaryReached = false → pages = []
  unnew : s.boundaryReached = false → s.noNewSignatures = false
  new : s.boundaryReached = true → ∀ h ∈ head, (s.noNewSignatures = true ↔
    recoverySignaturesPerPage ∣ (segment head base).length - 1)
  newNone : s.boundaryReached = true → head = none → (s.noNewSignatures = true ↔ base = [])

variable {start base : List Position} {head : Option Head} {chains chains' : Chains}
  {pages : List Artifact}

theorem exact_initialState (recoveryId : String) (chain : List Position) (h : start <:+ chain) :
    Exact start head chain [] (initialState ns head recoveryId) chain where
  began := h
  within := List.suffix_refl chain
  rows := by simp [rowsOf]
  paged h := nomatch h
  single _ _ := rfl
  unnew _ := rfl
  new h := nomatch h
  newNone h := nomatch h

theorem Exact.mono {chain chain' : List Position} (h : Exact start head chain pages s base)
    (hgrown : chain <:+ chain') : Exact start head chain' pages s base :=
  { h with within := h.within.trans hgrown }

/-- Before the head is reached, the rows are in front of it. -/
theorem Exact.front {chain : List Position} (h : Exact start head chain pages s base)
    (hs : Collected head (rowsOf pages) s) (hchain : ChainOk chain)
    (hopen : s.boundaryReached = false) {hd : Head} (hhead : hd ∈ head)
    (hmem : hd.position ∈ start) :
    ∃ pre post, base = pre ++ hd.position :: post ∧
      (∀ p ∈ pre, p.signature ≠ hd.boundarySignature) ∧
        recoverySignaturesPerPage * pages.length ≤ pre.length := by
  obtain ⟨pre, post, hsplit, hfresh⟩ := (hchain.of_suffix h.within).split (h.began.mem hmem)
  refine ⟨pre, post, hsplit, hfresh, ?_⟩
  by_contra hlong
  have hsegment : segment head base = pre ++ [hd.position] := by
    rw [Option.mem_def.mp hhead, hsplit, segment_of_split hfresh]
  have hin : hd.position ∈ (rowsOf pages).map SignatureRow.position := by
    rw [h.rows, hsegment, List.take_of_length_le]
    · simp
    · rw [List.length_append, List.length_singleton]
      omega
  obtain ⟨r, hr, hrow⟩ := List.mem_map.mp hin
  have hreached := (hs.boundary hd hhead r hr (congrArg Position.signature hrow)).1
  rw [hopen] at hreached
  cases hreached

/-! ## One page -/

/-- The number of rows in the pages that are stored. -/
def depth (pages : List Artifact) : ℕ := recoverySignaturesPerPage * pages.length

theorem depth_append (a : Artifact) :
    depth (pages ++ [a]) = depth pages + recoverySignaturesPerPage := by
  rw [depth, depth, List.length_append, List.length_singleton, Nat.mul_add, Nat.mul_one]

/-- What an open state asks for: the chain from behind the rows that are there. -/
structure Asked (start : List Position) (head : Option Head) (chain : List Position)
    (pages : List Artifact) (raw : List Dict) (base : List Position) : Prop where
  began : start <:+ base
  within : base <:+ chain
  answered : raw.map identity? =
    ((base.drop (depth pages)).take recoverySignaturesPerPage).map some
  rows : (rowsOf pages).map SignatureRow.position = base.take (depth pages)
  first : head = none → pages = []
  front : ∀ h ∈ head, ∃ pre post, base = pre ++ h.position :: post ∧
    (∀ p ∈ pre, p.signature ≠ h.boundarySignature) ∧ depth pages ≤ pre.length

/-- The rows that are there are the beginning of the chain they were taken from. -/
theorem Exact.taken {chain : List Position} (h : Exact start head chain pages s base)
    (hs : Collected head (rowsOf pages) s) (hchain : ChainOk chain)
    (hopen : s.boundaryReached = false) (hheads : ∀ h ∈ head, h.position ∈ start) :
    (rowsOf pages).map SignatureRow.position = base.take (depth pages) := by
  rw [h.rows]
  cases head with
  | none => simp [h.single rfl hopen, depth]
  | some hd =>
    obtain ⟨pre, post, hsplit, hfresh, hlong⟩ := h.front hs hchain hopen rfl (hheads hd rfl)
    rw [hsplit, segment_of_split hfresh, depth, List.take_append_of_le_length hlong,
      List.take_append_of_le_length hlong]

/-- An open state asks for what comes behind its rows; a first page may be asked of a chain that
has grown. -/
theorem Exact.asks (h : Exact start head (chains ns) pages s base)
    (hs : Collected head (rowsOf pages) s) (hkey : s.namespaceKey = ns)
    (hns : ns ∈ cursorNamespaces) (hmoves : Moves chains rpc chains')
    (hopen : s.boundaryReached = false) (hheads : ∀ h ∈ head, h.position ∈ start)
    (localPage : ℕ) :
    ∃ raw base', fetchPage s localPage rpc = .ok raw ∧
      Asked start head (chains' ns) pages raw base' := by
  have hchain := hmoves.ok ns hns
  have hbefore : ChainOk (chains ns) := hchain.of_suffix (hmoves.grown ns)
  have hstart : start <:+ chains' ns := (h.began.trans h.within).trans (hmoves.grown ns)
  have hrows := h.taken hs hbefore hopen hheads
  obtain ⟨raw, hpage, hidentity⟩ := hmoves.answers.page ns hns
    (s.continuation.map Position.signature) recoverySignaturesPerPage
  have hknown : ∀ hd ∈ s.authoritativeStart, ∃ tx,
      rpc (.getTransaction hd.boundarySignature) = .ok (.dict tx) := by
    intro hd hhd
    rw [hs.start] at hhd
    exact hmoves.answers.transaction ns hns hd.position (hstart.mem (hheads hd hhd))
  have hlast : s.continuation = (base.take (depth pages)).getLast? := by
    rw [hs.continuation, ← hrows, List.getLast?_map]
  have hvalid : ∀ p ∈ s.continuation, p.signature ≠ "" := by
    intro p hp
    rw [hlast] at hp
    exact (hbefore.of_suffix h.within).signatures p
      (List.mem_of_mem_take (List.mem_of_getLast? hp))
  have hfetch : fetchPage s localPage rpc = .ok raw :=
    fetchPage_served hknown hvalid (hkey ▸ hpage)
  rcases pages.eq_nil_or_concat with rfl | ⟨front, a, rfl⟩
  · have hnone : s.continuation = none := by simp [hlast, depth]
    refine ⟨raw, chains' ns, hfetch, hstart, List.suffix_refl _, ?_, ?_, fun _ => rfl,
      fun hd hhd => ?_⟩
    · rw [hidentity, hnone]
      simp [depth, behind]
    · simp [depth, rowsOf]
    · obtain ⟨pre, post, hsplit, hfresh⟩ := hchain.split (hstart.mem (hheads hd hhd))
      exact ⟨pre, post, hsplit, hfresh, by simp [depth]⟩
  · have hfront := fun hd hhd => h.front hs hbefore hopen hhd (hheads hd hhd)
    refine ⟨raw, base, hfetch, h.began, h.within.trans (hmoves.grown ns), ?_, hrows,
      fun hnone => h.single hnone hopen, hfront⟩
    obtain ⟨l, hl⟩ : ∃ l, (base.take (depth (front.concat a))).getLast? = some l := by
      refine Option.isSome_iff_exists.mp (List.getLast?_isSome.mpr ?_)
      cases head with
      | none => exact absurd (h.single rfl hopen) (by simp)
      | some hd =>
        obtain ⟨pre, post, hsplit, -, -⟩ := hfront hd rfl
        simp [hsplit, depth, recoverySignaturesPerPage]
    rw [hidentity, hlast, hl, Option.map_some,
      behind_take (h.within.trans (hmoves.grown ns)) hchain.distinct hl]

section Asked

variable {chain : List Position} {raw : List Dict}

/-- The part of the answer down to the head is the next page of the segment. -/
theorem Asked.page (h : Asked start head chain pages raw base) :
    untilBoundary head ((base.drop (depth pages)).take recoverySignaturesPerPage) =
      ((segment head base).drop (depth pages)).take recoverySignaturesPerPage := by
  cases head with
  | none =>
    obtain rfl := h.first rfl
    simp [untilBoundary, segment, depth]
  | some hd =>
    obtain ⟨pre, post, hsplit, hfresh, hlong⟩ := h.front hd rfl
    rw [hsplit, segment_of_split hfresh]
    exact downTo_page (e := hd.position) _ hfresh hlong

/-- No entry down to the head is older than it. -/
theorem Asked.inside (h : Asked start head chain pages raw base) (hchain : ChainOk chain) :
    ∀ hd ∈ head, ∀ p ∈ segment head base,
      p.signature = hd.boundarySignature ∨ hd.boundarySlot ≤ p.slot := by
  intro hd hhd p hp
  obtain ⟨pre, post, hsplit, hfresh, -⟩ := h.front hd hhd
  obtain rfl := hhd
  rw [hsplit, segment_of_split hfresh] at hp
  have hdescending := (hchain.of_suffix h.within).descending
  rw [hsplit] at hdescending
  rcases List.mem_append.mp hp with hp | hp
  · exact Or.inr ((List.pairwise_append.mp hdescending).2.2 p hp hd.position List.mem_cons_self)
  · exact Or.inl (congrArg Position.signature (List.mem_singleton.mp hp))

/-- The loop over the answer takes the next page of the segment. -/
theorem Asked.scanned (h : Asked start head chain pages raw base)
    (hs : Collected head (rowsOf pages) s) (hchain : ChainOk chain) :
    ∃ rows found, scanRows s.authoritativeStart s.seenSignatures (s.continuation.map Position.slot)
        raw = .ok (rows, found) ∧
      rows.map SignatureRow.position =
        ((segment head base).drop (depth pages)).take recoverySignaturesPerPage := by
  have hbase := hchain.of_suffix h.within
  have hpage : ((base.drop (depth pages)).take recoverySignaturesPerPage).Sublist
      (base.drop (depth pages)) := List.take_sublist _ _
  have hdistinct := hbase.distinct
  have hdescending := hbase.descending
  rw [← List.take_append_drop (depth pages) base] at hdistinct hdescending
  rw [List.map_append] at hdistinct
  obtain ⟨-, hnodup, hdisjoint⟩ := List.nodup_append.mp hdistinct
  obtain ⟨-, hslots, hbehind⟩ := List.pairwise_append.mp hdescending
  have hnew : ∀ p ∈ (base.drop (depth pages)).take recoverySignaturesPerPage,
      p.signature ∉ s.seenSignatures ∧
        ∀ slot ∈ s.continuation.map Position.slot, p.slot ≤ slot := by
    intro p hp
    refine ⟨fun hseen => ?_, fun slot hslot => ?_⟩
    · have hold : p.signature ∈ (base.take (depth pages)).map Position.signature := by
        rw [← h.rows, List.map_map]
        exact (hs.seen _).mp hseen
      exact hdisjoint _ hold _ (List.mem_map_of_mem (hpage.mem hp)) rfl
    · rw [hs.continuation, ← List.getLast?_map, h.rows] at hslot
      obtain ⟨l, hl, rfl⟩ := Option.mem_map.mp hslot
      exact hbehind l (List.mem_of_getLast? hl) p (hpage.mem hp)
  rw [← h.page, hs.start]
  refine scanRows_served h.answered hnew (hnodup.sublist (hpage.map _)) (hslots.sublist hpage) ?_
  intro hd hhd p hp
  rw [h.page] at hp
  exact h.inside hchain hd hhd p (List.mem_of_mem_drop (List.mem_of_mem_take hp))

theorem Asked.length_segment (h : Asked start head chain pages raw base) (hd : Head)
    (hhd : hd ∈ head) : depth pages < (segment head base).length := by
  obtain ⟨pre, post, hsplit, hfresh, hlong⟩ := h.front hd hhd
  obtain rfl := hhd
  rw [hsplit, segment_of_split hfresh, List.length_append, List.length_singleton]
  omega

/-- There is something to answer as long as the head is not reached. -/
theorem Asked.raw_ne_nil (h : Asked start head chain pages raw base) (hd : Head) (hhd : hd ∈ head) :
    raw ≠ [] := by
  rintro rfl
  obtain ⟨pre, post, hsplit, -, hlong⟩ := h.front hd hhd
  have hnil := congrArg List.length h.answered
  rw [List.map_nil, List.length_map, List.length_take, List.length_drop, hsplit, List.length_append,
    List.length_cons, List.length_nil, recoverySignaturesPerPage] at hnil
  omega

theorem Asked.rows_segment (h : Asked start head chain pages raw base) :
    (rowsOf pages).map SignatureRow.position = (segment head base).take (depth pages) := by
  rw [h.rows]
  cases head with
  | none => simp [h.first rfl, depth]
  | some hd =>
    obtain ⟨pre, post, hsplit, hfresh, hlong⟩ := h.front hd rfl
    rw [hsplit, segment_of_split hfresh, List.take_append_of_le_length hlong,
      List.take_append_of_le_length hlong]

/-- A page with the head is the last one. -/
theorem Asked.length_le (h : Asked start head chain pages raw base) {rows : List SignatureRow}
    (hrows : rows.map SignatureRow.position =
      ((segment head base).drop (depth pages)).take recoverySignaturesPerPage)
    {hd : Head} (hhd : hd ∈ head) {r : SignatureRow} (hr : r ∈ rows)
    (hsame : r.signature = hd.boundarySignature) :
    (segment head base).length ≤ depth pages + recoverySignaturesPerPage := by
  obtain ⟨pre, post, hsplit, hfresh, hlong⟩ := h.front hd hhd
  obtain rfl := hhd
  rw [hsplit, segment_of_split hfresh] at hrows ⊢
  by_contra hlonger
  have hshort : recoverySignaturesPerPage ≤ (pre.drop (depth pages)).length := by
    rw [List.length_append, List.length_singleton] at hlonger
    rw [List.length_drop]
    omega
  have hmem : r.position ∈ rows.map SignatureRow.position := List.mem_map_of_mem hr
  rw [hrows, List.drop_append_of_le_length hlong, List.take_append_of_le_length hshort] at hmem
  exact hfresh r.position (List.mem_of_mem_drop (List.mem_of_mem_take hmem)) hsame

/-- The last page has one row where the new signatures are a multiple of the pages. -/
theorem Asked.length_eq_one (h : Asked start head chain pages raw base) {rows : List SignatureRow}
    (hrows : rows.map SignatureRow.position =
      ((segment head base).drop (depth pages)).take recoverySignaturesPerPage)
    (hd : Head) (hhd : hd ∈ head)
    (hlast : (segment head base).length ≤ depth pages + recoverySignaturesPerPage) :
    rows.length = 1 ↔ recoverySignaturesPerPage ∣ (segment head base).length - 1 := by
  have hlong := h.length_segment hd hhd
  have hlength := congrArg List.length hrows
  rw [List.length_map, List.length_take, List.length_drop] at hlength
  unfold depth recoverySignaturesPerPage at *
  omega

end Asked

theorem rowsOf_append (a : Artifact) : rowsOf (pages ++ [a]) = rowsOf pages ++ a.page.pageRows := by
  simp [rowsOf]

/-- An empty answer for a namespace without a head. -/
theorem Exact.empty {chain : List Position} {a : Artifact}
    (h : Asked start none chain pages [] base) (ha : a.page.pageRows = [])
    (hreached : after.boundaryReached = true) (hnew : after.noNewSignatures = true) :
    Exact start none chain (pages ++ [a]) after base := by
  obtain rfl := h.first rfl
  have hbase : base = [] := by
    have hnil := congrArg List.length h.answered
    rw [List.map_nil, List.length_map, List.length_take, List.length_nil, depth, List.length_nil,
      Nat.mul_zero, List.drop_zero, recoverySignaturesPerPage] at hnil
    exact List.eq_nil_of_length_eq_zero (by omega)
  subst hbase
  have hopen : after.boundaryReached ≠ false := by simp [hreached]
  exact
    { began := h.began
      within := h.within
      rows := by simp [rowsOf, ha, segment]
      paged := by simp
      single := fun _ h => absurd h hopen
      unnew := fun h => absurd h hopen
      new := fun _ hd hhd => nomatch hhd
      newNone := fun _ _ => by simp [hnew] }

/-- An answer with rows. -/
theorem Exact.advance {chain : List Position} {raw : List Dict} {rows : List SignatureRow}
    {found : Bool} {a : Artifact} {ordinal : ℕ} (h : Asked start head chain pages raw base)
    (hstart : s.authoritativeStart = head) (hunnew : s.noNewSignatures = false)
    (hscanned : Scanned s.authoritativeStart s.seenSignatures (s.continuation.map Position.slot)
      rows found) (hne : rows ≠ []) (ha : a.page.pageRows = rows)
    (hrows : rows.map SignatureRow.position =
      ((segment head base).drop (depth pages)).take recoverySignaturesPerPage) :
    Exact start head chain (pages ++ [a])
      { s.advance rows found with recoveryPageOrdinal := ordinal } base := by
  rw [hstart] at hscanned
  have hreached : (s.advance rows found).boundaryReached = (found || head.isNone) := by
    rw [← hstart]
    rfl
  have hnoNew : (s.advance rows found).noNewSignatures =
      if head.isSome && found then decide (rows.length = 1 ∧
        rows.head?.map SignatureRow.signature = head.map Head.boundarySignature) else false := by
    rw [← hstart, ← hunnew]
    rfl
  refine ⟨h.began, h.within, ?_, fun _ => by simp, ?_, ?_, ?_, ?_⟩
  · have hdepth : depth (pages ++ [a]) = depth pages + recoverySignaturesPerPage := depth_append a
    rw [depth] at hdepth
    rw [rowsOf_append, List.map_append, ha, h.rows_segment, hrows, hdepth, List.take_add]
  · rintro rfl hopen
    replace hopen : (s.advance rows found).boundaryReached = false := hopen
    rw [hreached, Option.isNone_none, Bool.or_true] at hopen
    cases hopen
  · intro hopen
    replace hopen : (s.advance rows found).boundaryReached = false := hopen
    rw [hreached, Bool.or_eq_false_iff] at hopen
    change (s.advance rows found).noNewSignatures = false
    rw [hnoNew, hopen.1, Bool.and_false]
    rfl
  · intro hclosed hd hhd
    obtain rfl := hhd
    replace hclosed : (s.advance rows found).boundaryReached = true := hclosed
    rw [hreached, Option.isNone_some, Bool.or_false] at hclosed
    obtain ⟨hd', hhd', r, hr, hsame⟩ := hscanned.found hclosed
    obtain rfl := Option.some.inj hhd'
    rw [← h.length_eq_one hrows hd rfl (h.length_le hrows rfl hr hsame)]
    change (s.advance rows found).noNewSignatures = true ↔ _
    rw [hnoNew, hclosed]
    simp only [Option.isSome_some, Bool.and_self, if_true, decide_eq_true_eq]
    refine ⟨And.left, fun hone => ⟨hone, ?_⟩⟩
    obtain ⟨r', rfl⟩ := List.length_eq_one_iff.mp hone
    obtain rfl := List.mem_singleton.mp hr
    simp [hsame]
  · rintro - rfl
    change (s.advance rows found).noNewSignatures = true ↔ _
    rw [hnoNew]
    refine ⟨(fun h => nomatch h), ?_⟩
    rintro rfl
    have hnil : rows.map SignatureRow.position = [] := by simpa [segment] using hrows
    exact absurd (List.map_eq_nil_iff.mp hnil) hne

/-- A committed page is the next of the segment. -/
theorem Exact.page {a : Artifact} (h : Exact start head (chains ns) pages s base)
    (hs : Collected head (rowsOf pages) s) (hkey : s.namespaceKey = ns)
    (hns : ns ∈ cursorNamespaces) (hmoves : Moves chains rpc chains')
    (hheads : ∀ h ∈ head, h.position ∈ start)
    (hrun : executePage H s localPage rpc = (after, .committed a)) :
    ∃ base', Exact start head (chains' ns) (pages ++ [a]) after base' := by
  obtain ⟨hopen, rows, advanced, hread, rfl, rfl⟩ := executePage_committed hrun
  obtain ⟨raw, base', hfetch, hasked⟩ := h.asks hs hkey hns hmoves hopen hheads localPage
  obtain ⟨raw', hfetch', hcases⟩ := readPage_ok hread
  obtain rfl : raw = raw' := Except.ok.inj (hfetch.symm.trans hfetch')
  refine ⟨base', ?_⟩
  rcases hcases with ⟨rfl, hstart, rfl, rfl⟩ | ⟨found, hscan, hscanned, hne, rfl⟩
  · obtain rfl := hs.start.symm.trans hstart
    exact Exact.empty hasked rfl rfl rfl
  · obtain ⟨rows', found', hscan', hrows⟩ := hasked.scanned hs (hmoves.ok ns hns)
    obtain ⟨rfl, rfl⟩ := Prod.mk.inj (Except.ok.inj (hscan.symm.trans hscan'))
    exact Exact.advance hasked hs.start (h.unnew hopen) hscanned hne rfl hrows

/-- No operation fails. -/
theorem Exact.unfailing {code : String} (h : Exact start head (chains ns) pages s base)
    (hs : Collected head (rowsOf pages) s) (hkey : s.namespaceKey = ns)
    (hns : ns ∈ cursorNamespaces) (hmoves : Moves chains rpc chains')
    (hheads : ∀ h ∈ head, h.position ∈ start) :
    executePage H s localPage rpc ≠ (after, .failed code) := by
  intro hrun
  cases hopen : s.boundaryReached with
  | true =>
    rw [executePage_reached hopen] at hrun
    cases (Prod.mk.inj hrun).2
  | false =>
    obtain ⟨raw, base', hfetch, hasked⟩ := h.asks hs hkey hns hmoves hopen hheads localPage
    obtain ⟨rows, found, hscan, -⟩ := hasked.scanned hs (hmoves.ok ns hns)
    obtain ⟨result, hread⟩ : ∃ result, readPage s localPage rpc = .ok result := by
      unfold readPage
      rw [hfetch, ok_bind]
      split_ifs with hempty hstart
      · exact ⟨_, rfl⟩
      · cases head with
        | none => exact absurd (Option.isNone_iff_eq_none.mpr hs.start) hstart
        | some hd => exact absurd hempty (hasked.raw_ne_nil hd rfl)
      · rw [hscan]
        exact ⟨_, rfl⟩
    rw [executePage, if_neg (by simp [hopen]), hread] at hrun
    cases (Prod.mk.inj hrun).2

end PrinterV1.OperatorCli.CursorRecovery
