import PrinterV1.Sources.ExactInitialisation
import PrinterV1.Sources.TokenAgeRun

/-!
# The steps of a token-age run

What each step of `_fetch_token_age_data` leaves where it passes: the account with its
owner, the pages of the history, and what is made of each candidate. Every call that
counts was answered by the server, and the budget is kept.
-/

namespace PrinterV1.Sources.TokenAge

open Python Faults

/-! ## The calls of a run -/

/-- The budget is kept, and every response is that of the server to the calls so far. -/
structure Recorded (host : TokenAgeHost) (exchanges : List Exchange) : Prop where
  within : exchanges.length ≤ maxRequestsPerToken
  answered : ∀ before e after, exchanges = before ++ e :: after →
    e.response = host.rpc (before.map Exchange.call ++ [e.call])

/-- The call was made, and answered. -/
structure Made (host : TokenAgeHost) (t : Trace) (method : String) (params : Value)
    (e : Exchange) (t' : Trace) : Prop where
  call : e.call = ⟨method, params⟩
  room : t.exchanges.length < maxRequestsPerToken
  response : e.response = host.rpc (t.exchanges.map Exchange.call ++ [e.call])
  trace : t' = { t with exchanges := t.exchanges ++ [e] }

theorem Recorded.nil (host : TokenAgeHost) : Recorded host [] where
  within := by decide
  answered := by simp

section Calls

variable {host : TokenAgeHost} {tokenMint : String} {t t' : Trace} {method : String}
  {params : Value} {e : Exchange}

theorem Made.exchanges (h : Made host t method params e t') :
    t'.exchanges = t.exchanges ++ [e] := by
  rw [h.trace]

theorem Made.recorded (h : Made host t method params e t') (ht : Recorded host t.exchanges) :
    Recorded host t'.exchanges := by
  rw [h.exchanges]
  refine ⟨?_, fun before x after heq => ?_⟩
  · have hroom := h.room
    simp
    omega
  · rcases List.eq_nil_or_concat after with rfl | ⟨rest, last, rfl⟩
    · obtain ⟨rfl, hlast⟩ := List.append_inj' heq rfl
      obtain rfl := List.singleton_inj.mp hlast
      exact h.response
    · have hcut : t.exchanges ++ [e] = (before ++ x :: rest) ++ [last] := by simpa using heq
      exact ht.answered before x rest (List.append_inj' hcut rfl).1

theorem checkTransport_ok {response : Dict} {stage : String} {u : Unit}
    (h : checkTransport host tokenMint t response stage = .ok u) :
    response.get "fixture_status" ≠ .str "failure" := by
  intro hfailed
  rw [checkTransport, if_pos hfailed] at h
  cases h

/-- A call whose response passes for one of the transport was made. -/
theorem rpcCall_made {t₀ : Trace} {stage : String} {u : Unit}
    (hcall : rpcCall host t method params = (e, t'))
    (hcheck : checkTransport host tokenMint t₀ e.response stage = .ok u) :
    Made host t method params e t' := by
  by_cases hroom : t.exchanges.length ≥ maxRequestsPerToken
  · rw [rpcCall, if_pos hroom] at hcall
    obtain ⟨rfl, rfl⟩ := Prod.mk.inj hcall
    exact absurd rfl (checkTransport_ok hcheck)
  · rw [rpcCall, if_neg hroom] at hcall
    obtain ⟨rfl, rfl⟩ := Prod.mk.inj hcall
    exact ⟨rfl, by omega, rfl, rfl⟩

theorem lift_ok {α : Type} {x : Except Raised α} {a : α} (h : lift x = .ok a) : x = .ok a :=
  mapError_ok h

end Calls

/-! ## The account -/

/-- The account of the mint, with its owner, as the first call was answered. -/
def OwnsAccount (tokenMint owner : String) (exchanges : List Exchange) : Prop :=
  ∃ e, exchanges.head? = some e ∧ e.call = ⟨"getAccountInfo", accountParams tokenMint⟩ ∧
    ∃ result account : Dict, e.response.get "result" = .dict result ∧
      result.get "value" = .dict account ∧ account.get "owner" = .str owner

theorem mappingOr_truthy {v : Value} {entries : Dict} (h : mappingOr v = .ok entries)
    (hne : entries ≠ []) : v = .dict entries := by
  unfold mappingOr at h
  by_cases hv : v.truthy = true
  · rw [if_pos hv] at h
    cases v with
    | dict entries' =>
      obtain rfl := Except.ok.inj h
      rfl
    | _ => cases h
  · rw [if_neg hv] at h
    exact absurd (Except.ok.inj h).symm hne

/-- A mapping that holds something was there. -/
theorem mappingOr_get {v : Value} {entries : Dict} {key : String}
    (h : mappingOr v = .ok entries) (hkey : entries.get key ≠ .none) : v = .dict entries := by
  refine mappingOr_truthy h ?_
  rintro rfl
  exact hkey rfl

theorem asMapping_ok {v : Value} {entries : Dict} (h : asMapping v = .ok entries) :
    v = .dict entries := by
  cases v with
  | dict entries' =>
    obtain rfl := Except.ok.inj h
    rfl
  | _ => cases h

theorem ne_none_of_truthy {v : Value} (h : v.truthy = true) : v ≠ .none := by
  rintro rfl
  cases h

section Account

variable {host : TokenAgeHost} {tokenMint owner : String} {t : Trace}

theorem checkOwner_ok {v : Value} (h : checkOwner host tokenMint t v = .ok owner) :
    v = .str owner ∧ owner ∈ allowedTokenPrograms := by
  obtain ⟨allowed, hallowed, h⟩ := bind_ok h
  cases v with
  | str s =>
    have hmem : allowed = decide (s ∈ allowedTokenPrograms) := by
      simpa [memTexts] using (Except.ok.inj (lift_ok hallowed)).symm
    by_cases hs : allowed = true
    · simp only [if_pos hs] at h
      obtain rfl := Except.ok.inj h
      exact ⟨rfl, by simpa [hmem] using hs⟩
    · simp only [if_neg hs] at h
      cases h
  | _ => cases h

theorem validateAccount_ok (h : validateAccount host tokenMint = .ok (owner, t)) :
    Recorded host t.exchanges ∧ t.txCalls = 0 ∧ owner ∈ allowedTokenPrograms ∧
      OwnsAccount tokenMint owner t.exchanges := by
  unfold validateAccount at h
  rcases hcall : rpcCall host {} "getAccountInfo" (accountParams tokenMint) with ⟨e, t₁⟩
  simp only [hcall] at h
  obtain ⟨u, htransport, h⟩ := bind_ok h
  obtain ⟨-, -, h⟩ := bind_ok h
  obtain ⟨result, hresult, h⟩ := bind_ok h
  obtain ⟨hvalue, h⟩ := check_ok h
  obtain ⟨account, haccount, h⟩ := bind_ok h
  obtain ⟨owner', howner, h⟩ := bind_ok h
  obtain ⟨-, -, h⟩ := bind_ok h
  obtain ⟨rfl, rfl⟩ := Prod.mk.inj (Except.ok.inj h)
  have hmade := rpcCall_made hcall htransport
  obtain ⟨hstr, hallowed⟩ := checkOwner_ok howner
  have hvalue : (result.get "value").truthy = true := by simpa using hvalue
  refine ⟨hmade.recorded (Recorded.nil host), by rw [hmade.trace], hallowed, ?_⟩
  refine ⟨e, by rw [hmade.exchanges]; rfl, hmade.call, result, account, ?_, ?_, hstr⟩
  · exact mappingOr_get (lift_ok hresult) (ne_none_of_truthy hvalue)
  · exact mappingOr_get (lift_ok haccount) (by rw [hstr]; simp)

end Account

/-! ## The history -/

/-- Pages that lead from a cursor, each from the last signature of the one before, to a page of
fewer signatures than were asked for. -/
inductive ReachesEnd (tokenMint : String) : Value → List Exchange → Prop
  | last {cursor e rows} :
      e.call = ⟨"getSignaturesForAddress", signatureParams tokenMint cursor⟩ →
      Dict.get e.response "result" = .list rows → rows.length < signaturesPerPage →
      ReachesEnd tokenMint cursor [e]
  | next {cursor e rows row rest} :
      e.call = ⟨"getSignaturesForAddress", signatureParams tokenMint cursor⟩ →
      Dict.get e.response "result" = .list rows → signaturesPerPage ≤ rows.length →
      rows.getLast? = some (.dict row) → ReachesEnd tokenMint (Dict.get row "signature") rest →
      ReachesEnd tokenMint cursor (e :: rest)

/-- The page is a list of signatures. -/
def IsPage (e : Exchange) : Prop := ∃ rows, e.response.get "result" = .list rows

theorem ReachesEnd.isPage_last {tokenMint : String} {cursor : Value} {pages : List Exchange}
    (h : ReachesEnd tokenMint cursor pages) : ∀ e ∈ pages.getLast?, IsPage e := by
  induction h with
  | last _ hrows _ =>
    rintro e he
    obtain rfl : _ = e := by simpa using he
    exact ⟨_, hrows⟩
  | next _ _ _ _ hrest ih =>
    rintro e he
    rw [List.getLast?_cons_of_ne_nil (by cases hrest <;> simp)] at he
    exact ih e he

/-- How a page is read: as the last one, or as one behind which the history goes on. -/
inductive ReadAs (response : Dict) : Bool → Value → Prop
  | last : (∀ rows, response.get "result" = .list rows → rows.length < signaturesPerPage) →
      ReadAs response true .none
  | behind {rows v row} : response.get "result" = .list rows → signaturesPerPage ≤ rows.length →
      rows.getLast? = some v → mappingOr v = .ok row →
      ReadAs response false (orEmpty (row.get "signature"))

section History

variable {host : TokenAgeHost} {tokenMint : String}

theorem orEmpty_truthy {v : Value} (h : (orEmpty v).truthy = true) :
    orEmpty v = v ∧ v.truthy = true := by
  by_cases hv : v.truthy = true
  · exact ⟨if_pos hv, hv⟩
  · rw [orEmpty, if_neg hv] at h
    cases h

theorem iterate_list {rows rows' : List Value} (h : iterate (.list rows) = .ok rows') :
    rows' = rows := (Except.ok.inj h).symm

/-- Behind anything but a list there is no row that goes on. -/
theorem list_of_lastRow {v last : Value} {rows : List Value} {row : Dict}
    (hrows : iterate v = .ok rows) (hne : rows ≠ []) (hlast : lastRow v rows = .ok last)
    (hrow : mappingOr last = .ok row) : v = .list rows ∧ rows.getLast? = some last := by
  have hget : ∀ w, (rows.getLast?.getD w) = last → rows.getLast? = some last := by
    intro w h
    obtain ⟨x, hx⟩ := Option.isSome_iff_exists.mp (List.getLast?_isSome.mpr hne)
    rw [hx] at h ⊢
    simpa using h
  cases v with
  | list xs =>
    obtain rfl := iterate_list hrows
    exact ⟨rfl, hget _ (Except.ok.inj hlast)⟩
  | str s =>
    obtain rfl := Except.ok.inj hrows
    have hmem := List.mem_of_getLast? (hget _ (Except.ok.inj hlast))
    obtain ⟨c, -, rfl⟩ := List.mem_map.mp hmem
    simp [mappingOr, Value.truthy] at hrow
  | dict entries => cases hlast
  | _ => cases hrows

theorem readPage_ok {t : Trace} {response : Dict} {s next : History} {cursor : Value}
    (hs : s.reachedEnd = false)
    (h : readPage host tokenMint t response s = .ok (next, cursor)) :
    next.trace = s.trace ∧ next.pages = s.pages ∧ ReadAs response next.reachedEnd cursor := by
  unfold readPage at h
  by_cases hempty : (response.get "result").truthy = true
  · simp only [hempty, Bool.not_true, Bool.false_eq_true, if_false] at h
    obtain ⟨rows, hrows, h⟩ := bind_ok h
    have hrows := lift_ok hrows
    by_cases hshort : rows.length < signaturesPerPage
    · rw [if_pos hshort] at h
      obtain ⟨rfl, rfl⟩ := Prod.mk.inj (Except.ok.inj h)
      refine ⟨rfl, rfl, .last fun rows' heq => ?_⟩
      rw [heq] at hrows
      rwa [iterate_list hrows] at hshort
    · rw [if_neg hshort] at h
      obtain ⟨last, hlast, h⟩ := bind_ok h
      obtain ⟨row, hrow, h⟩ := bind_ok h
      obtain ⟨rfl, rfl⟩ := Prod.mk.inj (Except.ok.inj h)
      have hne : rows ≠ [] := by
        rintro rfl
        exact hshort (by decide)
      obtain ⟨hlist, hget⟩ := list_of_lastRow hrows hne (lift_ok hlast) (lift_ok hrow)
      refine ⟨rfl, rfl, ?_⟩
      rw [hs]
      exact .behind hlist (by omega) hget (lift_ok hrow)
  · simp only [hempty, Bool.not_false, if_true] at h
    by_cases hfirst : t.pagesFetched = 1
    · rw [if_pos hfirst] at h
      cases h
    · rw [if_neg hfirst] at h
      obtain ⟨rfl, rfl⟩ := Prod.mk.inj (Except.ok.inj h)
      refine ⟨rfl, rfl, .last fun rows heq => ?_⟩
      obtain rfl : rows = [] := by simpa [heq, Value.truthy] using hempty
      decide

/-- One turn of the walk: a page, and what is left of the walk behind it. -/
theorem walkSignatures_step {n : ℕ} {cursor : Value} {s s' : History}
    (hs : s.reachedEnd = false)
    (h : walkSignatures host tokenMint (n + 1) cursor s = .ok s') :
    ∃ e t next cursor', Made host s.trace "getSignaturesForAddress"
        (signatureParams tokenMint cursor) e t ∧
      next.trace = { t with pagesFetched := t.pagesFetched + 1 } ∧ next.pages = s.pages ++ [e] ∧
      ReadAs e.response next.reachedEnd cursor' ∧
      ((next.reachedEnd = true ∨ cursor'.truthy = false) ∧ s' = next ∨
        next.reachedEnd = false ∧ cursor'.truthy = true ∧
          walkSignatures host tokenMint n cursor' next = .ok s') := by
  rw [walkSignatures] at h
  rcases hcall : rpcCall host s.trace "getSignaturesForAddress"
    (signatureParams tokenMint cursor) with ⟨e, t⟩
  simp only [hcall] at h
  obtain ⟨u, htransport, h⟩ := bind_ok h
  obtain ⟨-, -, h⟩ := bind_ok h
  obtain ⟨⟨next, cursor'⟩, hpage, h⟩ := bind_ok h
  obtain ⟨htrace, hpages, hread⟩ := readPage_ok (by exact hs) hpage
  refine ⟨e, t, next, cursor', rpcCall_made hcall htransport, htrace, hpages, hread, ?_⟩
  by_cases hstop : next.reachedEnd = true ∨ (!cursor'.truthy) = true
  · simp only [if_pos hstop] at h
    obtain rfl := Except.ok.inj h
    exact .inl ⟨by simpa using hstop, rfl⟩
  · simp only [if_neg hstop] at h
    obtain ⟨hend, hcursor⟩ : next.reachedEnd = false ∧ cursor'.truthy = true := by
      simpa using hstop
    exact .inr ⟨hend, hcursor, h⟩

/-- What the walk leaves: the pages behind the cursor, and the counters of the other calls. -/
structure Walked (host : TokenAgeHost) (tokenMint : String) (cursor : Value) (s s' : History)
    (pages : List Exchange) : Prop where
  history : s'.pages = s.pages ++ pages
  exchanges : s'.trace.exchanges = s.trace.exchanges ++ pages
  recorded : Recorded host s.trace.exchanges → Recorded host s'.trace.exchanges
  txCalls : s'.trace.txCalls = s.trace.txCalls
  reachesEnd : s'.reachedEnd = true → (∀ e ∈ pages.getLast?, IsPage e) →
    ReachesEnd tokenMint cursor pages

theorem walkSignatures_ok {n : ℕ} {cursor : Value} {s s' : History} (hs : s.reachedEnd = false)
    (h : walkSignatures host tokenMint n cursor s = .ok s') :
    ∃ pages, Walked host tokenMint cursor s s' pages := by
  induction n generalizing cursor s with
  | zero =>
    obtain rfl := Except.ok.inj h
    exact ⟨[], by simp, by simp, id, rfl, fun hend => by rw [hs] at hend; cases hend⟩
  | succ n ih =>
    obtain ⟨e, t, next, cursor', hmade, htrace, hpages, hread, hrest⟩ := walkSignatures_step hs h
    have hexchanges : next.trace.exchanges = s.trace.exchanges ++ [e] := by
      rw [htrace, hmade.trace]
    have hrecorded : Recorded host s.trace.exchanges → Recorded host next.trace.exchanges := by
      intro hrec
      rw [htrace]
      exact hmade.recorded hrec
    have htx : next.trace.txCalls = s.trace.txCalls := by
      rw [htrace, hmade.trace]
    rcases hrest with ⟨-, rfl⟩ | ⟨hend, hcursor, hwalk⟩
    · refine ⟨[e], hpages, hexchanges, hrecorded, htx, fun hend hpage => ?_⟩
      obtain ⟨rows, hrows⟩ := hpage e rfl
      rw [hend] at hread
      cases hread with
      | last hshort => exact .last hmade.call hrows (hshort rows hrows)
    · obtain ⟨pages, hwalked⟩ := ih hend hwalk
      refine ⟨e :: pages, ?_, ?_, fun hrec => hwalked.recorded (hrecorded hrec),
        by rw [hwalked.txCalls, htx], fun hreached hpage => ?_⟩
      · rw [hwalked.history, hpages, List.append_assoc, List.singleton_append]
      · rw [hwalked.exchanges, hexchanges, List.append_assoc, List.singleton_append]
      · rw [hend] at hread
        cases hread with
        | behind hrows hfull hlast hrow =>
          obtain ⟨hsame, hsignature⟩ := orEmpty_truthy hcursor
          rw [hsame] at hwalked
          have hrow := mappingOr_get hrow (ne_none_of_truthy hsignature)
          rw [hrow] at hlast
          refine .next hmade.call hrows hfull hlast (hwalked.reachesEnd hreached fun x hx => ?_)
          refine hpage x ?_
          rw [List.getLast?_cons, Option.mem_def.mp hx]
          rfl

end History

/-! ## The candidates -/

/-- The transaction did not fail. -/
def Succeeded (tx : Dict) : Prop := ∃ metadata, metaOf tx = .ok metadata ∧
  metadata.get "err" = .none

/-- The response holds the transaction. -/
def HasTransaction (i : Inspected) (tx : Dict) : Prop :=
  i.transaction.response.get "result" = .dict tx

/-- The time that is read for a transaction: its own, or that of the fallback. -/
def readTime (host : TokenAgeHost) (i : Inspected) (tx : Dict) : Option (ℤ × String) :=
  match positiveTime host (tx.get "blockTime") with
  | .ok (some n) => some (n, "getTransaction")
  | .ok none => i.fallback.bind fun e =>
    (positiveTime host (e.response.get "result")).toOption.join.map (·, "getBlockTime")
  | .error _ => none

/-- What is made of a candidate, from the responses to it. -/
inductive Verdict (host : TokenAgeHost) (tokenMint : String) (sig : Value) (i : Inspected) : Prop
  | missing : i.transaction.response.get "result" = .none → i.accepted = none →
      Verdict host tokenMint sig i
  | passed {tx} : HasTransaction i tx →
      (Succeeded tx → transactionInitMatches host.rendering tx tokenMint = .ok (some [])) →
      i.accepted = none → Verdict host tokenMint sig i
  | matched {tx found} : HasTransaction i tx → Succeeded tx →
      transactionInitMatches host.rendering tx tokenMint = .ok (some [found]) →
      i.accepted = (readTime host i tx).map
        (fun time => ⟨sig, tx.get "slot", time.1, time.2, found.1, found.2⟩) →
      (∀ e ∈ i.fallback, ∃ n, (tx.get "slot").toInt host.rendering = .ok n ∧
        e.call = ⟨"getBlockTime", .list [.int n]⟩) →
      Verdict host tokenMint sig i

/-- What looking at a candidate leaves. -/
structure Looked (host : TokenAgeHost) (tokenMint : String) (t : Trace) (row sig : Value)
    (i : Inspected) (t' : Trace) : Prop where
  row : i.row = row
  call : i.transaction.call = ⟨"getTransaction", transactionParams sig⟩
  verdict : Verdict host tokenMint sig i
  made : t.exchanges ++ [i.transaction] <+: t'.exchanges
  recorded : Recorded host t.exchanges → Recorded host t'.exchanges
  txCalls : t'.txCalls = t.txCalls + 1

/-- What the matches of a transaction leave alone. -/
structure Kept (host : TokenAgeHost) (t : Trace) (i : Inspected) (t' : Trace) (i' : Inspected) :
    Prop where
  row : i'.row = i.row
  transaction : i'.transaction = i.transaction
  made : t.exchanges <+: t'.exchanges
  recorded : Recorded host t.exchanges → Recorded host t'.exchanges
  txCalls : t'.txCalls = t.txCalls

theorem Kept.refl (host : TokenAgeHost) (t : Trace) (i : Inspected) : Kept host t i t i :=
  ⟨rfl, rfl, List.prefix_rfl, id, rfl⟩

section Candidates

variable {host : TokenAgeHost} {tokenMint : String}

/-- The time of a match that was found: its own, none, or that of the fallback. -/
theorem resolveTime_ok {t t' : Trace} {i i' : Inspected} {tx : Dict} {sig : Value}
    {found : String × String} (hi : i.fallback = none) (hno : i.accepted = none)
    (h : resolveTime host tokenMint t i tx sig found = .ok (i', t')) :
    Kept host t i t' i' ∧
      i'.accepted = (readTime host i' tx).map
        (fun time => ⟨sig, tx.get "slot", time.1, time.2, found.1, found.2⟩) ∧
      ∀ e ∈ i'.fallback, ∃ n, (tx.get "slot").toInt host.rendering = .ok n ∧
        e.call = ⟨"getBlockTime", .list [.int n]⟩ := by
  obtain ⟨own, hown, h⟩ := bind_ok h
  have hown := lift_ok hown
  cases own with
  | some blockTime =>
    obtain ⟨rfl, rfl⟩ := Prod.mk.inj (Except.ok.inj h)
    refine ⟨⟨rfl, rfl, List.prefix_rfl, id, rfl⟩, ?_, by simp [hi]⟩
    simp [readTime, hown]
  | none =>
    by_cases hask : tx.get "slot" ≠ .none ∧ t.blockTimeCalls < maxBlockTimeCalls
    · simp only [if_pos hask] at h
      obtain ⟨n, hn, h⟩ := bind_ok h
      rcases hcall : rpcCall host t "getBlockTime" (.list [.int n]) with ⟨e, t₁⟩
      simp only [hcall] at h
      obtain ⟨u, htransport, h⟩ := bind_ok h
      obtain ⟨blockTime, htime, h⟩ := bind_ok h
      obtain ⟨rfl, rfl⟩ := Prod.mk.inj (Except.ok.inj h)
      have hmade := rpcCall_made hcall htransport
      refine ⟨⟨rfl, rfl, ?_, hmade.recorded, by rw [hmade.trace]⟩, ?_, fun e' he => ?_⟩
      · rw [hmade.trace]
        exact List.prefix_append _ _
      · cases blockTime <;> simp [readTime, hown, lift_ok htime, Except.toOption]
      · obtain rfl : e = e' := by simpa using he
        exact ⟨n, mapError_ok (lift_ok hn), hmade.call⟩
    · simp only [if_neg hask] at h
      obtain ⟨rfl, rfl⟩ := Prod.mk.inj (Except.ok.inj h)
      refine ⟨Kept.refl host t i, ?_, by simp [hi]⟩
      simp [readTime, hown, hi, hno]

theorem inspectMatches_ok {t t' : Trace} {i i' : Inspected} {tx : Dict} {sig : Value}
    (hi : i.fallback = none) (hno : i.accepted = none) (htx : HasTransaction i tx)
    (hsucceeded : Succeeded tx)
    (h : inspectMatches host tokenMint t i tx sig = .ok (i', t')) :
    Kept host t i t' i' ∧ Verdict host tokenMint sig i' := by
  obtain ⟨found, hfound, h⟩ := bind_ok h
  have hfound := lift_ok hfound
  match found, hfound, h with
  | some [], hfound, h =>
    obtain ⟨rfl, rfl⟩ := Prod.mk.inj (Except.ok.inj h)
    exact ⟨Kept.refl host t i, .passed htx (fun _ => hfound) hno⟩
  | some [found], hfound, h =>
    obtain ⟨hkept, haccepted, hfallback⟩ := resolveTime_ok hi hno h
    refine ⟨hkept, .matched ?_ hsucceeded hfound haccepted hfallback⟩
    rw [HasTransaction, hkept.transaction]
    exact htx

theorem inspectCandidate_ok {t t' : Trace} {row sig : Value} {i : Inspected}
    (h : inspectCandidate host tokenMint t row sig = .ok (i, t')) :
    Looked host tokenMint t row sig i t' := by
  rw [inspectCandidate] at h
  rcases hcall : rpcCall host t "getTransaction" (transactionParams sig) with ⟨e, t₁⟩
  simp only [hcall] at h
  obtain ⟨u, htransport, h⟩ := bind_ok h
  have hmade := rpcCall_made hcall htransport
  have hexchanges : t₁.exchanges = t.exchanges ++ [e] := hmade.exchanges
  have htx : t₁.txCalls = t.txCalls := by rw [hmade.trace]
  by_cases hmissing : e.response.get "result" = .none
  · rw [if_pos hmissing] at h
    obtain ⟨rfl, rfl⟩ := Prod.mk.inj (Except.ok.inj h)
    exact ⟨rfl, hmade.call, .missing hmissing rfl, by simp [hexchanges], hmade.recorded,
      by simp [htx]⟩
  · rw [if_neg hmissing] at h
    obtain ⟨tx, hresult, h⟩ := bind_ok h
    obtain ⟨metadata, hmeta, h⟩ := bind_ok h
    have hresult : e.response.get "result" = .dict tx := asMapping_ok (lift_ok hresult)
    have hmeta := lift_ok hmeta
    by_cases herr : metadata.get "err" ≠ .none
    · rw [if_pos herr] at h
      obtain ⟨rfl, rfl⟩ := Prod.mk.inj (Except.ok.inj h)
      refine ⟨rfl, hmade.call, .passed hresult ?_ rfl, by simp [hexchanges], hmade.recorded,
        by simp [htx]⟩
      rintro ⟨metadata', hmeta', hnone⟩
      rw [hmeta] at hmeta'
      obtain rfl := Except.ok.inj hmeta'
      exact absurd hnone herr
    · rw [if_neg herr] at h
      have hsucceeded : Succeeded tx := ⟨metadata, hmeta, not_not.mp herr⟩
      obtain ⟨hkept, hverdict⟩ :=
        inspectMatches_ok (by rfl) (by rfl) (by exact hresult) hsucceeded h
      refine ⟨hkept.row, ?_, hverdict, ?_, fun hrec => hkept.recorded (hmade.recorded hrec), ?_⟩
      · rw [hkept.transaction]
        exact hmade.call
      · rw [hkept.transaction, ← hexchanges]
        exact hkept.made
      · rw [hkept.txCalls, htx]

theorem candidate_signed {row : Value} {entries : Dict} (hentries : mappingOr row = .ok entries)
    (h : isCandidate row = .ok true) :
    row = .dict entries ∧ (entries.get "signature").truthy = true := by
  rw [isCandidate, hentries, ok_bind] at h
  have hsig : (entries.get "signature").truthy = true := by
    have h := Except.ok.inj h
    simp only [Bool.and_eq_true] at h
    exact h.1.1
  exact ⟨mappingOr_get hentries (ne_none_of_truthy hsig), hsig⟩

theorem selectRows_ok {rows selected : List Value} (h : selectRows rows = .ok selected) :
    (∀ row ∈ selected, isCandidate row = .ok true) ∧ selected.length ≤ rows.length := by
  induction rows generalizing selected with
  | nil =>
    obtain rfl := Except.ok.inj h
    exact ⟨by simp, le_rfl⟩
  | cons row rows ih =>
    obtain ⟨taken, htaken, h⟩ := bind_ok h
    obtain ⟨rest, hrest, h⟩ := bind_ok h
    obtain rfl := Except.ok.inj h
    obtain ⟨hall, hlength⟩ := ih hrest
    cases taken with
    | true => exact ⟨List.forall_mem_cons.mpr ⟨htaken, hall⟩, Nat.succ_le_succ hlength⟩
    | false => exact ⟨hall, Nat.le_succ_of_le hlength⟩

theorem rawCandidates_ok {oldestPage candidates : List Value}
    (h : rawCandidates oldestPage = .ok candidates) :
    (∀ row ∈ candidates, isCandidate row = .ok true) ∧
      candidates.length ≤ maxInitCandidates := by
  obtain ⟨hall, hlength⟩ := selectRows_ok h
  rw [List.length_take] at hlength
  exact ⟨hall, by omega⟩

/-- Every row that the calls suffice for is looked at. -/
theorem inspectCandidates_ok {t t' : Trace} {rows : List Value} {inspected : List Inspected}
    (hroom : t.txCalls + rows.length ≤ maxTransactionCalls)
    (hsigned : ∀ row ∈ rows, isCandidate row = .ok true)
    (h : inspectCandidates host tokenMint t rows = .ok (inspected, t')) :
    inspected.map Inspected.row = rows ∧ t.exchanges <+: t'.exchanges ∧
      (Recorded host t.exchanges → Recorded host t'.exchanges) ∧
      ∀ i ∈ inspected, i.transaction ∈ t'.exchanges ∧ ∃ entries : Dict, i.row = .dict entries ∧
        i.transaction.call = ⟨"getTransaction", transactionParams (entries.get "signature")⟩ ∧
        Verdict host tokenMint (entries.get "signature") i := by
  induction rows generalizing t inspected with
  | nil =>
    obtain ⟨rfl, rfl⟩ := Prod.mk.inj (Except.ok.inj h)
    exact ⟨rfl, List.prefix_rfl, id, by simp⟩
  | cons row rows ih =>
    rw [List.forall_mem_cons] at hsigned
    rw [List.length_cons] at hroom
    rw [inspectCandidates, if_neg (by omega)] at h
    obtain ⟨entries, hentries, h⟩ := bind_ok h
    obtain ⟨hrow, hsig⟩ := candidate_signed (lift_ok hentries) hsigned.1
    have hor : orEmpty (entries.get "signature") = entries.get "signature" := if_pos hsig
    simp only [hor, hsig, Bool.not_true, Bool.false_eq_true, if_false] at h
    obtain ⟨⟨i, t₁⟩, hlook, h⟩ := bind_ok h
    obtain ⟨⟨rest, t₂⟩, hrest, h⟩ := bind_ok h
    obtain ⟨rfl, rfl⟩ := Prod.mk.inj (Except.ok.inj h)
    have hlooked := inspectCandidate_ok hlook
    have hroom' : t₁.txCalls + rows.length ≤ maxTransactionCalls := by
      rw [hlooked.txCalls]
      omega
    obtain ⟨hrows, hgrown, hrec, hall⟩ := ih hroom' hsigned.2 hrest
    refine ⟨by rw [List.map_cons, hlooked.row, hrows], ?_, fun hr => hrec (hlooked.recorded hr), ?_⟩
    · exact ((List.prefix_append _ _).trans hlooked.made).trans hgrown
    · rw [List.forall_mem_cons]
      refine ⟨⟨?_, entries, by rw [hlooked.row, hrow], hlooked.call, hlooked.verdict⟩, hall⟩
      exact (hlooked.made.trans hgrown).subset (by simp)

end Candidates

end PrinterV1.Sources.TokenAge
