import PrinterV1.Sources.TokenAgeSteps

/-!
# Soundness of the age of a token

What a success of `_fetch_token_age_data` has to rest on, and under which answers of
the server it does: the history was read to its end, every candidate was answered, and
exactly one of them initialised the mint, at the reported slot and time.
-/

namespace PrinterV1.Sources.TokenAge

open Python Faults

/-! ## The candidate that counts -/

/-- The candidate carries an instruction that initialises the mint, by the program. -/
def Carries (R : Value.Rendering) (owner tokenMint : String) (i : Inspected) : Prop :=
  ∃ tx accountKeys instructions, HasTransaction i tx ∧
    resolveTransaction R tx = .ok (some (accountKeys, instructions)) ∧
    ∃ v ∈ instructions, Initialises accountKeys owner tokenMint v

/-- The time is the one that the transaction states, or, where it states none, the one that the
server states for its slot. -/
def OwnTime (i : Inspected) (tx : Dict) (n : ℤ) : Prop :=
  (tx.get "blockTime").pyEq (.int n) = true ∨
    tx.get "blockTime" = .none ∧ ∃ e slot, i.fallback = some e ∧
      (tx.get "slot").pyEq (.int slot) = true ∧
      e.call = ⟨"getBlockTime", .list [.int slot]⟩ ∧
      (e.response.get "result").pyEq (.int n) = true

/-- Every instruction that is matched initialises the mint, by the program. -/
def ExactMatches (R : Value.Rendering) (owner tokenMint : String) (tx : Dict) : Prop :=
  ∀ accountKeys instructions, resolveTransaction R tx = .ok (some (accountKeys, instructions)) →
    ∀ v ∈ instructions, matchOf R tokenMint accountKeys v ≠ none →
      Initialises accountKeys owner tokenMint v

/-- A number without a fraction. -/
def IsWhole (v : Value) : Prop := ∃ n : ℤ, v.pyEq (.int n) = true

/-- A positive number without a fraction. -/
def IsTime (v : Value) : Prop := ∃ n : ℤ, 0 < n ∧ v.pyEq (.int n) = true

/-- The time of the transaction is a whole number, or it is absent, and its slot and the answer of
the fallback are whole numbers. -/
def WholeTime (i : Inspected) (tx : Dict) : Prop :=
  IsTime (tx.get "blockTime") ∨
    tx.get "blockTime" = .none ∧ IsWhole (tx.get "slot") ∧
      ∀ e ∈ i.fallback, IsWhole (e.response.get "result")

section Times

variable {host : TokenAgeHost}

theorem toInt_of_pyEq {R : Value.Rendering} {v : Value} {n : ℤ} (h : v.pyEq (.int n) = true) :
    v.toInt R = .ok n := by
  have hfloated : v.floated = .float n := (Value.pyEq_iff.mp h).1
  cases v with
  | bool b =>
    have hb : ((if b then 1 else 0 : ℚ)) = n := by simpa [Value.floated] using hfloated
    cases b <;> simp_all [Value.toInt] <;> exact_mod_cast hb
  | int m =>
    have hm : (m : ℚ) = n := by simpa [Value.floated] using hfloated
    rw [Value.toInt, Rat.intCast_injective hm]
  | float q =>
    obtain rfl : q = n := by simpa [Value.floated] using hfloated
    simp [Value.toInt]
  | _ => simp [Value.floated] at hfloated

theorem pyEq_of_toInt {R : Value.Rendering} {v : Value} {n : ℤ} (hv : IsWhole v)
    (h : v.toInt R = .ok n) : v.pyEq (.int n) = true := by
  obtain ⟨m, hm⟩ := hv
  rw [toInt_of_pyEq hm] at h
  obtain rfl := Except.ok.inj h
  exact hm

theorem positiveTime_some_iff {v : Value} {n : ℤ} :
    positiveTime host v = .ok (some n) ↔ v ≠ .none ∧ v.toInt host.rendering = .ok n ∧ 0 < n := by
  unfold positiveTime
  by_cases hv : v = .none
  · simp [hv]
  · cases h : v.toInt host.rendering with
    | error e => simp [hv]
    | ok m =>
      by_cases hm : 0 < m
      · simp only [hv, hm, if_true, if_false, Except.ok.injEq, Option.some.injEq, ne_eq,
          not_false_eq_true, true_and]
        constructor
        · rintro rfl
          exact ⟨rfl, hm⟩
        · exact fun h => h.1
      · simp only [hv, hm, if_false, ne_eq, not_false_eq_true, true_and]
        constructor
        · intro h
          cases Except.ok.inj h
        · rintro ⟨h, hn⟩
          obtain rfl := Except.ok.inj h
          exact absurd hn hm

theorem positiveTime_of_isTime {v : Value} {n : ℤ} (hn : 0 < n) (h : v.pyEq (.int n) = true) :
    positiveTime host v = .ok (some n) := by
  refine positiveTime_some_iff.mpr ⟨?_, toInt_of_pyEq h, hn⟩
  rintro rfl
  simp [Value.pyEq_iff, Value.floated] at h

/-- The times that are read are positive; they are those of the transaction where these are whole
numbers. -/
theorem readTime_some {i : Inspected} {tx : Dict} {time : ℤ × String}
    (h : readTime host i tx = some time)
    (hcall : ∀ e ∈ i.fallback, ∃ n, (tx.get "slot").toInt host.rendering = .ok n ∧
      e.call = ⟨"getBlockTime", .list [.int n]⟩) :
    0 < time.1 ∧ (WholeTime i tx ↔ OwnTime i tx time.1) := by
  unfold readTime at h
  rcases htime : positiveTime host (tx.get "blockTime") with _ | (_ | n)
  · simp [htime] at h
  · simp only [htime] at h
    obtain ⟨e, he, h⟩ := Option.bind_eq_some_iff.mp h
    obtain ⟨n, hn, rfl⟩ := Option.map_eq_some_iff.mp h
    have hanswer : positiveTime host (e.response.get "result") = .ok (some n) := by
      rcases hresult : positiveTime host (e.response.get "result") with _ | _ <;>
        simp_all [Except.toOption]
    obtain ⟨-, hint, hpositive⟩ := positiveTime_some_iff.mp hanswer
    obtain ⟨slot, hslot, hasked⟩ := hcall e he
    -- A positive time of its own would have been read.
    have hno : ∀ m : ℤ, 0 < m → (tx.get "blockTime").pyEq (.int m) ≠ true := by
      intro m hm heq
      rw [positiveTime_of_isTime hm heq] at htime
      cases Except.ok.inj htime
    refine ⟨hpositive, ?_, ?_⟩
    · rintro (⟨m, hm, heq⟩ | ⟨hnone, hwhole, hanswers⟩)
      · exact absurd heq (hno m hm)
      · exact .inr ⟨hnone, e, slot, he, pyEq_of_toInt hwhole hslot, hasked,
          pyEq_of_toInt (hanswers e he) hint⟩
    · rintro (heq | ⟨hnone, e', slot', he', hwhole, -, hanswers⟩)
      · exact absurd heq (hno n hpositive)
      · refine .inr ⟨hnone, ⟨slot', hwhole⟩, fun x hx => ?_⟩
        obtain rfl : e' = x := Option.some.inj (he'.symm.trans hx)
        exact ⟨n, hanswers⟩
  · simp only [htime, Option.some.injEq] at h
    subst h
    obtain ⟨hsome, hint, hpositive⟩ := positiveTime_some_iff.mp htime
    refine ⟨hpositive, ?_, ?_⟩
    · rintro (⟨m, -, heq⟩ | ⟨hnone, -⟩)
      · exact .inl (pyEq_of_toInt ⟨m, heq⟩ hint)
      · exact absurd hnone hsome
    · rintro (heq | ⟨hnone, -⟩)
      · exact .inl ⟨n, hpositive, heq⟩
      · exact absurd hnone hsome

end Times

/-! ## What a run leaves -/

/-- The transaction of the candidate was asked for, and answered. -/
def Asked (exchanges : List Exchange) (i : Inspected) : Prop :=
  i.transaction ∈ exchanges ∧ ∃ entries : Dict, i.row = .dict entries ∧
    i.transaction.call = ⟨"getTransaction", transactionParams (entries.get "signature")⟩

/-- The evidence was derived from the accepted match, with the instants of the capture and of the
creation. -/
def DerivedFrom (host : TokenAgeHost) (tokenMint capturedAt : String) (run : TokenAgeRun)
    (accepted : AcceptedMatch) (captured : Instant) : Prop :=
  deriveTimestamps host capturedAt accepted.blockTime =
      some (captured, fromTimestamp accepted.blockTime) ∧
    fromTimestamp accepted.blockTime ≤ captured ∧
    run.evidence = evidenceOf host tokenMint capturedAt run.trace accepted captured
      (fromTimestamp accepted.blockTime)

/-- What holds of every success. -/
structure Ran (host : TokenAgeHost) (tokenMint capturedAt : String) (run : TokenAgeRun) :
    Prop where
  recorded : Recorded host run.trace.exchanges
  allowed : run.owner ∈ allowedTokenPrograms
  owner : OwnsAccount tokenMint run.owner run.trace.exchanges
  reachesEnd : (∀ e ∈ run.history.pages.getLast?, IsPage e) →
    ReachesEnd tokenMint .none run.history.pages
  pages : ∀ e ∈ run.history.pages, e ∈ run.trace.exchanges
  fetched : run.inspected.map Inspected.row = run.candidates
  asked : ∀ i ∈ run.inspected, Asked run.trace.exchanges i
  verdict : ∀ i ∈ run.inspected, ∃ sig, Verdict host tokenMint sig i
  accepted : ∃ accepted captured, run.inspected.filterMap Inspected.accepted = [accepted] ∧
    DerivedFrom host tokenMint capturedAt run accepted captured

section Runs

variable {host : TokenAgeHost} {tokenMint capturedAt : String} {run : TokenAgeRun}

theorem deriveTimestamps_created {n : ℤ} {captured created : Instant}
    (h : deriveTimestamps host capturedAt n = some (captured, created)) :
    created = fromTimestamp n := by
  obtain ⟨d, -, h⟩ := Option.bind_eq_some_iff.mp h
  split at h
  · exact (Prod.mk.inj (Option.some.inj h)).2.symm
  · cases h

theorem deriveEvidence_ok {t : Trace} {found : List AcceptedMatch} {evidence : TokenAgeEvidence}
    (h : deriveEvidence host tokenMint capturedAt t found = .ok evidence) :
    ∃ accepted captured, found = [accepted] ∧
      deriveTimestamps host capturedAt accepted.blockTime =
        some (captured, fromTimestamp accepted.blockTime) ∧
      fromTimestamp accepted.blockTime ≤ captured ∧
      evidence = evidenceOf host tokenMint capturedAt t accepted captured
        (fromTimestamp accepted.blockTime) := by
  match found, h with
  | [accepted], h =>
    simp only [deriveEvidence] at h
    cases htimes : deriveTimestamps host capturedAt accepted.blockTime with
    | none => simp [htimes] at h
    | some times =>
      obtain ⟨captured, created⟩ := times
      obtain rfl := deriveTimestamps_created htimes
      simp only [htimes] at h
      by_cases hlate : fromTimestamp accepted.blockTime > captured
      · rw [if_pos hlate] at h
        cases h
      · rw [if_neg hlate] at h
        exact ⟨accepted, captured, rfl, htimes, not_lt.mp hlate, (Except.ok.inj h).symm⟩

theorem fetchTokenAgeData_ran (h : fetchTokenAgeData host tokenMint capturedAt = .ok run) :
    Ran host tokenMint capturedAt run := by
  obtain ⟨⟨owner, t⟩, haccount, h⟩ := bind_ok h
  obtain ⟨hrec, htx, hallowed, howns⟩ := validateAccount_ok haccount
  obtain ⟨history, hwalk, h⟩ := bind_ok h
  obtain ⟨pages, hwalked⟩ := walkSignatures_ok (by rfl) hwalk
  obtain ⟨hend, h⟩ := check_ok h
  obtain ⟨candidates, hcandidates, h⟩ := bind_ok h
  obtain ⟨hselected, hfew⟩ := rawCandidates_ok (lift_ok hcandidates)
  obtain ⟨-, h⟩ := check_ok h
  obtain ⟨⟨inspected, t'⟩, hinspect, h⟩ := bind_ok h
  obtain ⟨evidence, hevidence, h⟩ := bind_ok h
  obtain rfl := Except.ok.inj h
  have hroom : history.trace.txCalls + candidates.length ≤ maxTransactionCalls := by
    rw [hwalked.txCalls, htx]
    simpa [maxTransactionCalls, maxInitCandidates] using hfew
  obtain ⟨hrows, hgrown, hrec', hall⟩ := inspectCandidates_ok hroom hselected hinspect
  have hpages : history.pages = pages := hwalked.history
  have hfirst : t.exchanges <+: t'.exchanges := by
    refine (List.IsPrefix.trans ?_ hgrown)
    rw [hwalked.exchanges]
    exact List.prefix_append _ _
  obtain ⟨accepted, captured, hfound, hderived⟩ := deriveEvidence_ok hevidence
  refine ⟨hrec' (hwalked.recorded hrec), hallowed, ?_, ?_, ?_, hrows, ?_, ?_,
    accepted, captured, hfound, hderived⟩
  · obtain ⟨e, hhead, hrest⟩ := howns
    refine ⟨e, ?_, hrest⟩
    obtain ⟨rest, hrest⟩ := hfirst
    rw [← hrest, List.head?_append, hhead]
    rfl
  · intro hpage
    simp only [hpages] at hpage ⊢
    exact hwalked.reachesEnd (by simpa using hend) hpage
  · intro e he
    simp only [hpages] at he
    refine hgrown.subset ?_
    rw [hwalked.exchanges]
    exact List.mem_append_right _ he
  · intro i hi
    obtain ⟨hmem, entries, hrow, hcall, -⟩ := hall i hi
    exact ⟨hmem, entries, hrow, hcall⟩
  · intro i hi
    obtain ⟨-, entries, -, -, hverdict⟩ := hall i hi
    exact ⟨_, hverdict⟩

end Runs

/-! ## Soundness -/

/-- The one candidate that initialised the mint, at the slot and the time of the evidence. -/
def Initialised (R : Value.Rendering) (tokenMint : String) (run : TokenAgeRun) : Prop :=
  ∃ before found after tx, run.inspected = before ++ found :: after ∧
    Carries R run.owner tokenMint found ∧
    (∀ i ∈ before ++ after, ¬ Carries R run.owner tokenMint i) ∧
    found.accepted.isSome = true ∧ HasTransaction found tx ∧
    run.evidence.acceptedSlot = tx.get "slot" ∧ OwnTime found tx run.evidence.blockTimeRaw

/-- The transaction was asked for, and answered with a result and without an error. -/
def Answered (exchanges : List Exchange) (i : Inspected) : Prop :=
  Asked exchanges i ∧ (i.transaction.response.get "error").truthy = false ∧
    i.transaction.response.get "result" ≠ .none

/-- The token was created at a positive time, not after the capture. -/
def CreatedBefore (host : TokenAgeHost) (capturedAt : String)
    (evidence : TokenAgeEvidence) : Prop :=
  0 < evidence.blockTimeRaw ∧ ∃ d, fromisoformat (replaceZulu capturedAt) = some d ∧
    fromTimestamp evidence.blockTimeRaw ≤ d.instantIn host.zone ∧
    evidence.tokenCreatedAt = isoformat (fromTimestamp evidence.blockTimeRaw)

/-- The evidence of a success is sound. -/
structure Sound (host : TokenAgeHost) (tokenMint capturedAt : String) (run : TokenAgeRun) :
    Prop where
  calls : run.trace.exchanges.length ≤ 8
  recorded : Recorded host run.trace.exchanges
  allowed : run.owner ∈ allowedTokenPrograms
  owner : OwnsAccount tokenMint run.owner run.trace.exchanges
  sawEnd : ReachesEnd tokenMint .none run.history.pages
  pages : ∀ e ∈ run.history.pages, e ∈ run.trace.exchanges
  fetched : run.inspected.map Inspected.row = run.candidates
  answered : ∀ i ∈ run.inspected, Answered run.trace.exchanges i
  initialised : Initialised host.rendering tokenMint run
  created : CreatedBefore host capturedAt run.evidence

/-- The answers that a sound success takes. -/
structure ReliableAnswers (host : TokenAgeHost) (tokenMint : String) (run : TokenAgeRun) :
    Prop where
  lastPage : ∀ e ∈ run.history.pages.getLast?, IsPage e
  answered : ∀ i ∈ run.inspected, (i.transaction.response.get "error").truthy = false ∧
    i.transaction.response.get "result" ≠ .none
  carriers : ∀ i ∈ run.inspected, Carries host.rendering run.owner tokenMint i →
    ∀ tx, HasTransaction i tx → Succeeded tx ∧ (readTime host i tx).isSome = true
  exact : ∀ i ∈ run.inspected, ∀ tx, HasTransaction i tx → Succeeded tx →
    (∃ found, transactionInitMatches host.rendering tx tokenMint = .ok (some [found])) →
    (readTime host i tx).isSome = true →
    ExactMatches host.rendering run.owner tokenMint tx ∧ WholeTime i tx

section Soundness

variable {host : TokenAgeHost} {tokenMint capturedAt : String} {run : TokenAgeRun}

theorem HasTransaction.unique {i : Inspected} {tx tx' : Dict} (h : HasTransaction i tx)
    (h' : HasTransaction i tx') : tx = tx' := by
  rw [HasTransaction, h] at h'
  exact Value.dict.inj h'

/-- A candidate that is accepted succeeded, with one match and with a time. -/
theorem Verdict.accepted {sig : Value} {i : Inspected} {accepted : AcceptedMatch}
    (h : Verdict host tokenMint sig i) (haccepted : i.accepted = some accepted) :
    ∃ tx found, HasTransaction i tx ∧ Succeeded tx ∧
      transactionInitMatches host.rendering tx tokenMint = .ok (some [found]) ∧
      accepted.slot = tx.get "slot" ∧ (readTime host i tx).isSome = true ∧
      0 < accepted.blockTime ∧ (WholeTime i tx ↔ OwnTime i tx accepted.blockTime) := by
  cases h with
  | missing _ hno => simp [hno] at haccepted
  | passed _ _ hno => simp [hno] at haccepted
  | @matched tx found htx hsucceeded hfound hsome hcall =>
    rw [hsome] at haccepted
    obtain ⟨time, htime, rfl⟩ := Option.map_eq_some_iff.mp haccepted
    obtain ⟨hpositive, hown⟩ := readTime_some htime hcall
    exact ⟨tx, found, htx, hsucceeded, hfound, rfl, by rw [htime]; rfl, hpositive, hown⟩

/-- A candidate that succeeded, with one match and with a time, is accepted. -/
theorem Verdict.isSome {sig : Value} {i : Inspected} {tx : Dict} {found : String × String}
    (h : Verdict host tokenMint sig i) (htx : HasTransaction i tx) (hsucceeded : Succeeded tx)
    (hfound : transactionInitMatches host.rendering tx tokenMint = .ok (some [found]))
    (htime : (readTime host i tx).isSome = true) : i.accepted.isSome = true := by
  cases h with
  | missing hnone _ =>
    rw [HasTransaction, hnone] at htx
    cases htx
  | passed htx' hempty _ =>
    obtain rfl := htx'.unique htx
    rw [hempty hsucceeded] at hfound
    cases Except.ok.inj hfound
  | matched htx' _ _ hsome _ =>
    obtain rfl := htx'.unique htx
    rw [hsome, Option.isSome_map]
    exact htime

/-- A candidate with an exact instruction that succeeded has one match. -/
theorem Verdict.matched_of_carries {sig : Value} {i : Inspected} {owner : String} {tx : Dict}
    (h : Verdict host tokenMint sig i) (hallowed : owner ∈ allowedTokenPrograms)
    (hcarries : Carries host.rendering owner tokenMint i) (htx : HasTransaction i tx)
    (hsucceeded : Succeeded tx) :
    ∃ found, transactionInitMatches host.rendering tx tokenMint = .ok (some [found]) := by
  obtain ⟨tx', accountKeys, instructions, htx', hresolved, v, hv, hexact⟩ := hcarries
  obtain rfl := htx'.unique htx
  cases h with
  | missing hnone _ =>
    rw [HasTransaction, hnone] at htx
    cases htx
  | passed htx' hempty _ =>
    obtain rfl := htx'.unique htx
    obtain ⟨keys', instructions', hresolved', hnil⟩ := transactionInitMatches_ok (hempty hsucceeded)
    rw [hresolved] at hresolved'
    obtain ⟨rfl, rfl⟩ := Prod.mk.inj (Option.some.inj (Except.ok.inj hresolved'))
    exact absurd (List.filterMap_eq_nil_iff.mp hnil.symm v hv)
      (matchOf_of_initialises hexact hallowed)
  | matched htx' _ hfound _ _ =>
    obtain rfl := htx'.unique htx
    exact ⟨_, hfound⟩

/-- The match of a transaction is exact where the transaction carries an exact instruction. -/
theorem exactMatches_of_carries {i : Inspected} {owner : String} {tx : Dict}
    {found : String × String} (hallowed : owner ∈ allowedTokenPrograms)
    (hcarries : Carries host.rendering owner tokenMint i) (htx : HasTransaction i tx)
    (hfound : transactionInitMatches host.rendering tx tokenMint = .ok (some [found])) :
    ExactMatches host.rendering owner tokenMint tx := by
  intro accountKeys instructions hresolved v hv hmatch
  obtain ⟨tx', keys', instructions', htx', hresolved', w, hw, hexact⟩ := hcarries
  obtain rfl := htx'.unique htx
  rw [hresolved] at hresolved'
  obtain ⟨rfl, rfl⟩ := Prod.mk.inj (Option.some.inj (Except.ok.inj hresolved'))
  obtain ⟨keys', instructions', hresolved', hone⟩ := transactionInitMatches_ok hfound
  rw [hresolved] at hresolved'
  obtain ⟨rfl, rfl⟩ := Prod.mk.inj (Option.some.inj (Except.ok.inj hresolved'))
  rw [eq_of_one_match hone.symm hv hw hmatch (matchOf_of_initialises hexact hallowed)]
  exact hexact

/-- A transaction whose match is exact carries an exact instruction. -/
theorem carries_of_exactMatches {i : Inspected} {owner : String} {tx : Dict}
    {found : String × String} (htx : HasTransaction i tx)
    (hfound : transactionInitMatches host.rendering tx tokenMint = .ok (some [found]))
    (hexact : ExactMatches host.rendering owner tokenMint tx) :
    Carries host.rendering owner tokenMint i := by
  obtain ⟨accountKeys, instructions, hresolved, hone⟩ := transactionInitMatches_ok hfound
  have hmem : found ∈ instructions.filterMap (matchOf host.rendering tokenMint accountKeys) := by
    rw [← hone]
    exact List.mem_singleton_self found
  obtain ⟨v, hv, hmatch⟩ := List.mem_filterMap.mp hmem
  refine ⟨tx, accountKeys, instructions, htx, hresolved, v, hv, ?_⟩
  exact hexact accountKeys instructions hresolved v hv (by rw [hmatch]; simp)

/-- The one accepted candidate of a run. -/
theorem Ran.cut (h : Ran host tokenMint capturedAt run) :
    ∃ before found after accepted captured, run.inspected = before ++ found :: after ∧
      found.accepted = some accepted ∧ (∀ i ∈ before ++ after, i.accepted = none) ∧
      DerivedFrom host tokenMint capturedAt run accepted captured := by
  obtain ⟨accepted, captured, hone, hderived⟩ := h.accepted
  obtain ⟨before, found, after, hcut, hbefore, hfound, hafter⟩ := List.filterMap_eq_cons_iff.mp hone
  rw [List.filterMap_eq_nil_iff] at hafter
  refine ⟨before, found, after, accepted, captured, hcut, hfound, fun i hi => ?_, hderived⟩
  exact (List.mem_append.mp hi).elim (hbefore i) (hafter i)

theorem DerivedFrom.createdBefore {accepted : AcceptedMatch} {captured : Instant}
    (h : DerivedFrom host tokenMint capturedAt run accepted captured)
    (hpositive : 0 < accepted.blockTime) : CreatedBefore host capturedAt run.evidence := by
  obtain ⟨htimes, hbefore, hevidence⟩ := h
  obtain ⟨d, hd, htimes⟩ := Option.bind_eq_some_iff.mp htimes
  rw [hevidence]
  refine ⟨hpositive, d, hd, ?_, rfl⟩
  split at htimes
  · rw [(Prod.mk.inj (Option.some.inj htimes)).1]
    exact hbefore
  · cases htimes

theorem Ran.initialised_iff (h : Ran host tokenMint capturedAt run) :
    Initialised host.rendering tokenMint run ↔
      (∀ i ∈ run.inspected, Carries host.rendering run.owner tokenMint i →
        ∀ tx, HasTransaction i tx → Succeeded tx ∧ (readTime host i tx).isSome = true) ∧
      ∀ i ∈ run.inspected, ∀ tx, HasTransaction i tx → Succeeded tx →
        (∃ found, transactionInitMatches host.rendering tx tokenMint = .ok (some [found])) →
        (readTime host i tx).isSome = true →
        ExactMatches host.rendering run.owner tokenMint tx ∧ WholeTime i tx := by
  obtain ⟨before, found, after, accepted, captured, hcut, hfound, hothers, hderived⟩ := h.cut
  have hmem : found ∈ run.inspected := by simp [hcut]
  -- Any other candidate was not accepted.
  have hself : ∀ i ∈ run.inspected, i.accepted.isSome = true → i = found := by
    intro i hi hsome
    rw [hcut] at hi
    rcases List.mem_append.mp hi with hi | hi
    · simp [hothers i (List.mem_append_left _ hi)] at hsome
    · rcases List.mem_cons.mp hi with rfl | hi
      · rfl
      · simp [hothers i (List.mem_append_right _ hi)] at hsome
  obtain ⟨sig, hverdict⟩ := h.verdict found hmem
  obtain ⟨tx, type, htx, hsucceeded, htype, hslot, htime, -, hown⟩ := hverdict.accepted hfound
  have hreported : run.evidence.blockTimeRaw = accepted.blockTime := by rw [hderived.2.2]; rfl
  constructor
  · rintro ⟨before', found', after', tx', hcut', hcarries, hnone, hsome, htx', -, hown'⟩
    have hmem' : found' ∈ run.inspected := by simp [hcut']
    obtain rfl := hself found' hmem' hsome
    obtain rfl := htx'.unique htx
    rw [hreported] at hown'
    refine ⟨fun i hi hi' tx'' htx'' => ?_, fun i hi tx'' htx'' hsucceeded'' hmatched htime'' => ?_⟩
    · have hi : i = found' := by
        rw [hcut'] at hi
        rcases List.mem_append.mp hi with hi | hi
        · exact absurd hi' (hnone i (List.mem_append_left _ hi))
        · rcases List.mem_cons.mp hi with rfl | hi
          · rfl
          · exact absurd hi' (hnone i (List.mem_append_right _ hi))
      obtain rfl := hi
      obtain rfl := htx''.unique htx
      exact ⟨hsucceeded, htime⟩
    · obtain ⟨sig', hverdict'⟩ := h.verdict i hi
      obtain ⟨type', htype'⟩ := hmatched
      obtain rfl := hself i hi (hverdict'.isSome htx'' hsucceeded'' htype' htime'')
      obtain rfl := htx''.unique htx
      exact ⟨exactMatches_of_carries h.allowed hcarries htx htype, hown.mpr hown'⟩
  · rintro ⟨hcarriers, hexact⟩
    obtain ⟨hmatches, hwhole⟩ := hexact found hmem tx htx hsucceeded ⟨type, htype⟩ htime
    refine ⟨before, found, after, tx, hcut, carries_of_exactMatches htx htype hmatches,
      fun i hi hcarries => ?_, by rw [hfound]; rfl, htx, ?_, ?_⟩
    · have hmem' : i ∈ run.inspected := by
        rw [hcut]
        exact (List.mem_append.mp hi).elim (List.mem_append_left _)
          fun hi => List.mem_append_right _ (List.mem_cons_of_mem _ hi)
      obtain ⟨sig', hverdict'⟩ := h.verdict i hmem'
      obtain ⟨tx', -, -, htx', -⟩ := id hcarries
      obtain ⟨hsucceeded', htime'⟩ := hcarriers i hmem' hcarries tx' htx'
      obtain ⟨type', htype'⟩ := hverdict'.matched_of_carries h.allowed hcarries htx' hsucceeded'
      have hsome := hverdict'.isSome htx' hsucceeded' htype' htime'
      rw [hothers i hi] at hsome
      cases hsome
    · rw [hderived.2.2]
      exact hslot
    · rw [hreported]
      exact hown.mp hwhole

/-- A success is sound exactly where the server answers reliably. -/
theorem fetchTokenAgeData_sound_iff
    (h : fetchTokenAgeData host tokenMint capturedAt = .ok run) :
    Sound host tokenMint capturedAt run ↔ ReliableAnswers host tokenMint run := by
  have hran := fetchTokenAgeData_ran h
  constructor
  · intro hsound
    obtain ⟨hcarriers, hexact⟩ := hran.initialised_iff.mp hsound.initialised
    exact ⟨hsound.sawEnd.isPage_last, fun i hi => (hsound.answered i hi).2, hcarriers, hexact⟩
  · intro hreliable
    obtain ⟨before, found, after, accepted, captured, hcut, hfound, -, hderived⟩ := hran.cut
    obtain ⟨sig, hverdict⟩ := hran.verdict found (by simp [hcut])
    obtain ⟨-, -, -, -, -, -, -, hpositive, -⟩ := hverdict.accepted hfound
    refine ⟨hran.recorded.within, hran.recorded, hran.allowed, hran.owner,
      hran.reachesEnd hreliable.lastPage, hran.pages, hran.fetched,
      fun i hi => ⟨hran.asked i hi, hreliable.answered i hi⟩, ?_, hderived.createdBefore hpositive⟩
    exact hran.initialised_iff.mpr ⟨hreliable.carriers, hreliable.exact⟩

end Soundness

/-! ## A server -/

/-- A mint account in a valid state. -/
def sampleAccount : Dict :=
  let data := "AAAAAAAAAAAAAAAAAAAAAAAAAAAAAAAAAAAAAAAAAAAAAAAAAAAAAAAA" ++
    "AAAAAQAAAAAAAAAAAAAAAAAAAAAAAAAAAAAAAAAAAAAAAAAAAAAAAA=="
  [("result", .dict [("value", .dict [("owner", .str splTokenProgramId),
    ("data", .list [.str data, .str "base64"])])])]

def sampleRow (signature : String) : Value :=
  .dict [("signature", .str signature), ("err", .none), ("confirmationStatus", commitment)]

/-- A transaction that initialises the mint `M`. -/
def sampleInit : Dict :=
  let instruction : Dict :=
    [("programIdIndex", .int 0), ("accounts", .list [.int 1]), ("data", .str "1")]
  let message : Dict := [("accountKeys", .list [.str splTokenProgramId, .str "M"]),
    ("instructions", .list [.dict instruction])]
  [("result", .dict [("slot", .int 5), ("blockTime", .int 1700000000),
    ("meta", .dict [("err", .none)]), ("transaction", .dict [("message", .dict message)])])]

/-- A server with two signatures of the mint: the older one is answered as given. -/
def sampleHost (older : Dict) : TokenAgeHost where
  rpc calls :=
    match calls with
    | [_] => sampleAccount
    | [_, _] => [("result", .list [sampleRow "newer", sampleRow "older"])]
    | [_, _, _] => older
    | _ => sampleInit
  zone := id
  rendering := ⟨fun _ => "", fun _ => ""⟩
  hostRedacted := "rpc.example"

/-- The older transaction, when the server is busy. -/
def sampleBusy : Dict := [("error", .dict [("code", .int (-32005)), ("message", .str "busy")])]

def sampleCapture : String := "2026-01-01T00:00:00Z"

/-- With an older transaction of another kind. -/
theorem fetchTokenAgeData_sound_iff_sample :
    ∃ run, fetchTokenAgeData (sampleHost [("result", .dict [("slot", .int 4)])]) "M"
        sampleCapture = .ok run ∧
      (Sound (sampleHost [("result", .dict [("slot", .int 4)])]) "M" sampleCapture run ↔
        ReliableAnswers (sampleHost [("result", .dict [("slot", .int 4)])]) "M" run) := by
  have hpassed : (fetchTokenAgeData (sampleHost [("result", .dict [("slot", .int 4)])]) "M"
      sampleCapture).toOption.any (fun _ => true) = true := by decide +kernel
  obtain ⟨run, hrun, -⟩ := ok_of_any hpassed
  exact ⟨run, hrun, fetchTokenAgeData_sound_iff hrun⟩

/-- The error of an older transaction is passed over, and the newer one taken for the first. -/
theorem fetchTokenAgeData_not_sound_busy :
    ¬ ∀ host tokenMint capturedAt run, fetchTokenAgeData host tokenMint capturedAt = .ok run →
      Sound host tokenMint capturedAt run := by
  intro hsound
  have hpassed : (fetchTokenAgeData (sampleHost sampleBusy) "M" sampleCapture).toOption.any
      (fun run => run.inspected.any fun i => (i.transaction.response.get "error").truthy) =
        true := by decide +kernel
  obtain ⟨run, hrun, hany⟩ := ok_of_any hpassed
  obtain ⟨i, hi, herror⟩ := List.any_eq_true.mp hany
  obtain ⟨-, hno, -⟩ := (hsound _ _ _ run hrun).answered i hi
  rw [hno] at herror
  cases herror

end PrinterV1.Sources.TokenAge
