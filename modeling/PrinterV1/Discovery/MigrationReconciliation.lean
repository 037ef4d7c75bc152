import PrinterV1.Discovery.MigrationAdmission

/-!
# Reconciled runs of migration discovery

A run holds exactly the operations that its records count where nothing was
refused, so a refusal of the intake or of a verification shows in the totals or
in the reason the run is blocked for. A blocked run and one that raises leave the
registry and hand nothing forward; any other run records what its payloads show.
-/

namespace PrinterV1.Discovery.DirectMigration

open Python Sources Graduated

theorem length_mapM_ok {α β ε : Type} {f : α → Except ε β} {xs : List α} : ∀ {ys : List β},
    xs.mapM f = .ok ys → ys.length = xs.length := by
  induction xs with
  | nil =>
    intro ys h
    obtain rfl := Except.ok.inj h
    rfl
  | cons x xs ih =>
    intro ys h
    rw [List.mapM_cons] at h
    obtain ⟨y, -, h⟩ := Faults.bind_ok h
    obtain ⟨rest, hrest, h⟩ := Faults.bind_ok h
    obtain rfl := Except.ok.inj h
    rw [List.length_cons, List.length_cons, ih hrest]

/-! ## Operations on the ledger -/

section Measuring

variable {R : Value.Rendering}

theorem recordEach_none {identities : List TransportOperationIdentity} :
    ∀ {ledger ledger' : MeasuredTransportLedger}, recordEach ledger identities = (none, ledger') →
      ledger'.transports.length = ledger.transports.length + identities.length := by
  induction identities with
  | nil =>
    intro ledger ledger' h
    obtain ⟨-, rfl⟩ := Prod.mk.inj h
    rfl
  | cons identity rest ih =>
    intro ledger ledger' h
    unfold recordEach at h
    cases hrecord : ledger.recordTransport identity with
    | error e =>
      rw [hrecord] at h
      cases h
    | ok middle =>
      rw [hrecord] at h
      have hmiddle := (MeasuredTransportLedger.recordTransport_ok hrecord).1
      have hrest := ih h
      rw [hmiddle, List.length_append, List.length_singleton] at hrest
      rw [hrest, List.length_cons]
      omega

/-- A payload whose identities were read declares as many as it claims. -/
theorem identitiesFromPayload_ok {payload : Dict} {metadata : TransportMetadata}
    (hmetadata : mergeTransportPayloadMetadata R payload = .ok metadata)
    {out : List TransportOperationIdentity} (h : identitiesFromPayload R payload = .ok out) :
    out.length = metadata.transportOperationIdentities.length ∧
      (out ≠ [] → metadata.transportOperationsUsed = out.length) := by
  unfold identitiesFromPayload at h
  rw [hmetadata, Faults.ok_bind] at h
  obtain ⟨out', hout, h⟩ := Faults.bind_ok h
  split_ifs at h with hmissing hmismatch
  obtain rfl := Except.ok.inj h
  refine ⟨length_mapM_ok hout, fun hne => ?_⟩
  by_contra hused
  exact hmismatch ⟨hne, hused⟩

/-- A payload that was measured adds the operations it claims. -/
theorem measurePayload_ok {ledger ledger' : MeasuredTransportLedger} {payload : Dict}
    {metadata : TransportMetadata} {claimed : ℤ}
    (hmetadata : mergeTransportPayloadMetadata R payload = .ok metadata)
    (hclaimed : claimedOperations R payload metadata = .ok claimed)
    (h : measurePayload R ledger payload metadata claimed = (.ok (), ledger')) :
    (ledger'.transports.length : ℤ) = ledger.transports.length + claimed := by
  unfold measurePayload at h
  by_cases hdeclared : metadata.transportOperationIdentities ≠ []
  · rw [if_pos hdeclared] at h
    dsimp only [recordPayloadTransports] at h
    cases hread : identitiesFromPayload R payload with
    | error e =>
      rw [hread] at h
      cases h
    | ok out =>
      rw [hread] at h
      obtain ⟨hlength, hused⟩ := identitiesFromPayload_ok hmetadata hread
      have hpos : 0 < out.length := by
        rw [hlength]
        exact List.length_pos_iff.mpr hdeclared
      have hcount := hused (List.length_pos_iff.mp hpos)
      have hclaim : claimed = out.length := by
        unfold claimedOperations at hclaimed
        rw [if_pos (by omega)] at hclaimed
        rw [← Except.ok.inj hclaimed, hcount]
      cases heach : recordEach ledger (out.map (withStage exactVerificationStage)) with
      | mk fault after =>
        dsimp only at h
        rw [heach] at h
        cases fault with
        | some e => cases h
        | none =>
          have hafter : after = ledger' := (Prod.mk.inj h).2
          subst hafter
          have hadded := recordEach_none heach
          rw [List.length_map] at hadded
          omega
  · rw [if_neg hdeclared] at h
    split_ifs at h with hzero
    · cases h
    · obtain ⟨-, rfl⟩ := Prod.mk.inj h
      have : claimed = 0 := by simpa using hzero
      omega

end Measuring

/-! ## The loop over the pairs -/

section Loop

variable (R : Value.Rendering) (verify : MigrationPair → Verification)

/-- What the payload of a pair comes to be recorded as. -/
def shownBy (pair : MigrationPair) : Option PendingRecord :=
  if (verify pair).verified then
    match readGraduation R (verify pair).payload pair.mint with
    | .ok (some graduation) => some ⟨pair, graduation⟩
    | _ => none
  else none

/-- The ledger refuses the payload of a pair: it raises a measured-transport error. -/
def MeasureRefused (stage : Stage) (pair : MigrationPair) : Prop :=
  ∃ metadata claimed e ledger,
    mergeTransportPayloadMetadata R (verify pair).payload = .ok metadata ∧
      claimedOperations R (verify pair).payload metadata = .ok claimed ∧
      measurePayload R stage.measuredLedger (verify pair).payload metadata claimed =
        (.error (.measured e), ledger)

variable {R verify}

theorem readRecord_ok {pair : MigrationPair} {metadata : TransportMetadata} {claimed : ℤ}
    {record : VerificationRecord}
    (h : readRecord R pair (verify pair) metadata claimed = .ok record) :
    record.pending = shownBy R verify pair ∧ record.transportOperationsUsed = claimed := by
  unfold readRecord at h
  unfold shownBy
  by_cases hverified : (verify pair).verified = true
  · rw [if_neg (by simp [hverified])] at h
    rw [if_pos hverified]
    obtain ⟨shown, hshown, h⟩ := Faults.bind_ok h
    rw [hshown]
    cases shown with
    | none =>
      obtain rfl := Except.ok.inj h
      exact ⟨rfl, rfl⟩
    | some graduation =>
      obtain rfl := Except.ok.inj h
      exact ⟨rfl, rfl⟩
  · rw [if_pos (by simp [hverified])] at h
    rw [if_neg hverified]
    obtain rfl := Except.ok.inj h
    exact ⟨rfl, rfl⟩

/-- One pass: the payload is refused and the run blocked, or it is measured and read. -/
theorem verifyPair_cases {stage stage' : Stage} {pair : MigrationPair}
    (h : verifyPair R verify stage pair = .ok stage') :
    (MeasureRefused R verify stage pair ∧ stage'.accountingBlockReason ≠ none) ∨
      ¬MeasureRefused R verify stage pair ∧
        stage'.accountingBlockReason = stage.accountingBlockReason ∧
        ∃ record : VerificationRecord, record.pending = shownBy R verify pair ∧
          stage'.verifications = stage.verifications ++ [record] ∧
          (stage'.measuredLedger.transports.length : ℤ) =
            stage.measuredLedger.transports.length + record.transportOperationsUsed := by
  unfold verifyPair at h
  obtain ⟨metadata, hmetadata, h⟩ := Faults.bind_ok h
  obtain ⟨claimed, hclaimed, h⟩ := Faults.bind_ok h
  cases hmeasure : measurePayload R stage.measuredLedger (verify pair).payload metadata claimed with
  | mk result ledger =>
    rw [hmeasure] at h
    cases result with
    | error e =>
      cases e with
      | measured e =>
        obtain rfl := Except.ok.inj h
        exact .inl ⟨⟨metadata, claimed, e, ledger, hmetadata, hclaimed, hmeasure⟩, by simp⟩
      | _ => cases h
    | ok =>
      obtain ⟨record, hrecord, h⟩ := Faults.bind_ok h
      obtain rfl := Except.ok.inj h
      obtain ⟨hpending, hused⟩ := readRecord_ok hrecord
      refine .inr ⟨?_, rfl, record, hpending, rfl, ?_⟩
      · rintro ⟨metadata', claimed', e, ledger', hmetadata', hclaimed', hmeasure'⟩
        obtain rfl := Except.ok.inj (hmetadata.symm.trans hmetadata')
        obtain rfl := Except.ok.inj (hclaimed.symm.trans hclaimed')
        rw [hmeasure] at hmeasure'
        cases hmeasure'
      · rw [hused]
        exact measurePayload_ok hmetadata hclaimed hmeasure

/-- A payload of the pairs is refused, at the stage behind those before it. -/
def SomeRefused (R : Value.Rendering) (verify : MigrationPair → Verification) (stage : Stage)
    (pairs : List MigrationPair) : Prop :=
  ∃ before pair after mid, pairs = before ++ pair :: after ∧
    before.foldlM (verifyPair R verify) stage = .ok mid ∧ MeasureRefused R verify mid pair

theorem someRefused_cons {stage mid : Stage} {pair : MigrationPair} {pairs : List MigrationPair}
    (h : verifyPair R verify stage pair = .ok mid) :
    SomeRefused R verify stage (pair :: pairs) ↔
      MeasureRefused R verify stage pair ∨ SomeRefused R verify mid pairs := by
  constructor
  · rintro ⟨before, pair', after, mid', hcut, hbefore, hrefused⟩
    cases before with
    | nil =>
      obtain ⟨rfl, -⟩ := List.cons.inj hcut
      obtain rfl := Except.ok.inj hbefore
      exact .inl hrefused
    | cons first before =>
      obtain ⟨rfl, rfl⟩ := List.cons.inj hcut
      rw [List.foldlM_cons, h] at hbefore
      exact .inr ⟨before, pair', after, mid', rfl, hbefore, hrefused⟩
  · rintro (hrefused | ⟨before, pair', after, mid', rfl, hbefore, hrefused⟩)
    · exact ⟨[], pair, pairs, stage, rfl, rfl, hrefused⟩
    · refine ⟨pair :: before, pair', after, mid', rfl, ?_, hrefused⟩
      rw [List.foldlM_cons, h]
      exact hbefore

/-- The run is blocked exactly where it was or a payload is refused. -/
theorem blocked_iff {pairs : List MigrationPair} : ∀ {stage stage' : Stage},
    pairs.foldlM (verifyPair R verify) stage = .ok stage' →
      (stage'.accountingBlockReason ≠ none ↔
        stage.accountingBlockReason ≠ none ∨ SomeRefused R verify stage pairs) := by
  induction pairs with
  | nil =>
    intro stage stage' h
    obtain rfl := Except.ok.inj h
    refine ⟨Or.inl, fun hor => hor.resolve_right ?_⟩
    rintro ⟨before, pair, after, mid, hcut, -⟩
    cases before <;> cases hcut
  | cons pair pairs ih =>
    intro stage stage' h
    rw [List.foldlM_cons] at h
    obtain ⟨mid, hmid, h⟩ := Faults.bind_ok h
    rw [ih h, someRefused_cons hmid]
    rcases verifyPair_cases hmid with ⟨hrefused, hreason⟩ | ⟨hnot, hreason, -⟩
    · exact iff_of_true (.inl hreason) (.inr (.inl hrefused))
    · rw [hreason, or_iff_right hnot]

/-- Where no payload is refused, the records count what the ledger gains and hold what the
payloads show. -/
theorem verify_unrefused {pairs : List MigrationPair} : ∀ {stage stage' : Stage},
    pairs.foldlM (verifyPair R verify) stage = .ok stage' → ¬SomeRefused R verify stage pairs →
      pendingPersist stage' = pendingPersist stage ++ pairs.filterMap (shownBy R verify) ∧
        (stage'.measuredLedger.transports.length : ℤ) + pumpswapTransportOperations stage =
          stage.measuredLedger.transports.length + pumpswapTransportOperations stage' := by
  induction pairs with
  | nil =>
    intro stage stage' h _
    obtain rfl := Except.ok.inj h
    simp
  | cons pair pairs ih =>
    intro stage stage' h hnone
    rw [List.foldlM_cons] at h
    obtain ⟨mid, hmid, h⟩ := Faults.bind_ok h
    rw [someRefused_cons hmid, not_or] at hnone
    rcases verifyPair_cases hmid with ⟨hrefused, -⟩ | ⟨-, -, record, hpending, hrecords, hlength⟩
    · exact absurd hrefused hnone.1
    obtain ⟨hrest, hcount⟩ := ih h hnone.2
    have hmidPending : pendingPersist mid =
        pendingPersist stage ++ (shownBy R verify pair).toList := by
      rw [pendingPersist, hrecords, List.filterMap_append, ← hpending]
      cases hp : record.pending <;> simp [pendingPersist, hp]
    have hmidCount : pumpswapTransportOperations mid =
        pumpswapTransportOperations stage + record.transportOperationsUsed := by
      rw [pumpswapTransportOperations, hrecords, List.map_append, List.sum_append]
      simp [pumpswapTransportOperations]
    refine ⟨?_, by omega⟩
    rw [hrest, hmidPending, List.append_assoc]
    cases hp : shownBy R verify pair <;> simp [hp]

end Loop

/-! ## The intake -/

/-- An operation of the intake is refused, on the ledger behind those before it. -/
def IntakeRefused (declared : List (Option TransportOperationIdentity)) : Prop :=
  ∃ before identity after e, declared = before ++ some identity :: after ∧
    (intakeLedger before).recordTransport identity = .error e

theorem length_recordDeclared (ledger : MeasuredTransportLedger)
    (operation : Option TransportOperationIdentity) :
    (recordDeclared ledger operation).transports.length ≤ ledger.transports.length + 1 := by
  cases operation with
  | none => exact Nat.le_succ _
  | some identity =>
    dsimp only [recordDeclared]
    cases h : ledger.recordTransport identity with
    | error e => exact Nat.le_succ _
    | ok ledger' =>
      rw [(MeasuredTransportLedger.recordTransport_ok h).1, List.length_append,
        List.length_singleton]

theorem length_declared (declared : List (Option TransportOperationIdentity)) :
    ∀ ledger : MeasuredTransportLedger, (declared.foldl recordDeclared ledger).transports.length ≤
      ledger.transports.length + declared.length := by
  induction declared with
  | nil =>
    intro ledger
    exact le_refl _
  | cons operation declared ih =>
    intro ledger
    have hone := length_recordDeclared ledger operation
    have hrest := ih (recordDeclared ledger operation)
    rw [List.foldl_cons, List.length_cons]
    omega

/-- A refused operation is missing from the ledger. -/
theorem length_intakeLedger_lt {declared : List (Option TransportOperationIdentity)}
    (h : IntakeRefused declared) : (intakeLedger declared).transports.length < declared.length := by
  obtain ⟨before, identity, after, e, rfl, hrefused⟩ := h
  have hstays : recordDeclared (intakeLedger before) (some identity) = intakeLedger before := by
    simp [recordDeclared, hrefused]
  have hbefore : (intakeLedger before).transports.length ≤ 0 + before.length :=
    length_declared before .empty
  have hafter := length_declared after (intakeLedger before)
  rw [intakeLedger, List.foldl_append, List.foldl_cons]
  change (after.foldl recordDeclared
    (recordDeclared (intakeLedger before) (some identity))).transports.length < _
  rw [hstays, List.length_append, List.length_cons]
  omega

/-! ## The run -/

section Run

variable (R : Value.Rendering) (digest : Value → Digest) (d : DiscoveryRun)
  (registry : Graduated.Registry)

/-- What keeps a run from handing anything forward: a measured-transport error of the intake or of
a verification, totals that do not match, or a record that the registry refuses. -/
inductive Fails : Prop
  | intake (h : IntakeRefused d.declared)
  | verification (h : SomeRefused R d.verify ⟨intakeLedger d.declared, [], none⟩ d.pairs)
  | totals {stage : Stage} (h : verifyPairs R d d.pairs = .ok stage)
      (hdiffer : (stage.measuredLedger.transports.length : ℤ) ≠
          d.intake.transportOperationCount + pumpswapTransportOperations stage ∨
        d.intake.transportOperationCount ≠ d.migrationRequestCount)
  | recording {stage : Stage} {before after : List PendingRecord} {record : PendingRecord}
      {registry' : Graduated.Registry} {newly : List Bool} {e : Graduated.RegistryFault}
      (h : verifyPairs R d d.pairs = .ok stage)
      (hcut : pendingPersist stage = before ++ record :: after)
      (hbefore : persist digest d.now registry before = .ok (registry', newly))
      (hrefused : (recordGraduatedCandidate digest registry' (record.candidate d.now)).1 = .error e)

/-- The run reconciles, and the registry takes its records. -/
def Settles : Prop := ∃ stage s, verifyPairs R d d.pairs = .ok stage ∧ reconciled d stage = true ∧
  persist digest d.now registry (pendingPersist stage) = .ok s

variable {R digest d registry}

theorem reconciled_iff {stage : Stage} : reconciled d stage = true ↔
    (stage.measuredLedger.transports.length : ℤ) =
        d.intake.transportOperationCount + pumpswapTransportOperations stage ∧
      d.intake.transportOperationCount = d.migrationRequestCount ∧
      stage.accountingBlockReason = none := by
  simp [reconciled, and_assoc]

/-- Recording the validations leaves the operations, so what was verified decides. -/
theorem discover_eq {stage : Stage} (h : verifyPairs R d d.pairs = .ok stage) :
    discover R digest d registry =
      if reconciled d stage then
        persist digest d.now registry (pendingPersist stage) >>= fun s =>
          .ok (settledReport stage s.1 s.2, s.1)
      else .ok (blockedReport stage registry, registry) := by
  have hvalid : stage.measuredLedger.recordLocalValidation stage.verifications.length =
      .ok { stage.measuredLedger with
        localValidations := stage.measuredLedger.localValidations + stage.verifications.length } := by
    unfold MeasuredTransportLedger.recordLocalValidation
    rw [if_neg (by omega)]
    rfl
  unfold discover
  rw [h, Faults.ok_bind, hvalid]
  rfl

theorem persist_cut {now : String} {before after : List PendingRecord} {record : PendingRecord}
    {s : Graduated.Registry × List Bool}
    (h : persist digest now registry (before ++ record :: after) = .ok s) :
    ∃ mid, persist digest now registry before = .ok mid ∧ ∃ newly registry',
      recordGraduatedCandidate digest mid.1 (record.candidate now) = (.ok newly, registry') := by
  unfold persist at h
  rw [List.foldlM_append] at h
  obtain ⟨mid, hmid, h⟩ := Faults.bind_ok h
  rw [List.foldlM_cons] at h
  obtain ⟨next, hnext, -⟩ := Faults.bind_ok h
  unfold persistRecord at hnext
  refine ⟨mid, hmid, ?_⟩
  cases hrecord : recordGraduatedCandidate digest mid.1 (record.candidate now) with
  | mk result registry' =>
    cases result with
    | error e =>
      rw [hrecord] at hnext
      cases hnext
    | ok newly => exact ⟨newly, registry', rfl⟩

/-- Nothing fails in a run that settles. -/
theorem not_fails_of_settles (h : Settles R digest d registry) : ¬Fails R digest d registry := by
  obtain ⟨stage, s, hstage, hreconciled, hpersist⟩ := h
  obtain ⟨htotal, hrequests, hreason⟩ := reconciled_iff.mp hreconciled
  have hunrefused : ¬SomeRefused R d.verify ⟨intakeLedger d.declared, [], none⟩ d.pairs := by
    intro hrefused
    exact (blocked_iff hstage).mpr (.inr hrefused) hreason
  rintro (hintake | hrefused | ⟨hstage', hdiffer⟩ | ⟨hstage', hcut, hbefore, hrefused⟩)
  · have hmissing := length_intakeLedger_lt hintake
    have hcount := (verify_unrefused hstage hunrefused).2
    have hcounted := d.counted
    have hstart : pumpswapTransportOperations ⟨intakeLedger d.declared, [], none⟩ = 0 := rfl
    dsimp only at hcount
    omega
  · exact hunrefused hrefused
  · obtain rfl := Except.ok.inj (hstage.symm.trans hstage')
    rcases hdiffer with hdiffer | hdiffer
    · exact hdiffer htotal
    · exact hdiffer hrequests
  · obtain rfl := Except.ok.inj (hstage.symm.trans hstage')
    rw [hcut] at hpersist
    obtain ⟨mid, hmid, newly, registry', hrecord⟩ := persist_cut hpersist
    obtain rfl := Except.ok.inj (hbefore.symm.trans hmid)
    rw [hrecord] at hrefused
    cases hrefused

/-- A run that does not settle raises, or it is blocked and something failed. -/
theorem discover_unsettled (h : ¬Settles R digest d registry) :
    (∃ e, discover R digest d registry = .error e) ∨ ∃ stage,
      discover R digest d registry = .ok (blockedReport stage registry, registry) ∧
        Fails R digest d registry := by
  cases hstage : verifyPairs R d d.pairs with
  | error e =>
    refine .inl ⟨e, ?_⟩
    unfold discover
    rw [hstage]
    rfl
  | ok stage =>
    rw [discover_eq hstage]
    by_cases hreconciled : reconciled d stage = true
    · rw [if_pos hreconciled]
      cases hpersist : persist digest d.now registry (pendingPersist stage) with
      | error e => exact .inl ⟨e, rfl⟩
      | ok s => exact absurd ⟨stage, s, hstage, hreconciled, hpersist⟩ h
    · rw [if_neg hreconciled]
      refine .inr ⟨stage, rfl, ?_⟩
      by_cases hreason : stage.accountingBlockReason = none
      · apply Fails.totals hstage
        by_contra hsame
        simp only [not_or, not_not] at hsame
        exact hreconciled (reconciled_iff.mpr ⟨hsame.1, hsame.2, hreason⟩)
      · apply Fails.verification
        exact ((blocked_iff hstage).mp hreason).resolve_left fun hstart => hstart rfl

/-- A run that settles records what the payloads of its pairs show. -/
theorem discover_settled (h : Settles R digest d registry) : ∃ stage s,
    discover R digest d registry = .ok (settledReport stage s.1 s.2, s.1) ∧
      pendingPersist stage = d.pairs.filterMap (shownBy R d.verify) ∧
      persist digest d.now registry (pendingPersist stage) = .ok s := by
  obtain ⟨stage, s, hstage, hreconciled, hpersist⟩ := h
  have hreason := (reconciled_iff.mp hreconciled).2.2
  have hunrefused : ¬SomeRefused R d.verify ⟨intakeLedger d.declared, [], none⟩ d.pairs := by
    intro hrefused
    exact (blocked_iff hstage).mpr (.inr hrefused) hreason
  refine ⟨stage, s, ?_, (verify_unrefused hstage hunrefused).1, hpersist⟩
  rw [discover_eq hstage, if_pos hreconciled, hpersist, Faults.ok_bind]

theorem shownBy_eq_some {verify : MigrationPair → Verification} {pair : MigrationPair}
    {r : PendingRecord} (h : shownBy R verify pair = some r) :
    r.pair = pair ∧ (verify pair).verified = true ∧
      readGraduation R (verify pair).payload pair.mint = .ok (some r.graduation) := by
  unfold shownBy at h
  split_ifs at h with hverified
  split at h
  · rename_i graduation hread
    obtain rfl := Option.some.inj h
    exact ⟨rfl, hverified, hread⟩
  · cases h

end Run

/-! ## What a run admits -/

/-- The records that a run put into the registry. -/
def recordedBy : Except RunFault Report → List PendingRecord
  | .ok report => report.pending
  | .error _ => []

def mixOf : Except RunFault Report → List MixEntry
  | .ok report => report.candidateMix
  | .error _ => []

/-- The entry shows the row, as latest exactly where its mint was recorded in the run. -/
structure Shows (recorded : List PendingRecord) (e : MixEntry) (row : Row) : Prop where
  mint : e.mint = row.mintIdentity
  marketIdentity : e.marketIdentity = row.marketIdentity
  pool : e.pool = row.pumpswapPool
  lifecycleState : e.lifecycleState = row.lifecycleState
  graduationBlockTime : e.graduationBlockTime = row.graduationBlockTime
  latest : e.category = latestGraduatedChannel ↔ ∃ r ∈ recorded, r.pair.mint = row.mintIdentity
  category : e.category = latestGraduatedChannel ∨ e.category = persistedGraduatedChannel

section Admission

variable (R : Value.Rendering) (digest : Value → Digest) (d : DiscoveryRun)
  (registry : Graduated.Registry)

/-- A run on a connection that has written nothing. -/
def outcome : Except RunFault Report × Session Graduated.Registry :=
  runDirectMigrationDiscovery R digest d (Session.start registry)

/-- The law of a run: what it records was verified and is consistent, a failing run records and
hands forward nothing, and any other hands forward the registry. -/
structure AdmitsReconciled : Prop where
  verified : ∀ r ∈ recordedBy (outcome R digest d registry).1,
    r.pair ∈ d.pairs ∧ (d.verify r.pair).verified = true
  consistent : ∀ r ∈ recordedBy (outcome R digest d registry).1,
    Consistent R (d.verify r.pair).payload r.pair.mint r.graduation
  stored : ∃ newly, persist digest d.now registry (recordedBy (outcome R digest d registry).1) =
    .ok ((outcome R digest d registry).2.stored, newly)
  withheld : Fails R digest d registry → recordedBy (outcome R digest d registry).1 = [] ∧
    (outcome R digest d registry).2.stored = registry ∧ mixOf (outcome R digest d registry).1 = []
  handed : ∀ report, (outcome R digest d registry).1 = .ok report → ¬Fails R digest d registry →
    List.Forall₂ (Shows (recordedBy (outcome R digest d registry).1)) report.candidateMix
      (exportGraduatedCandidates (outcome R digest d registry).2.stored [])

variable {R digest d registry}

theorem shows_mixEntry (recorded : List PendingRecord) (row : Row) :
    Shows recorded (mixEntry (recorded.map fun r => r.pair.mint) row) row := by
  have hmem : row.mintIdentity ∈ (recorded.map fun r => r.pair.mint) ↔
      ∃ r ∈ recorded, r.pair.mint = row.mintIdentity := List.mem_map
  by_cases hfresh : row.mintIdentity ∈ recorded.map fun r => r.pair.mint
  · have hcategory : (mixEntry (recorded.map fun r => r.pair.mint) row).category =
        latestGraduatedChannel := if_pos hfresh
    exact ⟨rfl, rfl, rfl, rfl, rfl, iff_of_true hcategory (hmem.mp hfresh), .inl hcategory⟩
  · have hcategory : (mixEntry (recorded.map fun r => r.pair.mint) row).category =
        persistedGraduatedChannel := if_neg hfresh
    refine ⟨rfl, rfl, rfl, rfl, rfl, iff_of_false ?_ fun h => hfresh (hmem.mpr h), .inr hcategory⟩
    rw [hcategory]
    decide

theorem forall₂_mix (recorded : List PendingRecord) (rows : List Row) :
    List.Forall₂ (Shows recorded) (rows.map (mixEntry (recorded.map fun r => r.pair.mint))) rows := by
  induction rows with
  | nil => exact .nil
  | cons row rows ih => exact .cons (shows_mixEntry recorded row) ih

/-- A run that records nothing and leaves the registry. -/
theorem admitsReconciled_of_unsettled (h : ¬Settles R digest d registry) :
    AdmitsReconciled R digest d registry := by
  rcases discover_unsettled h with ⟨e, he⟩ | ⟨stage, hblocked, hfails⟩
  · have hout : outcome R digest d registry = (.error e, Session.start registry) :=
      Session.block_error he
    refine ⟨?_, ?_, ?_, ?_, ?_⟩
    all_goals rw [hout]
    · exact fun r hr => absurd hr List.not_mem_nil
    · exact fun r hr => absurd hr List.not_mem_nil
    · exact ⟨[], rfl⟩
    · exact fun _ => ⟨rfl, rfl, rfl⟩
    · intro report hreport
      cases hreport
  · have hout : outcome R digest d registry =
        (.ok (blockedReport stage registry), Session.start registry) := Session.block_ok hblocked
    refine ⟨?_, ?_, ?_, ?_, ?_⟩
    all_goals rw [hout]
    · exact fun r hr => absurd hr List.not_mem_nil
    · exact fun r hr => absurd hr List.not_mem_nil
    · exact ⟨[], rfl⟩
    · exact fun _ => ⟨rfl, rfl, rfl⟩
    · exact fun _ _ hnot => absurd hfails hnot

/-- A run admits reconciled and consistent graduations alone exactly where it does not settle, or
no payload that it takes a graduation from is mixed. -/
theorem admitsReconciled_iff (R : Value.Rendering) (digest : Value → Digest) (d : DiscoveryRun)
    (registry : Graduated.Registry) :
    AdmitsReconciled R digest d registry ↔
      (Settles R digest d registry → ∀ pair ∈ d.pairs, ∀ r, shownBy R d.verify pair = some r →
        Unmixed R (d.verify pair).payload pair.mint) := by
  by_cases hsettles : Settles R digest d registry
  · obtain ⟨stage, s, hdiscover, hpending, hpersist⟩ := discover_settled hsettles
    have hout : outcome R digest d registry =
        (.ok (settledReport stage s.1 s.2), Session.start s.1) := Session.block_ok hdiscover
    have hrecorded : recordedBy (outcome R digest d registry).1 =
        d.pairs.filterMap (shownBy R d.verify) := by
      rw [hout]
      exact hpending
    have hnofail := not_fails_of_settles hsettles
    constructor
    · intro hadmits _ pair hpair r hr
      obtain ⟨rfl, -, hread⟩ := shownBy_eq_some hr
      have hmem : r ∈ recordedBy (outcome R digest d registry).1 := by
        rw [hrecorded]
        exact List.mem_filterMap.mpr ⟨r.pair, hpair, hr⟩
      exact (consistent_iff hread).mp (hadmits.consistent r hmem)
    · intro hunmixed
      refine ⟨fun r hr => ?_, fun r hr => ?_, ?_, fun hfails => absurd hfails hnofail, ?_⟩
      · rw [hrecorded] at hr
        obtain ⟨pair, hpair, hshown⟩ := List.mem_filterMap.mp hr
        obtain ⟨rfl, hverified, -⟩ := shownBy_eq_some hshown
        exact ⟨hpair, hverified⟩
      · rw [hrecorded] at hr
        obtain ⟨pair, hpair, hshown⟩ := List.mem_filterMap.mp hr
        have hclean := hunmixed hsettles pair hpair r hshown
        obtain ⟨rfl, -, hread⟩ := shownBy_eq_some hshown
        exact (consistent_iff hread).mpr hclean
      · rw [hout]
        exact ⟨s.2, hpersist⟩
      · intro report hreport _
        rw [hout] at hreport ⊢
        obtain rfl := Except.ok.inj hreport
        exact forall₂_mix (pendingPersist stage) _
  · exact iff_of_true (admitsReconciled_of_unsettled hsettles) fun h => absurd h hsettles

/-- A verification whose proof speaks of another mint and of another pool than the resolution, and
gives the block time. -/
def mixedVerification : Verification where
  sourceStatus := .complete
  failureType := none
  normalizedPayload := .dict [
    ("pump_migration_proof", .dict [("migration_block_time", .int 1753000000),
      ("migration_slot", .int 355000000), ("mint", .str "OtherMint"),
      ("pool_address", .str "OtherPool"), ("verified", .bool true)]),
    ("pumpswap_confirmation", .dict [("confirmed", .bool true)]),
    ("pumpswap_resolution", .dict [("pool_address", .str "Pool"), ("resolved", .bool true)]),
    ("tokens", .list [.dict [("chain", .str "solana"), ("mint", .none), ("pairAddress", .none),
      ("pumpswap_migration_block_time", .none), ("pumpswap_migration_slot", .none)]])]

/-- The operation of one request of the intake. -/
def nomination (method category identity : String) : TransportOperationIdentity where
  stage := "DIRECT_PUMP_NOMINATION"
  sourceName := "solana_rpc"
  endpointOwner := "solana"
  governedRequestKind := "direct_pump_request"
  methodOrEndpoint := method
  withinRequestOrdinal := 1
  targetCategory := category
  targetIdentity := some identity
  responseBytes := 64
  normalizedRows := 1
  result := "OK"
  reservedFrom := none

def mixedRun : DiscoveryRun where
  declared := [some (nomination "getSignaturesForAddress" "pump_program" "program"),
    some (nomination "getTransaction" "migration_signature" "signature")]
  intake := { validPairs := [⟨"Mint", "signature"⟩], transportOperationCount := 2 }
  counted := rfl
  maxCandidates := 5
  verify _ := mixedVerification
  now := "2026-07-20T00:00:00+00:00"

theorem not_admitsReconciled_mixed :
    ¬AdmitsReconciled ⟨fun _ => "", fun _ => ""⟩
      (fun _ => ⟨"0000000000000000000000000000000000000000000000000000000000000000", by decide⟩)
      mixedRun .empty := by
  intro h
  have hconsistent := h.consistent ⟨⟨"Mint", "signature"⟩, ⟨"Pool", 1753000000, some 355000000⟩⟩
    (by decide)
  exact hconsistent.oneMint .proof (by decide)

end Admission

end PrinterV1.Discovery.DirectMigration
