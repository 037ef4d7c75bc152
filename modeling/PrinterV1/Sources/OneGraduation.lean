import PrinterV1.Sources.GraduatedRegistry

/-!
# One graduation for each mint, signature and pool

A call comes to insert a row, to observe one, or to neither; `inserts` and
`touches` say which, and the lemmas after them what becomes of the registry.
The law of the registry is stated over every cut of a run from the empty one,
and `graduatedRegistry_runs_iff` finds the runs that obey it: the table has no
constraint on the pool, the import has no guard on the signature, and a
constraint that fails raises an error of the database.
-/

namespace PrinterV1.Sources.Graduated

open Python Discovery Runs

inductive Call
  | record (c : Candidate)
  | touch (mint channel now : String)
  | importRow (row : Row)
  | exportRows (excludeMarketIdentities : List String)
  deriving DecidableEq, Repr

inductive Answer
  | written (new : Bool)
  | touched (known : Bool)
  | raised (e : RegistryFault)
  | exported (rows : List Row)
  deriving DecidableEq, Repr

def Answer.of : Except RegistryFault Bool → Answer
  | .ok new => .written new
  | .error e => .raised e

def Answer.ofTouch : Except RegistryFault Bool → Answer
  | .ok known => .touched known
  | .error e => .raised e

variable (digest : Value → Discovery.Digest)

def perform (R : Registry) : Call → Registry × Answer
  | .record c =>
    let r := recordGraduatedCandidate digest R c
    (r.2, .of r.1)
  | .touch mint channel now =>
    let r := touchGraduatedObservation R mint channel now
    (r.2, .ofTouch r.1)
  | .importRow row =>
    let r := importGraduatedCandidateRow R row
    (r.2, .of r.1)
  | .exportRows excludeMarketIdentities =>
    (R, .exported (exportGraduatedCandidates R excludeMarketIdentities))

/-- The registry after a call. -/
def after (R : Registry) (c : Call) : Registry := (perform digest R c).1

/-- The registry after the calls, from the empty one. -/
def registryAt (cs : List Call) : Registry := run (after digest) .empty cs

namespace Call

/-- The row a call carries. -/
def row : Call → Option Row
  | record c => some (graduatedRow digest c)
  | importRow row => some row
  | _ => none

/-- The mint a call observed again, by what it answered. -/
def reobserved (answer : Answer) : Call → Option String
  | record c => if answer = .written false then some c.mint else none
  | touch mint _ _ => if answer = .touched true then some mint else none
  | _ => none

end Call

def Candidate.named (c : Candidate) : Bool :=
  strip c.mint ≠ "" && strip c.migrationSignature ≠ "" && strip c.pumpswapPool ≠ ""

/-- The row of the mint carries the evidence of the candidate. -/
def Row.confirms (r : Row) (c : Candidate) : Bool :=
  r.migrationSignature = c.migrationSignature && r.pumpswapPool = c.pumpswapPool &&
    r.confirmationEvidenceHash = graduationEvidenceHash digest c

/-- The row a call comes to insert. -/
def inserts (R : Registry) : Call → Option Row
  | .record c =>
    if c.named ∧ R.find? c.mint = none ∧
        ∀ old ∈ R.rows, old.migrationSignature ≠ c.migrationSignature then
      some (graduatedRow digest c)
    else none
  | .importRow row => if R.find? row.mintIdentity = none then some row else none
  | _ => none

/-- The row a call comes to observe again. -/
def touches (R : Registry) : Call → Option Row
  | .record c => if c.named then (R.find? c.mint).filter (·.confirms digest c) else none
  | .touch mint _ _ => R.find? mint
  | _ => none

/-- Calls that observed the mint again, in a run. -/
def reobservations (mint : String) : Registry → List Call → ℕ
  | _, [] => 0
  | R, c :: cs =>
    (if c.reobserved (perform digest R c).2 = some mint then 1 else 0) +
      reobservations mint (after digest R c) cs

/-- No two rows share a mint, a signature or a pool. -/
def Apart (R : Registry) : Prop :=
  ∀ a ∈ R.rows, ∀ b ∈ R.rows, a.mintIdentity = b.mintIdentity ∨
    a.migrationSignature = b.migrationSignature ∨ a.pumpswapPool = b.pumpswapPool → a = b

instance (R : Registry) : Decidable (Apart R) := inferInstanceAs (Decidable (∀ a ∈ R.rows, ∀ b ∈ R.rows,
  a.mintIdentity = b.mintIdentity ∨ a.migrationSignature = b.migrationSignature ∨
    a.pumpswapPool = b.pumpswapPool → a = b))

/-- The law of the registry, over every cut of a run. -/
structure OneGraduation (cs : List Call) : Prop where
  apart : ∀ pre, pre <+: cs → Apart (registryAt digest pre)
  kept : ∀ pre mid post, cs = pre ++ mid ++ post → ∀ r ∈ (registryAt digest pre).rows,
    ∃ r' ∈ (registryAt digest (pre ++ mid)).rows, r'.toGraduation = r.toGraduation ∧
      r'.observationCount =
        r.observationCount + reobservations digest r.mintIdentity (registryAt digest pre) mid
  created : ∀ pre c post, cs = pre ++ c :: post → ∀ r ∈ (registryAt digest (pre ++ [c])).rows,
    (∀ old ∈ (registryAt digest pre).rows, old.mintIdentity ≠ r.mintIdentity) →
      (perform digest (registryAt digest pre) c).2 = .written true ∧ c.row digest = some r
  raised : ∀ pre c post e, cs = pre ++ c :: post →
    (perform digest (registryAt digest pre) c).2 = .raised e →
      (∃ code detail, e = .candidate code detail) ∧
        registryAt digest (pre ++ [c]) = registryAt digest pre
  replayed : ∀ pre, pre <+: cs → ∀ excluded,
    let rows := exportGraduatedCandidates (registryAt digest pre) excluded
    outputs (perform digest) .empty (rows.map .importRow) = (rows.map fun _ => .written true) ∧
      exportGraduatedCandidates (registryAt digest (rows.map .importRow)) [] = rows

/-- The row a call comes to insert meets every constraint of the table and has a pool of its own,
and the count of the row it comes to observe is an integer. -/
structure Clean (R : Registry) (c : Call) : Prop where
  accepted : ∀ r, inserts digest R c = some r → r.failedCheck = none ∧ r.storable = true ∧
    ∀ old ∈ R.rows, old.migrationSignature ≠ r.migrationSignature ∧
      old.pumpswapPool ≠ r.pumpswapPool
  countable : ∀ r, touches digest R c = some r → r.observationCount ≤ 9223372036854775807

section Calls

variable {digest} {R : Registry} {c : Call} {r : Row}

theorem execute_cases (R : Registry) (r : Row) :
    (∃ R', R.execute r = (.ok true, R') ∧ R'.rows = R.rows ++ [r]) ∨
      ∃ e, R.execute r = (.error e, R) ∧ ∀ code detail, e ≠ .candidate code detail := by
  unfold Registry.execute Registry.insert
  split_ifs with hstore hcheck hmint hsignature
  · exact .inl ⟨_, rfl, rfl⟩
  all_goals exact .inr ⟨_, rfl, by simp⟩

/-- A row is written exactly when it meets the constraints. -/
theorem execute_ok_iff (hmint : R.find? r.mintIdentity = none) :
    (R.execute r).1 = .ok true ↔ r.failedCheck = none ∧ r.storable = true ∧
      ∀ old ∈ R.rows, old.migrationSignature ≠ r.migrationSignature := by
  have hfresh : ∀ old ∈ R.rows, old.mintIdentity ≠ r.mintIdentity :=
    Table.find?_eq_none_iff.mp hmint
  unfold Registry.execute Registry.insert
  split_ifs with hstore hcheck hsignature
  · exact ⟨fun _ => ⟨hcheck, hstore, hsignature⟩, fun _ => rfl⟩
  · simp [hsignature]
  · simp [hcheck]
  · simp [hstore]

theorem toGraduation_touched (R : Registry) (mint channel now : String) :
    touchGraduatedObservation R mint channel now =
      match R.find? mint with
      | none => (.ok false, R)
      | some _ => (.ok true, R.observed mint channel now) := by
  unfold touchGraduatedObservation
  cases R.find? mint with
  | none => rfl
  | some old =>
    dsimp only
    rw [Row.evidenceChanged_of_eq (Row.toGraduation_observe channel now old), if_neg (by simp)]

/-- What a call that comes to insert a row does. -/
theorem perform_of_inserts (h : inserts digest R c = some r) :
    perform digest R c = ((R.execute r).2, .of (R.execute r).1) ∧ c.row digest = some r ∧
      R.find? r.mintIdentity = none := by
  cases c with
  | record c =>
    simp only [inserts] at h
    split_ifs at h with hc
    obtain ⟨hnamed, hnone, hsignature⟩ := hc
    obtain rfl := Option.some.inj h
    have howner : (R.rows.find? fun r => r.migrationSignature = c.migrationSignature) = none := by
      simpa using hsignature
    simp only [Candidate.named, Bool.and_eq_true, decide_eq_true_eq] at hnamed
    refine ⟨?_, rfl, hnone⟩
    simp only [perform, recordGraduatedCandidate]
    rw [if_neg hnamed.1.1, if_neg hnamed.1.2, if_neg hnamed.2, hnone, howner]
  | importRow row =>
    simp only [inserts] at h
    split_ifs at h with hnone
    obtain rfl := Option.some.inj h
    refine ⟨?_, rfl, hnone⟩
    simp only [perform, importGraduatedCandidateRow]
    rw [hnone]
  | touch mint channel now => cases h
  | exportRows excludeMarketIdentities => cases h

/-- What a call that comes to observe a row does. -/
theorem perform_of_touches (h : touches digest R c = some r) :
    R.find? r.mintIdentity = some r ∧ ∃ channel now a,
      perform digest R c = (R.observed r.mintIdentity channel now, a) ∧
        a ≠ .written true ∧ (∀ e, a ≠ .raised e) ∧ c.reobserved a = some r.mintIdentity := by
  cases c with
  | record c =>
    simp only [touches] at h
    split_ifs at h with hnamed
    obtain ⟨hfind, hconfirms⟩ := Option.filter_eq_some_iff.mp h
    obtain ⟨hmem, hmint⟩ := Table.find?_eq_some_iff.mp hfind
    simp only [Row.confirms, Bool.and_eq_true, decide_eq_true_eq, and_assoc] at hconfirms
    simp only [Candidate.named, Bool.and_eq_true, decide_eq_true_eq] at hnamed
    have htouch := toGraduation_touched R c.mint c.discoveryChannel c.now
    rw [hfind] at htouch
    refine ⟨by rw [hmint]; exact hfind, c.discoveryChannel, c.now, .written false, ?_, by simp,
      by simp, by simp [Call.reobserved, hmint]⟩
    simp only [perform, recordGraduatedCandidate]
    rw [if_neg hnamed.1.1, if_neg hnamed.1.2, if_neg hnamed.2, hfind]
    dsimp only
    rw [if_pos hconfirms, htouch, hmint]
    rfl
  | touch mint channel now =>
    have hfind : R.find? mint = some r := h
    obtain ⟨hmem, hmint⟩ := Table.find?_eq_some_iff.mp hfind
    have htouch := toGraduation_touched R mint channel now
    rw [hfind] at htouch
    refine ⟨by rw [hmint]; exact hfind, channel, now, .touched true, ?_, by simp, by simp,
      by simp [Call.reobserved, hmint]⟩
    simp only [perform]
    rw [htouch, hmint]
    rfl
  | importRow row => cases h
  | exportRows excludeMarketIdentities => cases h

/-- A call that comes to neither leaves the registry, and raises no error but its own. -/
theorem perform_of_rest (hinserts : inserts digest R c = none) (htouches : touches digest R c = none) :
    (perform digest R c).1 = R ∧ (perform digest R c).2 ≠ .written true ∧
      (∀ e, (perform digest R c).2 = .raised e → ∃ code detail, e = .candidate code detail) ∧
      ∀ mint, c.reobserved (perform digest R c).2 = some mint → R.find? mint = none := by
  cases c with
  | record c =>
    simp only [inserts, touches, Candidate.named, Bool.and_eq_true, decide_eq_true_eq]
      at hinserts htouches
    simp only [perform, recordGraduatedCandidate]
    by_cases hmint : strip c.mint = ""
    · simp [hmint, Answer.of, Call.reobserved]
    by_cases hsig : strip c.migrationSignature = ""
    · simp [hmint, hsig, Answer.of, Call.reobserved]
    by_cases hpool : strip c.pumpswapPool = ""
    · simp [hmint, hsig, hpool, Answer.of, Call.reobserved]
    rw [if_neg hmint, if_neg hsig, if_neg hpool]
    rw [if_pos ⟨⟨hmint, hsig⟩, hpool⟩] at htouches
    cases hfind : R.find? c.mint with
    | some existing =>
      rw [hfind] at htouches
      have hconflict : ¬(existing.migrationSignature = c.migrationSignature ∧
          existing.pumpswapPool = c.pumpswapPool ∧
          existing.confirmationEvidenceHash = graduationEvidenceHash digest c) := by
        simpa [Option.filter, Row.confirms, and_assoc] using htouches
      dsimp only
      rw [if_neg hconflict]
      simp [Answer.of, Call.reobserved]
    | none =>
      have howned : ∃ owner ∈ R.rows, owner.migrationSignature = c.migrationSignature := by
        by_contra hfree
        have hsignature : ∀ old ∈ R.rows, old.migrationSignature ≠ c.migrationSignature := by
          intro old hold heq
          exact hfree ⟨old, hold, heq⟩
        rw [if_pos ⟨⟨⟨hmint, hsig⟩, hpool⟩, hfind, hsignature⟩] at hinserts
        cases hinserts
      obtain ⟨owner, howner⟩ := Option.isSome_iff_exists.mp
        (List.find?_isSome.mpr (by simpa using howned) :
          (R.rows.find? fun r => r.migrationSignature = c.migrationSignature).isSome)
      have hother : owner.mintIdentity ≠ c.mint :=
        Table.find?_eq_none_iff.mp hfind owner (List.mem_of_find?_eq_some howner)
      dsimp only
      rw [howner]
      dsimp only
      rw [if_pos hother]
      simp [Answer.of, Call.reobserved]
  | touch mint channel now =>
    have hnone : R.find? mint = none := htouches
    have htouch := toGraduation_touched R mint channel now
    rw [hnone] at htouch
    simp only [perform]
    rw [htouch]
    simp [Answer.ofTouch, Call.reobserved]
  | importRow row =>
    simp only [inserts] at hinserts
    simp only [perform, importGraduatedCandidateRow]
    cases hfind : R.find? row.mintIdentity with
    | none => simp [hfind] at hinserts
    | some existing =>
      dsimp only
      split_ifs
      · simp [Answer.of, Call.reobserved]
      · simp [Answer.of, Call.reobserved]
  | exportRows excludeMarketIdentities => simp [perform, Call.reobserved]

theorem mem_observed {mint channel now : String} {x : Row} :
    x ∈ (R.observed mint channel now).rows ↔ (x ∈ R.rows ∧ x.mintIdentity ≠ mint) ∨
      ∃ old ∈ R.rows, old.mintIdentity = mint ∧ (Row.observe channel now).apply old = x :=
  Table.mem_updateKey

/-- Rows keep their evidence when one of them is observed. -/
theorem evidence_observed {mint channel now : String} {x : Row}
    (hx : x ∈ (R.observed mint channel now).rows) :
    ∃ old ∈ R.rows, x.toGraduation = old.toGraduation := by
  rcases mem_observed.mp hx with ⟨hx, -⟩ | ⟨old, hold, -, rfl⟩
  · exact ⟨x, hx, rfl⟩
  · exact ⟨old, hold, rfl⟩

/-- A row is there because it was, or because the call wrote it. -/
theorem written_of_new (hr : r ∈ (after digest R c).rows)
    (hnew : ∀ old ∈ R.rows, old.mintIdentity ≠ r.mintIdentity) :
    (perform digest R c).2 = .written true ∧ c.row digest = some r := by
  have hold : ∀ x ∈ R.rows, x.toGraduation ≠ r.toGraduation := fun x hx heq =>
    hnew x hx (congrArg Graduation.mintIdentity heq)
  unfold after at hr
  cases hinserts : inserts digest R c with
  | some r' =>
    obtain ⟨hperform, hrow, -⟩ := perform_of_inserts hinserts
    rw [hperform] at hr ⊢
    rcases execute_cases R r' with ⟨R', h, hrows⟩ | ⟨e, h, -⟩
    · rw [h] at hr ⊢
      rw [hrows, List.mem_append, List.mem_singleton] at hr
      rcases hr with hr | rfl
      · exact absurd rfl (hold r hr)
      · exact ⟨rfl, hrow⟩
    · rw [h] at hr
      exact absurd rfl (hold r hr)
  | none =>
    cases htouches : touches digest R c with
    | some r' =>
      obtain ⟨-, channel, now, a, hperform, -⟩ := perform_of_touches htouches
      rw [hperform] at hr
      obtain ⟨x, hx, heq⟩ := evidence_observed hr
      exact absurd heq.symm (hold x hx)
    | none =>
      rw [(perform_of_rest hinserts htouches).1] at hr
      exact absurd rfl (hold r hr)

/-- A call that raises changes nothing. -/
theorem after_of_raised {e : RegistryFault} (h : (perform digest R c).2 = .raised e) :
    after digest R c = R := by
  unfold after
  cases hinserts : inserts digest R c with
  | some r =>
    obtain ⟨hperform, -, -⟩ := perform_of_inserts hinserts
    rw [hperform] at h ⊢
    rcases execute_cases R r with ⟨R', hexecute, -⟩ | ⟨e', hexecute, -⟩
    · rw [hexecute] at h
      cases h
    · rw [hexecute]
  | none =>
    cases htouches : touches digest R c with
    | some r =>
      obtain ⟨-, channel, now, a, hperform, -, hraised, -⟩ := perform_of_touches htouches
      rw [hperform] at h
      exact absurd h (hraised e)
    | none => exact (perform_of_rest hinserts htouches).1

end Calls

/-- The law for one call. -/
structure OneCall (R : Registry) (c : Call) : Prop where
  apart : Apart (after digest R c)
  kept : ∀ r ∈ R.rows, ∃ r' ∈ (after digest R c).rows, r'.toGraduation = r.toGraduation ∧
    r'.observationCount = r.observationCount +
      if c.reobserved (perform digest R c).2 = some r.mintIdentity then 1 else 0
  raised : ∀ e, (perform digest R c).2 = .raised e → ∃ code detail, e = .candidate code detail

variable {digest} {R : Registry} {c : Call}

theorem Apart.of_evidence {R S : Registry} (hR : Apart R)
    (h : ∀ x ∈ S.rows, ∃ old ∈ R.rows, x.toGraduation = old.toGraduation) : Apart S := by
  intro a ha b hb hshared
  obtain ⟨a', ha', haa⟩ := h a ha
  obtain ⟨b', hb', hbb⟩ := h b hb
  rw [haa, hbb] at hshared
  have heq : a' = b' := hR a' ha' b' hb' hshared
  apply S.eq_of_key ha hb
  rw [haa, hbb, heq]

/-- A row put down beside rows that are apart. -/
theorem apart_append_iff {R S : Registry} {r : Row} (hR : Apart R) (hS : S.rows = R.rows ++ [r]) :
    Apart S ↔ ∀ old ∈ R.rows, old.pumpswapPool ≠ r.pumpswapPool := by
  have hmint : ∀ old ∈ R.rows, old.mintIdentity ≠ r.mintIdentity := by
    have hnodup := S.nodup
    rw [hS, List.map_append, List.nodup_append] at hnodup
    exact fun old hold => hnodup.2.2 _ (List.mem_map_of_mem hold) _ (by simp)
  have hsignature : ∀ old ∈ R.rows, old.migrationSignature ≠ r.migrationSignature := by
    have hnodup := S.signatures
    rw [hS, List.map_append, List.nodup_append] at hnodup
    exact fun old hold => hnodup.2.2 _ (List.mem_map_of_mem hold) _ (by simp)
  have hmem : ∀ x, x ∈ S.rows ↔ x ∈ R.rows ∨ x = r := by
    intro x
    rw [hS, List.mem_append, List.mem_singleton]
  constructor
  · intro h old hold hpool
    have heq := h old ((hmem old).mpr (.inl hold)) r ((hmem r).mpr (.inr rfl)) (.inr (.inr hpool))
    exact hmint old hold (congrArg (fun x : Row => x.mintIdentity) heq)
  · intro hpool a ha b hb hshared
    rcases (hmem a).mp ha with ha | rfl <;> rcases (hmem b).mp hb with hb | rfl
    · exact hR a ha b hb hshared
    · rcases hshared with h | h | h
      · exact absurd h (hmint a ha)
      · exact absurd h (hsignature a ha)
      · exact absurd h (hpool a ha)
    · rcases hshared with h | h | h
      · exact absurd h.symm (hmint b hb)
      · exact absurd h.symm (hsignature b hb)
      · exact absurd h.symm (hpool b hb)
    · rfl

theorem touches_of_inserts {r : Row} (h : inserts digest R c = some r) :
    touches digest R c = none := by
  cases c with
  | record c =>
    simp only [inserts] at h
    split_ifs at h with hc
    simp [touches, hc.2.1]
  | importRow row => rfl
  | touch mint channel now => cases h
  | exportRows excludeMarketIdentities => rfl

theorem reobserved_of_execute (r : Row) : c.reobserved (.of (R.execute r).1) = none := by
  rcases execute_cases R r with ⟨R', h, -⟩ | ⟨e, h, -⟩
  · rw [h]
    cases c <;> simp [Call.reobserved, Answer.of]
  · rw [h]
    cases c <;> simp [Call.reobserved, Answer.of]

theorem oneCall_of_inserts {r : Row} (hR : Apart R) (h : inserts digest R c = some r) :
    OneCall digest R c ↔ Clean digest R c := by
  obtain ⟨hperform, -, hmint⟩ := perform_of_inserts h
  have hseen := reobserved_of_execute (R := R) (c := c) r
  have hok := execute_ok_iff hmint
  rcases execute_cases R r with ⟨R', hexecute, hrows⟩ | ⟨e, hexecute, hforeign⟩
  · rw [hexecute] at hperform hseen hok
    have hafter : after digest R c = R' := by rw [after, hperform]
    obtain ⟨hcheck, hstore, hsignature⟩ := hok.mp rfl
    constructor
    · intro hone
      have hapart : Apart R' := hafter ▸ hone.apart
      have hpool := (apart_append_iff hR hrows).mp hapart
      refine ⟨fun r' hr' => ?_, fun r' hr' => ?_⟩
      · obtain rfl := Option.some.inj (h.symm.trans hr')
        exact ⟨hcheck, hstore, fun old hold => ⟨hsignature old hold, hpool old hold⟩⟩
      · rw [touches_of_inserts h] at hr'
        cases hr'
    · intro hclean
      have hpool : ∀ old ∈ R.rows, old.pumpswapPool ≠ r.pumpswapPool := fun old hold =>
        ((hclean.accepted r h).2.2 old hold).2
      refine ⟨?_, fun old hold => ?_, ?_⟩
      · rw [hafter]
        exact (apart_append_iff hR hrows).mpr hpool
      · refine ⟨old, by rw [hafter, hrows]; simp [hold], rfl, ?_⟩
        rw [hperform, hseen]
        simp
      · intro e he
        rw [hperform] at he
        cases he
  · rw [hexecute] at hperform hok
    constructor
    · intro hone
      obtain ⟨code, detail, heq⟩ := hone.raised e (by rw [hperform]; rfl)
      exact absurd heq (hforeign code detail)
    · intro hclean
      obtain ⟨hcheck, hstore, hsame⟩ := hclean.accepted r h
      have hfree : ∀ old ∈ R.rows, old.migrationSignature ≠ r.migrationSignature :=
        fun old hold => (hsame old hold).1
      cases hok.mpr ⟨hcheck, hstore, hfree⟩

theorem oneCall_of_touches {r : Row} (hR : Apart R) (h : touches digest R c = some r) :
    OneCall digest R c ↔ Clean digest R c := by
  obtain ⟨hfind, channel, now, a, hperform, -, hraised, hseen⟩ := perform_of_touches h
  obtain ⟨hmem, -⟩ := Table.find?_eq_some_iff.mp hfind
  have hafter : after digest R c = R.observed r.mintIdentity channel now := by
    rw [after, hperform]
  have hnone : inserts digest R c = none := by
    cases hinserts : inserts digest R c with
    | none => rfl
    | some r' =>
      rw [touches_of_inserts hinserts] at h
      cases h
  constructor
  · intro hone
    refine ⟨fun r' hr' => ?_, fun r' hr' => ?_⟩
    · rw [hnone] at hr'
      cases hr'
    · obtain rfl := Option.some.inj (h.symm.trans hr')
      obtain ⟨x, hx, hsame, hcount⟩ := hone.kept r hmem
      rw [hafter] at hx
      rw [hperform, hseen, if_pos rfl] at hcount
      rcases mem_observed.mp hx with ⟨-, hother⟩ | ⟨old, hold, hmint, rfl⟩
      · exact absurd (congrArg Graduation.mintIdentity hsame) hother
      · obtain rfl := R.eq_of_key hold hmem hmint
        by_contra hlarge
        have hstuck : Sqlite.increment old.observationCount = old.observationCount + 1 := hcount
        rw [Sqlite.increment, if_neg hlarge] at hstuck
        omega
  · intro hclean
    have hcount := hclean.countable r h
    refine ⟨?_, fun old hold => ?_, fun e he => ?_⟩
    · rw [hafter]
      exact hR.of_evidence fun x hx => evidence_observed hx
    · rw [hafter, hperform, hseen]
      by_cases hmint : old.mintIdentity = r.mintIdentity
      · obtain rfl := R.eq_of_key hold hmem hmint
        refine ⟨(Row.observe channel now).apply old,
          mem_observed.mpr (.inr ⟨old, hold, rfl, rfl⟩), rfl, ?_⟩
        rw [if_pos rfl]
        show Sqlite.increment old.observationCount = old.observationCount + 1
        rw [Sqlite.increment, if_pos hcount]
      · refine ⟨old, mem_observed.mpr (.inl ⟨hold, hmint⟩), rfl, ?_⟩
        rw [if_neg fun heq => hmint (Option.some.inj heq).symm, Int.add_zero]
    · rw [hperform] at he
      exact absurd he (hraised e)

/-- A call obeys the law exactly when it is clean. -/
theorem oneCall_iff (hR : Apart R) : OneCall digest R c ↔ Clean digest R c := by
  cases hinserts : inserts digest R c with
  | some r => exact oneCall_of_inserts hR hinserts
  | none =>
    cases htouches : touches digest R c with
    | some r => exact oneCall_of_touches hR htouches
    | none =>
      obtain ⟨hafter, -, hraised, hseen⟩ := perform_of_rest hinserts htouches
      have hclean : Clean digest R c := by
        refine ⟨fun r hr => ?_, fun r hr => ?_⟩
        · rw [hinserts] at hr
          cases hr
        · rw [htouches] at hr
          cases hr
      refine ⟨fun _ => hclean, fun _ => ⟨?_, fun r hr => ⟨r, ?_, rfl, ?_⟩, hraised⟩⟩
      · rw [after, hafter]
        exact hR
      · rw [after, hafter]
        exact hr
      · have hunseen : c.reobserved (perform digest R c).2 ≠ some r.mintIdentity := fun h =>
          Table.find?_eq_none_iff.mp (hseen _ h) r hr rfl
        rw [if_neg hunseen, Int.add_zero]

/-- The rows of a clean run keep their evidence, and count the calls that observed them. -/
theorem kept_run {cs : List Call} : ∀ {R : Registry}, Apart R →
    Along (after digest) (Clean digest) R cs →
    ∀ r ∈ R.rows, ∃ r' ∈ (run (after digest) R cs).rows, r'.toGraduation = r.toGraduation ∧
      r'.observationCount = r.observationCount + reobservations digest r.mintIdentity R cs := by
  induction cs with
  | nil =>
    intro R _ _ r hr
    exact ⟨r, hr, rfl, by simp [reobservations]⟩
  | cons c cs ih =>
    intro R hR halong r hr
    have hone := (oneCall_iff hR).mpr halong.1
    obtain ⟨x, hx, hsame, hcount⟩ := hone.kept r hr
    obtain ⟨r', hr', hsame', hcount'⟩ := ih hone.apart halong.2 x hx
    refine ⟨r', hr', hsame'.trans hsame, ?_⟩
    have hmint : x.mintIdentity = r.mintIdentity := congrArg Graduation.mintIdentity hsame
    rw [hcount', hcount, hmint, reobservations]
    push_cast
    omega

section Export

/-- The rows break no constraint of the table. -/
abbrev Fits (rows : List Row) : Prop :=
  Table.Fits (fun r : Row => r.mintIdentity) (fun r => r.migrationSignature)
    (fun r => r.failedCheck = none ∧ r.storable = true) rows

theorem Registry.fits (R : Registry) : Fits R.rows :=
  ⟨R.nodup, R.signatures, fun r hr => ⟨R.checked r hr, R.stored r hr⟩⟩

variable (digest) in
/-- A row that breaks no constraint is imported. -/
theorem import_of_fits (R : Registry) (row : Row) (h : Fits (R.rows ++ [row])) :
    (perform digest R (.importRow row)).1.rows = R.rows ++ [row] ∧
      (perform digest R (.importRow row)).2 = .written true := by
  have hmint : R.find? row.mintIdentity = none := Table.find?_eq_none_iff.mpr h.key_ne
  have hok : (R.execute row).1 = .ok true :=
    (execute_ok_iff hmint).mpr ⟨h.checked_last.1, h.checked_last.2, h.unique_ne⟩
  have hinserts : inserts digest R (.importRow row) = some row := if_pos hmint
  rw [(perform_of_inserts hinserts).1]
  rcases execute_cases R row with ⟨R', hexecute, hrows⟩ | ⟨e, hexecute, -⟩
  · rw [hexecute]
    exact ⟨hrows, rfl⟩
  · rw [hexecute] at hok
    cases hok

/-- An export is sorted, and confirmed through and through. -/
theorem export_again {R S : Registry} {excluded : List String}
    (h : S.rows = exportGraduatedCandidates R excluded) :
    exportGraduatedCandidates S [] = S.rows := by
  have hconfirmed : S.rows.filter (fun r => r.lifecycleState = graduatedLifecycle) = S.rows := by
    rw [List.filter_eq_self]
    intro r hr
    simpa using Row.lifecycleState_of_checked (S.checked r hr)
  have hsorted : S.rows.Pairwise fun a b => exportKey a ≤ exportKey b := by
    rw [h]
    exact (sortBy_sorted exportKey _).filter _
  unfold exportGraduatedCandidates
  rw [hconfirmed, sortBy_of_sorted hsorted]
  simp

variable (digest) in
/-- An export makes an empty registry that exports it again. -/
theorem export_import_export (R : Registry) (excluded : List String) :
    let rows := exportGraduatedCandidates R excluded
    outputs (perform digest) .empty (rows.map .importRow) = (rows.map fun _ => .written true) ∧
      exportGraduatedCandidates (registryAt digest (rows.map .importRow)) [] = rows := by
  intro rows
  have himport := run_appends
    (fun xs ys h => Table.Fits.of_subperm h (List.sublist_append_left xs ys).subperm)
    (import_of_fits digest) rows .empty
    (R.fits.of_subperm (filter_sortBy_filter_subperm exportKey _ _ _))
  have hrows : (registryAt digest (rows.map .importRow)).rows = rows := himport.1
  refine ⟨himport.2, ?_⟩
  rw [export_again hrows, hrows]

end Export

theorem apart_empty : Apart .empty := by
  intro a ha
  cases ha

theorem registryAt_append (pre mid : List Call) :
    registryAt digest (pre ++ mid) = run (after digest) (registryAt digest pre) mid :=
  run_append _ _ _ _

/-- A run from the empty registry obeys the law exactly when all of its calls are clean: a row
that is written meets every constraint and has a signature and a pool of its own, and a row that
is observed has a count that is still an integer. -/
theorem graduatedRegistry_runs_iff (digest : Value → Discovery.Digest) (cs : List Call) :
    OneGraduation digest cs ↔ Along (after digest) (Clean digest) .empty cs := by
  have hstep : ∀ R c, Apart R → Clean digest R c → Apart (after digest R c) := fun R c hR hc =>
    ((oneCall_iff hR).mpr hc).apart
  constructor
  · intro h
    rw [along_iff_forall]
    intro pre c post hcut
    have hpre : Apart (registryAt digest pre) := h.apart pre ⟨c :: post, hcut.symm⟩
    have hsnoc : cs = pre ++ [c] ++ post := by rw [hcut]; simp
    have hafter : registryAt digest (pre ++ [c]) = after digest (registryAt digest pre) c :=
      registryAt_append pre [c]
    refine (oneCall_iff hpre).mp ⟨?_, fun r hr => ?_, fun e he => (h.raised pre c post e hcut he).1⟩
    · rw [← hafter]
      exact h.apart _ ⟨post, hsnoc.symm⟩
    · obtain ⟨r', hr', hsame, hcount⟩ := h.kept pre [c] post hsnoc r hr
      rw [hafter] at hr'
      refine ⟨r', hr', hsame, ?_⟩
      simpa [reobservations] using hcount
  · intro halong
    have hapart : ∀ pre, pre <+: cs → Apart (registryAt digest pre) :=
      throughout_along hstep apart_empty halong
    refine ⟨hapart, ?_, ?_, ?_, ?_⟩
    · intro pre mid post hcut r hr
      have hmid : Along (after digest) (Clean digest) (registryAt digest pre) mid := by
        rw [hcut] at halong
        exact ((along_append _).mp ((along_append _).mp halong).1).2
      rw [registryAt_append]
      exact kept_run (hapart pre ⟨mid ++ post, by rw [hcut]; simp⟩) hmid r hr
    · intro pre c post hcut r hr hnew
      rw [registryAt_append] at hr
      exact written_of_new hr hnew
    · intro pre c post e hcut he
      have hclean : Clean digest (registryAt digest pre) c := along_iff_forall.mp halong pre c post hcut
      refine ⟨((oneCall_iff (hapart pre ⟨c :: post, hcut.symm⟩)).mpr hclean).raised e he, ?_⟩
      rw [registryAt_append]
      exact after_of_raised he
    · intro pre _ excluded
      exact export_import_export digest (registryAt digest pre) excluded

/-- Two mints graduate into one pool. -/
def sharedPoolCalls : List Call :=
  [.record
      { mint := "MintA", migrationSignature := "SigA", pumpswapPool := "PoolA"
        graduationBlockTime := 1783886668, graduationSlot := some 1
        now := "2026-07-12T00:00:00+00:00" },
    .record
      { mint := "MintB", migrationSignature := "SigB", pumpswapPool := "PoolA"
        graduationBlockTime := 1783886669, graduationSlot := some 2
        now := "2026-07-12T00:01:00+00:00" }]

theorem not_oneGraduation_sharedPool :
    ¬OneGraduation (fun _ => ⟨String.ofList (List.replicate 64 '0'), rfl⟩) sharedPoolCalls := by
  intro h
  have hapart := h.apart sharedPoolCalls (List.prefix_refl _)
  revert hapart
  decide +kernel

end PrinterV1.Sources.Graduated
