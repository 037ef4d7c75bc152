import PrinterV1.Sources.OriginRegistry

/-!
# The registry of finalized origins is write-once

A call either writes one new row at the end of the table or changes nothing.
What a call carries is its `Evidence`: once a call with some evidence was
answered, every later call with it finds the row and writes nothing, whichever
of the two writers stored it. An export taken into an empty registry exports
itself again.
-/

namespace PrinterV1.Sources

open Python Discovery Runs

/-- What a stored row is compared in. -/
structure Evidence where
  mint : String
  signature : String
  slot : ℤ
  evidenceHash : String
  deriving DecidableEq, Repr

def OriginRow.evidence (r : OriginRow) : Evidence :=
  ⟨r.mintIdentity, r.transactionSignature, r.slot, r.evidenceHash⟩

inductive OriginCall
  | record (observation : PumpCreateObservation) (now acquisitionMode indexAddress : String)
  | importRow (row : OriginRow)
  | exportDue (evaluatedEpoch maturitySeconds : ℤ) (excludeMints : List String)
  deriving DecidableEq, Repr

inductive OriginAnswer
  | written (new : Bool)
  | raised (e : RegistryFault)
  | exported (rows : List OriginRow)
  deriving DecidableEq, Repr

def OriginAnswer.of : Except RegistryFault Bool → OriginAnswer
  | .ok new => .written new
  | .error e => .raised e

variable (digest : Value → Discovery.Digest)

def perform (R : Registry) : OriginCall → Registry × OriginAnswer
  | .record observation now acquisitionMode indexAddress =>
    let r := recordConfirmedOrigin digest R observation now acquisitionMode indexAddress
    (r.2, .of r.1)
  | .importRow row =>
    let r := importConfirmedOriginRow R row
    (r.2, .of r.1)
  | .exportDue evaluatedEpoch maturitySeconds excludeMints =>
    (R, .exported (exportDueConfirmedOrigins R evaluatedEpoch maturitySeconds excludeMints))

/-- The registry after a call. -/
def after (R : Registry) (c : OriginCall) : Registry := (perform digest R c).1

namespace OriginCall

def evidence : OriginCall → Option Evidence
  | record observation _ _ _ =>
    some ⟨observation.mint, observation.signature, observation.slot,
      originEvidenceHash digest observation⟩
  | importRow row => some row.evidence
  | exportDue _ _ _ => none

/-- What a call is refused for before the registry is looked at. -/
def refusal : OriginCall → Option RegistryFault
  | record observation _ acquisitionMode _ =>
    if observation.programId ≠ pumpProgramId then
      some (.registry "ORIGIN_REGISTRY_PROGRAM_MISMATCH" "")
    else if acquisitionMode ∉ [acquisitionModeProspective, acquisitionModeSupportOnly] then
      some (.registry "ORIGIN_REGISTRY_UNKNOWN_MODE" acquisitionMode)
    else none
  | _ => none

end OriginCall

/-- The registry has a row with the evidence. -/
def Registry.Holds (R : Registry) (e : Evidence) : Prop := ∃ r ∈ R.rows, r.evidence = e

variable {digest}

theorem Registry.Holds.find {R : Registry} {e : Evidence} (h : R.Holds e) :
    ∃ r, R.find? e.mint = some r ∧ r.evidence = e := by
  obtain ⟨r, hr, he⟩ := h
  exact ⟨r, Table.find?_eq_some_iff.mpr ⟨hr, congrArg Evidence.mint he⟩, he⟩

theorem Registry.Holds.of_rows {R S : Registry} {e : Evidence} (h : R.Holds e)
    (hp : R.rows <+: S.rows) : S.Holds e := by
  obtain ⟨r, hr, he⟩ := h
  exact ⟨r, hp.subset hr, he⟩

theorem execute_cases (R : Registry) (r : OriginRow) :
    (∃ R', R.execute r = (.ok true, R') ∧ R'.rows = R.rows ++ [r]) ∨
      ∃ e, R.execute r = (.error e, R) := by
  unfold Registry.execute
  cases h : R.insert r with
  | ok R' => exact .inl ⟨R', rfl, Registry.insert_ok h⟩
  | error e => exact .inr ⟨e, rfl⟩

variable (digest) in
/-- All that a call does: it writes one row, it finds the row of its evidence,
or it raises, or it exports. -/
theorem perform_cases (R : Registry) (c : OriginCall) :
    (∃ R' r, perform digest R c = (R', .written true) ∧ R'.rows = R.rows ++ [r] ∧
        c.evidence digest = some r.evidence) ∨
      (∃ e, perform digest R c = (R, .written false) ∧ c.evidence digest = some e ∧ R.Holds e) ∨
      (∃ e, perform digest R c = (R, .raised e)) ∨
      ∃ rows, perform digest R c = (R, .exported rows) := by
  cases c with
  | record observation now acquisitionMode indexAddress =>
    simp only [perform, recordConfirmedOrigin]
    split_ifs with hprogram hmode
    · exact .inr (.inr (.inl ⟨_, rfl⟩))
    · cases hfind : R.find? observation.mint with
      | some existing =>
        obtain ⟨hmem, hmint⟩ := Table.find?_eq_some_iff.mp hfind
        dsimp only
        split_ifs with hsame
        · obtain ⟨hsignature, hslot, hhash⟩ := hsame
          refine .inr (.inl ⟨_, rfl, rfl, existing, hmem, ?_⟩)
          rw [OriginRow.evidence, hmint, hsignature, hslot, hhash]
        · exact .inr (.inr (.inl ⟨_, rfl⟩))
      | none =>
        dsimp only
        cases layoutDiscriminatorHex.lookup observation.createLayout with
        | none => exact .inr (.inr (.inl ⟨_, rfl⟩))
        | some discriminatorHex =>
          cases layoutTokenProgram.lookup observation.createLayout with
          | none => exact .inr (.inr (.inl ⟨_, rfl⟩))
          | some tokenProgram =>
            dsimp only
            rcases execute_cases R (confirmedRow digest observation now acquisitionMode
              indexAddress discriminatorHex tokenProgram) with ⟨R', h, hrows⟩ | ⟨e, h⟩
            · rw [h]
              exact .inl ⟨R', _, rfl, hrows, rfl⟩
            · rw [h]
              exact .inr (.inr (.inl ⟨e, rfl⟩))
    · exact .inr (.inr (.inl ⟨_, rfl⟩))
  | importRow row =>
    simp only [perform, importConfirmedOriginRow]
    cases hfind : R.find? row.mintIdentity with
    | some existing =>
      obtain ⟨hmem, hmint⟩ := Table.find?_eq_some_iff.mp hfind
      dsimp only
      split_ifs with hsame
      · obtain ⟨hsignature, hslot, hhash⟩ := hsame
        refine .inr (.inl ⟨_, rfl, rfl, existing, hmem, ?_⟩)
        rw [OriginRow.evidence, hmint, hsignature, hslot, hhash]
        rfl
      · exact .inr (.inr (.inl ⟨_, rfl⟩))
    | none =>
      dsimp only
      rcases execute_cases R row with ⟨R', h, hrows⟩ | ⟨e, h⟩
      · rw [h]
        exact .inl ⟨R', row, rfl, hrows, rfl⟩
      · rw [h]
        exact .inr (.inr (.inl ⟨e, rfl⟩))
  | exportDue evaluatedEpoch maturitySeconds excludeMints =>
    exact .inr (.inr (.inr ⟨_, rfl⟩))

theorem after_rows (R : Registry) (c : OriginCall) : R.rows <+: (after digest R c).rows := by
  unfold after
  rcases perform_cases digest R c with ⟨R', r, h, hrows, -⟩ | ⟨e, h, -⟩ | ⟨e, h⟩ |
    ⟨rows, h⟩
  · rw [h, hrows]
    exact List.prefix_append _ _
  all_goals exact ⟨[], by rw [h, List.append_nil]⟩

theorem run_rows (R : Registry) (cs : List OriginCall) :
    R.rows <+: (run (after digest) R cs).rows :=
  invariant (I := fun S => R.rows <+: S.rows) (fun S c h => h.trans (after_rows S c))
    (List.prefix_refl _) cs

theorem after_of_not_written {R : Registry} {c : OriginCall}
    (h : (perform digest R c).2 ≠ .written true) : after digest R c = R := by
  unfold after
  rcases perform_cases digest R c with ⟨R', r, hc, -⟩ | ⟨e, hc, -⟩ | ⟨e, hc⟩ |
    ⟨rows, hc⟩
  · rw [hc] at h
    exact absurd rfl h
  all_goals rw [hc]

/-- A call that was answered leaves its evidence in the registry. -/
theorem holds_after {R : Registry} {c : OriginCall} {e : Evidence} {new : Bool}
    (hc : c.evidence digest = some e) (h : (perform digest R c).2 = .written new) :
    (after digest R c).Holds e := by
  unfold after
  rcases perform_cases digest R c with ⟨R', r, hp, hrows, he⟩ | ⟨e', hp, he, hold⟩ |
    ⟨f, hp⟩ | ⟨rows, hp⟩
  · obtain rfl := Option.some.inj (hc.symm.trans he)
    rw [hp]
    exact ⟨r, by simp [hrows], rfl⟩
  · obtain rfl := Option.some.inj (hc.symm.trans he)
    rw [hp]
    exact hold
  · rw [hp] at h
    cases h
  · rw [hp] at h
    cases h

/-- A call whose evidence the registry holds writes nothing. -/
theorem perform_of_holds {R : Registry} {c : OriginCall} {e : Evidence}
    (hc : c.evidence digest = some e) (h : R.Holds e) :
    perform digest R c = (R, c.refusal.elim (.written false) .raised) := by
  obtain ⟨r, hfind, he⟩ := h.find
  cases c with
  | record observation now acquisitionMode indexAddress =>
    obtain rfl := Option.some.inj hc
    have hsame : r.transactionSignature = observation.signature ∧ r.slot = observation.slot ∧
        r.evidenceHash = originEvidenceHash digest observation :=
      ⟨congrArg Evidence.signature he, congrArg Evidence.slot he,
        congrArg Evidence.evidenceHash he⟩
    have hlook : R.find? observation.mint = some r := hfind
    simp only [perform, recordConfirmedOrigin, OriginCall.refusal]
    split_ifs with hprogram hmode
    · rfl
    · rw [hlook]
      dsimp only
      rw [if_pos hsame]
      rfl
    · rfl
  | importRow row =>
    obtain rfl := Option.some.inj hc
    have hsame : r.transactionSignature = row.transactionSignature ∧ r.slot = row.slot ∧
        r.evidenceHash = row.evidenceHash :=
      ⟨congrArg Evidence.signature he, congrArg Evidence.slot he,
        congrArg Evidence.evidenceHash he⟩
    have hlook : R.find? row.mintIdentity = some r := hfind
    simp only [perform, importConfirmedOriginRow]
    rw [hlook]
    dsimp only
    rw [if_pos hsame]
    rfl
  | exportDue evaluatedEpoch maturitySeconds excludeMints => cases hc

/-- The rows break no constraint of the table. -/
abbrev Fits (rows : List OriginRow) : Prop :=
  Table.Fits OriginRow.mintIdentity OriginRow.transactionSignature
    (fun r => r.failedCheck = none ∧ r.storable = true) rows

theorem Registry.fits (R : Registry) : Fits R.rows :=
  ⟨R.nodup, R.signatures, fun r hr => ⟨R.checked r hr, R.stored r hr⟩⟩

variable (digest) in
/-- A row that breaks no constraint is imported. -/
theorem import_of_fits (R : Registry) (row : OriginRow) (h : Fits (R.rows ++ [row])) :
    (perform digest R (.importRow row)).1.rows = R.rows ++ [row] ∧
      (perform digest R (.importRow row)).2 = .written true := by
  have hnone : R.find? row.mintIdentity = none := Table.find?_eq_none_iff.mpr h.key_ne
  simp only [perform, importConfirmedOriginRow]
  rw [hnone]
  dsimp only
  rw [Registry.execute, Registry.insert_of_fresh h.checked_last.2 h.checked_last.1 h.key_ne
    h.unique_ne]
  exact ⟨rfl, rfl⟩

/-- An export is sorted, and confirmed through and through. -/
theorem export_again {R S : Registry} {evaluatedEpoch maturitySeconds : ℤ}
    {excludeMints : List String}
    (h : S.rows = exportDueConfirmedOrigins R evaluatedEpoch maturitySeconds excludeMints) :
    exportDueConfirmedOrigins S evaluatedEpoch maturitySeconds excludeMints = S.rows := by
  have hconfirmed : S.rows.filter (fun r => r.originState = originConfirmed) = S.rows := by
    rw [List.filter_eq_self]
    intro r hr
    simpa using OriginRow.originState_of_checked (S.checked r hr)
  have hsorted : S.rows.Pairwise fun a b => exportKey a ≤ exportKey b := by
    rw [h]
    exact (sortBy_sorted exportKey _).filter _
  unfold exportDueConfirmedOrigins
  rw [hconfirmed, sortBy_of_sorted hsorted, List.filter_eq_self]
  intro r hr
  rw [h] at hr
  exact (List.mem_filter.mp hr).2

/-- The registry is write-once. A mint has one row, and no row changes or goes;
a call that does not write changes nothing; evidence that was once answered is
held, and whatever call carries it again writes nothing; and an export makes an
empty registry that exports it again. -/
theorem originRegistry_writeOnce (digest : Value → Discovery.Digest) (R : Registry) :
    (∀ a ∈ R.rows, ∀ b ∈ R.rows, a.mintIdentity = b.mintIdentity → a = b) ∧
    (∀ cs, R.rows <+: (run (after digest) R cs).rows) ∧
    (∀ c, (perform digest R c).2 ≠ .written true → after digest R c = R) ∧
    (∀ c e new cs, c.evidence digest = some e → (perform digest R c).2 = .written new →
      let S := run (after digest) (after digest R c) cs
      S.Holds e ∧ ∀ again, again.evidence digest = some e →
        perform digest S again = (S, again.refusal.elim (.written false) .raised)) ∧
    ∀ evaluatedEpoch maturitySeconds excludeMints,
      let rows := exportDueConfirmedOrigins R evaluatedEpoch maturitySeconds excludeMints
      let S := run (after digest) .empty (rows.map .importRow)
      outputs (perform digest) .empty (rows.map .importRow) = (rows.map fun _ => .written true) ∧
        exportDueConfirmedOrigins S evaluatedEpoch maturitySeconds excludeMints = rows := by
  refine ⟨fun a ha b hb => R.eq_of_key ha hb, run_rows R, fun c => after_of_not_written, ?_, ?_⟩
  · intro c e new cs hc h S
    have hold : S.Holds e := (holds_after hc h).of_rows (run_rows _ cs)
    exact ⟨hold, fun again hagain => perform_of_holds hagain hold⟩
  · intro evaluatedEpoch maturitySeconds excludeMints rows S
    have himport := run_appends (fun xs ys h =>
      Table.Fits.of_subperm h (List.sublist_append_left xs ys).subperm)
      (import_of_fits digest) rows .empty
      (R.fits.of_subperm (filter_sortBy_filter_subperm exportKey _ _ _))
    have hrows : S.rows = rows := himport.1
    refine ⟨himport.2, ?_⟩
    rw [export_again hrows, hrows]

end PrinterV1.Sources
