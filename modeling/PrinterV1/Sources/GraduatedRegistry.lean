import Mathlib.Data.Prod.Lex
import PrinterV1.Discovery.AcquisitionPlan
import PrinterV1.Foundation.Runs
import PrinterV1.Foundation.Sqlite
import PrinterV1.Foundation.Tables
import PrinterV1.Python.Text
import PrinterV1.Sources.PumpConstants

/-!
# The registry of graduated candidates

Confirmed graduations, one row for each mint. A row is the graduation, which
stays as it was written, and the observation fields, which each clean
observation of the candidate moves. `record_graduated_candidate` writes a
graduation or observes a known one, `import_graduated_candidate_row` writes a
row another registry exported. The table keeps mints and signatures apart; of
the pool it says only that it is not blank.
-/

namespace PrinterV1.Sources.Graduated

open Python Discovery

def contractVersion : String := "V2-9.7E.42"
def graduatedLifecycle : String := "PUMPSWAP_GRADUATED_CONFIRMED"
def pumpswapVenue : String := "pumpswap"
def latestGraduatedChannel : String := "LATEST_GRADUATED"
def pumpswapPoolBaseMintOffset : ℤ := 43

inductive RegistryFault
  | candidate (code : String) (detail : String)
  | overflow
  | integrity (text : String)
  deriving DecidableEq, Repr

/-- The columns of a row that are evidence of the graduation. -/
structure Graduation where
  mintIdentity : String
  migrationSignature : String
  migrationProvenance : String
  pumpswapPool : String
  pumpswapProgramId : String
  pumpProgramId : String
  baseMintOffset : ℤ
  graduationBlockTime : ℤ
  graduationSlot : Option ℤ
  lifecycleState : String
  marketIdentity : String
  discoveryChannel : String
  confirmationEvidenceHash : String
  contractVersion : String
  firstObservedAt : String
  deriving DecidableEq, Repr

/-- A row, with the columns of `_EXPORT_COLUMNS`. -/
structure Row extends Graduation where
  latestObservedAt : String
  latestChannel : String
  observationCount : ℤ
  deriving DecidableEq, Repr

namespace Row

/-- The `CHECK` constraints of the table, in their order. -/
def checks (r : Row) : List (String × Bool) :=
  [("pumpswap_program_id", r.pumpswapProgramId = pumpswapAmmProgramId),
    ("pump_program_id", r.pumpProgramId = Sources.pumpProgramId),
    ("base_mint_offset >= 0", 0 ≤ r.baseMintOffset),
    ("graduation_slot IS NULL OR graduation_slot >= 0", r.graduationSlot.all (0 ≤ ·)),
    ("lifecycle_state = 'PUMPSWAP_GRADUATED_CONFIRMED'", r.lifecycleState = graduatedLifecycle),
    ("length(confirmation_evidence_hash) = 64",
      Sqlite.length r.confirmationEvidenceHash = 64),
    ("observation_count >= 1", 1 ≤ r.observationCount),
    ("length(trim(mint_identity)) > 0", Sqlite.filled r.mintIdentity),
    ("length(trim(migration_signature)) > 0", Sqlite.filled r.migrationSignature),
    ("length(trim(pumpswap_pool)) > 0", Sqlite.filled r.pumpswapPool),
    ("length(trim(market_identity)) > 0", Sqlite.filled r.marketIdentity),
    ("length(trim(discovery_channel)) > 0", Sqlite.filled r.discoveryChannel)]

def failedCheck (r : Row) : Option String := (r.checks.find? fun check => !check.2).map Prod.fst

/-- The numbers of the row fit their columns. -/
def storable (r : Row) : Bool :=
  Sqlite.storable r.baseMintOffset && Sqlite.storable r.graduationBlockTime &&
    r.graduationSlot.all Sqlite.storable && Sqlite.countable r.observationCount

theorem failedCheck_eq_none_iff {r : Row} :
    r.failedCheck = none ↔ ∀ check ∈ r.checks, check.2 = true := by
  simp [failedCheck]

theorem lifecycleState_of_checked {r : Row} (h : r.failedCheck = none) :
    r.lifecycleState = graduatedLifecycle := by
  have hcheck := failedCheck_eq_none_iff.mp h
    ("lifecycle_state = 'PUMPSWAP_GRADUATED_CONFIRMED'", r.lifecycleState = graduatedLifecycle)
    (by simp [checks])
  simpa using hcheck

/-- `SET latest_observed_at = ?, latest_channel = ?, observation_count = observation_count + 1` -/
def observe (channel now : String) : Update fun r : Row => r.mintIdentity where
  apply r := { r with
    latestObservedAt := now
    latestChannel := channel
    observationCount := Sqlite.increment r.observationCount }
  key_apply _ := rfl

/-- What `printer_pumpswap_graduated_registry_immutable_evidence` aborts an update for. The slot
is not among its columns. -/
def evidenceChanged (old new : Row) : Bool :=
  old.mintIdentity ≠ new.mintIdentity || old.migrationSignature ≠ new.migrationSignature ||
    old.migrationProvenance ≠ new.migrationProvenance ||
    old.pumpswapPool ≠ new.pumpswapPool || old.pumpswapProgramId ≠ new.pumpswapProgramId ||
    old.pumpProgramId ≠ new.pumpProgramId || old.baseMintOffset ≠ new.baseMintOffset ||
    old.graduationBlockTime ≠ new.graduationBlockTime ||
    old.lifecycleState ≠ new.lifecycleState || old.marketIdentity ≠ new.marketIdentity ||
    old.confirmationEvidenceHash ≠ new.confirmationEvidenceHash ||
    old.contractVersion ≠ new.contractVersion || old.firstObservedAt ≠ new.firstObservedAt ||
    old.discoveryChannel ≠ new.discoveryChannel

@[simp] theorem toGraduation_observe (channel now : String) (r : Row) :
    ((observe channel now).apply r).toGraduation = r.toGraduation := rfl

theorem evidenceChanged_of_eq {old new : Row} (h : new.toGraduation = old.toGraduation) :
    old.evidenceChanged new = false := by
  simp [evidenceChanged, h]

theorem failedCheck_observe {r : Row} (channel now : String) (h : r.failedCheck = none) :
    ((observe channel now).apply r).failedCheck = none := by
  have hcheck := failedCheck_eq_none_iff.mp h
  have hcount : 1 ≤ r.observationCount := by
    simpa using hcheck ("observation_count >= 1", 1 ≤ r.observationCount) (by simp [checks])
  have hnext : 1 ≤ Sqlite.increment r.observationCount := by
    unfold Sqlite.increment
    split_ifs <;> omega
  rw [failedCheck_eq_none_iff]
  simp only [checks, List.forall_mem_cons, decide_eq_true_eq] at hcheck ⊢
  simpa [observe, hnext, hcount] using hcheck

theorem storable_observe {r : Row} (channel now : String) (h : r.storable = true) :
    ((observe channel now).apply r).storable = true := by
  simp only [storable, Bool.and_eq_true] at h ⊢
  exact ⟨h.1, Sqlite.countable_increment h.2⟩

end Row

/-- `printer_pumpswap_graduated_candidate_registry` -/
structure Registry extends Table fun r : Row => r.mintIdentity where
  signatures : (rows.map fun r => r.migrationSignature).Nodup
  checked : ∀ r ∈ rows, r.failedCheck = none
  stored : ∀ r ∈ rows, r.storable = true

namespace Registry

def empty : Registry :=
  { Table.empty with
    signatures := List.nodup_nil
    checked := by simp [Table.empty]
    stored := by simp [Table.empty] }

/-- The table with a row that meets its constraints. -/
def add (R : Registry) (r : Row) (hmint : ∀ old ∈ R.rows, old.mintIdentity ≠ r.mintIdentity)
    (hsignature : ∀ old ∈ R.rows, old.migrationSignature ≠ r.migrationSignature)
    (hcheck : r.failedCheck = none) (hstore : r.storable = true) : Registry :=
  { R.toTable.insert r hmint with
    signatures := by
      have hnew : r.migrationSignature ∉ R.rows.map fun r => r.migrationSignature := by
        simpa using hsignature
      simpa [Table.insert, List.nodup_append] using ⟨R.signatures, by simpa using hnew⟩
    checked := Table.forall_insert R.checked hcheck
    stored := Table.forall_insert R.stored hstore }

/-- `INSERT INTO printer_pumpswap_graduated_candidate_registry` -/
def insert (R : Registry) (r : Row) : Except RegistryFault Registry :=
  if hstore : r.storable = true then
    if hcheck : r.failedCheck = none then
      if hmint : ∀ old ∈ R.rows, old.mintIdentity ≠ r.mintIdentity then
        if hsignature : ∀ old ∈ R.rows, old.migrationSignature ≠ r.migrationSignature then
          .ok (R.add r hmint hsignature hcheck hstore)
        else .error (.integrity "UNIQUE constraint failed: migration_signature")
      else .error (.integrity "UNIQUE constraint failed: mint_identity")
    else .error (.integrity ("CHECK constraint failed: " ++ r.failedCheck.getD ""))
  else .error .overflow

/-- The statement run inside a call: a refused one leaves the table as it was. -/
def execute (R : Registry) (r : Row) : Except RegistryFault Bool × Registry :=
  match R.insert r with
  | .ok R' => (.ok true, R')
  | .error e => (.error e, R)

/-- The table with the observation fields of a row moved. -/
def observed (R : Registry) (mint channel now : String) : Registry :=
  { R.toTable.updateKey mint (Row.observe channel now) with
    signatures := by
      have hsame : ((R.toTable.updateKey mint (Row.observe channel now)).rows.map
          fun r => r.migrationSignature) = R.rows.map fun r => r.migrationSignature := by
        rw [Table.updateKey, Table.updateWhere, List.map_map]
        apply List.map_congr_left
        intro r _
        by_cases hmint : r.mintIdentity = mint <;> simp [hmint, Row.observe]
      rw [hsame]
      exact R.signatures
    checked := Table.forall_updateWhere R.checked fun r _ _ h => Row.failedCheck_observe channel now h
    stored := Table.forall_updateWhere R.stored fun r _ _ h => Row.storable_observe channel now h }

end Registry

variable (digest : Value → Discovery.Digest)

def marketIdentityForPool (pool : String) : String :=
  "solana-mainnet:" ++ pumpswapVenue ++ ":" ++ pool

/-- The keyword arguments of `record_graduated_candidate`. -/
structure Candidate where
  mint : String
  migrationSignature : String
  pumpswapPool : String
  graduationBlockTime : ℤ
  graduationSlot : Option ℤ
  now : String
  discoveryChannel : String := latestGraduatedChannel
  migrationProvenance : String := "PUMPPORTAL_SUBSCRIBE_MIGRATION"
  baseMintOffset : ℤ := pumpswapPoolBaseMintOffset
  deriving DecidableEq, Repr

/-- `graduation_evidence_hash` -/
def graduationEvidenceHash (c : Candidate) : String :=
  (digest (.dict
    [("base_mint_offset", .int c.baseMintOffset), ("contract_version", .str contractVersion),
      ("graduation_block_time", .int c.graduationBlockTime),
      ("graduation_slot", c.graduationSlot.elim .none .int),
      ("lifecycle_state", .str graduatedLifecycle), ("migration_signature", .str c.migrationSignature),
      ("mint", .str c.mint), ("pump_program_id", .str pumpProgramId),
      ("pumpswap_pool", .str c.pumpswapPool),
      ("pumpswap_program_id", .str pumpswapAmmProgramId)])).text

/-- The row `record_graduated_candidate` writes. -/
def graduatedRow (c : Candidate) : Row :=
  { mintIdentity := c.mint
    migrationSignature := c.migrationSignature
    migrationProvenance := c.migrationProvenance
    pumpswapPool := c.pumpswapPool
    pumpswapProgramId := pumpswapAmmProgramId
    pumpProgramId := Sources.pumpProgramId
    baseMintOffset := c.baseMintOffset
    graduationBlockTime := c.graduationBlockTime
    graduationSlot := c.graduationSlot
    lifecycleState := graduatedLifecycle
    marketIdentity := marketIdentityForPool c.pumpswapPool
    discoveryChannel := c.discoveryChannel
    confirmationEvidenceHash := graduationEvidenceHash digest c
    contractVersion
    firstObservedAt := c.now
    latestObservedAt := c.now
    latestChannel := c.discoveryChannel
    observationCount := 1 }

/-- Whether a row was observed, behind the trigger on the evidence. -/
def touchGraduatedObservation (R : Registry) (mint channel now : String) :
    Except RegistryFault Bool × Registry :=
  match R.find? mint with
  | none => (.ok false, R)
  | some old =>
    if old.evidenceChanged ((Row.observe channel now).apply old) then
      (.error (.integrity "graduated candidate graduation evidence is immutable"), R)
    else (.ok true, R.observed mint channel now)

def recordGraduatedCandidate (R : Registry) (c : Candidate) : Except RegistryFault Bool × Registry :=
  if strip c.mint = "" then (.error (.candidate "GRADUATED_REGISTRY_INVALID_MINT" ""), R)
  else if strip c.migrationSignature = "" then
    (.error (.candidate "GRADUATED_REGISTRY_INVALID_SIGNATURE" ""), R)
  else if strip c.pumpswapPool = "" then
    (.error (.candidate "GRADUATED_REGISTRY_INVALID_POOL" ""), R)
  else
    match R.find? c.mint with
    | some existing =>
      if existing.migrationSignature = c.migrationSignature ∧
          existing.pumpswapPool = c.pumpswapPool ∧
          existing.confirmationEvidenceHash = graduationEvidenceHash digest c then
        match touchGraduatedObservation R c.mint c.discoveryChannel c.now with
        | (.ok _, R') => (.ok false, R')
        | (.error e, R') => (.error e, R')
      else
        (.error (.candidate "GRADUATED_REGISTRY_CONFLICT"
          ("conflicting graduation evidence for mint " ++ c.mint)), R)
    | none =>
      match R.rows.find? fun r => r.migrationSignature = c.migrationSignature with
      | some owner =>
        if owner.mintIdentity ≠ c.mint then
          (.error (.candidate "GRADUATED_REGISTRY_SIGNATURE_CONFLICT"
            ("migration signature already bound to mint " ++ owner.mintIdentity)), R)
        else R.execute (graduatedRow digest c)
      | none => R.execute (graduatedRow digest c)

def importGraduatedCandidateRow (R : Registry) (row : Row) : Except RegistryFault Bool × Registry :=
  match R.find? row.mintIdentity with
  | some existing =>
    if existing.migrationSignature = row.migrationSignature ∧
        existing.pumpswapPool = row.pumpswapPool ∧
        existing.confirmationEvidenceHash = row.confirmationEvidenceHash then
      (.ok false, R)
    else (.error (.candidate "GRADUATED_REGISTRY_CONFLICT" row.mintIdentity), R)
  | none => R.execute row

/-- `ORDER BY graduation_block_time, mint_identity` -/
def exportKey (r : Row) : ℤ ×ₗ String := toLex (r.graduationBlockTime, r.mintIdentity)

def exportGraduatedCandidates (R : Registry) (excludeMarketIdentities : List String) : List Row :=
  (sortBy exportKey (R.rows.filter fun r => r.lifecycleState = graduatedLifecycle)).filter fun r =>
    !excludeMarketIdentities.contains r.marketIdentity

end PrinterV1.Sources.Graduated
