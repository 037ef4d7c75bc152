import Mathlib.Data.Prod.Lex
import PrinterV1.Discovery.AcquisitionPlan
import PrinterV1.Foundation.Runs
import PrinterV1.Foundation.Sqlite
import PrinterV1.Foundation.Tables
import PrinterV1.Sources.PumpConstants

/-!
# The registry of finalized origins

Confirmed Pump creates, one row for each mint. `record_confirmed_origin` writes
a decoded observation, `import_confirmed_origin_row` a row another registry
exported, and nothing rewrites a row. The constraints of the table are fields
of `Registry`, so that a registry that breaks one of them cannot be built.
-/

namespace PrinterV1.Sources

open Python Discovery

def createLayoutLegacy : String := "PUMP_CREATE_V1"
def createLayoutV2 : String := "PUMP_CREATE_V2"
def pumpCreateIndexAddress : String := "TSLvdd1pWpHVjahSpsvCXUbgwsL3JAcvokwaKt1eokM"
def contractVersion : String := "V2-9.7E.5"
def acquisitionModeProspective : String := "SIGNATURE_ANCHORED_PROSPECTIVE"
def acquisitionModeSupportOnly : String := "SUPPORT_ONLY_HISTORICAL"
def originConfirmed : String := "PUMPFUN_ORIGIN_CONFIRMED"
def observedEvidenceOnly : String := "OBSERVED_EVIDENCE_ONLY"

/-- `_LAYOUT_DISCRIMINATOR_HEX` -/
def layoutDiscriminatorHex : List (String × String) :=
  [(createLayoutLegacy, "181ec828051c0777"), (createLayoutV2, "d6904cec5f8b31b4")]

/-- `_LAYOUT_TOKEN_PROGRAM` -/
def layoutTokenProgram : List (String × String) :=
  [(createLayoutLegacy, tokenProgramId), (createLayoutV2, token2022ProgramId)]

structure PumpCreateObservation where
  mint : String
  bondingCurve : String
  associatedBondingCurve : String
  creatorAddress : String
  signature : String
  slot : ℤ
  blockTime : ℤ
  programId : String := pumpProgramId
  creatorEvidenceScope : String := observedEvidenceOnly
  createLayout : String := createLayoutLegacy
  deriving DecidableEq, Repr

inductive RegistryFault
  | registry (code : String) (detail : String)
  | keyError (key : String)
  | overflow
  | integrity (text : String)
  deriving DecidableEq, Repr

/-- A row, with the columns of `_REGISTRY_EXPORT_COLUMNS`. -/
structure OriginRow where
  mintIdentity : String
  transactionSignature : String
  slot : ℤ
  blockTime : ℤ
  programId : String
  bondingCurve : String
  associatedBondingCurve : String
  creatorAddress : String
  creatorEvidenceScope : String
  originState : String
  acquisitionMode : String
  createLayout : String
  createDiscriminatorHex : String
  tokenProgram : String
  indexAddress : String
  contractVersion : String
  idlSha256 : String
  evidenceHash : String
  firstConfirmedAt : String
  deriving DecidableEq, Repr

namespace OriginRow

/-- The `CHECK` constraints of the table, in their order. -/
def checks (r : OriginRow) : List (String × Bool) :=
  [("slot >= 0", 0 ≤ r.slot),
    ("program_id", r.programId = pumpProgramId),
    ("creator_evidence_scope", r.creatorEvidenceScope = observedEvidenceOnly),
    ("origin_state", r.originState = originConfirmed),
    ("acquisition_mode",
      [acquisitionModeProspective, acquisitionModeSupportOnly].contains r.acquisitionMode),
    ("create_layout", [createLayoutLegacy, createLayoutV2].contains r.createLayout),
    ("create_discriminator_hex", Sqlite.length r.createDiscriminatorHex = 16),
    ("evidence_hash", Sqlite.length r.evidenceHash = 64),
    ("length(trim(mint_identity)) > 0", Sqlite.filled r.mintIdentity),
    ("length(trim(transaction_signature)) > 0", Sqlite.filled r.transactionSignature),
    ("length(trim(bonding_curve)) > 0", Sqlite.filled r.bondingCurve),
    ("length(trim(associated_bonding_curve)) > 0", Sqlite.filled r.associatedBondingCurve),
    ("length(trim(creator_address)) > 0", Sqlite.filled r.creatorAddress)]

def failedCheck (r : OriginRow) : Option String :=
  (r.checks.find? fun check => !check.2).map Prod.fst

/-- The integers of the row fit their columns. -/
def storable (r : OriginRow) : Bool := Sqlite.storable r.slot && Sqlite.storable r.blockTime

theorem originState_of_checked {r : OriginRow} (h : r.failedCheck = none) :
    r.originState = originConfirmed := by
  rw [failedCheck, Option.map_eq_none_iff, List.find?_eq_none] at h
  simpa using h ("origin_state", r.originState = originConfirmed) (by simp [checks])

end OriginRow

/-- `printer_pumpfun_finalized_origin_registry` -/
structure Registry extends Table OriginRow.mintIdentity where
  signatures : (rows.map OriginRow.transactionSignature).Nodup
  checked : ∀ r ∈ rows, r.failedCheck = none
  stored : ∀ r ∈ rows, r.storable = true

namespace Registry

def empty : Registry :=
  { Table.empty with
    signatures := List.nodup_nil
    checked := by simp [Table.empty]
    stored := by simp [Table.empty] }

/-- The table with a row that meets its constraints. -/
def add (R : Registry) (r : OriginRow) (hmint : ∀ old ∈ R.rows, old.mintIdentity ≠ r.mintIdentity)
    (hsignature : ∀ old ∈ R.rows, old.transactionSignature ≠ r.transactionSignature)
    (hcheck : r.failedCheck = none) (hstore : r.storable = true) : Registry :=
  { R.toTable.insert r hmint with
    signatures := by
      have hnew : r.transactionSignature ∉ R.rows.map OriginRow.transactionSignature := by
        simpa using hsignature
      simpa [Table.insert, List.nodup_append] using ⟨R.signatures, by simpa using hnew⟩
    checked := Table.forall_insert R.checked hcheck
    stored := Table.forall_insert R.stored hstore }

/-- `INSERT INTO printer_pumpfun_finalized_origin_registry` -/
def insert (R : Registry) (r : OriginRow) : Except RegistryFault Registry :=
  if hstore : r.storable = true then
    if hcheck : r.failedCheck = none then
      if hmint : ∀ old ∈ R.rows, old.mintIdentity ≠ r.mintIdentity then
        if hsignature : ∀ old ∈ R.rows, old.transactionSignature ≠ r.transactionSignature then
          .ok (R.add r hmint hsignature hcheck hstore)
        else .error (.integrity "UNIQUE constraint failed: transaction_signature")
      else .error (.integrity "UNIQUE constraint failed: mint_identity")
    else .error (.integrity ("CHECK constraint failed: " ++ r.failedCheck.getD ""))
  else .error .overflow

theorem insert_ok {R R' : Registry} {r : OriginRow} (h : R.insert r = .ok R') :
    R'.rows = R.rows ++ [r] := by
  unfold insert at h
  split_ifs at h
  obtain rfl := Except.ok.inj h
  rfl

theorem insert_of_fresh {R : Registry} {r : OriginRow} (hstore : r.storable = true)
    (hcheck : r.failedCheck = none) (hmint : ∀ old ∈ R.rows, old.mintIdentity ≠ r.mintIdentity)
    (hsignature : ∀ old ∈ R.rows, old.transactionSignature ≠ r.transactionSignature) :
    R.insert r = .ok (R.add r hmint hsignature hcheck hstore) := by
  unfold insert
  rw [dif_pos hstore, dif_pos hcheck, dif_pos hmint, dif_pos hsignature]

/-- The statement run inside a call: a refused one leaves the table as it was. -/
def execute (R : Registry) (r : OriginRow) : Except RegistryFault Bool × Registry :=
  match R.insert r with
  | .ok R' => (.ok true, R')
  | .error e => (.error e, R)

end Registry

variable (digest : Value → Discovery.Digest)

/-- `origin_evidence_hash` -/
def originEvidenceHash (observation : PumpCreateObservation) : String :=
  (digest (.dict
    [("associated_bonding_curve", .str observation.associatedBondingCurve),
      ("block_time", .int observation.blockTime),
      ("bonding_curve", .str observation.bondingCurve),
      ("contract_version", .str contractVersion),
      ("create_layout", .str observation.createLayout),
      ("creator_address", .str observation.creatorAddress),
      ("idl_sha256", .str pumpIdlSha256), ("mint", .str observation.mint),
      ("program_id", .str observation.programId),
      ("repository_commit", .str pumpRepositoryCommit),
      ("signature", .str observation.signature), ("slot", .int observation.slot)])).text

/-- The row `record_confirmed_origin` writes. -/
def confirmedRow (observation : PumpCreateObservation)
    (now acquisitionMode indexAddress discriminatorHex tokenProgram : String) : OriginRow :=
  { mintIdentity := observation.mint
    transactionSignature := observation.signature
    slot := observation.slot
    blockTime := observation.blockTime
    programId := observation.programId
    bondingCurve := observation.bondingCurve
    associatedBondingCurve := observation.associatedBondingCurve
    creatorAddress := observation.creatorAddress
    creatorEvidenceScope := observation.creatorEvidenceScope
    originState := originConfirmed
    acquisitionMode
    createLayout := observation.createLayout
    createDiscriminatorHex := discriminatorHex
    tokenProgram
    indexAddress
    contractVersion
    idlSha256 := pumpIdlSha256
    evidenceHash := originEvidenceHash digest observation
    firstConfirmedAt := now }

def recordConfirmedOrigin (R : Registry) (observation : PumpCreateObservation)
    (now : String) (acquisitionMode : String := acquisitionModeProspective)
    (indexAddress : String := pumpCreateIndexAddress) : Except RegistryFault Bool × Registry :=
  if observation.programId ≠ pumpProgramId then
    (.error (.registry "ORIGIN_REGISTRY_PROGRAM_MISMATCH" ""), R)
  else if acquisitionMode ∉ [acquisitionModeProspective, acquisitionModeSupportOnly] then
    (.error (.registry "ORIGIN_REGISTRY_UNKNOWN_MODE" acquisitionMode), R)
  else
    match R.find? observation.mint with
    | some existing =>
      if existing.transactionSignature = observation.signature ∧
          existing.slot = observation.slot ∧
          existing.evidenceHash = originEvidenceHash digest observation then
        (.ok false, R)
      else
        (.error (.registry "ORIGIN_REGISTRY_CONFLICT"
          ("conflicting confirmed origin for mint " ++ observation.mint)), R)
    | none =>
      match layoutDiscriminatorHex.lookup observation.createLayout,
          layoutTokenProgram.lookup observation.createLayout with
      | some discriminatorHex, some tokenProgram =>
        R.execute (confirmedRow digest observation now acquisitionMode indexAddress
          discriminatorHex tokenProgram)
      | _, _ => (.error (.keyError observation.createLayout), R)

def importConfirmedOriginRow (R : Registry) (row : OriginRow) :
    Except RegistryFault Bool × Registry :=
  match R.find? row.mintIdentity with
  | some existing =>
    if existing.transactionSignature = row.transactionSignature ∧ existing.slot = row.slot ∧
        existing.evidenceHash = row.evidenceHash then
      (.ok false, R)
    else (.error (.registry "ORIGIN_REGISTRY_CONFLICT" row.mintIdentity), R)
  | none => R.execute row

/-- `ORDER BY block_time, mint_identity` -/
def exportKey (r : OriginRow) : ℤ ×ₗ String := toLex (r.blockTime, r.mintIdentity)

def exportDueConfirmedOrigins (R : Registry) (evaluatedEpoch maturitySeconds : ℤ)
    (excludeMints : List String) : List OriginRow :=
  (sortBy exportKey (R.rows.filter fun r => r.originState = originConfirmed)).filter fun r =>
    !excludeMints.contains r.mintIdentity && decide (r.blockTime + maturitySeconds ≤ evaluatedEpoch)

end PrinterV1.Sources
