import PrinterV1.Sources.PumpAccounts
import PrinterV1.Sources.PumpInstructions

/-!
# Pinned migrations

The 25 ordered accounts of a migrate instruction, the addresses that they are
compared with, and the verification of a migration against its Pool account.
-/

namespace PrinterV1.Sources

open Python

def canonicalPoolIndex : ℕ := 0

def poolSeed : Bytes := ascii "pool"
def poolAuthoritySeed : Bytes := ascii "pool-authority"
def poolLpMintSeed : Bytes := ascii "pool_lp_mint"
def globalSeed : Bytes := ascii "global"
def globalConfigSeed : Bytes := ascii "global_config"
def eventAuthoritySeed : Bytes := ascii "__event_authority"

def migrateAccountRoles : List String :=
  ["global", "withdraw_authority", "mint", "bonding_curve", "associated_bonding_curve", "user",
    "system_program", "token_program", "pump_amm", "pool", "pool_authority",
    "pool_authority_mint_account", "pool_authority_wsol_account", "amm_global_config", "wsol_mint",
    "lp_mint", "user_pool_token_account", "pool_base_token_account", "pool_quote_token_account",
    "token_2022_program", "associated_token_program", "pump_amm_event_authority",
    "event_authority", "program", "rent"]

/-- The raw bytes of a public key. -/
def pubkeyBytes (key : String) : Option Bytes := (b58decode key).filter fun raw => raw.length = 32

/-- `_valid_pubkey` -/
def validPubkey (key : String) : Bool := (pubkeyBytes key).isSome

section Derivations

variable (sha256 : Bytes → Digest)

/-- `derive_program_address`, as a call that raises `ValueError`. -/
def deriveOrRaise (seeds : List Bytes) (programId : String) : Except PyError (String × ℕ) :=
  (deriveProgramAddress sha256 seeds programId).mapError .valueError

/-- `derive_program_address((seed, _b58decode(key)), program_id)[0]` -/
def deriveKeyed (seed : Bytes) (key programId : String) : Except PyError String :=
  match b58decode key with
  | none => .error (.typeError "object of type 'NoneType' has no len()")
  | some raw => (deriveOrRaise sha256 [seed, raw] programId).map Prod.fst

/-- `derive_canonical_pumpswap_pool` -/
def deriveCanonicalPumpswapPool (creator baseMint quoteMint : String) :
    Except PyError (String × ℕ) :=
  match pubkeyBytes creator, pubkeyBytes baseMint, pubkeyBytes quoteMint with
  | some creatorRaw, some baseRaw, some quoteRaw =>
    deriveOrRaise sha256
      [poolSeed, Bytes.ofNatLittle 2 canonicalPoolIndex, creatorRaw, baseRaw, quoteRaw]
      pumpswapAmmProgramId
  | _, _, _ => .error (.valueError "invalid canonical pool seed pubkey")

/-- `_derive_ata` -/
def deriveAta (owner tokenProgram mint : String) : Except PyError String :=
  match pubkeyBytes owner, pubkeyBytes tokenProgram, pubkeyBytes mint with
  | some ownerRaw, some programRaw, some mintRaw =>
    (deriveOrRaise sha256 [ownerRaw, programRaw, mintRaw] associatedTokenProgramId).map Prod.fst
  | _, _, _ => .error (.valueError "invalid ATA seed pubkey")

end Derivations

/-- The accounts of fixed roles. -/
def fixedRoles : List (ℕ × String) :=
  [(0, pumpGlobalId), (1, pumpWithdrawAuthorityId), (6, systemProgramId), (7, tokenProgramId),
    (8, pumpswapAmmProgramId), (13, pumpswapGlobalConfigId), (14, wsolMint),
    (19, token2022ProgramId), (20, associatedTokenProgramId), (21, pumpswapEventAuthorityId),
    (22, pumpEventAuthorityId), (23, pumpProgramId), (24, rentSysvarId)]

/-- The addresses that the derived roles are compared with. -/
structure MigrateDerivations where
  bondingCurve : String
  associatedBonding : String
  poolAuthority : String
  pool : String
  poolAuthorityMint : String
  poolAuthorityWsol : String
  lpMint : String
  userLp : String
  baseVault : String
  quoteVault : String
  global : String
  eventAuthority : String
  ammEventAuthority : String
  ammGlobalConfig : String
  deriving DecidableEq, Repr

def migrateDerivations (sha256 : Bytes → Digest) (mint user pool : String) :
    Except PyError MigrateDerivations := do
  let bondingCurve ← deriveKeyed sha256 bondingCurveSeed mint pumpProgramId
  let associatedBonding ← deriveAta sha256 bondingCurve tokenProgramId mint
  let poolAuthority ← deriveKeyed sha256 poolAuthoritySeed mint pumpProgramId
  let canonical ← deriveCanonicalPumpswapPool sha256 poolAuthority mint wsolMint
  let poolAuthorityMint ← deriveAta sha256 poolAuthority tokenProgramId mint
  let poolAuthorityWsol ← deriveAta sha256 poolAuthority tokenProgramId wsolMint
  let lpMint ← deriveKeyed sha256 poolLpMintSeed pool pumpswapAmmProgramId
  let userLp ← deriveAta sha256 user token2022ProgramId lpMint
  let baseVault ← deriveAta sha256 pool tokenProgramId mint
  let quoteVault ← deriveAta sha256 pool tokenProgramId wsolMint
  let global ← deriveOrRaise sha256 [globalSeed] pumpProgramId
  let eventAuthority ← deriveOrRaise sha256 [eventAuthoritySeed] pumpProgramId
  let ammEventAuthority ← deriveOrRaise sha256 [eventAuthoritySeed] pumpswapAmmProgramId
  let ammGlobalConfig ← deriveOrRaise sha256 [globalConfigSeed] pumpswapAmmProgramId
  return ⟨bondingCurve, associatedBonding, poolAuthority, canonical.1, poolAuthorityMint,
    poolAuthorityWsol, lpMint, userLp, baseVault, quoteVault, global.1, eventAuthority.1,
    ammEventAuthority.1, ammGlobalConfig.1⟩

/-- The accounts of derived roles. -/
def MigrateDerivations.relations (d : MigrateDerivations) : List (ℕ × String) :=
  [(0, d.global), (3, d.bondingCurve), (4, d.associatedBonding), (9, d.pool),
    (10, d.poolAuthority), (11, d.poolAuthorityMint), (12, d.poolAuthorityWsol),
    (13, d.ammGlobalConfig), (15, d.lpMint), (16, d.userLp), (17, d.baseVault),
    (18, d.quoteVault), (21, d.ammEventAuthority), (22, d.eventAuthority)]

/-- What a validation reports when it is not valid. -/
structure RoleFailure where
  reason : String
  role : Option String := none
  position : Option ℕ := none
  expected : Option String := none
  actual : Option String := none
  deriving DecidableEq, Repr

structure RoleCheck where
  roles : List (String × String)
  mint : String
  poolAddress : String
  creator : String
  user : String
  bondingCurve : String
  lpMint : String
  deriving DecidableEq, Repr

/-- The failure of a role, its reason named after the role. -/
def roleFailure (position : ℕ) (suffix : String) : RoleFailure :=
  let role := migrateAccountRoles.getD position ""
  { reason := "migrate_role_" ++ toString position ++ "_" ++ role ++ "_" ++ suffix
    role := some role
    position := some position }

/-- The account of a role. -/
def roleAccount (accounts : List String) (position : ℕ) : String := accounts.getD position ""

/-- The failure of the first role that is absent or no public key. -/
def malformedRole (accounts : List String) : Option RoleFailure :=
  (List.range 25).findSome? fun position =>
    if roleAccount accounts position = "" then some (roleFailure position "missing")
    else if !validPubkey (roleAccount accounts position) then
      some (roleFailure position "invalid_pubkey")
    else none

/-- The failure of the first account that differs from the expected one. -/
def mismatchedRole (accounts : List String) (suffix : String) (expected : List (ℕ × String)) :
    Option RoleFailure :=
  expected.findSome? fun e =>
    if roleAccount accounts e.1 = e.2 then none
    else some { roleFailure e.1 suffix with
      expected := some e.2
      actual := some (roleAccount accounts e.1) }

/-- The accounts that the user may not be. -/
def privilegedAccounts (accounts : List String) : List String :=
  [roleAccount accounts 0, roleAccount accounts 1, systemProgramId, pumpProgramId,
    pumpswapAmmProgramId, roleAccount accounts 2, roleAccount accounts 9, roleAccount accounts 10]

/-- `validate_migrate_account_roles` -/
def validateMigrateAccountRoles (sha256 : Bytes → Digest) (accounts : List String)
    (expectedMint : Option String) : Except RoleFailure RoleCheck :=
  if accounts.length ≠ 25 then .error { reason := "migrate_account_layout_mismatch" }
  else
    match malformedRole accounts with
    | some failure => .error failure
    | none =>
      match mismatchedRole accounts "mismatch" fixedRoles with
      | some failure => .error failure
      | none =>
        match mismatchedRole accounts "mismatch" (expectedMint.toList.map fun mint => (2, mint)) with
        | some failure => .error failure
        | none =>
          if roleAccount accounts 1 ∈ accounts.eraseIdx 1 then
            .error (roleFailure 1 "relation_invalid")
          else if roleAccount accounts 5 ∈ privilegedAccounts accounts then
            .error (roleFailure 5 "invalid")
          else
            match migrateDerivations sha256 (roleAccount accounts 2) (roleAccount accounts 5)
              (roleAccount accounts 9) with
            | .error _ => .error { reason := "migrate_role_pda_derivation_failed" }
            | .ok d =>
              match mismatchedRole accounts "relationship_mismatch" d.relations with
              | some failure => .error failure
              | none => .ok
                { roles := migrateAccountRoles.zip accounts
                  mint := roleAccount accounts 2
                  poolAddress := roleAccount accounts 9
                  creator := roleAccount accounts 10
                  user := roleAccount accounts 5
                  bondingCurve := d.bondingCurve
                  lpMint := d.lpMint }

/-- The accounts of a migrate instruction of the program. -/
def migrateAccounts (keys : List String) (item : Dict) : Except String (Option (List String)) := do
  match ← resolve keys item with
  | none => return none
  | some (program, accounts) =>
    if program = pumpProgramId ∧
        (instructionData item).map (List.take 8) = some pumpMigrateDiscriminator then
      return some accounts
    else return none

/-- The migrate instructions with their accounts; `none` where one has another layout. -/
def migrateMatches (keys : List String) :
    List Dict → Except String (Option (List (Dict × List String)))
  | [] => .ok (some [])
  | item :: rest => do
    match ← migrateAccounts keys item with
    | none => migrateMatches keys rest
    | some accounts =>
      if accounts.length ≠ 25 then return none
      else return (← migrateMatches keys rest).map ((item, accounts) :: ·)

structure MigrationFailure where
  reason : String
  role : Option String := none
  position : Option ℕ := none
  accounts : Option (List String) := none
  deriving DecidableEq, Repr

structure Migration where
  mint : String
  poolAddress : String
  creator : String
  slot : ℤ
  blockTime : ℤ
  accounts : List String
  roles : List (String × String)
  deriving DecidableEq, Repr

/-- `decode_supported_pump_migration_transaction`, with the instruction that matched. -/
def decodeMigrationWithItem (sha256 : Bytes → Digest) (tx : Dict) :
    Except String (Except MigrationFailure (Dict × Migration)) := do
  if tx = [] then return .error { reason := "transaction_missing" }
  else if !supportedVersion (tx.get "version") then
    return .error { reason := "unsupported_transaction_version" }
  else if !errorFree (tx.get "meta") then
    return .error { reason := "transaction_failed_or_meta_missing" }
  else
    let keys ← accountKeys tx
    match ← migrateMatches keys (← instructions tx) with
    | none => return .error { reason := "migrate_account_layout_mismatch" }
    | some [(item, accounts)] =>
      match validateMigrateAccountRoles sha256 accounts none with
      | .error failure =>
        return .error ⟨failure.reason, failure.role, failure.position, some accounts⟩
      | .ok check =>
        match intOf (tx.get "slot") with
        | none => return .error { reason := "finalized_slot_or_block_time_missing" }
        | some slot =>
          if !isNumber (tx.get "blockTime") then
            return .error { reason := "finalized_slot_or_block_time_missing" }
          else
            let blockTime ← intOrRaise (tx.get "blockTime")
            return .ok (item,
              { mint := roleAccount accounts 2
                poolAddress := roleAccount accounts 9
                creator := roleAccount accounts 10
                slot, blockTime, accounts
                roles := check.roles })
    | some _ => return .error { reason := "exactly_one_migrate_instruction_required" }

/-- `decode_supported_pump_migration_transaction` -/
def decodeSupportedPumpMigrationTransaction (sha256 : Bytes → Digest) (tx : Option Dict) :
    Except String (Except MigrationFailure Migration) :=
  match tx with
  | none => .ok (.error { reason := "transaction_missing" })
  | some tx => (decodeMigrationWithItem sha256 tx).map fun r => r.map Prod.snd

/-- What a verification reports when it is not verified. -/
structure VerificationFailure where
  reason : String
  pool : Option (Except DecodeFailure PoolAccount) := none

structure VerifiedMigration where
  mint : String
  poolAddress : String
  creator : String
  migrationSlot : ℤ
  migrationBlockTime : ℤ
  pumpContractHash : String
  pumpswapContractHash : String
  pool : PoolAccount
  deriving DecidableEq, Repr

/-- The addresses that a verification derives; the bump is the one of the pool. -/
structure ExpectedAddresses where
  bondingCurve : String
  creator : String
  pool : String
  bump : ℕ
  lpMint : String
  baseVault : String
  quoteVault : String
  deriving DecidableEq, Repr

def expectedAddresses (sha256 : Bytes → Digest) (expectedMint creator poolAddress : String) :
    Except PyError ExpectedAddresses := do
  let bondingCurve ← deriveKeyed sha256 bondingCurveSeed expectedMint pumpProgramId
  let expectedCreator ← deriveKeyed sha256 poolAuthoritySeed expectedMint pumpProgramId
  let canonical ← deriveCanonicalPumpswapPool sha256 creator expectedMint wsolMint
  let lpMint ← deriveKeyed sha256 poolLpMintSeed poolAddress pumpswapAmmProgramId
  let baseVault ← deriveAta sha256 poolAddress tokenProgramId expectedMint
  let quoteVault ← deriveAta sha256 poolAddress tokenProgramId wsolMint
  return ⟨bondingCurve, expectedCreator, canonical.1, canonical.2, lpMint, baseVault, quoteVault⟩

/-- The Pool account of a migration against the derived addresses. -/
def verifyPool (sha256 : Bytes → Digest) (migration : Migration) (decoded : PoolAccount)
    (expectedMint : String) : Except String (Except VerificationFailure VerifiedMigration) :=
  let poolAddress := roleAccount migration.accounts 9
  let creator := roleAccount migration.accounts 10
  let failed (reason : String) : Except String (Except VerificationFailure VerifiedMigration) :=
    .ok (.error ⟨reason, some (.ok decoded)⟩)
  if decoded.index ≠ canonicalPoolIndex then failed "noncanonical_pool_index"
  else if decoded.creator ≠ creator ∨ decoded.baseMint ≠ expectedMint ∨
      decoded.quoteMint ≠ wsolMint then
    failed "pool_identity_mismatch"
  else
    match expectedAddresses sha256 expectedMint creator poolAddress with
    | .error (.valueError _) => failed "canonical_pool_seed_invalid"
    | .error other => .error other.text
    | .ok e =>
      if roleAccount migration.accounts 3 ≠ e.bondingCurve ∨ creator ≠ e.creator then
        failed "pump_migration_pda_mismatch"
      else if poolAddress ≠ e.pool ∨ decoded.poolBump ≠ e.bump then
        failed "canonical_pool_pda_mismatch"
      else if roleAccount migration.accounts 15 ≠ e.lpMint ∨ decoded.lpMint ≠ e.lpMint ∨
          roleAccount migration.accounts 17 ≠ e.baseVault ∨
          decoded.poolBaseTokenAccount ≠ e.baseVault ∨
          roleAccount migration.accounts 18 ≠ e.quoteVault ∨
          decoded.poolQuoteTokenAccount ≠ e.quoteVault then
        failed "canonical_pool_vault_or_lp_mismatch"
      else .ok (.ok
        { mint := expectedMint
          poolAddress, creator
          migrationSlot := migration.slot
          migrationBlockTime := migration.blockTime
          pumpContractHash := pumpIdlSha256
          pumpswapContractHash := pumpswapIdlSha256
          pool := decoded })

/-- `verify_pinned_pump_migration` -/
def verifyPinnedPumpMigration (sha256 : Bytes → Digest) (tx : Option Dict)
    (accountInfos : String → Option Dict) (expectedMint : String) (finalized : Bool) :
    Except String (Except VerificationFailure VerifiedMigration) := do
  if tx = none ∨ tx = some [] then return .error { reason := "transaction_missing" }
  else if !finalized then return .error { reason := "finalized_commitment_required" }
  else
    match ← decodeSupportedPumpMigrationTransaction sha256 tx with
    | .error failure => return .error { reason := failure.reason }
    | .ok migration =>
      if migration.mint ≠ expectedMint then
        return .error { reason := "migrate_account_2_mismatch" }
      else
        let poolAddress := roleAccount migration.accounts 9
        match decodePumpswapPoolAccount sha256 (accountInfos poolAddress) poolAddress with
        | .error failure => return .error ⟨failure.reason, some (.error failure)⟩
        | .ok decoded => verifyPool sha256 migration decoded expectedMint

end PrinterV1.Sources
