import PrinterV1.Sources.AccountResolution

/-!
# The account vector of a verified migration

Every role of an accepted vector is fixed or derived, so that the mint and the
user determine all of it; the Pool account has to agree with the derivations.
-/

namespace PrinterV1.Sources

open Python

/-! ## Vectors with assigned roles -/

/-- The account of each listed role is the given one. -/
def Assigned (accounts : List String) (roles : List (ℕ × String)) : Prop :=
  ∀ e ∈ roles, roleAccount accounts e.1 = e.2

theorem assigned_append {accounts : List String} {roles more : List (ℕ × String)} :
    Assigned accounts (roles ++ more) ↔ Assigned accounts roles ∧ Assigned accounts more :=
  List.forall_mem_append

theorem mismatchedRole_none {accounts : List String} {suffix : String}
    {expected : List (ℕ × String)} :
    mismatchedRole accounts suffix expected = none ↔ Assigned accounts expected := by
  unfold mismatchedRole Assigned
  rw [List.findSome?_eq_none_iff]
  apply forall₂_congr
  intro e _
  by_cases h : roleAccount accounts e.1 = e.2
  · simp [h]
  · simp [h]

/-- A vector is determined by an assignment of all its roles. -/
theorem assigned_unique {a b : List String} {roles : List (ℕ × String)}
    (hlength : a.length = b.length) (hcover : ∀ i < a.length, i ∈ roles.map Prod.fst)
    (ha : Assigned a roles) (hb : Assigned b roles) : a = b := by
  apply List.ext_getElem hlength
  intro i hia hib
  obtain ⟨e, he, rfl⟩ := List.mem_map.mp (hcover i hia)
  have hsame : roleAccount a e.1 = roleAccount b e.1 := (ha e he).trans (hb e he).symm
  simp only [roleAccount, List.getD_eq_getElem?_getD, List.getElem?_eq_getElem hia,
    List.getElem?_eq_getElem hib, Option.getD_some] at hsame
  exact hsame

/-! ## Derivations -/

section Derivations

variable {sha256 : Bytes → Digest}

theorem migrateDerivations_pool {mint user pool : String} {d : MigrateDerivations}
    (h : migrateDerivations sha256 mint user pool = .ok d) :
    deriveKeyed sha256 poolAuthoritySeed mint pumpProgramId = .ok d.poolAuthority ∧
      (deriveCanonicalPumpswapPool sha256 d.poolAuthority mint wsolMint).map Prod.fst =
        .ok d.pool := by
  obtain ⟨bondingCurve, _, h⟩ := Faults.bind_ok h
  obtain ⟨associatedBonding, _, h⟩ := Faults.bind_ok h
  obtain ⟨poolAuthority, hauthority, h⟩ := Faults.bind_ok h
  obtain ⟨canonical, hcanonical, h⟩ := Faults.bind_ok h
  obtain ⟨_, _, h⟩ := Faults.bind_ok h
  obtain ⟨_, _, h⟩ := Faults.bind_ok h
  obtain ⟨_, _, h⟩ := Faults.bind_ok h
  obtain ⟨_, _, h⟩ := Faults.bind_ok h
  obtain ⟨_, _, h⟩ := Faults.bind_ok h
  obtain ⟨_, _, h⟩ := Faults.bind_ok h
  obtain ⟨_, _, h⟩ := Faults.bind_ok h
  obtain ⟨_, _, h⟩ := Faults.bind_ok h
  obtain ⟨_, _, h⟩ := Faults.bind_ok h
  obtain ⟨_, _, h⟩ := Faults.bind_ok h
  obtain rfl := Except.ok.inj h
  refine ⟨hauthority, ?_⟩
  rw [hcanonical]
  rfl

/-- The pool is derived from the mint alone. -/
theorem pool_eq {mint user user' pool pool' : String} {d d' : MigrateDerivations}
    (h : migrateDerivations sha256 mint user pool = .ok d)
    (h' : migrateDerivations sha256 mint user' pool' = .ok d') : d.pool = d'.pool := by
  obtain ⟨hauthority, hpool⟩ := migrateDerivations_pool h
  obtain ⟨hauthority', hpool'⟩ := migrateDerivations_pool h'
  have hsame : d.poolAuthority = d'.poolAuthority :=
    Except.ok.inj (hauthority.symm.trans hauthority')
  rw [hsame] at hpool
  exact Except.ok.inj (hpool.symm.trans hpool')

/-! ## Valid vectors -/

/-- What a vector satisfies that is valid. -/
structure ValidRoles (sha256 : Bytes → Digest) (accounts : List String) (d : MigrateDerivations) :
    Prop where
  length : accounts.length = 25
  fixed : Assigned accounts fixedRoles
  authority : roleAccount accounts 1 ∉ accounts.eraseIdx 1
  user : roleAccount accounts 5 ∉ privilegedAccounts accounts
  derived : migrateDerivations sha256 (roleAccount accounts 2) (roleAccount accounts 5)
    (roleAccount accounts 9) = .ok d
  relations : Assigned accounts d.relations

theorem validateMigrateAccountRoles_ok {accounts : List String} {expectedMint : Option String}
    {check : RoleCheck}
    (h : validateMigrateAccountRoles sha256 accounts expectedMint = .ok check) :
    ∃ d, ValidRoles sha256 accounts d := by
  unfold validateMigrateAccountRoles at h
  by_cases hlength : accounts.length ≠ 25
  · rw [if_pos hlength] at h
    cases h
  rw [if_neg hlength] at h
  cases hmalformed : malformedRole accounts with
  | some failure => simp only [hmalformed, reduceCtorEq] at h
  | none =>
    cases hfixed : mismatchedRole accounts "mismatch" fixedRoles with
    | some failure => simp only [hmalformed, hfixed, reduceCtorEq] at h
    | none =>
      cases hmint : mismatchedRole accounts "mismatch"
          (expectedMint.toList.map fun mint => (2, mint)) with
      | some failure => simp only [hmalformed, hfixed, hmint, reduceCtorEq] at h
      | none =>
        simp only [hmalformed, hfixed, hmint] at h
        by_cases hauthority : roleAccount accounts 1 ∈ accounts.eraseIdx 1
        · rw [if_pos hauthority] at h
          cases h
        rw [if_neg hauthority] at h
        by_cases huser : roleAccount accounts 5 ∈ privilegedAccounts accounts
        · rw [if_pos huser] at h
          cases h
        rw [if_neg huser] at h
        cases hderived : migrateDerivations sha256 (roleAccount accounts 2)
            (roleAccount accounts 5) (roleAccount accounts 9) with
        | error e => simp only [hderived, reduceCtorEq] at h
        | ok d =>
          simp only [hderived] at h
          cases hrelations : mismatchedRole accounts "relationship_mismatch" d.relations with
          | some failure => simp only [hrelations, reduceCtorEq] at h
          | none => exact ⟨d, not_not.mp hlength, mismatchedRole_none.mp hfixed, hauthority, huser,
              hderived, mismatchedRole_none.mp hrelations⟩

namespace ValidRoles

variable {accounts accounts' : List String} {d d' : MigrateDerivations}

theorem pool (h : ValidRoles sha256 accounts d) : roleAccount accounts 9 = d.pool :=
  h.relations (9, d.pool) (by simp [MigrateDerivations.relations])

/-- The roles of a valid vector: fixed, derived, or one of the mint and the user. -/
theorem assigned (h : ValidRoles sha256 accounts d) :
    Assigned accounts (fixedRoles ++ d.relations ++
      [(2, roleAccount accounts 2), (5, roleAccount accounts 5)]) := by
  rw [assigned_append, assigned_append]
  refine ⟨⟨h.fixed, h.relations⟩, ?_⟩
  simp [Assigned]

/-- Valid vectors with one mint and one user are equal. -/
theorem unique (h : ValidRoles sha256 accounts d) (h' : ValidRoles sha256 accounts' d')
    (hmint : roleAccount accounts 2 = roleAccount accounts' 2)
    (huser : roleAccount accounts 5 = roleAccount accounts' 5) : accounts = accounts' := by
  have hderived' := h'.derived
  rw [← hmint, ← huser] at hderived'
  have hpool : roleAccount accounts 9 = roleAccount accounts' 9 := by
    rw [h.pool, h'.pool, pool_eq h.derived hderived']
  rw [← hpool] at hderived'
  obtain rfl := Except.ok.inj (h.derived.symm.trans hderived')
  have hassigned' := h'.assigned
  rw [← hmint, ← huser] at hassigned'
  apply assigned_unique (h.length.trans h'.length.symm) ?_ h.assigned hassigned'
  intro i hi
  rw [h.length] at hi
  have hcover : ∀ i < 25, i ∈ (fixedRoles ++ d.relations ++
      [(2, roleAccount accounts 2), (5, roleAccount accounts 5)]).map Prod.fst := by
    simp only [fixedRoles, MigrateDerivations.relations, List.map_append, List.map_cons,
      List.map_nil]
    decide
  exact hcover i hi

/-- The withdraw authority is the account of no other role. -/
theorem authority_ne (h : ValidRoles sha256 accounts d) {i : ℕ} (hi : i < 25) (hne : i ≠ 1) :
    roleAccount accounts i ≠ roleAccount accounts 1 := by
  intro hsame
  have hlt : i < accounts.length := by
    rw [h.length]
    exact hi
  apply h.authority
  rw [List.mem_eraseIdx_iff_getElem]
  refine ⟨i, hlt, hne, ?_⟩
  rw [← hsame, roleAccount, List.getD_eq_getElem?_getD, List.getElem?_eq_getElem hlt,
    Option.getD_some]

/-- The roles whose account the user is not. -/
theorem user_ne (h : ValidRoles sha256 accounts d) :
    ∀ i ∈ [0, 1, 2, 6, 8, 9, 10, 23], roleAccount accounts 5 ≠ roleAccount accounts i := by
  have hsystem : roleAccount accounts 6 = systemProgramId := h.fixed (6, _) (by decide)
  have hamm : roleAccount accounts 8 = pumpswapAmmProgramId := h.fixed (8, _) (by decide)
  have hpump : roleAccount accounts 23 = pumpProgramId := h.fixed (23, _) (by decide)
  have huser := h.user
  rw [privilegedAccounts, ← hsystem, ← hamm, ← hpump] at huser
  simp only [List.mem_cons, List.not_mem_nil, or_false, not_or] at huser
  obtain ⟨h0, h1, h6, h23, h8, h2, h9, h10⟩ := huser
  simp only [List.forall_mem_cons]
  exact ⟨h0, h1, h2, h6, h8, h9, h10, h23, by simp⟩

end ValidRoles

end Derivations

/-! ## Verified migrations -/

/-- The transaction is verified: what is decoded from it, and what is reported. -/
structure Accepted (sha256 : Bytes → Digest) (tx : Option Dict)
    (accountInfos : String → Option Dict) (expectedMint : String) (finalized : Bool)
    (migration : Migration) (verified : VerifiedMigration) : Prop where
  decoded : decodeSupportedPumpMigrationTransaction sha256 tx = .ok (.ok migration)
  verified : verifyPinnedPumpMigration sha256 tx accountInfos expectedMint finalized =
    .ok (.ok verified)

/-- The Pool account agrees with the addresses derived from the mint and the pool. -/
structure PoolAgrees (sha256 : Bytes → Digest) (accounts : List String) (expectedMint : String)
    (verified : VerifiedMigration) (e : ExpectedAddresses) : Prop where
  derived : expectedAddresses sha256 expectedMint (roleAccount accounts 10)
    (roleAccount accounts 9) = .ok e
  mint : verified.mint = expectedMint
  poolAddress : verified.poolAddress = roleAccount accounts 9
  creator : verified.creator = roleAccount accounts 10
  index : verified.pool.index = 0
  bondingCurve : roleAccount accounts 3 = e.bondingCurve
  authority : roleAccount accounts 10 = e.creator
  pool : roleAccount accounts 9 = e.pool
  bump : verified.pool.poolBump = e.bump
  lpMint : verified.pool.lpMint = e.lpMint
  baseVault : verified.pool.poolBaseTokenAccount = e.baseVault
  quoteVault : verified.pool.poolQuoteTokenAccount = e.quoteVault

section Verification

variable {sha256 : Bytes → Digest} {expectedMint : String}

theorem verifyPool_ok {migration : Migration} {decoded : PoolAccount}
    {verified : VerifiedMigration}
    (h : verifyPool sha256 migration decoded expectedMint = .ok (.ok verified)) :
    ∃ e, PoolAgrees sha256 migration.accounts expectedMint verified e := by
  unfold verifyPool at h
  dsimp only at h
  by_cases hindex : decoded.index ≠ canonicalPoolIndex
  · rw [if_pos hindex] at h
    cases h
  rw [if_neg hindex] at h
  by_cases hidentity : decoded.creator ≠ roleAccount migration.accounts 10 ∨
      decoded.baseMint ≠ expectedMint ∨ decoded.quoteMint ≠ wsolMint
  · rw [if_pos hidentity] at h
    cases h
  rw [if_neg hidentity] at h
  cases hderived : expectedAddresses sha256 expectedMint (roleAccount migration.accounts 10)
      (roleAccount migration.accounts 9) with
  | error raised =>
    simp only [hderived] at h
    cases raised <;> cases h
  | ok e =>
    simp only [hderived] at h
    split_ifs at h with hauthority hpool hvaults
    · cases h
    · cases h
    · cases h
    · simp only [ne_eq, not_or, not_not] at hauthority hpool hvaults
      obtain rfl := Except.ok.inj (Except.ok.inj h)
      exact ⟨e, {
        derived := hderived
        mint := rfl
        poolAddress := rfl
        creator := rfl
        index := not_not.mp hindex
        bondingCurve := hauthority.1
        authority := hauthority.2
        pool := hpool.1
        bump := hpool.2
        lpMint := hvaults.2.1
        baseVault := hvaults.2.2.2.1
        quoteVault := hvaults.2.2.2.2.2 }⟩

theorem decodeMigration_ok {tx : Option Dict} {migration : Migration}
    (h : decodeSupportedPumpMigrationTransaction sha256 tx = .ok (.ok migration)) :
    (∃ d, ValidRoles sha256 migration.accounts d) ∧
      migration.mint = roleAccount migration.accounts 2 := by
  cases tx with
  | none => cases h
  | some tx =>
    unfold decodeSupportedPumpMigrationTransaction at h
    cases hrun : decodeMigrationWithItem sha256 tx with
    | error raised =>
      simp only [hrun] at h
      cases h
    | ok result =>
      simp only [hrun] at h
      cases result with
      | error failure => cases h
      | ok found =>
        obtain rfl := Except.ok.inj (Except.ok.inj h)
        obtain ⟨_, check, _, _, hvalid, hmint⟩ := decodeMigrationWithItem_ok hrun
        exact ⟨validateMigrateAccountRoles_ok hvalid, hmint⟩

variable {tx : Option Dict} {accountInfos : String → Option Dict} {finalized : Bool}
  {migration : Migration} {verified : VerifiedMigration}

/-- An accepted migration has a valid vector with the expected mint, and its Pool account
agrees. -/
theorem accepted_spec
    (h : Accepted sha256 tx accountInfos expectedMint finalized migration verified) :
    (∃ d, ValidRoles sha256 migration.accounts d) ∧
      roleAccount migration.accounts 2 = expectedMint ∧
      ∃ e, PoolAgrees sha256 migration.accounts expectedMint verified e := by
  obtain ⟨hvalid, hmint⟩ := decodeMigration_ok h.decoded
  have hverified := h.verified
  unfold verifyPinnedPumpMigration at hverified
  by_cases hmissing : tx = none ∨ tx = some []
  · rw [if_pos hmissing] at hverified
    cases hverified
  rw [if_neg hmissing] at hverified
  by_cases hfinal : (!finalized) = true
  · rw [if_pos hfinal] at hverified
    cases hverified
  rw [if_neg hfinal, h.decoded, Faults.ok_bind] at hverified
  dsimp only at hverified
  by_cases hother : migration.mint ≠ expectedMint
  · rw [if_pos hother] at hverified
    cases hverified
  rw [if_neg hother] at hverified
  cases hpool : decodePumpswapPoolAccount sha256
      (accountInfos (roleAccount migration.accounts 9)) (roleAccount migration.accounts 9) with
  | error failure =>
    simp only [hpool] at hverified
    cases hverified
  | ok decoded =>
    simp only [hpool] at hverified
    exact ⟨hvalid, hmint.symm.trans (not_not.mp hother), verifyPool_ok hverified⟩

theorem expectedAddresses_ok {creator pool : String} {e : ExpectedAddresses}
    (h : expectedAddresses sha256 expectedMint creator pool = .ok e) :
    deriveKeyed sha256 bondingCurveSeed expectedMint pumpProgramId = .ok e.bondingCurve ∧
      deriveKeyed sha256 poolAuthoritySeed expectedMint pumpProgramId = .ok e.creator ∧
      deriveCanonicalPumpswapPool sha256 creator expectedMint wsolMint = .ok (e.pool, e.bump) := by
  obtain ⟨bondingCurve, hcurve, h⟩ := Faults.bind_ok h
  obtain ⟨authority, hauthority, h⟩ := Faults.bind_ok h
  obtain ⟨canonical, hcanonical, h⟩ := Faults.bind_ok h
  obtain ⟨lpMint, _, h⟩ := Faults.bind_ok h
  obtain ⟨baseVault, _, h⟩ := Faults.bind_ok h
  obtain ⟨quoteVault, _, h⟩ := Faults.bind_ok h
  obtain rfl := Except.ok.inj h
  exact ⟨hcurve, hauthority, hcanonical⟩

/-- The mint and the user of an accepted migration determine its accounts and the pins of its
Pool; the pool, curve and authority are derived from the mint, and the withdraw authority and the
user are none of the listed accounts. -/
theorem migration_pinned {tx' : Option Dict} {accountInfos' : String → Option Dict}
    {finalized' : Bool} {migration' : Migration} {verified' : VerifiedMigration}
    (h : Accepted sha256 tx accountInfos expectedMint finalized migration verified)
    (h' : Accepted sha256 tx' accountInfos' expectedMint finalized' migration' verified')
    (huser : roleAccount migration.accounts 5 = roleAccount migration'.accounts 5) :
    (migration.accounts = migration'.accounts ∧
      verified.poolAddress = verified'.poolAddress ∧
      verified.pool.poolBump = verified'.pool.poolBump ∧
      verified.pool.lpMint = verified'.pool.lpMint ∧
      verified.pool.poolBaseTokenAccount = verified'.pool.poolBaseTokenAccount ∧
      verified.pool.poolQuoteTokenAccount = verified'.pool.poolQuoteTokenAccount) ∧
    (verified.pool.index = 0 ∧
      deriveKeyed sha256 bondingCurveSeed expectedMint pumpProgramId =
        .ok (roleAccount migration.accounts 3) ∧
      deriveKeyed sha256 poolAuthoritySeed expectedMint pumpProgramId = .ok verified.creator ∧
      deriveCanonicalPumpswapPool sha256 verified.creator expectedMint wsolMint =
        .ok (verified.poolAddress, verified.pool.poolBump)) ∧
    (∀ i < 25, i ≠ 1 → roleAccount migration.accounts i ≠ roleAccount migration.accounts 1) ∧
    ∀ i ∈ [0, 1, 2, 6, 8, 9, 10, 23],
      roleAccount migration.accounts 5 ≠ roleAccount migration.accounts i := by
  obtain ⟨⟨d, hvalid⟩, hmint, e, hpool⟩ := accepted_spec h
  obtain ⟨⟨d', hvalid'⟩, hmint', e', hpool'⟩ := accepted_spec h'
  have hsame : migration.accounts = migration'.accounts :=
    hvalid.unique hvalid' (hmint.trans hmint'.symm) huser
  obtain ⟨hcurve, hauthority, hcanonical⟩ := expectedAddresses_ok hpool.derived
  have hderived' := hpool'.derived
  rw [← hsame] at hderived'
  obtain rfl := Except.ok.inj (hpool.derived.symm.trans hderived')
  refine ⟨⟨hsame, ?_, ?_, ?_, ?_, ?_⟩, ⟨hpool.index, ?_, ?_, ?_⟩,
    fun i hi hne => hvalid.authority_ne hi hne, hvalid.user_ne⟩
  · rw [hpool.poolAddress, hpool'.poolAddress, hsame]
  · rw [hpool.bump, hpool'.bump]
  · rw [hpool.lpMint, hpool'.lpMint]
  · rw [hpool.baseVault, hpool'.baseVault]
  · rw [hpool.quoteVault, hpool'.quoteVault]
  · rw [hcurve, hpool.bondingCurve]
  · rw [hauthority, hpool.creator, hpool.authority]
  · rw [hpool.creator, hcanonical, hpool.poolAddress, hpool.pool, hpool.bump]

end Verification

/-! ## A migration whose user is given -/

/-- A public key by its number. -/
def keyBytes (n : ℕ) : Bytes := (Bytes.ofNatLittle 32 n).reverse

/-- Accounts in the order of the roles, and the token account of the curve as a user. -/
def migratedKeys : List (String × ℕ) :=
  [(pumpGlobalId,
      0x3a865e69ee0f5480cabcf66357e4dc2f18d58d45c1ea7489fb3723d9793c72a6),
    (pumpWithdrawAuthorityId,
      0x1097173a0fbdc5251b29c142c40b291068ce591fff84bdd3ba9685e63c9c5265),
    ("HKTwBaWVixTJoXQwvwSbZwhKJbuuLZf6FyEYAaS3nhMr",
      0xf275e663a7fc140e1d71c10e0a51d092ebdca7e99502fa7fe1862b0edf96dfe1),
    ("FBAP4QBXGJAmeBtGki6gZD94HsRcmXy56THaLR4ypd6Z",
      0xd29e080b4c563fc86eb907a03df94ad933b57afb45feddcae0c577dbd2ba128a),
    ("3VKyBKvQpfhY9EmxzvbTZZyfh2JPu1uiSR56t7U2Tj7d",
      0x24f9159860c48b8b7be5143aa5489ee80c828ed14a6c591f3f7ae36d67272868),
    ("75CmET8vKnVKukbm4zUw6f1JTdHMeZTcSFjKjg1v28Y9",
      0x5a39bead318f306939acb1d016647be2e38c6501c58367fdb3e9f52542aa2442),
    (systemProgramId,
      0x0000000000000000000000000000000000000000000000000000000000000000),
    (tokenProgramId,
      0x06ddf6e1d765a193d9cbe146ceeb79ac1cb485ed5f5b37913a8cf5857eff00a9),
    (pumpswapAmmProgramId,
      0x0c14defc825ec67694250818bb654065f4298d3156d571b4d4f8090c18e9a863),
    ("CsBKi2iSgPbdnccTRgrYTkk16uxET8UZNYNbVznxBbuJ",
      0xb04b44b47404429d82fc2b0fb6f1270d99098835c5762ca4bfc9657bdc6e7e01),
    ("4yVoaeZjAEDehNn4E1vmVwJ1aqnzUB8joZ3GGmAjjFRH",
      0x3b0c27638c4458c374c01090c10b50f91bac3d2ddbc2c82105fed354f1d2b2c8),
    ("AKQbvXELNtMUbCWw6rwoSnAfcyxGbo9A6deoGUTJnjXN",
      0x8a7052eb0e405b4b53d49e6ef0a7c1c1113f4f41bd7e7d6626e38c9f78e69661),
    ("2F9diFSMVhiMMcpvSGpMzAfpeKQNP5qwzBHvdbNgQG2T",
      0x127b945e3a66685e9d8804841d6fc676746ace7bc9071cf52402621677d1b618),
    (pumpswapGlobalConfigId,
      0x890ba644fe1f55aa19f11cd2d2ec14d3233b6e0a4beaeef72b69858e21e170d6),
    (wsolMint,
      0x069b8857feab8184fb687f634618c035dac439dc1aeb3b5598a0f00000000001),
    ("J9VSHHed3nUoheQxLnBKgQu8bFJm4tx7UxbbuzN2NRoB",
      0xfec37a0d7a379842ae211c4e53a92ccedb973cc90dcf4e476ee2055383700e8e),
    ("5EeYRnte6DWUFx6EjUjQvHm6o4HzM9T6LpwJCzu9Cg4y",
      0x3eedbf36e0fbf60d1351e69062b0dbc4975122c277a5781e449472d4162cf6da),
    ("EH2ANq2mk6DRKimFPraUYFYE2iQ8NUu3HSyZ8FxvLbod",
      0xc5428956e64c86948b3ac274c2787515067cc5e39333c256a25bd39b0a32a900),
    ("9A2qkxnBebrzAbw6YghECpbqs7aPT1kTGzjP96EpY7mx",
      0x792dcdce2ba682cdec5fffe99cbfda4ee808dc65bd447715a7ae463593a16c2f),
    (token2022ProgramId,
      0x06ddf6e1ee758fde18425dbce46ccddab61afc4d83b90d27febdf928d8a18bfc),
    (associatedTokenProgramId,
      0x8c97258f4e2489f1bb3d1029148e0d830b5a1399daff1084048e7bd8dbe9f859),
    (pumpswapEventAuthorityId,
      0xe54a709528839f61c0b9b86079891c139216e47a71b62fb73bec72169458745e),
    (pumpEventAuthorityId,
      0xacf136eb01fc1c4e883d23c8b5844ab59a37f66add57c5e9ac3b53e059d35c64),
    (pumpProgramId,
      0x0156e0f693665acf44db1568bf175baa5189cb97f5d2ff3b655d2bb6fd6d18b0),
    (rentSysvarId,
      0x06a7d517192c5c51218cc94c3d4af17f58daee089ba1fd44e3dbd98a00000000),
    ("DvHSZ2izeQcQ1CCaKe6N2SUvDpkonmC1npYRDTYHQefZ",
      0xbff29d8a63e5beb4cec988618ed760c101208ba36872fe72c18d7e1bcf54fa68)]

def keyAt (i : ℕ) : String := (migratedKeys.getD i ("", 0)).1

def rawAt (i : ℕ) : Bytes := keyBytes (migratedKeys.getD i ("", 0)).2

/-- The seeds, the program and the address of each derivation, the keys by their places. -/
def migratedAddresses : List (List Bytes × ℕ × ℕ) :=
  [([bondingCurveSeed, rawAt 2], 23, 3), ([rawAt 3, rawAt 7, rawAt 2], 20, 4),
    ([poolAuthoritySeed, rawAt 2], 23, 10),
    ([poolSeed, Bytes.ofNatLittle 2 canonicalPoolIndex, rawAt 10, rawAt 2, rawAt 14], 8, 9),
    ([rawAt 10, rawAt 7, rawAt 2], 20, 11), ([rawAt 10, rawAt 7, rawAt 14], 20, 12),
    ([poolLpMintSeed, rawAt 9], 8, 15), ([rawAt 5, rawAt 19, rawAt 15], 20, 16),
    ([rawAt 3, rawAt 19, rawAt 15], 20, 25), ([rawAt 9, rawAt 7, rawAt 2], 20, 17),
    ([rawAt 9, rawAt 7, rawAt 14], 20, 18), ([globalSeed], 23, 0), ([eventAuthoritySeed], 23, 22),
    ([eventAuthoritySeed], 8, 21), ([globalConfigSeed], 8, 13)]

/-- The table, evaluated: the texts of the keys, the digests that the addresses are, and that none
of these is a point of the curve. -/
theorem migratedTable_evaluated :
    (∀ e ∈ migratedKeys, b58encode (keyBytes e.2) = e.1) ∧
      (∀ row ∈ migratedAddresses,
        (pdaDigest Python.sha256 row.1 (rawAt row.2.1) 255).1 = rawAt row.2.2) ∧
      ∀ row ∈ migratedAddresses,
        validSeeds row.1 = true ∧ isEd25519Point (rawAt row.2.2) = false := by
  decide +kernel

theorem length_keyBytes (n : ℕ) : (keyBytes n).length = 32 := by
  rw [keyBytes, List.length_reverse]
  rfl

theorem pubkeyBytes_encode {raw : Bytes} (h : raw.length = 32) :
    pubkeyBytes (b58encode raw) = some raw := by
  have hne : raw ≠ [] := by
    rintro rfl
    cases h
  rw [pubkeyBytes, b58decode_encode hne]
  exact Option.filter_some_pos (by simpa using h)

theorem b58encode_rawAt {i : ℕ} (h : i < 26) : b58encode (rawAt i) = keyAt i := by
  have hmem : migratedKeys.getD i ("", 0) ∈ migratedKeys := by
    rw [List.getD_eq_getElem?_getD, List.getElem?_eq_getElem h, Option.getD_some]
    exact List.getElem_mem h
  obtain ⟨hkeys, -, -⟩ := migratedTable_evaluated
  exact hkeys _ hmem

theorem pubkeyBytes_keyAt {i : ℕ} (h : i < 26) : pubkeyBytes (keyAt i) = some (rawAt i) := by
  rw [← b58encode_rawAt h]
  exact pubkeyBytes_encode (length_keyBytes _)

theorem b58decode_of_pubkeyBytes {key : String} {raw : Bytes} (h : pubkeyBytes key = some raw) :
    b58decode key = some raw ∧ raw.length = 32 := by
  rw [pubkeyBytes, Option.filter_eq_some_iff] at h
  exact ⟨h.1, by simpa using h.2⟩

/-- Each address of the table is derived from its seeds. -/
theorem derive_migrated (row : ℕ) {seeds : List Bytes} {programId address : ℕ}
    (h : migratedAddresses[row]? = some (seeds, programId, address)) :
    deriveOrRaise Python.sha256 seeds (keyAt programId) = .ok (keyAt address, 255) := by
  have hrow := List.mem_of_getElem? h
  have hplaces : ∀ row ∈ migratedAddresses, row.2.1 < 26 ∧ row.2.2 < 26 := by decide
  obtain ⟨hprogram, haddress⟩ := hplaces _ hrow
  obtain ⟨-, hdigests, hoffCurve⟩ := migratedTable_evaluated
  obtain ⟨hseeds, hoff⟩ := hoffCurve _ hrow
  have hdigest := hdigests _ hrow
  obtain ⟨hdecode, hlength⟩ := b58decode_of_pubkeyBytes (pubkeyBytes_keyAt hprogram)
  have hfind : (bumps.find? fun bump =>
      !isEd25519Point (pdaDigest Python.sha256 seeds (rawAt programId) bump)) = some 255 := by
    rw [find?_bumps]
    refine ⟨le_rfl, ?_, fun b hlt hle => absurd hlt (not_lt.mpr hle)⟩
    rw [hdigest, hoff]
    rfl
  rw [deriveOrRaise, deriveProgramAddress_eq ⟨hdecode, hlength, hseeds⟩, hfind]
  dsimp only
  rw [hdigest, b58encode_rawAt haddress]
  rfl

theorem deriveKeyed_migrated (row : ℕ) {seed : Bytes} {key programId address : ℕ}
    (h : migratedAddresses[row]? = some ([seed, rawAt key], programId, address)) (hkey : key < 26) :
    deriveKeyed Python.sha256 seed (keyAt key) (keyAt programId) = .ok (keyAt address) := by
  rw [deriveKeyed, (b58decode_of_pubkeyBytes (pubkeyBytes_keyAt hkey)).1]
  dsimp only
  rw [derive_migrated row h]
  rfl

theorem deriveAta_migrated (row : ℕ) {owner tokenProgram mint address : ℕ}
    (h : migratedAddresses[row]? =
      some ([rawAt owner, rawAt tokenProgram, rawAt mint], 20, address))
    (hplaces : owner < 26 ∧ tokenProgram < 26 ∧ mint < 26) :
    deriveAta Python.sha256 (keyAt owner) (keyAt tokenProgram) (keyAt mint) =
      .ok (keyAt address) := by
  have hderive : deriveOrRaise Python.sha256 [rawAt owner, rawAt tokenProgram, rawAt mint]
      associatedTokenProgramId = .ok (keyAt address, 255) := derive_migrated row h
  simp only [deriveAta, pubkeyBytes_keyAt hplaces.1, pubkeyBytes_keyAt hplaces.2.1,
    pubkeyBytes_keyAt hplaces.2.2, hderive]
  rfl

theorem deriveCanonical_migrated :
    deriveCanonicalPumpswapPool Python.sha256 (keyAt 10) (keyAt 2) (keyAt 14) =
      .ok (keyAt 9, 255) := by
  have hderive : deriveOrRaise Python.sha256
      [poolSeed, Bytes.ofNatLittle 2 canonicalPoolIndex, rawAt 10, rawAt 2, rawAt 14] (keyAt 8) =
      .ok (keyAt 9, 255) := derive_migrated 3 rfl
  have hamm : pumpswapAmmProgramId = keyAt 8 := rfl
  simp only [deriveCanonicalPumpswapPool, hamm, pubkeyBytes_keyAt (show 10 < 26 by decide),
    pubkeyBytes_keyAt (show 2 < 26 by decide), pubkeyBytes_keyAt (show 14 < 26 by decide), hderive]

/-- The row of the token account of a user, and the places of both. -/
def migratedUsers : List (ℕ × ℕ × ℕ) := [(7, 5, 16), (8, 3, 25)]

def migratedDerivations (userLp : ℕ) : MigrateDerivations where
  bondingCurve := keyAt 3
  associatedBonding := keyAt 4
  poolAuthority := keyAt 10
  pool := keyAt 9
  poolAuthorityMint := keyAt 11
  poolAuthorityWsol := keyAt 12
  lpMint := keyAt 15
  userLp := keyAt userLp
  baseVault := keyAt 17
  quoteVault := keyAt 18
  global := keyAt 0
  eventAuthority := keyAt 22
  ammEventAuthority := keyAt 21
  ammGlobalConfig := keyAt 13

theorem migrateDerivations_migrated {row user userLp : ℕ}
    (h : (row, user, userLp) ∈ migratedUsers) :
    migrateDerivations Python.sha256 (keyAt 2) (keyAt user) (keyAt 9) =
      .ok (migratedDerivations userLp) := by
  have hrow : ∀ u ∈ migratedUsers, u.2.1 < 26 ∧
      migratedAddresses[u.1]? = some ([rawAt u.2.1, rawAt 19, rawAt 15], 20, u.2.2) := by
    simp only [migratedUsers, List.forall_mem_cons]
    exact ⟨⟨by decide, rfl⟩, ⟨by decide, rfl⟩, List.forall_mem_nil _⟩
  obtain ⟨huser, huserLp⟩ := hrow _ h
  unfold migrateDerivations
  rw [show pumpProgramId = keyAt 23 from rfl, show pumpswapAmmProgramId = keyAt 8 from rfl,
    show tokenProgramId = keyAt 7 from rfl, show token2022ProgramId = keyAt 19 from rfl,
    show wsolMint = keyAt 14 from rfl,
    deriveKeyed_migrated 0 rfl (by decide), Faults.ok_bind,
    deriveAta_migrated 1 rfl (by decide), Faults.ok_bind,
    deriveKeyed_migrated 2 rfl (by decide), Faults.ok_bind,
    deriveCanonical_migrated, Faults.ok_bind,
    deriveAta_migrated 4 rfl (by decide), Faults.ok_bind,
    deriveAta_migrated 5 rfl (by decide), Faults.ok_bind,
    deriveKeyed_migrated 6 rfl (by decide), Faults.ok_bind,
    deriveAta_migrated row huserLp ⟨huser, by decide⟩, Faults.ok_bind,
    deriveAta_migrated 9 rfl (by decide), Faults.ok_bind,
    deriveAta_migrated 10 rfl (by decide), Faults.ok_bind,
    derive_migrated 11 rfl, Faults.ok_bind, derive_migrated 12 rfl, Faults.ok_bind,
    derive_migrated 13 rfl, Faults.ok_bind, derive_migrated 14 rfl, Faults.ok_bind]
  rfl

theorem expectedAddresses_migrated :
    expectedAddresses Python.sha256 (keyAt 2) (keyAt 10) (keyAt 9) =
      .ok ⟨keyAt 3, keyAt 10, keyAt 9, 255, keyAt 15, keyAt 17, keyAt 18⟩ := by
  unfold expectedAddresses
  rw [show pumpProgramId = keyAt 23 from rfl, show pumpswapAmmProgramId = keyAt 8 from rfl,
    show tokenProgramId = keyAt 7 from rfl, show wsolMint = keyAt 14 from rfl,
    deriveKeyed_migrated 0 rfl (by decide), Faults.ok_bind,
    deriveKeyed_migrated 2 rfl (by decide), Faults.ok_bind,
    deriveCanonical_migrated, Faults.ok_bind,
    deriveKeyed_migrated 6 rfl (by decide), Faults.ok_bind,
    deriveAta_migrated 9 rfl (by decide), Faults.ok_bind,
    deriveAta_migrated 10 rfl (by decide), Faults.ok_bind]
  rfl

/-! ## Its vector, transaction and Pool -/

/-- A vector that is valid, with public keys in every role, is accepted. -/
theorem validateMigrateAccountRoles_of_valid {sha256 : Bytes → Digest} {accounts : List String}
    {d : MigrateDerivations} (hformed : malformedRole accounts = none)
    (h : ValidRoles sha256 accounts d) :
    ∃ check, validateMigrateAccountRoles sha256 accounts none = .ok check := by
  have hfixed : mismatchedRole accounts "mismatch" fixedRoles = none :=
    mismatchedRole_none.mpr h.fixed
  have hrelations : mismatchedRole accounts "relationship_mismatch" d.relations = none :=
    mismatchedRole_none.mpr h.relations
  have hmint : mismatchedRole accounts "mismatch"
      ((none : Option String).toList.map fun mint => (2, mint)) = none := rfl
  unfold validateMigrateAccountRoles
  rw [if_neg (not_not.mpr h.length)]
  simp only [hformed, hfixed, hmint]
  rw [if_neg h.authority, if_neg h.user]
  simp only [h.derived, hrelations]
  exact ⟨_, rfl⟩

/-- The accounts with the user and its token account at given places. -/
def migratedAccounts (user userLp : ℕ) : List String :=
  (List.range 25).map fun i => keyAt (if i = 5 then user else if i = 16 then userLp else i)

theorem malformedRole_migrated {user userLp : ℕ} (huser : user < 26) (huserLp : userLp < 26) :
    malformedRole (migratedAccounts user userLp) = none := by
  have hne : ∀ i < 26, keyAt i ≠ "" := by decide
  unfold malformedRole
  rw [List.findSome?_eq_none_iff]
  intro i hi
  have hlt : i < 25 := List.mem_range.mp hi
  obtain ⟨j, hj, haccount⟩ :
      ∃ j < 26, roleAccount (migratedAccounts user userLp) i = keyAt j := by
    refine ⟨if i = 5 then user else if i = 16 then userLp else i, by split_ifs <;> omega, ?_⟩
    simp [roleAccount, migratedAccounts, List.getD_eq_getElem?_getD, hlt]
  rw [haccount, if_neg (hne j hj), validPubkey, pubkeyBytes_keyAt hj]
  rfl

theorem validRoles_migrated {row user userLp : ℕ} (h : (row, user, userLp) ∈ migratedUsers) :
    ValidRoles Python.sha256 (migratedAccounts user userLp) (migratedDerivations userLp) := by
  have hroles : ∀ u ∈ migratedUsers,
      (∀ e ∈ fixedRoles, roleAccount (migratedAccounts u.2.1 u.2.2) e.1 = e.2) ∧
      roleAccount (migratedAccounts u.2.1 u.2.2) 1 ∉ (migratedAccounts u.2.1 u.2.2).eraseIdx 1 ∧
      roleAccount (migratedAccounts u.2.1 u.2.2) 5 ∉
        privilegedAccounts (migratedAccounts u.2.1 u.2.2) ∧
      ∀ e ∈ (migratedDerivations u.2.2).relations,
        roleAccount (migratedAccounts u.2.1 u.2.2) e.1 = e.2 := by
    decide
  obtain ⟨hfixed, hauthority, huser, hrelations⟩ := hroles _ h
  exact {
    length := rfl
    fixed := hfixed
    authority := hauthority
    user := huser
    derived := migrateDerivations_migrated h
    relations := hrelations }

def migrationItem : Dict :=
  [("accounts", .list ((List.range 25).map fun i => .int i)), ("data", .str "T5bZvAk4s5f"),
    ("programIdIndex", .int 23)]

/-- A transaction with the one instruction over the accounts. -/
def migrationTx (accounts : List String) : Dict :=
  [("blockTime", .int 1), ("meta", .dict []), ("slot", .int 1),
    ("transaction", .dict [("message", .dict [("accountKeys", .list (accounts.map Value.str)),
      ("instructions", .list [.dict migrationItem])])])]

/-- A transaction with one migrate instruction, over a vector that is accepted, is supported. -/
theorem decodeMigration_of_match {sha256 : Bytes → Digest} {tx item : Dict} {keys : List String}
    {items : List Dict} {accounts : List String} {check : RoleCheck} {slot blockTime : ℤ}
    (hne : tx ≠ []) (hversion : supportedVersion (tx.get "version") = true)
    (hmeta : errorFree (tx.get "meta") = true) (hkeys : accountKeys tx = .ok keys)
    (hitems : instructions tx = .ok items)
    (hmatches : migrateMatches keys items = .ok (some [(item, accounts)]))
    (hcheck : validateMigrateAccountRoles sha256 accounts none = .ok check)
    (hslot : intOf (tx.get "slot") = some slot) (hnumber : isNumber (tx.get "blockTime") = true)
    (hblock : intOrRaise (tx.get "blockTime") = .ok blockTime) :
    decodeSupportedPumpMigrationTransaction sha256 (some tx) = .ok (.ok
      { mint := roleAccount accounts 2
        poolAddress := roleAccount accounts 9
        creator := roleAccount accounts 10
        slot, blockTime, accounts
        roles := check.roles }) := by
  unfold decodeSupportedPumpMigrationTransaction decodeMigrationWithItem
  simp only [if_neg hne, hversion, hmeta, hkeys, hitems, hmatches, hcheck, hslot, hnumber, hblock,
    Bool.not_true, Bool.false_eq_true, if_false, Faults.ok_bind]
  rfl

theorem decodeMigration_migrated {row user userLp : ℕ} (h : (row, user, userLp) ∈ migratedUsers) :
    ∃ migration, decodeSupportedPumpMigrationTransaction Python.sha256
        (some (migrationTx (migratedAccounts user userLp))) = .ok (.ok migration) ∧
      migration.accounts = migratedAccounts user userLp ∧ migration.mint = keyAt 2 := by
  have hplaces : ∀ u ∈ migratedUsers, u.2.1 < 26 ∧ u.2.2 < 26 := by decide
  obtain ⟨huser, huserLp⟩ := hplaces _ h
  have hresolve : resolve (migratedAccounts user userLp) migrationItem =
      .ok (some (pumpProgramId, migratedAccounts user userLp)) := rfl
  have hdata : (instructionData migrationItem).map (List.take 8) =
      some pumpMigrateDiscriminator := by decide
  have hmatch : migrateAccounts (migratedAccounts user userLp) migrationItem =
      .ok (some (migratedAccounts user userLp)) := by
    rw [migrateAccounts, hresolve, Faults.ok_bind]
    dsimp only
    rw [if_pos ⟨rfl, hdata⟩]
    rfl
  have hmatches : migrateMatches (migratedAccounts user userLp) [migrationItem] =
      .ok (some [(migrationItem, migratedAccounts user userLp)]) := by
    rw [migrateMatches, hmatch, Faults.ok_bind]
    rfl
  have hkeys : accountKeys (migrationTx (migratedAccounts user userLp)) =
      .ok (migratedAccounts user userLp) := rfl
  obtain ⟨check, hcheck⟩ := validateMigrateAccountRoles_of_valid
    (malformedRole_migrated huser huserLp) (validRoles_migrated h)
  have hitems : instructions (migrationTx (migratedAccounts user userLp)) =
      .ok [migrationItem] := rfl
  have hdecoded := decodeMigration_of_match (List.cons_ne_nil _ _) rfl rfl hkeys hitems hmatches
    hcheck rfl rfl rfl
  exact ⟨_, hdecoded, rfl, rfl⟩

/-- The character of a value below 64. -/
def base64Char (n : ℕ) : Char :=
  "ABCDEFGHIJKLMNOPQRSTUVWXYZabcdefghijklmnopqrstuvwxyz0123456789+/".toList.getD n 'A'

/-- The characters of bytes; the last group of two is padded. -/
def base64Chars : Bytes → List Char
  | a :: b :: c :: rest =>
    base64Char (a.toNat / 4) :: base64Char (a.toNat % 4 * 16 + b.toNat / 16) ::
      base64Char (b.toNat % 16 * 4 + c.toNat / 64) :: base64Char (c.toNat % 64) :: base64Chars rest
  | [a] => [base64Char (a.toNat / 4), base64Char (a.toNat % 4 * 16), '=', '=']
  | _ => []

/-- The Pool of the migration under the first layout, without supply and coin creator. -/
def migratedPoolBytes : Bytes :=
  pumpswapPoolDiscriminator ++ [255, 0, 0] ++ rawAt 10 ++ rawAt 2 ++ rawAt 14 ++ rawAt 15 ++
    rawAt 17 ++ rawAt 18 ++ List.replicate 41 0

def migratedPool : Dict := accountValue pumpswapAmmProgramId (base64Chars migratedPoolBytes)

def migratedInfos (address : String) : Option Dict :=
  if address = keyAt 9 then some migratedPool else none

/-- The Pool, evaluated: where its keys stand, its index and its bump, and that its text decodes. -/
theorem migratedPool_evaluated :
    (migratedPoolBytes.slice 11 32 = rawAt 10 ∧ migratedPoolBytes.slice 43 32 = rawAt 2 ∧
      migratedPoolBytes.slice 75 32 = rawAt 14 ∧ migratedPoolBytes.slice 107 32 = rawAt 15 ∧
      migratedPoolBytes.slice 139 32 = rawAt 17 ∧ migratedPoolBytes.slice 171 32 = rawAt 18) ∧
    ((poolLayout migratedPoolBytes).index = 0 ∧ (poolLayout migratedPoolBytes).poolBump = 255) ∧
    b64decodeFrom {} (base64Chars migratedPoolBytes) = some migratedPoolBytes ∧
    (base64Chars migratedPoolBytes).head? ≠ some '=' ∧
    migratedPoolBytes.length = poolLegacyLength ∧
    migratedPoolBytes.take 8 = pumpswapPoolDiscriminator := by
  decide +kernel

theorem poolLayout_migrated :
    (poolLayout migratedPoolBytes).index = 0 ∧ (poolLayout migratedPoolBytes).poolBump = 255 ∧
      (poolLayout migratedPoolBytes).creator = keyAt 10 ∧
      (poolLayout migratedPoolBytes).baseMint = keyAt 2 ∧
      (poolLayout migratedPoolBytes).quoteMint = keyAt 14 ∧
      (poolLayout migratedPoolBytes).lpMint = keyAt 15 ∧
      (poolLayout migratedPoolBytes).poolBaseTokenAccount = keyAt 17 ∧
      (poolLayout migratedPoolBytes).poolQuoteTokenAccount = keyAt 18 := by
  obtain ⟨hslices, ⟨hindex, hbump⟩, -⟩ := migratedPool_evaluated
  obtain ⟨hcreator, hbase, hquote, hlp, hbaseVault, hquoteVault⟩ := hslices
  have hencode : ∀ i < 26, b58encode (rawAt i) = keyAt i := fun i h => b58encode_rawAt h
  refine ⟨hindex, hbump, ?_, ?_, ?_, ?_, ?_, ?_⟩
  · rw [poolLayout, hcreator, hencode 10 (by decide)]
  · rw [poolLayout, hbase, hencode 2 (by decide)]
  · rw [poolLayout, hquote, hencode 14 (by decide)]
  · rw [poolLayout, hlp, hencode 15 (by decide)]
  · rw [poolLayout, hbaseVault, hencode 17 (by decide)]
  · rw [poolLayout, hquoteVault, hencode 18 (by decide)]

theorem decodePool_migrated :
    ∃ decoded, decodePumpswapPoolAccount Python.sha256 (migratedInfos (keyAt 9)) (keyAt 9) =
      .ok decoded ∧ decoded.toPoolLayout = poolLayout migratedPoolBytes := by
  obtain ⟨-, -, htext, hfirst, hlength, hdiscriminator⟩ := migratedPool_evaluated
  have hinfo : migratedInfos (keyAt 9) = some migratedPool := if_pos rfl
  rw [hinfo]
  exact decodePumpswapPoolAccount_of_bytes (List.cons_ne_nil _ _) (accountValue_owner _ _)
    (accountValue_text _ _) ((b64decode_ofList hfirst).trans htext) (Or.inl hlength)
    hdiscriminator (keyAt 9)

/-- The migration is accepted with either user. -/
theorem accepted_migrated {row user userLp : ℕ} (h : (row, user, userLp) ∈ migratedUsers) :
    ∃ migration verified, Accepted Python.sha256
        (some (migrationTx (migratedAccounts user userLp))) migratedInfos (keyAt 2) true migration
        verified ∧
      migration.accounts = migratedAccounts user userLp := by
  obtain ⟨migration, hdecoded, haccounts, hmint⟩ := decodeMigration_migrated h
  obtain ⟨decoded, hpool, hlayout⟩ := decodePool_migrated
  obtain ⟨hindex, hbump, hcreator, hbase, hquote, hlp, hbaseVault, hquoteVault⟩ :=
    poolLayout_migrated
  rw [← hlayout] at hindex hbump hcreator hbase hquote hlp hbaseVault hquoteVault
  have haccount : ∀ i ∈ [3, 9, 10, 15, 17, 18], roleAccount migration.accounts i = keyAt i := by
    rw [haccounts]
    simp only [List.forall_mem_cons]
    exact ⟨rfl, rfl, rfl, rfl, rfl, rfl, List.forall_mem_nil _⟩
  simp only [List.forall_mem_cons] at haccount
  obtain ⟨h3, h9, h10, h15, h17, h18, _⟩ := haccount
  have hwsol : wsolMint = keyAt 14 := rfl
  have hverified : ∃ verified, verifyPool Python.sha256 migration decoded (keyAt 2) =
      .ok (.ok verified) := by
    unfold verifyPool
    simp only [h3, h9, h10, h15, h17, h18, expectedAddresses_migrated, hindex, hbump, hcreator,
      hbase, hquote, hlp, hbaseVault, hquoteVault, hwsol, canonicalPoolIndex, ne_eq,
      not_true_eq_false, or_self, if_false]
    exact ⟨_, rfl⟩
  obtain ⟨verified, hverified⟩ := hverified
  refine ⟨migration, verified, ⟨hdecoded, ?_⟩, haccounts⟩
  have hpresent : ¬(some (migrationTx (migratedAccounts user userLp)) = none ∨
      some (migrationTx (migratedAccounts user userLp)) = some []) := by simp [migrationTx]
  unfold verifyPinnedPumpMigration
  rw [if_neg hpresent, if_neg (by simp), hdecoded, Faults.ok_bind]
  dsimp only
  rw [if_neg (not_not.mpr hmint), h9]
  simp only [hpool]
  exact hverified

/-- A verified migration agrees with itself. -/
theorem migration_pinned_self :
    ∃ migration verified, Accepted Python.sha256 (some (migrationTx (migratedAccounts 5 16)))
        migratedInfos (keyAt 2) true migration verified ∧ verified.pool.index = 0 := by
  have huser : (7, 5, 16) ∈ migratedUsers := by decide
  obtain ⟨migration, verified, haccepted, _⟩ := accepted_migrated huser
  exact ⟨migration, verified, haccepted, (migration_pinned haccepted haccepted rfl).2.1.1⟩

/-- In an accepted vector the user is the account of no other privileged role; `privileged` are
the places of these roles. -/
def UserIsolated (sha256 : Bytes → Digest) (privileged : List ℕ) : Prop :=
  ∀ tx accountInfos expectedMint finalized migration verified,
    Accepted sha256 tx accountInfos expectedMint finalized migration verified →
    ∀ i ∈ privileged, roleAccount migration.accounts 5 ≠ roleAccount migration.accounts i

/-- A vector is accepted whose user is the bonding curve. -/
theorem not_userIsolated_curve : ¬UserIsolated Python.sha256 [3] := by
  have huser : (8, 3, 25) ∈ migratedUsers := by decide
  obtain ⟨migration, verified, haccepted, haccounts⟩ := accepted_migrated huser
  intro h
  apply h _ _ _ _ _ _ haccepted 3 List.mem_cons_self
  rw [haccounts]
  rfl

end PrinterV1.Sources
