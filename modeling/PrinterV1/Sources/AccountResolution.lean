import PrinterV1.Sources.PumpMigration

/-!
# Account resolution

The keys of a transaction are indexed with its malformed entries skipped. The
accounts of a supported instruction stand at their exact indexes where no
malformed entry precedes them, and elsewhere only where a key is repeated.
-/

namespace PrinterV1.Sources

open Python

/-! ## Skipped entries -/

/-- How many of the first `n` entries are malformed. -/
def malformedBefore {α : Type} (raw : List (Option α)) (n : ℕ) : ℕ :=
  ((raw.take n).filter Option.isNone).length

theorem length_reduceOption_add {α : Type} (raw : List (Option α)) :
    raw.reduceOption.length + (raw.filter Option.isNone).length = raw.length := by
  induction raw with
  | nil => rfl
  | cons entry rest ih =>
    cases entry with
    | none =>
      rw [List.reduceOption_cons_of_none, List.filter_cons_of_pos rfl, List.length_cons,
        List.length_cons]
      omega
    | some key =>
      rw [List.reduceOption_cons_of_some, List.filter_cons_of_neg (by simp), List.length_cons,
        List.length_cons]
      omega

/-- Skipping moves a later entry to each index that malformed entries precede. -/
theorem reduceOption_getElem? {α : Type} {raw : List (Option α)} {n : ℕ} {key : α}
    (h : raw[n]? = some (some key)) :
    raw.reduceOption[n]? =
      (key :: (raw.drop (n + 1)).reduceOption)[malformedBefore raw n]? := by
  obtain ⟨hn, hkey⟩ := List.getElem?_eq_some_iff.mp h
  have hcut : raw = raw.take n ++ some key :: raw.drop (n + 1) := by
    rw [← hkey, List.getElem_cons_drop, List.take_append_drop]
  have hlen := length_reduceOption_add (raw.take n)
  rw [List.length_take, Nat.min_eq_left hn.le] at hlen
  have hdown : n - (raw.take n).reduceOption.length = malformedBefore raw n := by
    unfold malformedBefore
    omega
  conv_lhs => rw [hcut, List.reduceOption_append, List.reduceOption_cons_of_some]
  rw [List.getElem?_append_right (by omega), hdown]

/-! ## Exact indexes -/

/-- The value is the exact index of the key among the entries. -/
def ExactAt (raw : List (Option String)) (v : Value) (key : String) : Prop :=
  ∃ n : ℕ, indexValue v = .ok (n : ℤ) ∧ raw[n]? = some (some key)

/-- The value is the index of a well-formed entry that no malformed one precedes, or that is
repeated as far behind it as malformed ones precede it. -/
def InPlace (raw : List (Option String)) (v : Value) : Prop :=
  ∃ (n : ℕ) (key : String), indexValue v = .ok (n : ℤ) ∧ raw[n]? = some (some key) ∧
    (malformedBefore raw n = 0 ∨
      (raw.drop (n + 1)).reduceOption[malformedBefore raw n - 1]? = some key)

theorem inPlace_iff {raw : List (Option String)} {n : ℕ} {key : String}
    (h : raw[n]? = some (some key)) :
    raw.reduceOption[n]? = some key ↔ malformedBefore raw n = 0 ∨
      (raw.drop (n + 1)).reduceOption[malformedBefore raw n - 1]? = some key := by
  rw [reduceOption_getElem? h]
  cases hskipped : malformedBefore raw n with
  | zero => simp
  | succ d => simp

theorem resolveKey_some {keys : List String} {v : Value} {key : String}
    (h : resolveKey keys v = .ok (some key)) :
    ∃ i, indexValue v = .ok i ∧ pyIndex keys i = some key := by
  unfold resolveKey at h
  cases hv : indexValue v with
  | ok i =>
    rw [hv] at h
    exact ⟨i, rfl, Except.ok.inj h⟩
  | error e =>
    rw [hv] at h
    cases e <;> cases h

theorem pyIndex_natCast (keys : List String) (n : ℕ) : pyIndex keys n = keys[n]? := by
  rw [pyIndex, if_pos (Int.natCast_nonneg n), Int.toNat_natCast]

/-- A key that was resolved stands at its exact index where the index is in place. -/
theorem exactAt_iff {raw : List (Option String)} {v : Value} {key : String}
    (h : resolveKey raw.reduceOption v = .ok (some key)) : ExactAt raw v key ↔ InPlace raw v := by
  obtain ⟨i, hi, hkey⟩ := resolveKey_some h
  constructor
  · rintro ⟨n, hn, hraw⟩
    obtain rfl := Except.ok.inj (hi.symm.trans hn)
    rw [pyIndex_natCast] at hkey
    exact ⟨n, key, hn, hraw, (inPlace_iff hraw).mp hkey⟩
  · rintro ⟨n, other, hn, hraw, hplace⟩
    obtain rfl := Except.ok.inj (hi.symm.trans hn)
    rw [pyIndex_natCast, (inPlace_iff hraw).mpr hplace] at hkey
    obtain rfl := Option.some.inj hkey
    exact ⟨n, hn, hraw⟩

/-! ## Instructions -/

theorem resolveAll_some {keys : List String} {vs : List Value} : ∀ {accounts : List String},
    resolveAll keys vs = .ok (some accounts) →
      List.Forall₂ (fun v key => resolveKey keys v = .ok (some key)) vs accounts := by
  induction vs with
  | nil =>
    intro accounts h
    obtain rfl := Option.some.inj (Except.ok.inj h)
    exact .nil
  | cons v vs ih =>
    intro accounts h
    obtain ⟨first, hfirst, h⟩ := Faults.bind_ok h
    cases first with
    | none => cases h
    | some key =>
      obtain ⟨rest, hrest, h⟩ := Faults.bind_ok h
      cases rest with
      | none => cases h
      | some rest =>
        obtain rfl := Option.some.inj (Except.ok.inj h)
        exact .cons hfirst (ih hrest)

theorem resolve_some {keys : List String} {item : Dict} {program : String}
    {accounts : List String} (h : resolve keys item = .ok (some (program, accounts))) :
    resolveKey keys (item.get "programIdIndex") = .ok (some program) ∧
      ∃ indexes, accountIndexes item = some indexes ∧
        resolveAll keys indexes = .ok (some accounts) := by
  obtain ⟨first, hfirst, h⟩ := Faults.bind_ok h
  cases first with
  | none => cases h
  | some key =>
    cases hindexes : accountIndexes item with
    | none =>
      simp only [hindexes] at h
      cases h
    | some indexes =>
      simp only [hindexes] at h
      obtain ⟨all, hall, h⟩ := Faults.bind_ok h
      cases all with
      | none => cases h
      | some found =>
        obtain ⟨rfl, rfl⟩ := Prod.mk.inj (Option.some.inj (Except.ok.inj h))
        exact ⟨hfirst, indexes, rfl, hall⟩

/-- The program and every account stand at the exact indexes that the instruction names. -/
def ResolvesExactly (raw : List (Option String)) (item : Dict) (program : String)
    (accounts : List String) : Prop :=
  ExactAt raw (item.get "programIdIndex") program ∧
    List.Forall₂ (ExactAt raw) ((accountIndexes item).getD []) accounts

/-- Every index that the instruction names is in place. -/
def AllInPlace (raw : List (Option String)) (item : Dict) : Prop :=
  InPlace raw (item.get "programIdIndex") ∧
    ∀ v ∈ (accountIndexes item).getD [], InPlace raw v

theorem forall₂_exactAt_iff {raw : List (Option String)} {vs : List Value}
    {accounts : List String}
    (h : List.Forall₂ (fun v key => resolveKey raw.reduceOption v = .ok (some key)) vs accounts) :
    List.Forall₂ (ExactAt raw) vs accounts ↔ ∀ v ∈ vs, InPlace raw v := by
  induction h with
  | nil => simp
  | cons hfirst _ ih => rw [List.forall₂_cons, exactAt_iff hfirst, ih, List.forall_mem_cons]

theorem resolvesExactly_iff {raw : List (Option String)} {item : Dict} {program : String}
    {accounts : List String} (h : resolve raw.reduceOption item = .ok (some (program, accounts))) :
    ResolvesExactly raw item program accounts ↔ AllInPlace raw item := by
  obtain ⟨hprogram, indexes, hindexes, hall⟩ := resolve_some h
  unfold ResolvesExactly AllInPlace
  rw [hindexes, Option.getD_some, exactAt_iff hprogram, forall₂_exactAt_iff (resolveAll_some hall)]

/-! ## Supported decodes -/

section Supported

variable {sha256 : Bytes → Digest}

theorem checkCreation_ok {variant : CreateVariant} {accounts : List String} {creation : Creation}
    (h : checkCreation sha256 variant accounts = .ok (.ok creation)) :
    creation.mint = roleAccount accounts 0 ∧ creation.bondingCurve = roleAccount accounts 2 ∧
      creation.programId = pumpProgramId := by
  unfold checkCreation at h
  by_cases hquote : variant = .createV2 ∧ (!pinnedQuote accounts) = true
  · rw [if_pos hquote] at h
    cases h
  rw [if_neg hquote] at h
  by_cases hfixed : (variant.fixed.any fun f => accounts.getD f.1 "" ≠ f.2) = true
  · rw [if_pos hfixed] at h
    cases h
  rw [if_neg hfixed] at h
  cases hmint : b58decode (accounts.getD 0 "") with
  | none =>
    simp only [hmint] at h
    cases h
  | some mintRaw =>
    simp only [hmint] at h
    by_cases hlength : mintRaw.length ≠ 32
    · rw [if_pos hlength] at h
      cases h
    rw [if_neg hlength] at h
    obtain ⟨authority, _, h⟩ := Faults.bind_ok h
    obtain ⟨curve, _, h⟩ := Faults.bind_ok h
    split_ifs at h
    · cases h
    · obtain rfl := Except.ok.inj (Except.ok.inj h)
      exact ⟨rfl, rfl, rfl⟩

theorem decodeCreationInstruction_ok {keys : List String} {item : Dict} {creation : Creation}
    (h : decodeSupportedPumpCreationInstruction sha256 item keys = .ok (.ok creation)) :
    ∃ accounts, resolve keys item = .ok (some (creation.programId, accounts)) ∧
      creation.mint = roleAccount accounts 0 ∧ creation.bondingCurve = roleAccount accounts 2 := by
  obtain ⟨resolved, hresolved, h⟩ := Faults.bind_ok h
  cases resolved with
  | none => cases h
  | some found =>
    obtain ⟨program, accounts⟩ := found
    cases hdata : instructionData item with
    | none =>
      simp only [hdata] at h
      cases h
    | some data =>
      simp only [hdata] at h
      by_cases hprogram : program ≠ pumpProgramId ∨ data.length < 8
      · rw [if_pos hprogram] at h
        cases h
      rw [if_neg hprogram] at h
      cases hvariant : createVariant data accounts with
      | none =>
        simp only [hvariant] at h
        cases h
      | some variant =>
        simp only [hvariant] at h
        obtain ⟨hmint, hcurve, hpump⟩ := checkCreation_ok h
        have hsame : program = pumpProgramId := not_not.mp (not_or.mp hprogram).1
        rw [hpump, ← hsame]
        exact ⟨accounts, hresolved, hmint, hcurve⟩

theorem mem_creationMatches {keys : List String} {items : List Dict} :
    ∀ {found : List (Dict × Creation)}, creationMatches sha256 keys items = .ok found →
      ∀ e ∈ found, decodeSupportedPumpCreationInstruction sha256 e.1 keys = .ok (.ok e.2) := by
  induction items with
  | nil =>
    intro found h e he
    obtain rfl := Except.ok.inj h
    cases he
  | cons item items ih =>
    intro found h e he
    obtain ⟨decoded, hdecoded, h⟩ := Faults.bind_ok h
    obtain ⟨later, hlater, h⟩ := Faults.bind_ok h
    cases decoded with
    | error reason =>
      obtain rfl := Except.ok.inj h
      exact ih hlater e he
    | ok creation =>
      obtain rfl := Except.ok.inj h
      rcases List.mem_cons.mp he with rfl | he
      · exact hdecoded
      · exact ih hlater e he

/-- A creation that is reported was decoded from the instruction under the keys. -/
theorem decodeCreationWithItem_ok {tx item : Dict} {creation : CreationTransaction}
    (h : decodeCreationWithItem sha256 tx = .ok (.ok (item, creation))) :
    ∃ keys, accountKeys tx = .ok keys ∧
      decodeSupportedPumpCreationInstruction sha256 item keys = .ok (.ok creation.toCreation) := by
  unfold decodeCreationWithItem at h
  by_cases hempty : tx = []
  · rw [if_pos hempty] at h
    cases h
  rw [if_neg hempty] at h
  by_cases hversion : (!supportedVersion (tx.get "version")) = true
  · rw [if_pos hversion] at h
    cases h
  rw [if_neg hversion] at h
  by_cases hmeta : (!errorFree (tx.get "meta")) = true
  · rw [if_pos hmeta] at h
    cases h
  rw [if_neg hmeta] at h
  obtain ⟨keys, hkeys, h⟩ := Faults.bind_ok h
  obtain ⟨items, hitems, h⟩ := Faults.bind_ok h
  obtain ⟨found, hfound, h⟩ := Faults.bind_ok h
  have hmem := mem_creationMatches hfound
  match found, h with
  | [], h => cases h
  | _ :: _ :: _, h => cases h
  | [(first, decoded)], h =>
    cases hslot : intOf (tx.get "slot") with
    | none =>
      simp only [hslot] at h
      cases h
    | some slot =>
      simp only [hslot] at h
      split_ifs at h
      · cases h
      obtain ⟨blockTime, _, h⟩ := Faults.bind_ok h
      split_ifs at h
      · cases h
      · obtain ⟨rfl, rfl⟩ := Prod.mk.inj (Except.ok.inj (Except.ok.inj h))
        exact ⟨keys, hkeys, hmem _ List.mem_cons_self⟩

theorem migrateAccounts_some {keys : List String} {item : Dict} {accounts : List String}
    (h : migrateAccounts keys item = .ok (some accounts)) :
    resolve keys item = .ok (some (pumpProgramId, accounts)) := by
  obtain ⟨resolved, hresolved, h⟩ := Faults.bind_ok h
  cases resolved with
  | none => cases h
  | some found =>
    obtain ⟨program, all⟩ := found
    dsimp only at h
    split_ifs at h with hmigrate
    · obtain rfl := Option.some.inj (Except.ok.inj h)
      rw [hresolved, hmigrate.1]
    · cases h

theorem mem_migrateMatches {keys : List String} {items : List Dict} :
    ∀ {found : List (Dict × List String)}, migrateMatches keys items = .ok (some found) →
      ∀ e ∈ found, migrateAccounts keys e.1 = .ok (some e.2) := by
  induction items with
  | nil =>
    intro found h e he
    obtain rfl := Option.some.inj (Except.ok.inj h)
    cases he
  | cons item items ih =>
    intro found h e he
    obtain ⟨first, hfirst, h⟩ := Faults.bind_ok h
    cases first with
    | none => exact ih h e he
    | some accounts =>
      dsimp only at h
      split_ifs at h
      · cases h
      obtain ⟨later, hlater, h⟩ := Faults.bind_ok h
      cases later with
      | none => cases h
      | some later =>
        obtain rfl := Option.some.inj (Except.ok.inj h)
        rcases List.mem_cons.mp he with rfl | he
        · exact hfirst
        · exact ih hlater e he

/-- A migration that is reported has the accounts of the instruction, and they were validated. -/
theorem decodeMigrationWithItem_ok {tx item : Dict} {migration : Migration}
    (h : decodeMigrationWithItem sha256 tx = .ok (.ok (item, migration))) :
    ∃ keys check, accountKeys tx = .ok keys ∧
      resolve keys item = .ok (some (pumpProgramId, migration.accounts)) ∧
      validateMigrateAccountRoles sha256 migration.accounts none = .ok check ∧
      migration.mint = roleAccount migration.accounts 2 := by
  unfold decodeMigrationWithItem at h
  by_cases hempty : tx = []
  · rw [if_pos hempty] at h
    cases h
  rw [if_neg hempty] at h
  by_cases hversion : (!supportedVersion (tx.get "version")) = true
  · rw [if_pos hversion] at h
    cases h
  rw [if_neg hversion] at h
  by_cases hmeta : (!errorFree (tx.get "meta")) = true
  · rw [if_pos hmeta] at h
    cases h
  rw [if_neg hmeta] at h
  obtain ⟨keys, hkeys, h⟩ := Faults.bind_ok h
  obtain ⟨items, hitems, h⟩ := Faults.bind_ok h
  obtain ⟨found, hfound, h⟩ := Faults.bind_ok h
  match found, hfound, h with
  | none, _, h => cases h
  | some [], _, h => cases h
  | some (_ :: _ :: _), _, h => cases h
  | some [(first, accounts)], hfound, h =>
    have hmem := mem_migrateMatches hfound _ List.mem_cons_self
    cases hcheck : validateMigrateAccountRoles sha256 accounts none with
    | error failure =>
      simp only [hcheck] at h
      cases h
    | ok check =>
      cases hslot : intOf (tx.get "slot") with
      | none =>
        simp only [hcheck, hslot] at h
        cases h
      | some slot =>
        simp only [hcheck, hslot] at h
        split_ifs at h
        · cases h
        obtain ⟨blockTime, _, h⟩ := Faults.bind_ok h
        obtain ⟨rfl, rfl⟩ := Prod.mk.inj (Except.ok.inj (Except.ok.inj h))
        exact ⟨keys, check, hkeys, migrateAccounts_some hmem, hcheck, rfl⟩

end Supported

/-- A decoder reports the instruction of the transaction as supported. -/
inductive Supports (sha256 : Bytes → Digest) (tx item : Dict) : Prop
  | creation (creation : CreationTransaction)
      (h : decodeCreationWithItem sha256 tx = .ok (.ok (item, creation)))
  | migration (migration : Migration)
      (h : decodeMigrationWithItem sha256 tx = .ok (.ok (item, migration)))

/-- What the decoders report is read from the resolved program and accounts. -/
def ReportsFrom (sha256 : Bytes → Digest) (tx item : Dict) (program : String)
    (accounts : List String) : Prop :=
  (∀ creation, decodeCreationWithItem sha256 tx = .ok (.ok (item, creation)) →
    creation.programId = program ∧ creation.mint = roleAccount accounts 0 ∧
      creation.bondingCurve = roleAccount accounts 2) ∧
  ∀ migration, decodeMigrationWithItem sha256 tx = .ok (.ok (item, migration)) →
    program = pumpProgramId ∧ migration.accounts = accounts

theorem supports_resolves {sha256 : Bytes → Digest} {tx item : Dict}
    (h : Supports sha256 tx item) :
    ∃ keys program accounts, accountKeys tx = .ok keys ∧
      resolve keys item = .ok (some (program, accounts)) := by
  cases h with
  | creation creation h =>
    obtain ⟨keys, hkeys, hdecoded⟩ := decodeCreationWithItem_ok h
    obtain ⟨accounts, hresolve, _⟩ := decodeCreationInstruction_ok hdecoded
    exact ⟨keys, _, accounts, hkeys, hresolve⟩
  | migration migration h =>
    obtain ⟨keys, _, hkeys, hresolve, _⟩ := decodeMigrationWithItem_ok h
    exact ⟨keys, _, _, hkeys, hresolve⟩

theorem reportsFrom {sha256 : Bytes → Digest} {tx item : Dict} {keys : List String}
    {program : String} {accounts : List String} (hkeys : accountKeys tx = .ok keys)
    (h : resolve keys item = .ok (some (program, accounts))) :
    ReportsFrom sha256 tx item program accounts := by
  constructor
  · intro creation hcreation
    obtain ⟨keys', hkeys', hdecoded⟩ := decodeCreationWithItem_ok hcreation
    obtain ⟨accounts', hresolve, hmint, hcurve⟩ := decodeCreationInstruction_ok hdecoded
    obtain rfl := Except.ok.inj (hkeys.symm.trans hkeys')
    obtain ⟨rfl, rfl⟩ := Prod.mk.inj (Option.some.inj (Except.ok.inj (h.symm.trans hresolve)))
    exact ⟨rfl, hmint, hcurve⟩
  · intro migration hmigration
    obtain ⟨keys', _, hkeys', hresolve, _⟩ := decodeMigrationWithItem_ok hmigration
    obtain rfl := Except.ok.inj (hkeys.symm.trans hkeys')
    obtain ⟨rfl, rfl⟩ := Prod.mk.inj (Option.some.inj (Except.ok.inj (h.symm.trans hresolve)))
    exact ⟨rfl, rfl⟩

/-- What a supported instruction resolves to stands at the exact indexes where these are in
place, and only there. -/
theorem account_resolution_exact_iff {sha256 : Bytes → Digest} {tx item : Dict}
    {raw : List (Option String)} (hraw : keyEntries tx = .ok raw) (h : Supports sha256 tx item) :
    ∃ program accounts, resolve raw.reduceOption item = .ok (some (program, accounts)) ∧
      ReportsFrom sha256 tx item program accounts ∧
      (ResolvesExactly raw item program accounts ↔ AllInPlace raw item) := by
  obtain ⟨keys, program, accounts, hkeys, hresolve⟩ := supports_resolves h
  have hfrom : ReportsFrom sha256 tx item program accounts := reportsFrom hkeys hresolve
  have hreduced : accountKeys tx = .ok raw.reduceOption := by rw [accountKeys, hraw]; rfl
  obtain rfl := Except.ok.inj (hkeys.symm.trans hreduced)
  exact ⟨program, accounts, hresolve, hfrom, resolvesExactly_iff hresolve⟩

/-! ## A creation over given entries -/

def creationKeys : List String :=
  [wsolMint, "TSLvdd1pWpHVjahSpsvCXUbgwsL3JAcvokwaKt1eokM",
    "6PiyjiAPkp2KdZtqkyQYzVsD1Prv7t8v4TaYd8ip4YFd", metadataProgramId, systemProgramId,
    tokenProgramId, associatedTokenProgramId, rentSysvarId, pumpProgramId]

/-- The indexes of the accounts of a `create` instruction over these keys. -/
def creationIndexes : List ℤ := [0, 1, 2, 4, 4, 3, 4, 4, 4, 5, 6, 7, 4, 8]

def creationItem : Dict :=
  [("accounts", .list (creationIndexes.map Value.int)), ("data", .str "52zoRTfx1nE"),
    ("programIdIndex", .int 8)]

/-- A transaction with the instruction; the entries in front of the keys are given. -/
def creationTx (lead : List Value) : Dict :=
  [("blockTime", .int 1), ("meta", .dict []), ("slot", .int 1),
    ("transaction", .dict [("message", .dict
      [("accountKeys", .list (lead ++ creationKeys.map Value.str)),
        ("instructions", .list [.dict creationItem])])])]

def createdCoin : CreationTransaction where
  variant := .create
  mint := wsolMint
  bondingCurve := "6PiyjiAPkp2KdZtqkyQYzVsD1Prv7t8v4TaYd8ip4YFd"
  programId := pumpProgramId
  contractHash := pumpIdlSha256
  slot := 1
  blockTime := 1

theorem malformedBefore_map_some {α : Type} (keys : List α) (n : ℕ) :
    malformedBefore (keys.map some) n = 0 := by
  rw [malformedBefore, List.length_eq_zero_iff, List.filter_eq_nil_iff]
  intro entry hentry
  obtain ⟨key, _, rfl⟩ := List.mem_map.mp (List.mem_of_mem_take hentry)
  simp

/-- Without malformed entries every index in range is in place. -/
theorem inPlace_of_wellFormed {keys : List String} {i : ℤ} (h : 0 ≤ i ∧ i.toNat < keys.length) :
    InPlace (keys.map some) (.int i) := by
  have hkey : (keys.map some)[i.toNat]? = some (some (keys.get ⟨i.toNat, h.2⟩)) := by
    rw [List.getElem?_map, List.getElem?_eq_getElem h.2]
    rfl
  refine ⟨i.toNat, _, ?_, hkey, Or.inl (malformedBefore_map_some keys _)⟩
  rw [Int.toNat_of_nonneg h.1]
  rfl

/-- The accounts of a creation over well-formed entries stand at their exact indexes. -/
theorem account_resolution_exact_wellFormed :
    ∃ program accounts,
      resolve (creationKeys.map some).reduceOption creationItem = .ok (some (program, accounts)) ∧
        ResolvesExactly (creationKeys.map some) creationItem program accounts := by
  have hdecoded : decodeCreationWithItem Python.sha256 (creationTx []) =
      .ok (.ok (creationItem, createdCoin)) := by decide +kernel
  have hraw : keyEntries (creationTx []) = .ok (creationKeys.map some) := rfl
  obtain ⟨program, accounts, hresolve, _, hiff⟩ :=
    account_resolution_exact_iff hraw (.creation createdCoin hdecoded)
  have hindexes : ∀ i ∈ creationIndexes, 0 ≤ i ∧ i.toNat < creationKeys.length := by decide
  refine ⟨program, accounts, hresolve, hiff.mpr ⟨inPlace_of_wellFormed (by decide), ?_⟩⟩
  intro v hv
  obtain ⟨i, hi, rfl⟩ := List.mem_map.mp hv
  exact inPlace_of_wellFormed (hindexes i hi)

/-- Whatever a decoder of the transaction supports is resolved at the exact indexes. -/
def ResolutionExact (sha256 : Bytes → Digest) (tx : Dict) : Prop :=
  ∀ raw item program accounts, keyEntries tx = .ok raw → Supports sha256 tx item →
    resolve raw.reduceOption item = .ok (some (program, accounts)) →
    ResolvesExactly raw item program accounts

/-- Behind a malformed entry a creation is supported whose indexes name other keys. -/
theorem not_resolutionExact_malformed : ¬ResolutionExact Python.sha256 (creationTx [.int 0]) := by
  have hdecoded : decodeCreationWithItem Python.sha256 (creationTx [.int 0]) =
      .ok (.ok (creationItem, createdCoin)) := by decide +kernel
  have hraw : keyEntries (creationTx [.int 0]) = .ok (none :: creationKeys.map some) := rfl
  intro h
  obtain ⟨⟨n, hn, hkey⟩, _⟩ := h _ _ _ _ hraw (.creation createdCoin hdecoded) rfl
  obtain rfl : n = 8 := Int.ofNat_inj.mp (Except.ok.inj hn).symm
  exact absurd hkey (by decide)

end PrinterV1.Sources
