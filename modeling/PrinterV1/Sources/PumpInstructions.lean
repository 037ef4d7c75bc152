import Mathlib.Data.List.ReduceOption
import PrinterV1.Foundation.Faults
import PrinterV1.Python.Value
import PrinterV1.Sources.ProgramAddresses

/-!
# Pinned creation instructions

The account keys and the instructions of a transaction value, how an instruction
resolves its accounts, and the decoder of Pump creations. An exception that the
decoders do not catch is an outer error.
-/

namespace PrinterV1.Sources

open Python

/-- `value or {}` -/
def orMapping (v : Value) : Value := if v.truthy then v else .dict []

/-- `value or []` -/
def orSequence (v : Value) : Value := if v.truthy then v else .list []

/-- `value.get(key)` -/
def getAttr (v : Value) (key : String) : Except String Value :=
  match v with
  | .dict entries => .ok (Dict.get entries key)
  | v => .error ("'" ++ v.typeName ++ "' object has no attribute 'get'")

/-- The items that a loop over a value runs through. -/
def iterate : Value → Except String (List Value)
  | .list xs => .ok xs
  | .dict entries => .ok (entries.map fun e => .str e.1)
  | .str s => .ok (s.toList.map fun c => .str (String.singleton c))
  | v => .error ("'" ++ v.typeName ++ "' object is not iterable")

def textOf : Value → Option String
  | .str s => some s
  | _ => none

/-- The key of an entry of `accountKeys`, where the entry is well-formed. -/
def entryKey : Value → Option String
  | .dict entries => textOf (Dict.get entries "pubkey")
  | v => textOf v

/-- The entries of `accountKeys`, of the loaded writable and of the loaded readonly addresses; a
malformed one is `none`. -/
def keyEntries (tx : Dict) : Except String (List (Option String)) := do
  let message := orMapping (← getAttr (orMapping (tx.get "transaction")) "message")
  let keys ← iterate (orSequence (← getAttr message "accountKeys"))
  let loaded := orMapping (← getAttr (orMapping (tx.get "meta")) "loadedAddresses")
  let writable ← iterate (orSequence (← getAttr loaded "writable"))
  let readonly ← iterate (orSequence (← getAttr loaded "readonly"))
  return keys.map entryKey ++ writable.map textOf ++ readonly.map textOf

/-- `_account_keys`: malformed entries are skipped. -/
def accountKeys (tx : Dict) : Except String (List String) :=
  (keyEntries tx).map List.reduceOption

def asMapping : Value → Option Dict
  | .dict entries => some entries
  | _ => none

/-- `_instructions` -/
def instructions (tx : Dict) : Except String (List Dict) := do
  let message := orMapping (← getAttr (orMapping (tx.get "transaction")) "message")
  let outer ← iterate (orSequence (← getAttr message "instructions"))
  let groups ← iterate (orSequence (← getAttr (orMapping (tx.get "meta")) "innerInstructions"))
  let inner ← groups.mapM fun group => do iterate (orSequence (← getAttr group "instructions"))
  return (outer ++ inner.flatten).filterMap asMapping

/-- `_instruction_data` -/
def instructionData (item : Dict) : Option Bytes := (textOf (item.get "data")).bind b58decode

/-- `keys[i]`: a negative index counts from the end. -/
def pyIndex (keys : List String) (i : ℤ) : Option String :=
  if 0 ≤ i then keys[i.toNat]?
  else if 0 ≤ (keys.length : ℤ) + i then keys[((keys.length : ℤ) + i).toNat]?
  else none

/-- `int(value)`; the texts of its errors are not used. -/
def indexValue (v : Value) : Except PyError ℤ := v.toInt ⟨fun _ => "", fun _ => ""⟩

/-- `keys[int(value)]`; `none` is an exception that is caught, an overflow is not. -/
def resolveKey (keys : List String) (v : Value) : Except String (Option String) :=
  match indexValue v with
  | .ok i => .ok (pyIndex keys i)
  | .error (.overflowError text) => .error text
  | .error _ => .ok none

/-- `[keys[int(index)] for index in indexes]` -/
def resolveAll (keys : List String) : List Value → Except String (Option (List String))
  | [] => .ok (some [])
  | v :: vs => do
    match ← resolveKey keys v with
    | none => return none
    | some key => return (← resolveAll keys vs).map (key :: ·)

/-- The indexes of the accounts of an instruction. -/
def accountIndexes (item : Dict) : Option (List Value) :=
  (iterate (orSequence (item.get "accounts"))).toOption

/-- The program and the accounts of an instruction. -/
def resolve (keys : List String) (item : Dict) :
    Except String (Option (String × List String)) := do
  match ← resolveKey keys (item.get "programIdIndex") with
  | none => return none
  | some program =>
    match accountIndexes item with
    | none => return none
    | some indexes => return (← resolveAll keys indexes).map fun accounts => (program, accounts)

inductive CreateVariant
  | create | createV2
  deriving DecidableEq, Repr

/-- A supported creation. -/
structure Creation where
  variant : CreateVariant
  mint : String
  bondingCurve : String
  programId : String
  contractHash : String
  deriving DecidableEq, Repr

/-- The accounts at fixed positions. -/
def CreateVariant.fixed : CreateVariant → List (ℕ × String)
  | .create => [(5, metadataProgramId), (8, systemProgramId), (9, tokenProgramId),
      (10, associatedTokenProgramId), (11, rentSysvarId), (13, pumpProgramId)]
  | .createV2 => [(6, systemProgramId), (7, token2022ProgramId), (8, associatedTokenProgramId),
      (9, mayhemProgramId), (15, pumpProgramId)]

/-- The variant of an instruction by its discriminator and the number of its accounts. -/
def createVariant (data : Bytes) (accounts : List String) : Option CreateVariant :=
  if data.take 8 = pumpCreateDiscriminator ∧ accounts.length = 14 then some .create
  else if data.take 8 = pumpCreateV2Discriminator ∧ (accounts.length = 16 ∨ accounts.length = 19)
  then some .createV2
  else none

/-- The quote contract of the longer `create_v2` is one of the pinned ones. -/
def pinnedQuote (accounts : List String) : Bool :=
  accounts.length ≠ 19 ∨ (accounts.getD 16 "" ∈ [wsolMint, usdcMint] ∧
    accounts.getD 18 "" ∈ [tokenProgramId, token2022ProgramId])

def mintAuthoritySeed : Bytes := ascii "mint-authority"

section Creation

variable (sha256 : Bytes → Digest)

/-- The checks of the accounts of a creation, once its variant is known. -/
def checkCreation (variant : CreateVariant) (accounts : List String) :
    Except String (Except String Creation) :=
  if variant = .createV2 ∧ !pinnedQuote accounts then
    .ok (.error "unsupported_create_v2_quote_contract")
  else if variant.fixed.any fun f => accounts.getD f.1 "" ≠ f.2 then
    .ok (.error "creation_fixed_account_mismatch")
  else
    match b58decode (accounts.getD 0 "") with
    | none => .ok (.error "creation_mint_invalid")
    | some mintRaw =>
      if mintRaw.length ≠ 32 then .ok (.error "creation_mint_invalid")
      else do
        let expectedMintAuthority ← deriveProgramAddress sha256 [mintAuthoritySeed] pumpProgramId
        let expectedBondingCurve ←
          deriveProgramAddress sha256 [bondingCurveSeed, mintRaw] pumpProgramId
        if accounts.getD 1 "" ≠ expectedMintAuthority.1 ∨
            accounts.getD 2 "" ≠ expectedBondingCurve.1 then
          return .error "creation_pda_mismatch"
        return .ok ⟨variant, accounts.getD 0 "", accounts.getD 2 "", pumpProgramId, pumpIdlSha256⟩

/-- `decode_supported_pump_creation_instruction` -/
def decodeSupportedPumpCreationInstruction (item : Dict) (keys : List String) :
    Except String (Except String Creation) := do
  match ← resolve keys item with
  | none => return .error "malformed_creation_instruction"
  | some (program, accounts) =>
    match instructionData item with
    | none => return .error "unsupported_creation_layout"
    | some data =>
      if program ≠ pumpProgramId ∨ data.length < 8 then
        return .error "unsupported_creation_layout"
      else
        match createVariant data accounts with
        | none => return .error "unsupported_creation_layout"
        | some variant => checkCreation sha256 variant accounts

/-- `isinstance(value, int)`, and the integer. -/
def intOf : Value → Option ℤ
  | .int n => some n
  | .bool b => some (if b then 1 else 0)
  | _ => none

/-- `isinstance(value, (int, float))` -/
def isNumber : Value → Bool
  | .int _ => true
  | .bool _ => true
  | .float _ => true
  | .inf _ => true
  | .nan => true
  | _ => false

/-- `version in (None, "legacy", 0)` -/
def supportedVersion (version : Value) : Bool :=
  [Value.none, .str "legacy", .int 0].any fun v => version.pyEq v

/-- The value is a mapping whose error is absent. -/
def errorFree (txMeta : Value) : Bool :=
  match txMeta with
  | .dict entries => Dict.get entries "err" = Value.none
  | _ => false

/-- The creations among the instructions, each with its instruction. -/
def creationMatches (keys : List String) : List Dict → Except String (List (Dict × Creation))
  | [] => .ok []
  | item :: rest => do
    let decoded ← decodeSupportedPumpCreationInstruction sha256 item keys
    let later ← creationMatches keys rest
    return match decoded with
      | .ok creation => (item, creation) :: later
      | .error _ => later

/-- A creation with the finalized place of its transaction. -/
structure CreationTransaction extends Creation where
  slot : ℤ
  blockTime : ℤ
  deriving DecidableEq, Repr

/-- `int(value)`, as a call that may raise. -/
def intOrRaise (v : Value) : Except String ℤ := (indexValue v).mapError PyError.text

/-- `decode_supported_pump_creation_transaction`, with the instruction that matched. -/
def decodeCreationWithItem (tx : Dict) :
    Except String (Except String (Dict × CreationTransaction)) := do
  if tx = [] then return .error "transaction_missing"
  else if !supportedVersion (tx.get "version") then return .error "unsupported_transaction_version"
  else if !errorFree (tx.get "meta") then return .error "transaction_failed_or_meta_missing"
  else
    let keys ← accountKeys tx
    let decoded ← creationMatches sha256 keys (← instructions tx)
    match decoded with
    | [(item, creation)] =>
      match intOf (tx.get "slot") with
      | none => return .error "finalized_slot_or_block_time_missing"
      | some slot =>
        if slot < 0 ∨ !isNumber (tx.get "blockTime") then
          return .error "finalized_slot_or_block_time_missing"
        else
          let blockTime ← intOrRaise (tx.get "blockTime")
          if blockTime ≤ 0 then return .error "finalized_slot_or_block_time_missing"
          else return .ok (item, { toCreation := creation, slot, blockTime })
    | _ => return .error "exactly_one_supported_create_required"

/-- `decode_supported_pump_creation_transaction` -/
def decodeSupportedPumpCreationTransaction (tx : Option Dict) :
    Except String (Except String CreationTransaction) :=
  match tx with
  | none => .ok (.error "transaction_missing")
  | some tx => (decodeCreationWithItem sha256 tx).map fun r => r.map Prod.snd

end Creation

end PrinterV1.Sources
