import PrinterV1.Sources.CreateLayouts
import PrinterV1.Sources.OriginAcquisition
import PrinterV1.Sources.PumpInstructions

/-!
# The decoder of finalized creates

`decode_finalized_create` checks the envelope of a transaction, looks at each of
its compiled instructions once, and decodes the only supported create among them.
Every exception rejects the transaction; those that are no contract violation
have their text alone.
-/

namespace PrinterV1.Sources.Direct

open Python

/-- `MINT_AUTHORITY_ID` -/
def mintAuthorityId : String := "TSLvdd1pWpHVjahSpsvCXUbgwsL3JAcvokwaKt1eokM"

inductive DecodeFault
  | contract (e : PumpContractError)
  | python (text : String)
  deriving DecidableEq, Repr

def reject (code : String) : DecodeFault := .contract ⟨code, ""⟩

def rejectMalformed (detail : String) : DecodeFault := .contract (malformed detail)

/-- A contract violation of a helper. -/
def contractM {α : Type} (x : Except PumpContractError α) : Except DecodeFault α :=
  x.mapError .contract

/-- `value[key]`; a `KeyError` or a `TypeError` is `none`. -/
def subscript (v : Value) (key : String) : Option Value :=
  match v with
  | .dict entries => if Dict.has entries key then some (Dict.get entries key) else none
  | _ => none

/-- `entries.get(key, ())` -/
def getSequence (entries : Dict) (key : String) : Value :=
  if entries.has key then entries.get key else .list []

/-- What a caught `KeyError` or `TypeError` becomes. -/
def orMalformed {α : Type} (x : Option α) (detail : String) : Except DecodeFault α :=
  match x with
  | some a => .ok a
  | none => .error (rejectMalformed detail)

/-- `_pubkey` -/
def pubkey : Value → Except DecodeFault String
  | .str s => .ok s
  | .dict entries =>
    match Dict.get entries "pubkey" with
    | .str s => .ok s
    | _ => .error (rejectMalformed "unresolved account key")
  | _ => .error (rejectMalformed "unresolved account key")

/-- `result["transaction"]["message"]` -/
def messageOf (result : Dict) : Option Value := do
  subscript (← subscript (.dict result) "transaction") "message"

/-- `_resolved_keys`, with the `meta` of the result. -/
def resolvedKeys (result metaFields : Dict) : Except DecodeFault (List String) := do
  let detail := "unresolved account keys"
  let static ← orMalformed ((messageOf result).bind (subscript · "accountKeys")) detail
  let static ← orMalformed (iterate static).toOption detail
  let loaded ←
    match orMapping (metaFields.get "loadedAddresses") with
    | .dict entries => .ok entries
    | v => .error (.python ("'" ++ v.typeName ++ "' object has no attribute 'get'"))
  let writable ← orMalformed (iterate (getSequence loaded "writable")).toOption detail
  let readonly ← orMalformed (iterate (getSequence loaded "readonly")).toOption detail
  (static ++ writable ++ readonly).mapM pubkey

/-- The instructions of an inner group. -/
def groupInstructions : Value → Option (List Value)
  | .dict entries =>
    match Dict.get entries "instructions" with
    | .list xs => some xs
    | _ => none
  | _ => none

/-- `tuple(message["instructions"])` -/
def topLevel (result : Dict) : Option (List Value) := do
  (iterate (← subscript (← messageOf result) "instructions")).toOption

/-- `result["meta"].get("innerInstructions") or ()` -/
def innerGroups (metaFields : Dict) : Except String (List Value) :=
  iterate (orSequence (metaFields.get "innerInstructions"))

/-- `_compiled_instructions` -/
def compiledInstructions (result metaFields : Dict) : Except DecodeFault (List Dict) := do
  let top ← orMalformed (topLevel result) "missing instruction envelope"
  let groups ← (innerGroups metaFields).mapError .python
  let inner ← orMalformed (groups.mapM groupInstructions) "bad inner instructions"
  orMalformed ((top ++ inner.flatten).mapM asMapping) "bad compiled instruction"

/-- `keys[index]`, of an index of type `int` in the range. -/
def keyAt (keys : List String) : Value → Option String
  | .int i => if 0 ≤ i then keys[i.toNat]? else none
  | _ => none

/-- `_instruction_data` -/
def instructionData (instruction : Dict) : Except DecodeFault Bytes :=
  match instruction.get "data" with
  | .str text => contractM (b58decode text)
  | _ => .error (rejectMalformed "parsed instruction has no raw data")

/-- `_instruction_program` -/
def instructionProgram (instruction : Dict) (keys : List String) : Except DecodeFault String :=
  orMalformed (keyAt keys (instruction.get "programIdIndex")) "bad program index"

/-- `_instruction_accounts` -/
def instructionAccounts (instruction : Dict) (keys : List String) (expected : ℕ) :
    Except DecodeFault (List String) :=
  let arity := "create requires " ++ toString expected ++ " accounts"
  match instruction.get "accounts" with
  | .list indices =>
    if indices.length ≠ expected then .error (rejectMalformed arity)
    else orMalformed (indices.mapM (keyAt keys)) "bad create account index"
  | _ => .error (rejectMalformed arity)

/-- `_instruction_account_keys` -/
def instructionAccountKeys (instruction : Dict) (keys : List String) : List String :=
  match instruction.get "accounts" with
  | .list indices => indices.filterMap (keyAt keys)
  | _ => []

/-- What one turn of the loop over the instructions finds. -/
inductive Finding
  | wrongProgram
  | create (instruction : Dict) (data : Bytes)
  | createV2 (instruction : Dict) (data : Bytes)
  | event (e : CreateEvent)
  | familyMarker
  | other

/-- One turn of the loop. -/
def classify (keys : List String) (instruction : Dict) : Except DecodeFault Finding := do
  let data ← instructionData instruction
  let program ← instructionProgram instruction keys
  if createDiscriminator <+: data then
    return if program ≠ pumpProgramId then .wrongProgram else .create instruction data
  else if createV2Discriminator <+: data then
    return if program ≠ pumpProgramId then .wrongProgram else .createV2 instruction data
  else if program = pumpProgramId ∧ (createEventDiscriminator <+: data ∨
      eventCpiWrapper ++ createEventDiscriminator <+: data) then
    return .event (← contractM (decodeEvent data))
  else if program = pumpProgramId ∧ mintAuthorityId ∈ instructionAccountKeys instruction keys then
    return .familyMarker
  else return .other

section Accounts

variable (sha256 : Bytes → Digest)

/-- `accounts[index] != derive_program_address(seeds, program_id)` -/
def checkAddress (accounts : List String) (index : ℕ) (seeds : List Bytes)
    (programId detail : String) : Except PumpContractError Unit := do
  let expected ← deriveProgramAddress sha256 seeds programId
  if accounts.getD index "" ≠ expected then throw (malformed detail)

/-- The accounts at fixed positions, and the mint. -/
def checkFixed (accounts : List String) (exact : List (ℕ × String)) (detail : String) :
    Except PumpContractError Bytes := do
  if exact.any fun e => accounts.getD e.1 "" ≠ e.2 then throw (malformed detail)
  let mintBytes ← b58decode (accounts.getD 0 "")
  if mintBytes.length ≠ 32 then throw (malformed "mint is not a pubkey")
  return mintBytes

/-- `_validate_account_identities` -/
def validateAccountIdentities (accounts : List String) : Except PumpContractError Unit := do
  let mintBytes ← checkFixed accounts
    [(1, mintAuthorityId), (4, pumpGlobalId), (5, metadataProgramId), (8, systemProgramId),
      (9, tokenProgramId), (10, associatedTokenProgramId), (11, rentSysvarId),
      (12, pumpEventAuthorityId), (13, pumpProgramId)] "fixed create account mismatch"
  checkAddress sha256 accounts 2 [ascii "bonding-curve", mintBytes] pumpProgramId
    "bonding curve PDA mismatch"
  let curve ← b58decode (accounts.getD 2 "")
  let token ← b58decode tokenProgramId
  checkAddress sha256 accounts 3 [curve, token, mintBytes] associatedTokenProgramId
    "bonding curve ATA mismatch"
  let metadata ← b58decode metadataProgramId
  checkAddress sha256 accounts 6 [ascii "metadata", metadata, mintBytes] metadataProgramId
    "metadata PDA mismatch"

/-- `_validate_create_v2_account_identities` -/
def validateCreateV2AccountIdentities (accounts : List String) : Except PumpContractError Unit := do
  let mintBytes ← checkFixed accounts
    [(1, mintAuthorityId), (4, pumpGlobalId), (6, systemProgramId), (7, token2022ProgramId),
      (8, associatedTokenProgramId), (9, mayhemProgramId), (14, pumpEventAuthorityId),
      (15, pumpProgramId)] "fixed create_v2 account mismatch"
  checkAddress sha256 accounts 2 [ascii "bonding-curve", mintBytes] pumpProgramId
    "bonding curve PDA mismatch"
  let curve ← b58decode (accounts.getD 2 "")
  let token ← b58decode token2022ProgramId
  checkAddress sha256 accounts 3 [curve, token, mintBytes] associatedTokenProgramId
    "bonding curve ATA mismatch"
  checkAddress sha256 accounts 10 [ascii "global-params"] mayhemProgramId
    "global params PDA mismatch"
  checkAddress sha256 accounts 11 [ascii "sol-vault"] mayhemProgramId "sol vault PDA mismatch"
  checkAddress sha256 accounts 12 [ascii "mayhem-state", mintBytes] mayhemProgramId
    "mayhem state PDA mismatch"

/-- A create and its accounts, checked; the flags are those of the newer layout. -/
structure CheckedCreate where
  layout : String
  name : String
  symbol : String
  uri : String
  creator : String
  accounts : List String
  tokenProgram : String
  flags : Option (Bool × Bool)

/-- The dispatch on the layout of the only create. -/
def checkCreate (keys : List String) (creates createsV2 : List (Dict × Bytes)) :
    Except DecodeFault CheckedCreate := do
  match createsV2, creates with
  | (instruction, data) :: _, _ =>
    let args ← contractM (decodeCreateV2Args data)
    let accounts ← instructionAccounts instruction keys 16
    contractM (validateCreateV2AccountIdentities sha256 accounts)
    return {
      layout := createLayoutV2, name := args.name, symbol := args.symbol, uri := args.uri
      creator := args.creator, accounts, tokenProgram := token2022ProgramId
      flags := some (args.isMayhemMode, args.isCashbackEnabled) }
  | [], (instruction, data) :: _ =>
    let args ← contractM (decodeCreateArgs data)
    let accounts ← instructionAccounts instruction keys 14
    contractM (validateAccountIdentities sha256 accounts)
    return {
      layout := createLayoutLegacy, name := args.name, symbol := args.symbol, uri := args.uri
      creator := args.creator, accounts, tokenProgram := tokenProgramId, flags := none }
  | [], [] => throw (reject "NOT_SUPPORTED_CREATE")

/-- The event says what the create says. -/
def CreateEvent.agrees (e : CreateEvent) (c : CheckedCreate) : Bool :=
  e.name = c.name && e.symbol = c.symbol && e.uri = c.uri && e.mint = c.accounts.getD 0 "" &&
    e.bondingCurve = c.accounts.getD 2 "" && e.creator = c.creator &&
    e.tokenProgram = c.tokenProgram &&
    c.flags.all fun flags => e.isMayhemMode = flags.1 && e.isCashbackEnabled = flags.2

def createsOf (findings : List Finding) : List (Dict × Bytes) :=
  findings.filterMap fun
    | .create instruction data => some (instruction, data)
    | _ => none

def createsV2Of (findings : List Finding) : List (Dict × Bytes) :=
  findings.filterMap fun
    | .createV2 instruction data => some (instruction, data)
    | _ => none

def eventsOf (findings : List Finding) : List CreateEvent :=
  findings.filterMap fun
    | .event e => some e
    | _ => none

def Finding.isWrongProgram : Finding → Bool
  | .wrongProgram => true
  | _ => false

def Finding.isFamilyMarker : Finding → Bool
  | .familyMarker => true
  | _ => false

/-- What follows the loop. -/
def decideCreate (keys : List String) (expectedMint : Option String) (findings : List Finding) :
    Except DecodeFault CheckedCreate := do
  let creates := createsOf findings
  let createsV2 := createsV2Of findings
  if findings.any Finding.isWrongProgram then throw (reject "WRONG_PROGRAM")
  if creates ≠ [] ∧ createsV2 ≠ [] then throw (reject "AMBIGUOUS_CREATE")
  if creates = [] ∧ createsV2 = [] ∧ findings.any Finding.isFamilyMarker then
    throw (reject "UNSUPPORTED_PUMP_CREATE_LAYOUT")
  if creates = [] ∧ createsV2 = [] then throw (reject "NOT_SUPPORTED_CREATE")
  if 1 < creates.length ∨ 1 < createsV2.length then throw (reject "AMBIGUOUS_CREATE")
  let c ← checkCreate sha256 keys creates createsV2
  if expectedMint.any (· ≠ c.accounts.getD 0 "") then throw (reject "MINT_MISMATCH")
  if (eventsOf findings).any fun e => !e.agrees c then throw (reject "EVENT_MISMATCH")
  return c

/-- The fields of a transaction that passed the checks before its instructions. -/
structure Envelope where
  metaFields : Dict
  slot : ℤ
  blockTime : ℤ

/-- What is observed of a create. -/
def CheckedCreate.observation (c : CheckedCreate) (reference : SignatureReference)
    (e : Envelope) : PumpCreateObservation where
  mint := c.accounts.getD 0 ""
  bondingCurve := c.accounts.getD 2 ""
  associatedBondingCurve := c.accounts.getD 3 ""
  creatorAddress := c.creator
  signature := reference.signature
  slot := e.slot
  blockTime := e.blockTime
  createLayout := c.layout

/-- `version in ("legacy", 0)`, of a value that is no Boolean. -/
def supportedVersion (version : Value) : Bool :=
  (version.pyEq (.str "legacy") || version.pyEq (.int 0)) &&
    match version with
    | .bool _ => false
    | _ => true

/-- A result that is a mapping. -/
def resultOf : Value → Except DecodeFault Dict
  | .dict entries => .ok entries
  | _ => .error (reject "UNAVAILABLE_HISTORY")

/-- A slot, which must be the one of the reference. -/
def slotOf (reference : SignatureReference) : Value → Except DecodeFault ℤ
  | .int slot =>
    if slot < 0 ∨ slot ≠ reference.slot then .error (reject "SIGNATURE_OR_SLOT_MISMATCH")
    else .ok slot
  | _ => .error (reject "SIGNATURE_OR_SLOT_MISMATCH")

def metaOf : Value → Except DecodeFault Dict
  | .none => .error (reject "UNAVAILABLE_HISTORY")
  | .dict entries => .ok entries
  | _ => .error (rejectMalformed "bad meta")

def blockTimeOf : Value → Except DecodeFault ℤ
  | .int blockTime => .ok blockTime
  | _ => .error (reject "UNAVAILABLE_HISTORY")

/-- The first signature must be the one of the reference. -/
def checkSignatures (reference : SignatureReference) : Value → Except DecodeFault Unit
  | .list (first :: _) =>
    if first ≠ .str reference.signature then .error (reject "SIGNATURE_OR_SLOT_MISMATCH")
    else .ok ()
  | _ => .error (reject "SIGNATURE_OR_SLOT_MISMATCH")

/-- The checks before the instructions. -/
def checkEnvelope (result : Dict) (reference : SignatureReference) (cutoffSlot : ℤ) :
    Except DecodeFault Envelope := do
  if !supportedVersion (result.get "version") then
    throw (reject "UNSUPPORTED_TRANSACTION_VERSION")
  let detail := "missing transaction field"
  let slotValue ← orMalformed (subscript (.dict result) "slot") detail
  let blockTimeValue ← orMalformed (subscript (.dict result) "blockTime") detail
  let metaValue ← orMalformed (subscript (.dict result) "meta") detail
  let transaction ← orMalformed (subscript (.dict result) "transaction") detail
  let signatures ← orMalformed (subscript transaction "signatures") detail
  let slot ← slotOf reference slotValue
  if cutoffSlot < slot then throw (reject "POST_CUTOFF")
  let metaFields ← metaOf metaValue
  if Dict.get metaFields "err" ≠ .none then throw (reject "FAILED_TRANSACTION")
  let blockTime ← blockTimeOf blockTimeValue
  checkSignatures reference signatures
  return { metaFields, slot, blockTime }

/-- `decode_finalized_create` -/
def decodeFinalizedCreate (result : Value) (reference : SignatureReference) (cutoffSlot : ℤ)
    (expectedMint : Option String) : Except DecodeFault PumpCreateObservation := do
  if reference.confirmationStatus ≠ "finalized" then throw (reject "MISSING_FINALITY")
  if reference.err ≠ .none then throw (reject "FAILED_TRANSACTION")
  if cutoffSlot < 0 then throw (rejectMalformed "invalid cutoff")
  let result ← resultOf result
  let envelope ← checkEnvelope result reference cutoffSlot
  let keys ← resolvedKeys result envelope.metaFields
  let instructions ← compiledInstructions result envelope.metaFields
  let findings ← instructions.mapM (classify keys)
  let c ← decideCreate sha256 keys expectedMint findings
  return c.observation reference envelope

end Accounts

end PrinterV1.Sources.Direct
