import PrinterV1.Foundation.Faults
import PrinterV1.Python.Value
import PrinterV1.Sources.Base58

/-!
# Mint instructions of a transaction

How the token-age source finds the instructions of a transaction that initialise a
mint: parsed or compiled, at the top level or inside another one, with the account
keys of the message and of its lookup tables. A response is what `json.loads` made
of it, so that anything may stand where a mapping or a list is expected.
-/

namespace PrinterV1.Sources.TokenAge

open Python Faults

/-- An exception, with its text. -/
structure Raised where
  text : String
  deriving DecidableEq, Repr

def Raised.ofPy (e : PyError) : Raised := ⟨e.text⟩

/-- `value or {}`, on which `.get` is called. -/
def mappingOr (v : Value) : Except Raised Dict :=
  if v.truthy then
    match v with
    | .dict entries => .ok entries
    | v => .error ⟨"'" ++ v.typeName ++ "' object has no attribute 'get'"⟩
  else .ok []

/-- `list(value)` -/
def iterate : Value → Except Raised (List Value)
  | .list xs => .ok xs
  | .str s => .ok (s.toList.map fun c => .str (String.ofList [c]))
  | .dict entries => .ok (entries.map fun e => .str e.1)
  | v => .error ⟨"'" ++ v.typeName ++ "' object is not iterable"⟩

/-- `list(value or [])` -/
def iterateOr (v : Value) : Except Raised (List Value) := if v.truthy then iterate v else .ok []

/-- `value or ""` -/
def orEmpty (v : Value) : Value := if v.truthy then v else .str ""

/-- `value in texts`, for a set of texts. -/
def memTexts (v : Value) (texts : List String) : Except Raised Bool :=
  match v with
  | .str s => .ok (s ∈ texts)
  | v => if v.hashable then .ok false else .error ⟨"unhashable type: '" ++ v.typeName ++ "'"⟩

/-- `keys[n]`, from the end where `n` is negative. -/
def pyIndex {α : Type} (keys : List α) (n : ℤ) : Option α :=
  if 0 ≤ n then keys[n.toNat]?
  else if -n ≤ keys.length then keys[keys.length - (-n).toNat]?
  else none

def splTokenProgramId : String := "TokenkegQfeZyiNwAJbNbGKPFXCWuBvf9Ss623VQ5DA"

def token2022ProgramId : String := "TokenzQdBNbLqP5VEhdkAS6EPFLC1PHnBqCXEpPxuEb"

def allowedTokenPrograms : List String := [splTokenProgramId, token2022ProgramId]

def initMintInstructionTypes : List String := ["initializeMint", "initializeMint2"]

/-- `_INIT_MINT_OPCODE_TYPES` -/
def initMintOpcodeTypes (opcode : UInt8) : Option String :=
  if opcode = 0 then some "initializeMint" else if opcode = 20 then some "initializeMint2" else none

def programLabel (programId : String) : String :=
  if programId = token2022ProgramId then "token_2022" else "spl_token"

/-- `_account_key_string` -/
def accountKeyString (R : Value.Rendering) : Value → Option String
  | .str s => some s
  | .dict entries =>
    let pubkey := Dict.get entries "pubkey"
    if pubkey.truthy then some (pubkey.text R) else none
  | _ => none

/-- The message of a transaction, and its metadata. -/
def messageOf (txResult : Dict) : Except Raised Dict := do
  let transaction ← mappingOr (txResult.get "transaction")
  mappingOr (transaction.get "message")

def metaOf (txResult : Dict) : Except Raised Dict := mappingOr (txResult.get "meta")

/-- `_transaction_account_keys` -/
def transactionAccountKeys (R : Value.Rendering) (txResult : Dict) :
    Except Raised (Option (List String)) := do
  let message ← messageOf txResult
  let metadata ← metaOf txResult
  let static ← iterateOr (message.get "accountKeys")
  let loaded ← mappingOr (metadata.get "loadedAddresses")
  let writable ← iterateOr (loaded.get "writable")
  let readonly ← iterateOr (loaded.get "readonly")
  return (static ++ writable ++ readonly).mapM (accountKeyString R)

/-- The program of a parsed instruction: the one it states, or the one it names. -/
def parsedProgram (instruction : Dict) : Except Raised (Option String) := do
  let programId := orEmpty (instruction.get "programId")
  let allowed ← memTexts programId allowedTokenPrograms
  if allowed then
    match programId with
    | .str s => return some s
    | _ => return none
  else if orEmpty (instruction.get "program") = .str "spl-token" then
    return some splTokenProgramId
  else if orEmpty (instruction.get "program") = .str "spl-token-2022" then
    return some token2022ProgramId
  else return none

/-- `info.get("mint") or info.get("account") or ""` -/
def parsedMint (info : Dict) : Value :=
  if (info.get "mint").truthy then info.get "mint" else orEmpty (info.get "account")

/-- A parsed instruction. -/
def matchParsed (instruction parsed : Dict) (tokenMint : String) :
    Except Raised (Option (String × String)) := do
  match ← parsedProgram instruction with
  | none => return none
  | some programId => do
    let instType := orEmpty (parsed.get "type")
    let info ← mappingOr (parsed.get "info")
    let known ← memTexts instType initMintInstructionTypes
    match instType with
    | .str s =>
      if known ∧ parsedMint info = .str tokenMint then return some (s, programLabel programId)
      else return none
    | _ => return none

/-- `account_keys[int(index)]`, where what is caught finds no key. -/
def keyAt (R : Value.Rendering) (accountKeys : List String) (index : Value) :
    Except Raised (Option String) :=
  match index.toInt R with
  | .ok n => .ok (pyIndex accountKeys n)
  | .error (.overflowError text) => .error ⟨text⟩
  | .error _ => .ok none

/-- `account_indexes[0]` of `list(instruction["accounts"])`. -/
def firstAccountIndex (instruction : Dict) : Option Value :=
  if instruction.has "accounts" then
    match iterate (instruction.get "accounts") with
    | .ok (index :: _) => some index
    | _ => none
  else none

/-- `_decode_base58` -/
def decodeBase58 : Value → Option Bytes
  | .str s => b58decode s
  | _ => none

/-- The first byte of the data, where it initialises a mint. -/
def opcodeType (data : Value) : Option String :=
  match decodeBase58 data with
  | some (opcode :: _) => initMintOpcodeTypes opcode
  | _ => none

/-- The program and the first account of a compiled instruction. -/
def compiledKeys (R : Value.Rendering) (instruction : Dict) (accountKeys : List String) :
    Except Raised (Option (String × String)) := do
  if instruction.has "programIdIndex" then
    match ← keyAt R accountKeys (instruction.get "programIdIndex") with
    | none => return none
    | some programId =>
      match firstAccountIndex instruction with
      | none => return none
      | some index =>
        match ← keyAt R accountKeys index with
        | none => return none
        | some mint => return some (programId, mint)
  else return none

/-- A compiled instruction. -/
def matchCompiled (R : Value.Rendering) (instruction : Dict) (tokenMint : String)
    (accountKeys : List String) : Except Raised (Option (String × String)) := do
  match ← compiledKeys R instruction accountKeys with
  | none => return none
  | some (programId, mint) =>
    if programId ∉ allowedTokenPrograms ∨ mint ≠ tokenMint then return none
    else return (opcodeType (instruction.get "data")).map fun type => (type, programLabel programId)

/-- `_is_init_mint_instruction`: the type and the label of a match. -/
def isInitMintInstruction (R : Value.Rendering) (instruction : Dict) (tokenMint : String)
    (accountKeys : List String) : Except Raised (Option (String × String)) :=
  match instruction.get "parsed" with
  | .dict parsed => matchParsed instruction parsed tokenMint
  | _ => matchCompiled R instruction tokenMint accountKeys

/-- The instructions of the inner groups; `none` where a group is no mapping. -/
def innerInstructions : List Value → Except Raised (Option (List Value))
  | [] => .ok (some [])
  | .dict group :: groups => do
    let instructions ← iterateOr (Dict.get group "instructions")
    let rest ← innerInstructions groups
    return rest.map (instructions ++ ·)
  | _ :: _ => .ok none

/-- The loop over the instructions; `none` where one is no mapping. -/
def initMatches (R : Value.Rendering) (tokenMint : String) (accountKeys : List String) :
    List Value → Except Raised (Option (List (String × String)))
  | [] => .ok (some [])
  | .dict instruction :: instructions => do
    let found ← isInitMintInstruction R instruction tokenMint accountKeys
    let rest ← initMatches R tokenMint accountKeys instructions
    return rest.map (found.toList ++ ·)
  | _ :: _ => .ok none

/-- The keys and the instructions of a transaction, where they can be resolved. -/
def resolveTransaction (R : Value.Rendering) (txResult : Dict) :
    Except Raised (Option (List String × List Value)) := do
  match ← transactionAccountKeys R txResult with
  | none => return none
  | some accountKeys =>
    let message ← messageOf txResult
    let metadata ← metaOf txResult
    let top ← iterateOr (message.get "instructions")
    let groups ← iterateOr (metadata.get "innerInstructions")
    let inner ← innerInstructions groups
    return inner.map fun instructions => (accountKeys, top ++ instructions)

/-- `_transaction_init_matches` -/
def transactionInitMatches (R : Value.Rendering) (txResult : Dict) (tokenMint : String) :
    Except Raised (Option (List (String × String))) := do
  match ← resolveTransaction R txResult with
  | none => return none
  | some (accountKeys, instructions) => initMatches R tokenMint accountKeys instructions

end PrinterV1.Sources.TokenAge
