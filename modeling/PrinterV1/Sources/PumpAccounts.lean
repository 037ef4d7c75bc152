import PrinterV1.Python.Base64
import PrinterV1.Python.Value
import PrinterV1.Sources.ProgramAddresses
import PrinterV1.Sources.PumpConstants

/-!
# Pinned accounts

`decode_pumpswap_pool_account` and `decode_pump_bonding_curve_account` read an
account at fixed offsets. `serialise` writes the fields back under the layout.
-/

namespace PrinterV1.Sources

open Python

/-! ## Account values -/

/-- What a decoder reports instead of fields. -/
structure DecodeFailure where
  address : String
  reason : String
  dataLength : Option ℕ := none
  deriving DecidableEq, Repr

/-- The bytes of a hash in hexadecimal digits. -/
def hexdigest (digest : Digest) : String :=
  String.ofList (digest.1.flatMap fun b =>
    [Nat.digitChar (b.toNat / 16), Nat.digitChar (b.toNat % 16)])

/-- The text in which an account value holds its data. -/
def accountText (value : Dict) : Option String :=
  match value.get "data" with
  | .list (.str text :: _) => some text
  | _ => none

/-- The raw bytes of an account value. -/
def accountBytes (value : Dict) : Option Bytes := (accountText value).bind b64decode

/-! ## Pool -/

/-- The fields that a Pool account holds. -/
structure PoolLayout where
  poolBump : ℕ
  index : ℕ
  creator : String
  baseMint : String
  quoteMint : String
  lpMint : String
  poolBaseTokenAccount : String
  poolQuoteTokenAccount : String
  lpSupply : ℕ
  coinCreator : String
  isMayhemMode : Bool
  isCashbackCoin : Bool
  virtualQuoteReserves : ℤ
  appendOnlyExtension : Bool
  deriving DecidableEq, Repr

structure PoolAccount extends PoolLayout where
  poolAddress : String
  accountHash : String
  contractHash : String
  deriving DecidableEq, Repr

def poolLegacyLength : ℕ := 8 + 1 + 2 + 32 * 6 + 8 + 32 + 1

def poolCurrentLength : ℕ := poolLegacyLength + 1 + 16

/-- The fields of the raw bytes, at their offsets. -/
def poolLayout (raw : Bytes) : PoolLayout where
  poolBump := (raw.byteAt 8).toNat
  index := (raw.slice 9 2).toNatLittle
  creator := b58encode (raw.slice 11 32)
  baseMint := b58encode (raw.slice 43 32)
  quoteMint := b58encode (raw.slice 75 32)
  lpMint := b58encode (raw.slice 107 32)
  poolBaseTokenAccount := b58encode (raw.slice 139 32)
  poolQuoteTokenAccount := b58encode (raw.slice 171 32)
  lpSupply := (raw.slice 203 8).toNatLittle
  coinCreator := b58encode (raw.slice 211 32)
  isMayhemMode := raw.byteAt 243 ≠ 0
  isCashbackCoin := raw.length = poolCurrentLength ∧ raw.byteAt 244 ≠ 0
  virtualQuoteReserves :=
    if raw.length = poolCurrentLength then (raw.slice 245 16).toIntLittle else 0
  appendOnlyExtension := raw.length = poolCurrentLength

/-- `decode_pumpswap_pool_account` -/
def decodePumpswapPoolAccount (sha256 : Bytes → Digest) (accountValue : Option Dict)
    (poolAddress : String) : Except DecodeFailure PoolAccount :=
  let failed (reason : String) : Except DecodeFailure PoolAccount :=
    .error ⟨poolAddress, reason, none⟩
  match accountValue with
  | none => failed "pool_account_missing"
  | some value =>
    if value = [] then failed "pool_account_missing"
    else if value.get "owner" ≠ .str pumpswapAmmProgramId then failed "pool_owner_mismatch"
    else
      match accountText value with
      | none => failed "pool_data_encoding_unsupported"
      | some text =>
        match b64decode text with
        | none => failed "pool_data_undecodable"
        | some raw =>
          if raw.length ≠ poolLegacyLength ∧ raw.length ≠ poolCurrentLength then
            .error ⟨poolAddress, "unsupported_pool_account_length", some raw.length⟩
          else if raw.take 8 ≠ pumpswapPoolDiscriminator then failed "pool_discriminator_mismatch"
          else .ok
            { toPoolLayout := poolLayout raw
              poolAddress
              accountHash := hexdigest (sha256 raw)
              contractHash := pumpswapIdlSha256 }

/-! ## Bonding curve -/

/-- The fields that a bonding curve account holds. -/
structure CurveLayout where
  virtualTokenReserves : ℕ
  virtualQuoteReserves : ℕ
  realTokenReserves : ℕ
  realQuoteReserves : ℕ
  tokenTotalSupply : ℕ
  complete : Bool
  creator : String
  isMayhemMode : Bool
  isCashbackCoin : Bool
  quoteMint : String
  deriving DecidableEq, Repr

structure CurveAccount extends CurveLayout where
  bondingCurveAddress : String
  baseMint : String
  accountHash : String
  contractHash : String
  appendOnlyExtension : Bool
  deriving DecidableEq, Repr

def curvePrefixLength : ℕ := 8 + (5 * 8) + 1 + 32 + 1 + 1 + 32

/-- `byte in {0, 1}` -/
def isFlag (b : UInt8) : Bool := b = 0 ∨ b = 1

/-- The fields of the raw bytes, at their offsets. -/
def curveLayout (raw : Bytes) : CurveLayout where
  virtualTokenReserves := (raw.slice 8 8).toNatLittle
  virtualQuoteReserves := (raw.slice 16 8).toNatLittle
  realTokenReserves := (raw.slice 24 8).toNatLittle
  realQuoteReserves := (raw.slice 32 8).toNatLittle
  tokenTotalSupply := (raw.slice 40 8).toNatLittle
  complete := raw.byteAt 48 ≠ 0
  creator := b58encode (raw.slice 49 32)
  isMayhemMode := raw.byteAt 81 ≠ 0
  isCashbackCoin := raw.byteAt 82 ≠ 0
  quoteMint := b58encode (raw.slice 83 32)

/-- The text of an account value whose encoding is named. -/
def encodedText (value : Dict) : Option String :=
  match value.get "data" with
  | .list (.str text :: .str "base64" :: _) => some text
  | _ => none

/-- `decode_pump_bonding_curve_account`; the outer error is what the derivation raises. -/
def decodePumpBondingCurveAccount (sha256 : Bytes → Digest) (accountValue : Option Dict)
    (bondingCurveAddress expectedMint : String) :
    Except String (Except DecodeFailure CurveAccount) :=
  let failed (reason : String) : Except String (Except DecodeFailure CurveAccount) :=
    .ok (.error ⟨bondingCurveAddress, reason, none⟩)
  match accountValue with
  | none => failed "bonding_curve_account_missing"
  | some value =>
    if value.get "owner" ≠ .str pumpProgramId then failed "bonding_curve_owner_mismatch"
    else
      match b58decode expectedMint with
      | none => failed "bonding_curve_expected_mint_invalid"
      | some mintRaw =>
        if mintRaw.length ≠ 32 then failed "bonding_curve_expected_mint_invalid"
        else
          match deriveProgramAddress sha256 [bondingCurveSeed, mintRaw] pumpProgramId with
          | .error message => .error message
          | .ok expectedCurve =>
            if bondingCurveAddress ≠ expectedCurve.1 then failed "bonding_curve_pda_mismatch"
            else
              match encodedText value with
              | none => failed "bonding_curve_data_encoding_unsupported"
              | some text =>
                match b64decode text with
                | none => failed "bonding_curve_data_undecodable"
                | some raw =>
                  if raw.length < curvePrefixLength then
                    .ok (.error ⟨bondingCurveAddress, "unsupported_bonding_curve_account_length",
                      some raw.length⟩)
                  else if raw.take 8 ≠ pumpBondingCurveDiscriminator then
                    failed "bonding_curve_discriminator_mismatch"
                  else if !isFlag (raw.byteAt 48) then
                    failed "bonding_curve_complete_flag_invalid"
                  else if !isFlag (raw.byteAt 81) ∨ !isFlag (raw.byteAt 82) then
                    failed "bonding_curve_flag_invalid"
                  else .ok (.ok
                    { toCurveLayout := curveLayout raw
                      bondingCurveAddress
                      baseMint := expectedMint
                      accountHash := hexdigest (sha256 raw)
                      contractHash := pumpIdlSha256
                      appendOnlyExtension := raw.length > curvePrefixLength })

/-! ## Layouts, written -/

/-- A flag as the layout writes it. -/
def flagByte (flag : Bool) : UInt8 := if flag then 1 else 0

/-- The fields under the pinned Pool layout. -/
def PoolLayout.serialise (p : PoolLayout) : Option Bytes := do
  let creator ← b58decode p.creator
  let baseMint ← b58decode p.baseMint
  let quoteMint ← b58decode p.quoteMint
  let lpMint ← b58decode p.lpMint
  let baseAccount ← b58decode p.poolBaseTokenAccount
  let quoteAccount ← b58decode p.poolQuoteTokenAccount
  let coinCreator ← b58decode p.coinCreator
  return pumpswapPoolDiscriminator ++ [UInt8.ofNat p.poolBump] ++ Bytes.ofNatLittle 2 p.index ++
    creator ++ baseMint ++ quoteMint ++ lpMint ++ baseAccount ++ quoteAccount ++
    Bytes.ofNatLittle 8 p.lpSupply ++ coinCreator ++ [flagByte p.isMayhemMode] ++
    if p.appendOnlyExtension then
      flagByte p.isCashbackCoin :: Bytes.ofIntLittle 16 p.virtualQuoteReserves
    else []

/-- The fields under the pinned BondingCurve layout. -/
def CurveLayout.serialise (c : CurveLayout) : Option Bytes := do
  let creator ← b58decode c.creator
  let quoteMint ← b58decode c.quoteMint
  return pumpBondingCurveDiscriminator ++ Bytes.ofNatLittle 8 c.virtualTokenReserves ++
    Bytes.ofNatLittle 8 c.virtualQuoteReserves ++ Bytes.ofNatLittle 8 c.realTokenReserves ++
    Bytes.ofNatLittle 8 c.realQuoteReserves ++ Bytes.ofNatLittle 8 c.tokenTotalSupply ++
    [flagByte c.complete] ++ creator ++ [flagByte c.isMayhemMode] ++ [flagByte c.isCashbackCoin] ++
    quoteMint

/-! ## What is written back -/

theorem b58decode_slice {raw : Bytes} {start : ℕ} (h : start + 32 ≤ raw.length) :
    b58decode (b58encode (raw.slice start 32)) = some (raw.slice start 32) := by
  apply b58decode_encode
  intro hnil
  have hlen := Bytes.length_slice h
  rw [hnil] at hlen
  cases hlen

theorem flagByte_eq_iff (b : UInt8) : flagByte (b ≠ 0) = b ↔ isFlag b = true := by
  unfold flagByte isFlag
  by_cases h : b = 0
  · simp [h]
  · simp only [decide_eq_true_eq, ne_eq, h, not_false_eq_true, if_true, decide_true, false_or]
    exact eq_comm

/-- The flag bytes of a Pool account are zero or one. -/
def CanonicalFlags (raw : Bytes) : Prop :=
  isFlag (raw.byteAt 243) = true ∧
    (raw.length = poolCurrentLength → isFlag (raw.byteAt 244) = true)

/-- An account that is accepted has one of the lengths and the discriminator. -/
theorem decodePumpswapPoolAccount_ok {sha256 : Bytes → Digest} {accountValue : Option Dict}
    {poolAddress : String} {account : PoolAccount}
    (h : decodePumpswapPoolAccount sha256 accountValue poolAddress = .ok account) :
    ∃ value raw, accountValue = some value ∧ accountBytes value = some raw ∧
      (raw.length = poolLegacyLength ∨ raw.length = poolCurrentLength) ∧
      raw.take 8 = pumpswapPoolDiscriminator ∧ account.toPoolLayout = poolLayout raw := by
  unfold decodePumpswapPoolAccount at h
  cases accountValue with
  | none => simp at h
  | some value =>
    dsimp only at h
    split_ifs at h
    cases htext : accountText value with
    | none => simp [htext] at h
    | some text =>
      simp only [htext] at h
      cases hraw : b64decode text with
      | none => simp [hraw] at h
      | some raw =>
        simp only [hraw] at h
        split_ifs at h with hlength hdiscriminator
        obtain rfl := Except.ok.inj h
        refine ⟨value, raw, rfl, by simp [accountBytes, htext, hraw], ?_,
          not_not.mp hdiscriminator, rfl⟩
        by_contra hnot
        exact hlength (not_or.mp hnot)

/-- The bytes up to the first flag are written back; the flags as zero or one. -/
theorem serialise_poolLayout {raw : Bytes}
    (hlength : raw.length = poolLegacyLength ∨ raw.length = poolCurrentLength)
    (hdiscriminator : raw.take 8 = pumpswapPoolDiscriminator) :
    (poolLayout raw).serialise = some (raw.take 243 ++ [flagByte (raw.byteAt 243 ≠ 0)] ++
      if raw.length = poolCurrentLength then
        flagByte (raw.byteAt 244 ≠ 0) :: raw.slice 245 16
      else []) := by
  have hlong : 244 ≤ raw.length := by
    rcases hlength with h | h <;> rw [h] <;> decide
  have hslice : ∀ start, start + 32 ≤ 244 →
      b58decode (b58encode (raw.slice start 32)) = some (raw.slice start 32) :=
    fun start h => b58decode_slice (h.trans hlong)
  have hbump : [UInt8.ofNat (raw.byteAt 8).toNat] = raw.slice 8 1 := by
    rw [Bytes.slice_one (by omega), UInt8.ofNat_toNat]
  have hfront : raw.take 8 ++ raw.slice 8 1 ++ raw.slice 9 2 ++ raw.slice 11 32 ++
      raw.slice 43 32 ++ raw.slice 75 32 ++ raw.slice 107 32 ++ raw.slice 139 32 ++
      raw.slice 171 32 ++ raw.slice 203 8 ++ raw.slice 211 32 = raw.take 243 := by
    simp only [← Bytes.slice_zero, Bytes.slice_append_slice raw 0, Nat.reduceAdd]
  unfold PoolLayout.serialise poolLayout
  simp only [hslice 11 (by decide), hslice 43 (by decide), hslice 75 (by decide),
    hslice 107 (by decide), hslice 139 (by decide), hslice 171 (by decide),
    hslice 211 (by decide), Option.bind_eq_bind, Option.bind_some, hbump,
    Bytes.ofNatLittle_eq (Bytes.length_slice (show 9 + 2 ≤ raw.length by omega)),
    Bytes.ofNatLittle_eq (Bytes.length_slice (show 203 + 8 ≤ raw.length by omega)),
    ← hdiscriminator, hfront]
  by_cases hcurrent : raw.length = poolCurrentLength
  · have hreserves : Bytes.ofIntLittle 16 (raw.slice 245 16).toIntLittle = raw.slice 245 16 := by
      have hfits : 245 + 16 ≤ raw.length := by
        rw [hcurrent]
        decide
      exact Bytes.ofIntLittle_eq (Bytes.length_slice hfits)
    simp [hcurrent, hreserves]
  · simp [hcurrent]

/-- The raw bytes of an account are written back exactly when its flags are canonical. -/
theorem serialise_poolLayout_iff {raw : Bytes}
    (hlength : raw.length = poolLegacyLength ∨ raw.length = poolCurrentLength)
    (hdiscriminator : raw.take 8 = pumpswapPoolDiscriminator) :
    (poolLayout raw).serialise = some raw ↔ CanonicalFlags raw := by
  have hlong : 244 ≤ raw.length := by
    rcases hlength with h | h <;> rw [h] <;> decide
  have hflag : raw.drop 243 = raw.byteAt 243 :: raw.drop 244 := by
    have hone : raw.slice 243 1 = [raw.byteAt 243] := Bytes.slice_one (by omega)
    have hcut := List.take_append_drop 1 (raw.drop 243)
    rw [show (raw.drop 243).take 1 = [raw.byteAt 243] from hone, List.drop_drop] at hcut
    exact hcut.symm
  have hraw : raw = raw.take 243 ++ raw.byteAt 243 :: raw.drop 244 := by
    rw [← hflag, List.take_append_drop]
  rw [serialise_poolLayout hlength hdiscriminator, Option.some_inj]
  conv_lhs => rhs; rw [hraw]
  rw [List.append_assoc, List.append_cancel_left_eq, List.singleton_append, List.cons.injEq,
    flagByte_eq_iff, CanonicalFlags]
  apply and_congr_right
  intro _
  by_cases hcurrent : raw.length = poolCurrentLength
  · have hcashback : raw.drop 244 = raw.byteAt 244 :: raw.slice 245 16 := by
      have hlen : raw.length = 245 + 16 := hcurrent
      have hone : raw.slice 244 1 = [raw.byteAt 244] := Bytes.slice_one (by omega)
      have hrest : raw.slice 245 16 = raw.drop 245 := by
        rw [Bytes.slice, List.take_of_length_le]
        rw [List.length_drop]
        omega
      have hcut := List.take_append_drop 1 (raw.drop 244)
      rw [show (raw.drop 244).take 1 = [raw.byteAt 244] from hone, List.drop_drop] at hcut
      rw [hrest]
      exact hcut.symm
    rw [if_pos hcurrent, hcashback, List.cons.injEq, flagByte_eq_iff]
    simp [hcurrent]
  · have hend : raw.drop 244 = [] := by
      rw [List.drop_eq_nil_iff]
      rcases hlength with h | h
      · rw [h]
        decide
      · exact absurd h hcurrent
    rw [if_neg hcurrent, hend]
    simp [hcurrent]

/-- A bonding curve that is accepted has the whole layout and canonical flags. -/
theorem decodePumpBondingCurveAccount_ok {sha256 : Bytes → Digest} {accountValue : Option Dict}
    {bondingCurveAddress expectedMint : String} {account : CurveAccount}
    (h : decodePumpBondingCurveAccount sha256 accountValue bondingCurveAddress expectedMint =
      .ok (.ok account)) :
    ∃ value raw, accountValue = some value ∧ accountBytes value = some raw ∧
      curvePrefixLength ≤ raw.length ∧ raw.take 8 = pumpBondingCurveDiscriminator ∧
      isFlag (raw.byteAt 48) = true ∧ isFlag (raw.byteAt 81) = true ∧
      isFlag (raw.byteAt 82) = true ∧ account.toCurveLayout = curveLayout raw := by
  unfold decodePumpBondingCurveAccount at h
  cases accountValue with
  | none => simp at h
  | some value =>
    dsimp only at h
    by_cases howner : value.get "owner" ≠ .str pumpProgramId
    · simp [if_pos howner] at h
    rw [if_neg howner] at h
    cases hmint : b58decode expectedMint with
    | none => simp [hmint] at h
    | some mintRaw =>
      simp only [hmint] at h
      by_cases hmintLength : mintRaw.length ≠ 32
      · simp [if_pos hmintLength] at h
      rw [if_neg hmintLength] at h
      cases hderive : deriveProgramAddress sha256 [bondingCurveSeed, mintRaw] pumpProgramId with
      | error message => simp [hderive] at h
      | ok expectedCurve =>
        simp only [hderive] at h
        by_cases haddress : bondingCurveAddress ≠ expectedCurve.1
        · simp [if_pos haddress] at h
        rw [if_neg haddress] at h
        cases htext : encodedText value with
        | none => simp [htext] at h
        | some text =>
          simp only [htext] at h
          cases hraw : b64decode text with
          | none => simp [hraw] at h
          | some raw =>
            simp only [hraw] at h
            split_ifs at h with hlength hdiscriminator hcomplete hflags <;>
              simp only [Except.ok.injEq, reduceCtorEq] at h
            subst h
            have hbytes : accountBytes value = some raw := by
              unfold encodedText at htext
              unfold accountBytes accountText
              split at htext
              · next hdata =>
                obtain rfl := Option.some.inj htext
                simp [hdata, hraw]
              · cases htext
            obtain ⟨hmayhem, hcashback⟩ := not_or.mp hflags
            exact ⟨value, raw, rfl, hbytes, not_lt.mp hlength, not_not.mp hdiscriminator,
              by simpa using hcomplete, by simpa using hmayhem, by simpa using hcashback, rfl⟩

/-- With canonical flags the whole layout is written back. -/
theorem serialise_curveLayout {raw : Bytes} (hlength : curvePrefixLength ≤ raw.length)
    (hdiscriminator : raw.take 8 = pumpBondingCurveDiscriminator)
    (hcomplete : isFlag (raw.byteAt 48) = true) (hmayhem : isFlag (raw.byteAt 81) = true)
    (hcashback : isFlag (raw.byteAt 82) = true) :
    (curveLayout raw).serialise = some (raw.take curvePrefixLength) := by
  have hlong : 115 ≤ raw.length := hlength
  have hflag : ∀ i, i < 115 → isFlag (raw.byteAt i) = true →
      [flagByte (raw.byteAt i ≠ 0)] = raw.slice i 1 := by
    intro i hi hcanonical
    rw [Bytes.slice_one (by omega), (flagByte_eq_iff _).mpr hcanonical]
  have hnumber : ∀ start, start + 8 ≤ 115 →
      Bytes.ofNatLittle 8 (raw.slice start 8).toNatLittle = raw.slice start 8 :=
    fun start h => Bytes.ofNatLittle_eq (Bytes.length_slice (h.trans hlong))
  have hall : raw.take 8 ++ raw.slice 8 8 ++ raw.slice 16 8 ++ raw.slice 24 8 ++ raw.slice 32 8 ++
      raw.slice 40 8 ++ raw.slice 48 1 ++ raw.slice 49 32 ++ raw.slice 81 1 ++ raw.slice 82 1 ++
      raw.slice 83 32 = raw.take 115 := by
    simp only [← Bytes.slice_zero, Bytes.slice_append_slice raw 0, Nat.reduceAdd]
  unfold CurveLayout.serialise curveLayout
  simp only [b58decode_slice (show 49 + 32 ≤ raw.length by omega),
    b58decode_slice (show 83 + 32 ≤ raw.length by omega), Option.bind_eq_bind, Option.bind_some,
    hnumber 8 (by decide), hnumber 16 (by decide), hnumber 24 (by decide), hnumber 32 (by decide),
    hnumber 40 (by decide), hflag 48 (by decide) hcomplete, hflag 81 (by decide) hmayhem,
    hflag 82 (by decide) hcashback, ← hdiscriminator, hall]
  rfl

/-- A Pool account that is accepted is written back exactly when its flag bytes are zero or one; a
bonding curve is always written back up to the end of its layout. -/
theorem accounts_written_back (sha256 : Bytes → Digest) :
    (∀ accountValue poolAddress account,
      decodePumpswapPoolAccount sha256 accountValue poolAddress = .ok account →
      ∃ value raw, accountValue = some value ∧ accountBytes value = some raw ∧
        (account.serialise = some raw ↔ CanonicalFlags raw)) ∧
      ∀ accountValue bondingCurveAddress expectedMint account,
        decodePumpBondingCurveAccount sha256 accountValue bondingCurveAddress expectedMint =
          .ok (.ok account) →
        ∃ value raw, accountValue = some value ∧ accountBytes value = some raw ∧
          account.serialise = some (raw.take curvePrefixLength) := by
  constructor
  · intro accountValue poolAddress account h
    obtain ⟨value, raw, hvalue, hraw, hlength, hdiscriminator, hlayout⟩ :=
      decodePumpswapPoolAccount_ok h
    refine ⟨value, raw, hvalue, hraw, ?_⟩
    rw [hlayout]
    exact serialise_poolLayout_iff hlength hdiscriminator
  · intro accountValue bondingCurveAddress expectedMint account h
    obtain ⟨value, raw, hvalue, hraw, hlength, hdiscriminator, hcomplete, hmayhem, hcashback,
      hlayout⟩ := decodePumpBondingCurveAccount_ok h
    refine ⟨value, raw, hvalue, hraw, ?_⟩
    rw [hlayout]
    exact serialise_curveLayout hlength hdiscriminator hcomplete hmayhem hcashback

/-- An account with the owner, a length and the discriminator is accepted. -/
theorem decodePumpswapPoolAccount_of_bytes {sha256 : Bytes → Digest} {value : Dict} {text : String}
    {raw : Bytes} (hne : value ≠ []) (howner : value.get "owner" = .str pumpswapAmmProgramId)
    (htext : accountText value = some text) (hraw : b64decode text = some raw)
    (hlength : raw.length = poolLegacyLength ∨ raw.length = poolCurrentLength)
    (hdiscriminator : raw.take 8 = pumpswapPoolDiscriminator) (poolAddress : String) :
    ∃ account, decodePumpswapPoolAccount sha256 (some value) poolAddress = .ok account ∧
      account.toPoolLayout = poolLayout raw := by
  have hlength' : ¬(raw.length ≠ poolLegacyLength ∧ raw.length ≠ poolCurrentLength) :=
    fun h => hlength.elim h.1 h.2
  refine ⟨{
    toPoolLayout := poolLayout raw
    poolAddress
    accountHash := hexdigest (sha256 raw)
    contractHash := pumpswapIdlSha256 }, ?_, rfl⟩
  simp [decodePumpswapPoolAccount, hne, howner, htext, hraw, hlength', hdiscriminator]

/-- A curve account at the address of its mint, with the layout and canonical flags, is
accepted. -/
theorem decodePumpBondingCurveAccount_of_bytes {sha256 : Bytes → Digest} {value : Dict}
    {text expectedMint : String} {mintRaw raw : Bytes} {expectedCurve : String × ℕ}
    (howner : value.get "owner" = .str pumpProgramId)
    (hmint : b58decode expectedMint = some mintRaw) (hmintLength : mintRaw.length = 32)
    (hderive : deriveProgramAddress sha256 [bondingCurveSeed, mintRaw] pumpProgramId =
      .ok expectedCurve)
    (htext : encodedText value = some text) (hraw : b64decode text = some raw)
    (hlength : curvePrefixLength ≤ raw.length)
    (hdiscriminator : raw.take 8 = pumpBondingCurveDiscriminator)
    (hcomplete : isFlag (raw.byteAt 48) = true) (hmayhem : isFlag (raw.byteAt 81) = true)
    (hcashback : isFlag (raw.byteAt 82) = true) :
    ∃ account, decodePumpBondingCurveAccount sha256 (some value) expectedCurve.1 expectedMint =
      .ok (.ok account) := by
  have hlength' : ¬raw.length < curvePrefixLength := not_lt.mpr hlength
  refine ⟨{
    toCurveLayout := curveLayout raw
    bondingCurveAddress := expectedCurve.1
    baseMint := expectedMint
    accountHash := hexdigest (sha256 raw)
    contractHash := pumpIdlSha256
    appendOnlyExtension := raw.length > curvePrefixLength }, ?_⟩
  simp [decodePumpBondingCurveAccount, howner, hmint, hmintLength, hderive, htext, hraw, hlength',
    hdiscriminator, hcomplete, hmayhem, hcashback]

/-- An account value that holds a text. -/
def accountValue (owner : String) (text : List Char) : Dict :=
  [("data", .list [.str (String.ofList text), .str "base64"]), ("owner", .str owner)]

theorem accountValue_owner (owner : String) (text : List Char) :
    (accountValue owner text).get "owner" = .str owner := by
  simp [accountValue]

theorem accountValue_text (owner : String) (text : List Char) :
    accountText (accountValue owner text) = some (String.ofList text) := by
  simp [accountText, accountValue]

theorem accountValue_encoded (owner : String) (text : List Char) :
    encodedText (accountValue owner text) = some (String.ofList text) := by
  simp [encodedText, accountValue]

theorem b64decode_ofList {text : List Char} (h : text.head? ≠ some '=') :
    b64decode (String.ofList text) = b64decodeFrom {} text := by
  rw [b64decode, String.toList_ofList, if_neg h]

/-- The text of a Pool account of the first length, zero up to its last group. -/
def blankPoolText (lastGroup : List Char) : List Char :=
  ['8', 'Z', 'p', 't', 'B', 'B', 'G', 'x', 'b', 'b', 'w', 'A'] ++ List.replicate 312 'A' ++
    lastGroup

theorem blankPoolText_first (lastGroup : List Char) :
    (blankPoolText lastGroup).head? ≠ some '=' := by
  have hfirst : (blankPoolText lastGroup).head? = some '8' := rfl
  rw [hfirst]
  decide

/-- The bytes of such an account, by its flag. -/
def blankPoolBytes (flag : UInt8) : Bytes :=
  pumpswapPoolDiscriminator ++ List.replicate 235 0 ++ [flag]

theorem length_blankPoolBytes (flag : UInt8) : (blankPoolBytes flag).length = poolLegacyLength := by
  rw [blankPoolBytes, List.length_append, List.length_append, List.length_replicate]
  rfl

def blankPool (lastGroup : List Char) : Dict :=
  accountValue pumpswapAmmProgramId (blankPoolText lastGroup)

theorem accountBytes_blankPool {lastGroup : List Char} {flag : UInt8}
    (h : b64decodeFrom {} (blankPoolText lastGroup) = some (blankPoolBytes flag)) :
    accountBytes (blankPool lastGroup) = some (blankPoolBytes flag) := by
  rw [accountBytes, blankPool, accountValue_text, Option.bind_some,
    b64decode_ofList (blankPoolText_first lastGroup), h]

theorem decode_blankPool {lastGroup : List Char} {flag : UInt8}
    (h : b64decodeFrom {} (blankPoolText lastGroup) = some (blankPoolBytes flag)) :
    ∃ account, decodePumpswapPoolAccount Python.sha256 (some (blankPool lastGroup)) "pool" =
      .ok account := by
  have hraw := (b64decode_ofList (blankPoolText_first lastGroup)).trans h
  have hdecoded : ∃ account, decodePumpswapPoolAccount Python.sha256 (some (blankPool lastGroup))
      "pool" = .ok account ∧ account.toPoolLayout = poolLayout (blankPoolBytes flag) :=
    decodePumpswapPoolAccount_of_bytes (List.cons_ne_nil _ _) (accountValue_owner _ _)
      (accountValue_text _ _) hraw (Or.inl (length_blankPoolBytes flag)) rfl "pool"
  obtain ⟨account, haccount, _⟩ := hdecoded
  exact ⟨account, haccount⟩

/-- A bonding curve, zero behind the discriminator. -/
def blankCurveText : List Char :=
  "F7f4N2DYrGAA".toList ++ List.replicate 140 'A' ++ "AA==".toList

def blankCurve : Dict := accountValue pumpProgramId blankCurveText

def wsolBytes : Bytes := (b58decode wsolMint).getD []

/-- What the decoders read from blank accounts is written back. -/
theorem accounts_written_back_blank :
    (∃ account, decodePumpswapPoolAccount Python.sha256 (some (blankPool "AQ==".toList)) "pool" =
      .ok account ∧ account.serialise = some (blankPoolBytes 1)) ∧
      ∃ address account, decodePumpBondingCurveAccount Python.sha256 (some blankCurve) address
        wsolMint = .ok (.ok account) ∧ ∃ raw, account.serialise = some raw := by
  constructor
  · have htext : b64decodeFrom {} (blankPoolText "AQ==".toList) = some (blankPoolBytes 1) := by
      decide +kernel
    obtain ⟨account, h⟩ := decode_blankPool htext
    obtain ⟨value, raw, hvalue, hraw, hiff⟩ := (accounts_written_back Python.sha256).1 _ _ _ h
    obtain rfl := Option.some.inj hvalue
    obtain rfl := Option.some.inj ((accountBytes_blankPool htext).symm.trans hraw)
    exact ⟨account, h, hiff.mpr ⟨rfl, fun hlength => absurd hlength (by decide +kernel)⟩⟩
  · have hderive : (deriveProgramAddress Python.sha256 [bondingCurveSeed, wsolBytes]
        pumpProgramId).toOption.isSome = true := by decide +kernel
    have hmint : b58decode wsolMint = some wsolBytes := by decide +kernel
    have hcurve : ∃ address account, decodePumpBondingCurveAccount Python.sha256 (some blankCurve)
        address wsolMint = .ok (.ok account) := by
      cases hrun : deriveProgramAddress Python.sha256 [bondingCurveSeed, wsolBytes]
          pumpProgramId with
      | error message =>
        rw [hrun] at hderive
        cases hderive
      | ok expectedCurve =>
        have htext : b64decodeFrom {} blankCurveText =
            some (pumpBondingCurveDiscriminator ++ List.replicate 107 0) := by decide +kernel
        have hraw := (b64decode_ofList (by decide)).trans htext
        exact ⟨_, decodePumpBondingCurveAccount_of_bytes (accountValue_owner _ _) hmint
          (by decide +kernel) hrun (accountValue_encoded _ _) hraw (by decide) rfl rfl rfl rfl⟩
    obtain ⟨address, account, h⟩ := hcurve
    obtain ⟨_, raw, _, _, hserialised⟩ := (accounts_written_back Python.sha256).2 _ _ _ _ h
    exact ⟨address, account, h, _, hserialised⟩

/-- Every account that is accepted is written back. -/
def WritesBack (sha256 : Bytes → Digest) (value : Dict) (poolAddress : String) : Prop :=
  ∀ account, decodePumpswapPoolAccount sha256 (some value) poolAddress = .ok account →
    ∃ raw, accountBytes value = some raw ∧ account.serialise = some raw

/-- A flag byte of two is read as a flag that is set, and written back as one. -/
theorem not_writesBack_two : ¬WritesBack Python.sha256 (blankPool "Ag==".toList) "pool" := by
  have htext : b64decodeFrom {} (blankPoolText "Ag==".toList) = some (blankPoolBytes 2) := by
    decide +kernel
  intro h
  obtain ⟨account, haccount⟩ := decode_blankPool htext
  obtain ⟨value, raw, hvalue, hraw, _, _, hlayout⟩ := decodePumpswapPoolAccount_ok haccount
  obtain rfl := Option.some.inj hvalue
  obtain rfl := Option.some.inj ((accountBytes_blankPool htext).symm.trans hraw)
  obtain ⟨raw, hraw, hserialised⟩ := h account haccount
  obtain rfl := Option.some.inj ((accountBytes_blankPool htext).symm.trans hraw)
  rw [hlayout, serialise_poolLayout_iff (Or.inl (length_blankPoolBytes 2)) rfl] at hserialised
  exact absurd hserialised.1 (by decide)

end PrinterV1.Sources
