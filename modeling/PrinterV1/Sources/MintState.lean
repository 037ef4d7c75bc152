import PrinterV1.Foundation.Faults
import PrinterV1.Python.Bytes

/-!
# The state of a mint account

The two validators of the data of a mint account. A mint of the newer program goes
on behind its 165 bytes with the kind of the account and with extensions, each of
them a type, a length and as many bytes; a walk over them reads one after another.
-/

namespace PrinterV1.Sources.TokenAge

open Python Faults

/-- `_SPL_TOKEN_MINT_SIZE` -/
def splTokenMintSize : ℕ := 82

/-- `_SPL_MINT_IS_INITIALIZED_OFFSET` -/
def splMintIsInitializedOffset : ℕ := 45

/-- `_TOKEN_2022_ACCOUNT_TYPE_OFFSET` -/
def token2022AccountTypeOffset : ℕ := 165

/-- `_TOKEN_2022_ACCOUNT_TYPE_MINT` -/
def token2022AccountTypeMint : UInt8 := 1

/-- `_TOKEN_2022_EXTENSION_DATA_START` -/
def token2022ExtensionDataStart : ℕ := 166

/-- `_TOKEN_2022_EXTENSION_TLV_HEADER_SIZE` -/
def token2022ExtensionTlvHeaderSize : ℕ := 4

/-- `raw[i]`, which raises outside the range. -/
def byteOrRaise (raw : Bytes) (i : ℕ) : Except String UInt8 :=
  match raw[i]? with
  | some b => .ok b
  | none => .error "index out of range"

/-- `struct.unpack_from("<HH", raw, offset)` -/
def unpackHeader (raw : Bytes) (offset : ℕ) : Except String (ℕ × ℕ) :=
  if raw.length < offset + 4 then .error "unpack_from requires a longer buffer"
  else .ok ((raw.slice offset 2).toNatLittle, (raw.slice (offset + 2) 2).toNatLittle)

/-- `_decode_spl_token_base_mint_state` -/
def decodeSplTokenBaseMintState (raw : Bytes) : Except String (Bool × Option String) :=
  if raw.length < splTokenMintSize then
    .ok (false, some ("Too short for base Mint layout: " ++ toString raw.length ++ " < " ++
      toString splTokenMintSize))
  else do
    let isInitialized ← byteOrRaise raw splMintIsInitializedOffset
    if isInitialized ≠ 1 then
      return (false, some ("Mint not initialized: is_initialized byte = " ++
        toString isInitialized.toNat))
    else return (true, none)

/-- The offset of the first byte of the padding that is not zero. -/
def firstBad (padding : Bytes) : ℕ := splTokenMintSize + padding.findIdx fun b => b ≠ 0

/-- The loop over the extensions: what is wrong with them, or nothing. -/
def walkExtensions (raw : Bytes) (offset : ℕ) : Except String (Option String) :=
  if offset < raw.length then
    if raw.length - offset < token2022ExtensionTlvHeaderSize then
      if (raw.drop offset).all fun b => b = 0 then .ok none
      else .ok (some ("Partial TLV header at offset " ++ toString offset ++ ": " ++
        toString (raw.length - offset) ++ " bytes remaining (need ≥ " ++
        toString token2022ExtensionTlvHeaderSize ++ ")"))
    else
      match unpackHeader raw offset with
      | .error e => .error e
      | .ok (extType, extLen) =>
        let extDataStart := offset + token2022ExtensionTlvHeaderSize
        if extDataStart + extLen > raw.length then
          .ok (some ("TLV extension type=" ++ toString extType ++ " at offset " ++
            toString offset ++ ": claimed length " ++ toString extLen ++
            " overflows buffer end (" ++ toString raw.length ++ ")"))
        else walkExtensions raw (extDataStart + extLen)
  else .ok none
termination_by raw.length - offset
decreasing_by
  have hheader : token2022ExtensionTlvHeaderSize = 4 := rfl
  omega

/-- `_decode_token_2022_mint_state` -/
def decodeToken2022MintState (raw : Bytes) : Except String (Bool × Option String) := do
  let (ok, err) ← decodeSplTokenBaseMintState raw
  if !ok then return (false, err)
  if raw.length < token2022ExtensionDataStart then
    return (false, some ("Token-2022 extended mint too short: " ++ toString raw.length ++
      " bytes; need ≥ " ++ toString token2022ExtensionDataStart ++ " (base " ++
      toString splTokenMintSize ++ " + padding " ++
      toString (token2022AccountTypeOffset - splTokenMintSize) ++ " + AccountType 1)"))
  let padding := raw.slice splTokenMintSize (token2022AccountTypeOffset - splTokenMintSize)
  if padding.any fun b => b ≠ 0 then
    return (false, some ("Token-2022 mint padding region [" ++ toString splTokenMintSize ++ ".." ++
      toString token2022AccountTypeOffset ++ "] has non-zero byte at offset " ++
      toString (firstBad padding)))
  let accountType ← byteOrRaise raw token2022AccountTypeOffset
  if accountType ≠ token2022AccountTypeMint then
    return (false, some ("Token-2022 AccountType byte " ++ toString accountType.toNat ++
      " at offset " ++ toString token2022AccountTypeOffset ++ " is not Mint (expected " ++
      toString token2022AccountTypeMint.toNat ++ ")"))
  let err ← walkExtensions raw token2022ExtensionDataStart
  return (err.isNone, err)

/-- An entry: a type, a length and as many bytes. -/
structure Extension where
  type : ℕ
  value : Bytes
  type_lt : type < 2 ^ 16
  value_lt : value.length < 2 ^ 16

namespace Extension

/-- How an entry is written. -/
def bytes (x : Extension) : Bytes :=
  Bytes.ofNatLittle 2 x.type ++ Bytes.ofNatLittle 2 x.value.length ++ x.value

@[simp] theorem length_bytes (x : Extension) : x.bytes.length = 4 + x.value.length := by
  simp only [bytes, List.length_append, Bytes.length_ofNatLittle]

theorem bytes_eq {x : Extension} {n : ℕ} (h : x.value.length = n) :
    x.bytes = Bytes.ofNatLittle 2 x.type ++ Bytes.ofNatLittle 2 n ++ x.value := by
  subst h
  rfl

end Extension

/-- Complete entries, and at most three zero bytes behind them. -/
def ExtensionTail (rest : Bytes) : Prop :=
  ∃ (entries : List Extension) (pad : ℕ),
    pad ≤ 3 ∧ rest = entries.flatMap Extension.bytes ++ List.replicate pad 0

/-- The layout of a mint with extensions. -/
structure Token2022Mint (raw : Bytes) : Prop where
  length : 166 ≤ raw.length
  initialized : raw.byteAt 45 = 1
  padding : ∀ b ∈ raw.slice 82 83, b = 0
  accountType : raw.byteAt 165 = 1
  tail : ExtensionTail (raw.drop 166)

theorem extensionTail_short {rest : Bytes} (h : rest.length < 4) :
    ExtensionTail rest ↔ (rest.all fun b => b = 0) = true := by
  rw [List.all_eq_true]
  constructor
  · rintro ⟨entries, pad, hpad, rfl⟩
    cases entries with
    | nil =>
      intro b hb
      simpa using (List.mem_replicate.mp hb).2
    | cons x entries =>
      simp only [List.flatMap_cons, List.length_append, Extension.length_bytes] at h
      omega
  · intro hall
    refine ⟨[], rest.length, by omega, ?_⟩
    rw [List.flatMap_nil, List.nil_append, List.eq_replicate_iff]
    exact ⟨rfl, fun b hb => by simpa using hall b hb⟩

/-- A list of at least four bytes begins with the header of an entry. -/
theorem header_append {rest : Bytes} (h : 4 ≤ rest.length) :
    Bytes.ofNatLittle 2 (rest.slice 0 2).toNatLittle ++
      Bytes.ofNatLittle 2 (rest.slice 2 2).toNatLittle ++ rest.drop 4 = rest := by
  rw [Bytes.ofNatLittle_eq (Bytes.length_slice (by omega)),
    Bytes.ofNatLittle_eq (Bytes.length_slice (by omega)), Bytes.slice_append_slice rest 0 2 2]
  exact List.take_append_drop 4 rest

/-- The header says how long the first entry is. -/
theorem extensionTail_long {rest : Bytes} (h : 4 ≤ rest.length) :
    ExtensionTail rest ↔
      4 + (rest.slice 2 2).toNatLittle ≤ rest.length ∧
        ExtensionTail (rest.drop (4 + (rest.slice 2 2).toNatLittle)) := by
  have hheader := header_append h
  have htype : (rest.slice 0 2).toNatLittle < 2 ^ 16 := by
    have hlt := (rest.slice 0 2).toNatLittle_lt
    rwa [Bytes.length_slice (by omega)] at hlt
  constructor
  · rintro ⟨entries, pad, hpad, hrest⟩
    cases entries with
    | nil =>
      have hlen := congrArg List.length hrest
      simp at hlen
      omega
    | cons x entries =>
      have hslice : rest.slice 2 2 = Bytes.ofNatLittle 2 x.value.length := by
        rw [hrest]
        simp [Bytes.slice, Extension.bytes]
      have hvalue : (rest.slice 2 2).toNatLittle = x.value.length := by
        rw [hslice, Bytes.toNatLittle_ofNatLittle x.value_lt]
      rw [hvalue, hrest, List.flatMap_cons, List.append_assoc, ← x.length_bytes, List.drop_left]
      refine ⟨?_, entries, pad, hpad, rfl⟩
      rw [List.length_append]
      omega
  · rintro ⟨hlen, entries, pad, hpad, hrest⟩
    have hvalue : ((rest.drop 4).take (rest.slice 2 2).toNatLittle).length =
        (rest.slice 2 2).toNatLittle := by
      rw [List.length_take, List.length_drop]
      omega
    have hlt : (rest.slice 2 2).toNatLittle < 2 ^ 16 := by
      have hlt := (rest.slice 2 2).toNatLittle_lt
      rwa [Bytes.length_slice (by omega)] at hlt
    refine ⟨{
      type := (rest.slice 0 2).toNatLittle
      value := (rest.drop 4).take (rest.slice 2 2).toNatLittle
      type_lt := htype
      value_lt := by rwa [hvalue] } :: entries, pad, hpad, ?_⟩
    rw [List.flatMap_cons, List.append_assoc, ← hrest, Extension.bytes_eq hvalue, ← List.drop_drop,
      List.append_assoc, List.take_append_drop]
    exact hheader.symm

theorem extensionTail_nil : ExtensionTail [] := ⟨[], 0, by omega, rfl⟩

theorem byteOrRaise_eq {raw : Bytes} {i : ℕ} (h : i < raw.length) :
    byteOrRaise raw i = .ok (raw.byteAt i) := by
  rw [byteOrRaise, Bytes.byteAt, List.getD_eq_getElem?_getD, List.getElem?_eq_getElem h]
  rfl

theorem unpackHeader_eq {raw : Bytes} {offset : ℕ} (h : offset + 4 ≤ raw.length) :
    unpackHeader raw offset =
      .ok ((Bytes.slice (raw.drop offset) 0 2).toNatLittle,
        (Bytes.slice (raw.drop offset) 2 2).toNatLittle) := by
  rw [unpackHeader, if_neg (by omega)]
  simp [Bytes.slice]

/-- The walk raises nothing, and finds nothing wrong exactly in such a tail. -/
theorem walkExtensions_exact (raw : Bytes) (offset : ℕ) :
    ∃ err, walkExtensions raw offset = .ok err ∧
      (err = none ↔ ExtensionTail (raw.drop offset)) := by
  have hsize : token2022ExtensionTlvHeaderSize = 4 := rfl
  fun_induction walkExtensions raw offset with
  | case1 offset hinside hshort hzero =>
    have hlen : (raw.drop offset).length < 4 := by
      rw [List.length_drop]
      omega
    exact ⟨none, rfl, iff_of_true rfl ((extensionTail_short hlen).mpr hzero)⟩
  | case2 offset hinside hshort hzero =>
    have hlen : (raw.drop offset).length < 4 := by
      rw [List.length_drop]
      omega
    refine ⟨_, rfl, iff_of_false (by simp) ?_⟩
    rwa [extensionTail_short hlen]
  | case3 offset hinside hlong e he =>
    rw [unpackHeader_eq (by omega)] at he
    cases he
  | case4 offset hinside hlong extType extLen hheader extDataStart hover =>
    rw [unpackHeader_eq (by omega)] at hheader
    obtain ⟨-, rfl⟩ := Prod.mk.inj (Except.ok.inj hheader)
    have hlen : 4 ≤ (raw.drop offset).length := by
      rw [List.length_drop]
      omega
    refine ⟨_, rfl, iff_of_false (by simp) ?_⟩
    rw [extensionTail_long hlen, List.length_drop]
    omega
  | case5 offset hinside hlong extType extLen hheader extDataStart hover ih =>
    rw [unpackHeader_eq (by omega)] at hheader
    obtain ⟨-, rfl⟩ := Prod.mk.inj (Except.ok.inj hheader)
    have hlen : 4 ≤ (raw.drop offset).length := by
      rw [List.length_drop]
      omega
    obtain ⟨err, herr, hiff⟩ := ih
    refine ⟨err, herr, ?_⟩
    rw [hiff, extensionTail_long hlen, List.drop_drop, List.length_drop, ← Nat.add_assoc]
    exact ⟨fun htail => ⟨by omega, htail⟩, fun htail => htail.2⟩
  | case6 offset hend =>
    refine ⟨none, rfl, iff_of_true rfl ?_⟩
    rw [List.drop_eq_nil_of_le (by omega)]
    exact extensionTail_nil

/-- The base layout is accepted exactly where it is long enough and initialized. -/
theorem decodeSplTokenBaseMintState_exact (raw : Bytes) :
    ∃ valid err, decodeSplTokenBaseMintState raw = .ok (valid, err) ∧
      (valid = true ↔ 82 ≤ raw.length ∧ raw.byteAt 45 = 1) := by
  unfold decodeSplTokenBaseMintState
  have hsize : splTokenMintSize = 82 := rfl
  by_cases hshort : raw.length < splTokenMintSize
  · rw [if_pos hshort]
    exact ⟨_, _, rfl, iff_of_false (by simp) (by omega)⟩
  · rw [if_neg hshort, splMintIsInitializedOffset, byteOrRaise_eq (by omega), ok_bind]
    by_cases hinit : raw.byteAt 45 = 1
    · rw [if_neg (not_not.mpr hinit)]
      exact ⟨_, _, rfl, iff_of_true rfl ⟨by omega, hinit⟩⟩
    · rw [if_pos hinit]
      exact ⟨_, _, rfl, iff_of_false (by simp) fun h => hinit h.2⟩

/-- The validator raises nothing, and accepts exactly the layout. -/
theorem decodeToken2022MintState_iff (raw : Bytes) :
    ∃ valid err, decodeToken2022MintState raw = .ok (valid, err) ∧
      (valid = true ↔ Token2022Mint raw) := by
  obtain ⟨valid, err, hbase, hvalid⟩ := decodeSplTokenBaseMintState_exact raw
  unfold decodeToken2022MintState
  rw [hbase, ok_bind]
  dsimp only
  cases valid with
  | false =>
    refine ⟨false, err, rfl, iff_of_false (by simp) ?_⟩
    intro h
    have hlen := h.length
    have hbad := hvalid.mpr ⟨by omega, h.initialized⟩
    cases hbad
  | true =>
    obtain ⟨hlen82, hinit⟩ := hvalid.mp rfl
    rw [if_neg (by simp)]
    by_cases hshort : raw.length < token2022ExtensionDataStart
    · rw [if_pos hshort]
      refine ⟨_, _, rfl, iff_of_false (by simp) ?_⟩
      intro h
      exact absurd h.length (not_le.mpr hshort)
    rw [if_neg hshort]
    have hlen : 166 ≤ raw.length := not_lt.mp hshort
    rw [show token2022AccountTypeOffset - splTokenMintSize = 83 from rfl,
      show splTokenMintSize = 82 from rfl]
    by_cases hpadding : ((raw.slice 82 83).any fun b => b ≠ 0) = true
    · rw [if_pos hpadding]
      refine ⟨_, _, rfl, iff_of_false (by simp) ?_⟩
      intro h
      obtain ⟨b, hb, hne⟩ := List.any_eq_true.mp hpadding
      simp [h.padding b hb] at hne
    rw [if_neg hpadding, token2022AccountTypeOffset, byteOrRaise_eq (by omega), ok_bind]
    by_cases htype : raw.byteAt 165 = token2022AccountTypeMint
    · rw [if_neg (not_not.mpr htype)]
      obtain ⟨err, hwalk, htail⟩ := walkExtensions_exact raw token2022ExtensionDataStart
      rw [hwalk, ok_bind]
      refine ⟨_, _, rfl, ?_⟩
      rw [Option.isNone_iff_eq_none, htail]
      constructor
      · intro h
        refine ⟨hlen, hinit, ?_, htype, h⟩
        intro b hb
        by_contra hne
        exact hpadding (List.any_eq_true.mpr ⟨b, hb, by simpa using hne⟩)
      · exact fun h => h.tail
    · rw [if_pos htype]
      exact ⟨_, _, rfl, iff_of_false (by simp) fun h => htype h.accountType⟩

/-- An account whose entries end with it is a mint with one more entry. -/
theorem Token2022Mint.append {raw : Bytes} (h : Token2022Mint raw) {entries : List Extension}
    (htail : raw.drop 166 = entries.flatMap Extension.bytes) (x : Extension) :
    Token2022Mint (raw ++ x.bytes) := by
  have hlen := h.length
  refine ⟨?_, ?_, ?_, ?_, entries ++ [x], 0, by omega, ?_⟩
  · rw [List.length_append]
    omega
  · rw [Bytes.byteAt_append (by omega)]
    exact h.initialized
  · rw [Bytes.slice_append (by omega)]
    exact h.padding
  · rw [Bytes.byteAt_append (by omega)]
    exact h.accountType
  · rw [List.drop_append_of_le_length hlen, htail]
    simp

/-- The validator terminates without raising, accepts exactly the layout, and goes on accepting an
account that ends with its entries when one more entry is appended. -/
theorem decodeToken2022MintState_exact :
    (∀ raw : Bytes, ∃ valid err, decodeToken2022MintState raw = .ok (valid, err) ∧
      (valid = true ↔ Token2022Mint raw)) ∧
      ∀ (raw : Bytes) (entries : List Extension) (x : Extension),
        (∃ err, decodeToken2022MintState raw = .ok (true, err)) →
        raw.drop 166 = entries.flatMap Extension.bytes →
        ∃ err, decodeToken2022MintState (raw ++ x.bytes) = .ok (true, err) := by
  refine ⟨decodeToken2022MintState_iff, ?_⟩
  rintro raw entries x ⟨err, herr⟩ htail
  obtain ⟨valid, err', hraw, hiff⟩ := decodeToken2022MintState_iff raw
  obtain ⟨hvalid, -⟩ := Prod.mk.inj (Except.ok.inj (hraw.symm.trans herr))
  have hmint := (hiff.mp hvalid).append htail x
  obtain ⟨valid', err'', happended, hiff'⟩ := decodeToken2022MintState_iff (raw ++ x.bytes)
  rw [hiff'.mpr hmint] at happended
  exact ⟨err'', happended⟩

end PrinterV1.Sources.TokenAge
