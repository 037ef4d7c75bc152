import PrinterV1.Foundation.Layouts
import PrinterV1.Sources.DirectCurve

/-!
# Create arguments and create events

The decoders of the two create instructions and of the create event thread an
offset through the bytes. Strings are written with their length in front, keys
as 32 bytes, numbers with the least byte first, and flags as a zero or a one.
-/

namespace PrinterV1.Sources.Direct

open Python Faults

/-- `CREATE_DISCRIMINATOR` -/
def createDiscriminator : Bytes := [24, 30, 200, 40, 5, 28, 7, 119]

/-- `CREATE_V2_DISCRIMINATOR` -/
def createV2Discriminator : Bytes := [214, 144, 76, 236, 95, 139, 49, 180]

/-- `CREATE_EVENT_DISCRIMINATOR` -/
def createEventDiscriminator : Bytes := [27, 114, 169, 77, 222, 235, 99, 118]

/-- `EVENT_CPI_WRAPPER` -/
def eventCpiWrapper : Bytes := [228, 69, 165, 46, 81, 203, 154, 29]

/-! ## Readers -/

/-- `_read_u32` -/
def readU32 (data : Bytes) (offset : ℕ) : Except PumpContractError (ℕ × ℕ) :=
  if offset + 4 > data.length then .error (malformed "truncated u32")
  else .ok ((data.slice offset 4).toNatLittle, offset + 4)

/-- `raw.decode("utf-8")` -/
def decodeUtf8 (raw : Bytes) : Option String := String.fromUTF8? ⟨raw.toArray⟩

/-- `text.encode("utf-8")` -/
def encodeUtf8 (text : String) : Bytes := text.toByteArray.data.toList

/-- `_read_string` -/
def readString (data : Bytes) (offset : ℕ) : Except PumpContractError (String × ℕ) := do
  let (length, offset) ← readU32 data offset
  if offset + length > data.length then throw (malformed "truncated string")
  match decodeUtf8 (data.slice offset length) with
  | none => .error (malformed "invalid UTF-8")
  | some text => .ok (text, offset + length)

/-- `_read_pubkey` -/
def readPubkey (data : Bytes) (offset : ℕ) : Except PumpContractError (String × ℕ) :=
  if offset + 32 > data.length then .error (malformed "truncated pubkey")
  else .ok (b58encode (data.slice offset 32), offset + 32)

/-- A turn of the loop over the scalars of an event. -/
def readScalar (data : Bytes) (offset : ℕ) : Except PumpContractError (ℕ × ℕ) :=
  if offset + 8 > data.length then .error (malformed "truncated event scalar")
  else .ok ((data.slice offset 8).toNatLittle, offset + 8)

/-- The two flags of an event. -/
def readFlags (data : Bytes) (offset : ℕ) : Except PumpContractError ((Bool × Bool) × ℕ) :=
  if offset + 2 > data.length ∨ (data.slice offset 2).any (fun b => b ≠ 0 ∧ b ≠ 1) then
    .error (malformed "invalid event boolean")
  else .ok ((data.byteAt offset ≠ 0, data.byteAt (offset + 1) ≠ 0), offset + 2)

/-! ## Decoders -/

structure CreateArgs where
  name : String
  symbol : String
  uri : String
  creator : String
  deriving DecidableEq, Repr

/-- `_decode_create_args` -/
def decodeCreateArgs (data : Bytes) : Except PumpContractError CreateArgs := do
  let offset := createDiscriminator.length
  let (name, offset) ← readString data offset
  let (symbol, offset) ← readString data offset
  let (uri, offset) ← readString data offset
  let (creator, offset) ← readPubkey data offset
  if offset ≠ data.length then throw (malformed "trailing create bytes")
  return { name, symbol, uri, creator }

structure CreateV2Args where
  name : String
  symbol : String
  uri : String
  creator : String
  isMayhemMode : Bool
  isCashbackEnabled : Bool
  deriving DecidableEq, Repr

/-- `_decode_create_v2_args` -/
def decodeCreateV2Args (data : Bytes) : Except PumpContractError CreateV2Args := do
  let offset := createV2Discriminator.length
  let (name, offset) ← readString data offset
  let (symbol, offset) ← readString data offset
  let (uri, offset) ← readString data offset
  let (creator, offset) ← readPubkey data offset
  if offset + 2 ≠ data.length then throw (malformed "trailing create_v2 bytes")
  if (data.slice offset 2).any fun b => b ≠ 0 ∧ b ≠ 1 then
    throw (malformed "invalid create_v2 boolean")
  return {
    name, symbol, uri, creator
    isMayhemMode := data.byteAt offset ≠ 0
    isCashbackEnabled := data.byteAt (offset + 1) ≠ 0 }

/-- The fields of an event. -/
structure CreateEvent where
  name : String
  symbol : String
  uri : String
  mint : String
  bondingCurve : String
  user : String
  creator : String
  timestamp : ℕ
  virtualTokenReserves : ℕ
  virtualSolReserves : ℕ
  realTokenReserves : ℕ
  tokenTotalSupply : ℕ
  tokenProgram : String
  isMayhemMode : Bool
  isCashbackEnabled : Bool
  quoteMint : String
  virtualQuoteReserves : ℕ
  deriving DecidableEq, Repr

/-- `_decode_event` -/
def decodeEvent (data : Bytes) : Except PumpContractError CreateEvent := do
  let offset := if eventCpiWrapper <+: data then eventCpiWrapper.length else 0
  if data.slice offset 8 ≠ createEventDiscriminator then
    throw (malformed "bad event discriminator")
  let (name, offset) ← readString data (offset + 8)
  let (symbol, offset) ← readString data offset
  let (uri, offset) ← readString data offset
  let (pubkeys, offset) ← readMany readPubkey 4 data offset
  let (scalars, offset) ← readMany readScalar 5 data offset
  let (tokenProgram, offset) ← readPubkey data offset
  let (flags, offset) ← readFlags data offset
  let (quoteMint, offset) ← readPubkey data offset
  if offset + 8 ≠ data.length then throw (malformed "invalid event length")
  return {
    name, symbol, uri
    mint := pubkeys.getD 0 ""
    bondingCurve := pubkeys.getD 1 ""
    user := pubkeys.getD 2 ""
    creator := pubkeys.getD 3 ""
    timestamp := scalars.getD 0 0
    virtualTokenReserves := scalars.getD 1 0
    virtualSolReserves := scalars.getD 2 0
    realTokenReserves := scalars.getD 3 0
    tokenTotalSupply := scalars.getD 4 0
    tokenProgram
    isMayhemMode := flags.1
    isCashbackEnabled := flags.2
    quoteMint
    virtualQuoteReserves := (data.slice offset 8).toNatLittle }

/-! ## What is written -/

def stringLayout : Layout UInt8 String where
  write text := Bytes.ofNatLittle 4 (encodeUtf8 text).length ++ encodeUtf8 text
  Valid text := (encodeUtf8 text).length < 2 ^ 32

def pubkeyLayout : Layout UInt8 String where
  write text := (Sources.b58decode text).getD []
  Valid text := ∃ raw, Sources.b58decode text = some raw ∧ raw.length = 32

def scalarLayout : Layout UInt8 ℕ where
  write n := Bytes.ofNatLittle 8 n
  Valid n := n < 2 ^ 64

def flagByte (b : Bool) : UInt8 := if b then 1 else 0

def flagsLayout : Layout UInt8 (Bool × Bool) where
  write v := [flagByte v.1, flagByte v.2]
  Valid _ := True

/-! ## The readers read the layouts -/

/-- A number of a fixed width is the slice it is written in. -/
theorem number_iff (data : Bytes) (offset n : ℕ) {k : ℕ} (hk : 0 < k) :
    offset + k ≤ data.length ∧ (data.slice offset k).toNatLittle = n ↔
      n < 256 ^ k ∧ Segment data offset (Bytes.ofNatLittle k n) := by
  constructor
  · rintro ⟨hlen, rfl⟩
    have hslice := Bytes.length_slice hlen
    refine ⟨?_, ?_⟩
    · have hlt := (data.slice offset k).toNatLittle_lt
      rwa [hslice] at hlt
    · rw [Bytes.ofNatLittle_eq hslice, segment_iff hslice]
      rfl
  · rintro ⟨hn, hseg⟩
    have hlen := hseg.length_le (by
      rw [← List.length_pos_iff, Bytes.length_ofNatLittle]
      exact hk)
    rw [Bytes.length_ofNatLittle] at hlen
    refine ⟨hlen, ?_⟩
    rw [segment_iff (Bytes.length_ofNatLittle k n)] at hseg
    rw [Bytes.slice, hseg, Bytes.toNatLittle_ofNatLittle hn]

theorem readU32_iff {data : Bytes} {offset n stop : ℕ} :
    readU32 data offset = .ok (n, stop) ↔
      n < 2 ^ 32 ∧ Segment data offset (Bytes.ofNatLittle 4 n) ∧ stop = offset + 4 := by
  have hnumber := number_iff data offset n (k := 4) (by decide)
  unfold readU32
  by_cases hlong : offset + 4 > data.length
  · rw [if_pos hlong]
    refine iff_of_false (by simp) ?_
    rintro ⟨hn, hseg, -⟩
    have hle := (hnumber.mpr ⟨hn, hseg⟩).1
    omega
  · rw [if_neg hlong]
    have hle : offset + 4 ≤ data.length := by omega
    simp only [Except.ok.injEq, Prod.mk.injEq]
    constructor
    · rintro ⟨hn, rfl⟩
      obtain ⟨hlt, hseg⟩ := hnumber.mp ⟨hle, hn⟩
      exact ⟨hlt, hseg, rfl⟩
    · rintro ⟨hlt, hseg, rfl⟩
      exact ⟨(hnumber.mpr ⟨hlt, hseg⟩).2, rfl⟩

theorem readScalar_reads : Reads readScalar scalarLayout := by
  intro (data : Bytes) offset n stop
  have hnumber := number_iff data offset n (k := 8) (by decide)
  simp only [scalarLayout, Bytes.length_ofNatLittle]
  unfold readScalar
  by_cases hlong : offset + 8 > data.length
  · rw [if_pos hlong]
    refine iff_of_false (by simp) ?_
    rintro ⟨hn, hseg, -⟩
    have hle := (hnumber.mpr ⟨hn, hseg⟩).1
    omega
  · rw [if_neg hlong]
    have hle : offset + 8 ≤ data.length := by omega
    simp only [Except.ok.injEq, Prod.mk.injEq]
    constructor
    · rintro ⟨hn, rfl⟩
      obtain ⟨hlt, hseg⟩ := hnumber.mp ⟨hle, hn⟩
      exact ⟨hlt, hseg, rfl⟩
    · rintro ⟨hlt, hseg, rfl⟩
      exact ⟨(hnumber.mpr ⟨hlt, hseg⟩).2, rfl⟩

/-- Bytes are the text they are decoded to, encoded. -/
theorem decodeUtf8_iff {raw : Bytes} {text : String} :
    decodeUtf8 raw = some text ↔ raw = encodeUtf8 text := by
  unfold decodeUtf8 encodeUtf8 String.fromUTF8?
  constructor
  · intro h
    split_ifs at h with hvalid
    obtain rfl := Option.some.inj h
    rfl
  · rintro rfl
    have hbytes : (⟨text.toByteArray.data.toList.toArray⟩ : ByteArray) = text.toByteArray := rfl
    rw [hbytes, dif_pos text.isValidUTF8]
    rfl

theorem readString_reads : Reads readString stringLayout := by
  intro (data : Bytes) offset text stop
  constructor
  · intro h
    obtain ⟨⟨length, mid⟩, hlength, h⟩ := bind_ok h
    obtain ⟨hlt, hseg, rfl⟩ := readU32_iff.mp hlength
    obtain ⟨hlong, h⟩ := check_ok h
    have hle : offset + 4 + length ≤ data.length := by omega
    cases hdecode : decodeUtf8 (data.slice (offset + 4) length) with
    | none => simp [hdecode] at h
    | some found =>
      obtain ⟨rfl, rfl⟩ : found = text ∧ offset + 4 + length = stop := by simpa [hdecode] using h
      have hslice := decodeUtf8_iff.mp hdecode
      have hlen : (encodeUtf8 found).length = length := by rw [← hslice, Bytes.length_slice hle]
      refine ⟨hlen.trans_lt hlt, ?_, ?_⟩
      · refine segment_append.mpr ⟨by rw [hlen]; exact hseg, ?_⟩
        rw [Bytes.length_ofNatLittle, segment_iff hlen]
        exact hslice
      · simp only [stringLayout, List.length_append, Bytes.length_ofNatLittle, hlen]
        omega
  · rintro ⟨hlt, hseg, rfl⟩
    obtain ⟨hseg, htext⟩ := segment_append.mp hseg
    rw [Bytes.length_ofNatLittle] at htext
    have hlength := readU32_iff.mpr ⟨hlt, hseg, rfl⟩
    have hle : offset + 4 + (encodeUtf8 text).length ≤ data.length := by
      by_cases hempty : encodeUtf8 text = []
      · have hhead := hseg.length_le (by
          rw [← List.length_pos_iff, Bytes.length_ofNatLittle]
          decide)
        rw [Bytes.length_ofNatLittle] at hhead
        rw [hempty]
        exact hhead
      · exact htext.length_le hempty
    have hslice : data.slice (offset + 4) (encodeUtf8 text).length = encodeUtf8 text :=
      (segment_iff rfl).mp htext
    unfold readString
    rw [hlength, ok_bind]
    change (if _ then _ else _) = _
    rw [if_neg (by omega), hslice, decodeUtf8_iff.mpr rfl]
    simp only [stringLayout, List.length_append, Bytes.length_ofNatLittle, Nat.add_assoc]

theorem readPubkey_reads : Reads readPubkey pubkeyLayout := by
  intro (data : Bytes) offset text stop
  unfold readPubkey
  constructor
  · intro h
    split_ifs at h with hlong
    obtain ⟨rfl, rfl⟩ := Prod.mk.inj (Except.ok.inj h)
    have hslice := Bytes.length_slice (not_lt.mp hlong)
    have hne : data.slice offset 32 ≠ [] := by
      rw [← List.length_pos_iff, hslice]
      decide
    have hdecode := b58decode_encode hne
    rw [← b58encode_eq hne] at hdecode
    simp only [pubkeyLayout, hdecode, Option.getD_some, hslice]
    exact ⟨⟨_, rfl, hslice⟩, (segment_iff hslice).mpr rfl, trivial⟩
  · rintro ⟨⟨raw, hraw, hlen⟩, hseg, rfl⟩
    simp only [pubkeyLayout, hraw, Option.getD_some] at hseg
    have hne : raw ≠ [] := by
      rw [← List.length_pos_iff, hlen]
      decide
    have hle := hseg.length_le hne
    rw [hlen] at hle
    have hslice : data.slice offset 32 = raw := (segment_iff hlen).mp hseg
    rw [if_neg (not_lt.mpr hle), hslice, b58encode_eq hne, b58encode_decode hraw]
    simp only [pubkeyLayout, hraw, Option.getD_some, hlen]

theorem flagByte_iff {b : UInt8} : (b = 0 ∨ b = 1) ↔ b = flagByte (b ≠ 0) := by
  unfold flagByte
  by_cases h : b = 0
  · simp [h]
  · simp [h]

/-- Two bytes that are flags. -/
theorem flags_iff {data : Bytes} {offset : ℕ} {v : Bool × Bool}
    (hle : offset + 2 ≤ data.length) :
    (¬((data.slice offset 2).any fun b => b ≠ 0 ∧ b ≠ 1) = true ∧
        ((data.byteAt offset ≠ 0 : Bool), (data.byteAt (offset + 1) ≠ 0 : Bool)) = v) ↔
      Segment data offset (flagsLayout.write v) := by
  have hpair : data.slice offset 2 = [data.byteAt offset, data.byteAt (offset + 1)] := by
    rw [← Bytes.slice_append_slice data offset 1 1, Bytes.slice_one (by omega),
      Bytes.slice_one (by omega)]
    rfl
  have htwo : (flagsLayout.write v).length = 2 := rfl
  rw [segment_iff htwo]
  change _ ↔ data.slice offset 2 = _
  rw [hpair]
  obtain ⟨a, b⟩ := v
  generalize data.byteAt offset = x
  generalize data.byteAt (offset + 1) = y
  simp only [flagsLayout, List.cons.injEq, and_true, Prod.mk.injEq, List.any_cons, List.any_nil]
  constructor
  · rintro ⟨hany, rfl, rfl⟩
    have hflags : (x = 0 ∨ x = 1) ∧ (y = 0 ∨ y = 1) := by simpa [or_iff_not_imp_left] using hany
    exact ⟨flagByte_iff.mp hflags.1, flagByte_iff.mp hflags.2⟩
  · rintro ⟨rfl, rfl⟩
    cases a <;> cases b <;> simp [flagByte]

theorem readFlags_reads : Reads readFlags flagsLayout := by
  intro (data : Bytes) offset v stop
  have htwo : (flagsLayout.write v).length = 2 := rfl
  unfold readFlags
  rw [htwo]
  by_cases hlong : offset + 2 > data.length
  · rw [if_pos (.inl hlong)]
    refine iff_of_false (by simp) ?_
    rintro ⟨-, hseg, -⟩
    have hle := hseg.length_le (by simp [flagsLayout])
    rw [htwo] at hle
    omega
  · have hflags := flags_iff (v := v) (not_lt.mp hlong)
    by_cases hany : (data.slice offset 2).any (fun b => b ≠ 0 ∧ b ≠ 1) = true
    · rw [if_pos (.inr hany)]
      refine iff_of_false (by simp) ?_
      rintro ⟨-, hseg, -⟩
      exact (hflags.mpr hseg).1 hany
    · rw [if_neg (not_or.mpr ⟨hlong, hany⟩), Except.ok.injEq, Prod.mk.injEq]
      constructor
      · rintro ⟨hv, rfl⟩
        exact ⟨trivial, hflags.mp ⟨hany, hv⟩, rfl⟩
      · rintro ⟨-, hseg, rfl⟩
        exact ⟨(hflags.mpr hseg).2, rfl⟩

/-! ## Create arguments -/

/-- The fields both instructions begin with. -/
def readHead : Bytes → ℕ → Except PumpContractError ((String × String × String × String) × ℕ) :=
  readSeq readString (readSeq readString (readSeq readString readPubkey))

def headLayout : Layout UInt8 (String × String × String × String) :=
  stringLayout.seq (stringLayout.seq (stringLayout.seq pubkeyLayout))

theorem readHead_reads : Reads readHead headLayout :=
  readString_reads.seq (readString_reads.seq (readString_reads.seq readPubkey_reads))

def createArgsLayout : Layout UInt8 CreateArgs where
  write v := headLayout.write (v.name, v.symbol, v.uri, v.creator)
  Valid v := headLayout.Valid (v.name, v.symbol, v.uri, v.creator)

theorem stringLayout_ne_nil (text : String) : stringLayout.write text ≠ [] := by
  rw [← List.length_pos_iff]
  simp [stringLayout]

theorem headLayout_ne_nil (v : String × String × String × String) : headLayout.write v ≠ [] := by
  intro h
  exact stringLayout_ne_nil v.1 (List.append_eq_nil_iff.mp h).1

theorem decodeCreateArgs_eq (data : Bytes) : decodeCreateArgs data = (do
    let (v, stop) ← readHead data 8
    if stop ≠ data.length then throw (malformed "trailing create bytes")
    return { name := v.1, symbol := v.2.1, uri := v.2.2.1, creator := v.2.2.2 }) := by
  simp only [decodeCreateArgs, readHead, readSeq, bind_assoc, pure_bind]
  rfl

theorem decodeCreateArgs_iff {data : Bytes} {v : CreateArgs} :
    decodeCreateArgs data = .ok v ↔
      createArgsLayout.Valid v ∧ data.drop 8 = createArgsLayout.write v := by
  have hend := readHead_reads.end_iff data 8
    (headLayout_ne_nil (v.name, v.symbol, v.uri, v.creator))
  rw [decodeCreateArgs_eq]
  refine Iff.trans ?_ hend
  constructor
  · intro h
    obtain ⟨⟨head, stop⟩, hhead, h⟩ := bind_ok h
    obtain ⟨hstop, hv⟩ := check_ok h
    obtain rfl : _ = v := Except.ok.inj hv
    rw [← not_not.mp hstop]
    exact hhead
  · intro h
    rw [h, ok_bind]
    simp only [ne_eq, not_true_eq_false, ↓reduceIte]
    rfl

def createV2ArgsLayout : Layout UInt8 CreateV2Args where
  write v := headLayout.write (v.name, v.symbol, v.uri, v.creator) ++
    flagsLayout.write (v.isMayhemMode, v.isCashbackEnabled)
  Valid v := headLayout.Valid (v.name, v.symbol, v.uri, v.creator)

theorem decodeCreateV2Args_eq (data : Bytes) : decodeCreateV2Args data = (do
    let (v, stop) ← readHead data 8
    if stop + 2 ≠ data.length then throw (malformed "trailing create_v2 bytes")
    if (data.slice stop 2).any fun b => b ≠ 0 ∧ b ≠ 1 then
      throw (malformed "invalid create_v2 boolean")
    return {
      name := v.1, symbol := v.2.1, uri := v.2.2.1, creator := v.2.2.2
      isMayhemMode := data.byteAt stop ≠ 0
      isCashbackEnabled := data.byteAt (stop + 1) ≠ 0 }) := by
  simp only [decodeCreateV2Args, readHead, readSeq, bind_assoc, pure_bind]
  rfl

/-- The checks at the end are those of the flags of an event. -/
theorem readFlags_of_check {data : Bytes} {stop : ℕ} (hstop : stop + 2 = data.length)
    (hany : ¬((data.slice stop 2).any fun b => b ≠ 0 ∧ b ≠ 1) = true) :
    readFlags data stop =
      .ok ((data.byteAt stop ≠ 0, data.byteAt (stop + 1) ≠ 0), data.length) := by
  unfold readFlags
  rw [if_neg (not_or.mpr ⟨by omega, hany⟩), hstop]

theorem decodeCreateV2Args_iff {data : Bytes} {v : CreateV2Args} :
    decodeCreateV2Args data = .ok v ↔
      createV2ArgsLayout.Valid v ∧ data.drop 8 = createV2ArgsLayout.write v := by
  have hread : Reads (readSeq readHead readFlags) (headLayout.seq flagsLayout) :=
    readHead_reads.seq readFlags_reads
  have hne : (headLayout.seq flagsLayout).write
      ((v.name, v.symbol, v.uri, v.creator), (v.isMayhemMode, v.isCashbackEnabled)) ≠ [] := by
    intro h
    exact headLayout_ne_nil _ (List.append_eq_nil_iff.mp h).1
  have hend := hread.end_iff data 8 hne
  rw [decodeCreateV2Args_eq]
  refine Iff.trans ?_ (hend.trans ?_)
  · constructor
    · intro h
      obtain ⟨⟨head, stop⟩, hhead, h⟩ := bind_ok h
      obtain ⟨hstop, h⟩ := check_ok h
      obtain ⟨hany, hv⟩ := check_ok h
      obtain rfl : _ = v := Except.ok.inj hv
      unfold readSeq
      rw [hhead, ok_bind]
      change (readFlags data stop >>= _) = _
      rw [readFlags_of_check (not_not.mp hstop) hany]
      rfl
    · intro h
      obtain ⟨⟨head, stop⟩, hhead, h⟩ := bind_ok h
      obtain ⟨⟨flags, stop'⟩, hflags, h⟩ := bind_ok h
      obtain ⟨⟨rfl, hpair⟩, rfl⟩ : (head = (v.name, v.symbol, v.uri, v.creator) ∧
          flags = (v.isMayhemMode, v.isCashbackEnabled)) ∧ stop' = data.length := by
        simpa [and_assoc] using Except.ok.inj h
      unfold readFlags at hflags
      split_ifs at hflags with hbad
      obtain ⟨hv, hstop⟩ := Prod.mk.inj (Except.ok.inj hflags)
      rw [hpair] at hv
      obtain ⟨hlong, hany⟩ := not_or.mp hbad
      rw [hhead, ok_bind]
      simp only [hstop, ne_eq, not_true_eq_false, ↓reduceIte]
      rw [if_neg hany, (Prod.mk.inj hv).1, (Prod.mk.inj hv).2]
      rfl
  · exact ⟨fun ⟨⟨hvalid, _⟩, hdata⟩ => ⟨hvalid, hdata⟩,
      fun ⟨hvalid, hdata⟩ => ⟨⟨hvalid, trivial⟩, hdata⟩⟩

/-! ## Create events -/

/-- The fields of an event but the last one. -/
def readFront := readSeq readString (readSeq readString (readSeq readString
  (readSeq (readMany readPubkey 4) (readSeq (readMany readScalar 5)
    (readSeq readPubkey (readSeq readFlags readPubkey))))))

def frontLayout := stringLayout.seq (stringLayout.seq (stringLayout.seq
  ((pubkeyLayout.replicate 4).seq ((scalarLayout.replicate 5).seq
    (pubkeyLayout.seq (flagsLayout.seq pubkeyLayout))))))

theorem readFront_reads : Reads readFront frontLayout :=
  readString_reads.seq (readString_reads.seq (readString_reads.seq
    ((readPubkey_reads.many 4).seq ((readScalar_reads.many 5).seq
      (readPubkey_reads.seq (readFlags_reads.seq readPubkey_reads))))))

namespace CreateEvent

def front (e : CreateEvent) :=
  (e.name, e.symbol, e.uri, [e.mint, e.bondingCurve, e.user, e.creator],
    [e.timestamp, e.virtualTokenReserves, e.virtualSolReserves, e.realTokenReserves,
      e.tokenTotalSupply], e.tokenProgram, (e.isMayhemMode, e.isCashbackEnabled), e.quoteMint)

/-- The event whose fields were read. -/
def ofFront (v : String × String × String × List String × List ℕ × String × (Bool × Bool) × String)
    (virtualQuoteReserves : ℕ) : CreateEvent where
  name := v.1
  symbol := v.2.1
  uri := v.2.2.1
  mint := v.2.2.2.1.getD 0 ""
  bondingCurve := v.2.2.2.1.getD 1 ""
  user := v.2.2.2.1.getD 2 ""
  creator := v.2.2.2.1.getD 3 ""
  timestamp := v.2.2.2.2.1.getD 0 0
  virtualTokenReserves := v.2.2.2.2.1.getD 1 0
  virtualSolReserves := v.2.2.2.2.1.getD 2 0
  realTokenReserves := v.2.2.2.2.1.getD 3 0
  tokenTotalSupply := v.2.2.2.2.1.getD 4 0
  tokenProgram := v.2.2.2.2.2.1
  isMayhemMode := v.2.2.2.2.2.2.1.1
  isCashbackEnabled := v.2.2.2.2.2.2.1.2
  quoteMint := v.2.2.2.2.2.2.2
  virtualQuoteReserves := virtualQuoteReserves

theorem ofFront_front (e : CreateEvent) : ofFront e.front e.virtualQuoteReserves = e := rfl

theorem front_ofFront {v} (h : frontLayout.Valid v) (n : ℕ) : (ofFront v n).front = v := by
  obtain ⟨name, symbol, uri, pubkeys, scalars, rest⟩ := v
  obtain ⟨-, -, -, ⟨hpubkeys, -⟩, ⟨hscalars, -⟩, -⟩ := h
  match pubkeys, scalars, hpubkeys, hscalars with
  | [_, _, _, _], [_, _, _, _, _], _, _ => rfl

end CreateEvent

def eventLayout : Layout UInt8 CreateEvent where
  write e := frontLayout.write e.front ++ scalarLayout.write e.virtualQuoteReserves
  Valid e := frontLayout.Valid e.front ∧ scalarLayout.Valid e.virtualQuoteReserves

/-- Where an event begins. -/
def eventOffset (data : Bytes) : ℕ := if eventCpiWrapper <+: data then eventCpiWrapper.length else 0

theorem decodeEvent_eq (data : Bytes) : decodeEvent data = (do
    if data.slice (eventOffset data) 8 ≠ createEventDiscriminator then
      throw (malformed "bad event discriminator")
    let (v, stop) ← readFront data (eventOffset data + 8)
    if stop + 8 ≠ data.length then throw (malformed "invalid event length")
    return CreateEvent.ofFront v (data.slice stop 8).toNatLittle) := by
  simp only [decodeEvent, readFront, readSeq, bind_assoc, pure_bind, CreateEvent.ofFront]
  rfl

/-- A decoder succeeds exactly where its checks pass and the fields go on to the end. -/
theorem decodeEvent_read_iff {data : Bytes} {e : CreateEvent} :
    decodeEvent data = .ok e ↔
      data.slice (eventOffset data) 8 = createEventDiscriminator ∧
        readSeq readFront readScalar data (eventOffset data + 8) =
          .ok ((e.front, e.virtualQuoteReserves), data.length) := by
  rw [decodeEvent_eq]
  constructor
  · intro h
    obtain ⟨hhead, h⟩ := check_ok h
    obtain ⟨⟨v, stop⟩, hfront, h⟩ := bind_ok h
    obtain ⟨hstop, he⟩ := check_ok h
    obtain rfl : _ = e := Except.ok.inj he
    have hvalid := ((readFront_reads data _ v stop).mp hfront).1
    have hscalar : readScalar data stop = .ok ((data.slice stop 8).toNatLittle, data.length) := by
      unfold readScalar
      rw [if_neg (by omega), not_not.mp hstop]
    refine ⟨not_not.mp hhead, ?_⟩
    unfold readSeq
    rw [hfront, ok_bind, CreateEvent.front_ofFront hvalid]
    change (readScalar data stop >>= _) = _
    rw [hscalar]
    rfl
  · rintro ⟨hhead, h⟩
    obtain ⟨⟨v, stop⟩, hfront, h⟩ := bind_ok h
    obtain ⟨⟨n, stop'⟩, hscalar, h⟩ := bind_ok h
    obtain ⟨⟨rfl, rfl⟩, rfl⟩ : (v = e.front ∧ n = e.virtualQuoteReserves) ∧
        stop' = data.length := by simpa using Except.ok.inj h
    unfold readScalar at hscalar
    split_ifs at hscalar with hlong
    obtain ⟨hn, hstop⟩ := Prod.mk.inj (Except.ok.inj hscalar)
    rw [if_neg (not_not.mpr hhead), hfront, ok_bind]
    simp only [hstop, ne_eq, not_true_eq_false, ↓reduceIte, hn]
    rw [CreateEvent.ofFront_front]
    rfl

/-- The discriminator, possibly behind the wrapper. -/
def EventHead (head : Bytes) : Prop :=
  head = createEventDiscriminator ∨ head = eventCpiWrapper ++ createEventDiscriminator

theorem not_begins_with_wrapper (rest : Bytes) :
    ¬eventCpiWrapper <+: createEventDiscriminator ++ rest := by
  rintro ⟨t, ht⟩
  exact absurd (List.cons.inj ht).1 (by decide)

/-- What follows the offset of an event is what follows one of its heads. -/
theorem drop_eventOffset_iff {data fields : Bytes} :
    data.drop (eventOffset data) = createEventDiscriminator ++ fields ↔
      ∃ head, EventHead head ∧ data = head ++ fields := by
  unfold eventOffset
  by_cases hwrapper : eventCpiWrapper <+: data
  · rw [if_pos hwrapper]
    obtain ⟨rest, rfl⟩ := hwrapper
    rw [List.drop_left]
    constructor
    · rintro rfl
      exact ⟨_, .inr rfl, (List.append_assoc _ _ _).symm⟩
    · rintro ⟨head, rfl | rfl, hdata⟩
      · exact absurd ⟨rest, hdata⟩ (not_begins_with_wrapper fields)
      · rw [List.append_assoc] at hdata
        exact List.append_cancel_left hdata
  · rw [if_neg hwrapper, List.drop_zero]
    constructor
    · rintro rfl
      exact ⟨_, .inl rfl, rfl⟩
    · rintro ⟨head, rfl | rfl, rfl⟩
      · rfl
      · rw [List.append_assoc] at hwrapper
        exact absurd (List.prefix_append _ _) hwrapper

theorem decodeEvent_iff {data : Bytes} {e : CreateEvent} :
    decodeEvent data = .ok e ↔
      eventLayout.Valid e ∧ ∃ head, EventHead head ∧ data = head ++ eventLayout.write e := by
  have hread : Reads (readSeq readFront readScalar) (frontLayout.seq scalarLayout) :=
    readFront_reads.seq readScalar_reads
  have hne : (frontLayout.seq scalarLayout).write (e.front, e.virtualQuoteReserves) ≠ [] := by
    intro h
    exact stringLayout_ne_nil e.name (List.append_eq_nil_iff.mp (List.append_eq_nil_iff.mp h).1).1
  have hend := hread.end_iff data (eventOffset data + 8) hne
  have hslice : data.slice (eventOffset data) 8 = createEventDiscriminator ∧
      data.drop (eventOffset data + 8) = eventLayout.write e ↔
      data.drop (eventOffset data) = createEventDiscriminator ++ eventLayout.write e := by
    rw [← List.drop_drop]
    change (data.drop (eventOffset data)).take 8 = _ ∧ _ ↔ _
    generalize data.drop (eventOffset data) = rest
    constructor
    · rintro ⟨hhead, hfields⟩
      rw [← hhead, ← hfields, List.take_append_drop]
    · rintro rfl
      exact ⟨rfl, rfl⟩
  rw [decodeEvent_read_iff, hend, ← drop_eventOffset_iff, ← hslice]
  exact ⟨fun ⟨hhead, hvalid, hfields⟩ => ⟨hvalid, hhead, hfields⟩,
    fun ⟨hvalid, hhead, hfields⟩ => ⟨hhead, hvalid, hfields⟩⟩

/-! ## The three decoders -/

/-- The decoder accepts what the layout writes behind one of the heads and nothing else, what it
returns is written as what it was read from, and behind one head no other bytes are read alike. -/
structure Exact {α : Type} (decode : Bytes → Except PumpContractError α) (Head : Bytes → Prop)
    (L : Layout UInt8 α) : Prop where
  accepts : ∀ data, (∃ v, decode data = .ok v) ↔
    ∃ head v, Head head ∧ L.Valid v ∧ data = head ++ L.write v
  rewritten : ∀ data v, decode data = .ok v → ∃ head, Head head ∧ data = head ++ L.write v
  injective : ∀ head a b v, Head head → decode (head ++ a) = .ok v → decode (head ++ b) = .ok v →
    a = b

/-- No head goes on as another one. -/
theorem Exact.of_iff {α : Type} {decode : Bytes → Except PumpContractError α}
    {Head : Bytes → Prop} {L : Layout UInt8 α}
    (hdecode : ∀ data v, decode data = .ok v ↔
      L.Valid v ∧ ∃ head, Head head ∧ data = head ++ L.write v)
    (hhead : ∀ head head' a b, Head head → Head head' → head ++ a = head' ++ b → head = head') :
    Exact decode Head L := by
  constructor
  · intro data
    constructor
    · rintro ⟨v, hv⟩
      obtain ⟨hvalid, head, hh, hdata⟩ := (hdecode data v).mp hv
      exact ⟨head, v, hh, hvalid, hdata⟩
    · rintro ⟨head, v, hh, hvalid, hdata⟩
      exact ⟨v, (hdecode data v).mpr ⟨hvalid, head, hh, hdata⟩⟩
  · intro data v hv
    exact ((hdecode data v).mp hv).2
  · intro head a b v hh ha hb
    obtain ⟨-, ha', hha, hdataA⟩ := (hdecode _ v).mp ha
    obtain ⟨-, hb', hhb, hdataB⟩ := (hdecode _ v).mp hb
    obtain rfl := hhead _ _ _ _ hh hha hdataA
    obtain rfl := hhead _ _ _ _ hh hhb hdataB
    exact (List.append_cancel_left hdataA).trans (List.append_cancel_left hdataB).symm

/-- The bytes behind eight bytes, whatever these are. -/
theorem drop_eight_iff {data fields : Bytes} (hne : fields ≠ []) :
    data.drop 8 = fields ↔ ∃ head : Bytes, head.length = 8 ∧ data = head ++ fields := by
  constructor
  · rintro rfl
    have hlen := List.length_pos_iff.mpr hne
    rw [List.length_drop] at hlen
    exact ⟨data.take 8, by rw [List.length_take]; omega, (List.take_append_drop 8 data).symm⟩
  · rintro ⟨head, hlen, rfl⟩
    rw [← hlen, List.drop_left]

theorem head_eq_of_length {head head' a b : Bytes} (h : head.length = 8) (h' : head'.length = 8)
    (heq : head ++ a = head' ++ b) : head = head' :=
  (List.append_inj heq (h.trans h'.symm)).1

theorem eventHead_eq {head head' a b : Bytes} (h : EventHead head) (h' : EventHead head')
    (heq : head ++ a = head' ++ b) : head = head' := by
  rcases h with rfl | rfl <;> rcases h' with rfl | rfl
  · rfl
  · exact absurd (List.cons.inj heq).1 (by decide)
  · exact absurd (List.cons.inj heq).1 (by decide)
  · rfl

/-- Each decoder accepts exactly its layout. -/
theorem decoders_exact :
    Exact decodeCreateArgs (·.length = 8) createArgsLayout ∧
      Exact decodeCreateV2Args (·.length = 8) createV2ArgsLayout ∧
      Exact decodeEvent EventHead eventLayout := by
  refine ⟨.of_iff (fun data v => ?_) fun _ _ _ _ => head_eq_of_length,
    .of_iff (fun data v => ?_) fun _ _ _ _ => head_eq_of_length,
    .of_iff (fun _ _ => decodeEvent_iff) fun _ _ _ _ => eventHead_eq⟩
  · rw [decodeCreateArgs_iff, drop_eight_iff]
    exact headLayout_ne_nil (v.name, v.symbol, v.uri, v.creator)
  · rw [decodeCreateV2Args_iff, drop_eight_iff]
    intro h
    exact headLayout_ne_nil _ (List.append_eq_nil_iff.mp h).1

end PrinterV1.Sources.Direct
