import PrinterV1.Python.Bytes

/-!
# Base58

`_b58encode` and `_b58decode`. Every leading zero byte is written as a one, and
the number of the remaining bytes in base 58 behind it.
-/

namespace PrinterV1.Sources

open Python

/-- `_BASE58_ALPHABET` -/
def base58Alphabet : List Char :=
  "123456789ABCDEFGHJKLMNPQRSTUVWXYZabcdefghijkmnopqrstuvwxyz".toList

/-- `_BASE58_ALPHABET[remainder]` -/
def base58Char (d : ℕ) : Char := base58Alphabet.getD d '1'

/-- `_BASE58_ALPHABET.find(ch)`, where it is found. -/
def base58Index (c : Char) : Option ℕ := base58Alphabet.idxOf? c

/-- `_b58encode`; its loop takes the digits of the number from the right. -/
def b58encode (raw : Bytes) : String :=
  let encoded := (Digits.ofNat 58 raw.toNatBig).map base58Char
  let leading := raw.length - raw.lstripZeros.length
  String.ofList (List.replicate leading '1' ++
    if encoded ≠ [] then encoded else if leading ≠ 0 then [] else ['1'])

/-- `_b58decode`; `none` is its `None`. -/
def b58decode (value : String) : Option Bytes :=
  if value = "" then none
  else do
    let ds ← value.toList.mapM base58Index
    let num := Digits.value 58 ds
    let pad := value.toList.length - (value.toList.dropWhile fun c => c = '1').length
    return List.replicate pad 0 ++ Bytes.ofNatBig num

theorem base58Index_char : ∀ d < 58, base58Index (base58Char d) = some d := by
  decide

theorem base58Char_index {c : Char} {d : ℕ} (h : base58Index c = some d) : base58Char d = c := by
  obtain ⟨hd, hc, _⟩ := List.findIdx?_eq_some_iff_getElem.mp h
  rw [base58Char, List.getD_eq_getElem?_getD, List.getElem?_eq_getElem hd]
  simpa using hc

theorem base58Index_lt {c : Char} {d : ℕ} (h : base58Index c = some d) : d < 58 := by
  obtain ⟨hd, _⟩ := List.findIdx?_eq_some_iff_getElem.mp h
  exact hd

theorem base58Index_isSome {c : Char} (h : c ∈ base58Alphabet) : ∃ d, base58Index c = some d := by
  cases hfind : base58Index c with
  | none =>
    have hnone := List.idxOf?_eq_none_iff.mp hfind
    exact absurd h hnone
  | some d => exact ⟨d, rfl⟩

/-- The one is the zero of the alphabet. -/
theorem base58Char_eq_one {d : ℕ} (h : d < 58) : base58Char d = '1' ↔ d = 0 := by
  revert d
  decide

theorem mapM_base58Index_map {ds : List ℕ} (h : ∀ d ∈ ds, d < 58) :
    (ds.map base58Char).mapM base58Index = some ds := by
  induction ds with
  | nil => rfl
  | cons d ds ih =>
    have hd : d < 58 := h d List.mem_cons_self
    have htail : ∀ x ∈ ds, x < 58 := fun x hx => h x (List.mem_cons_of_mem d hx)
    rw [List.map_cons, List.mapM_cons, base58Index_char d hd, ih htail]
    rfl

theorem mapM_base58Index_some {cs : List Char} : ∀ {ds : List ℕ}, cs.mapM base58Index = some ds →
    ds.map base58Char = cs ∧ ∀ d ∈ ds, d < 58 := by
  induction cs with
  | nil =>
    intro ds h
    obtain rfl : [] = ds := by simpa using h
    simp
  | cons c cs ih =>
    intro ds h
    rw [List.mapM_cons] at h
    obtain ⟨d, hd, h⟩ := Option.bind_eq_some_iff.mp h
    obtain ⟨rest, hrest, h⟩ := Option.bind_eq_some_iff.mp h
    obtain rfl : d :: rest = ds := Option.some.inj h
    obtain ⟨hmap, hlt⟩ := ih hrest
    refine ⟨by rw [List.map_cons, hmap, base58Char_index hd], ?_⟩
    intro x hx
    rcases List.mem_cons.mp hx with rfl | hx
    · exact base58Index_lt hd
    · exact hlt x hx

theorem mapM_base58Index_of_mem {cs : List Char} (h : ∀ c ∈ cs, c ∈ base58Alphabet) :
    ∃ ds, cs.mapM base58Index = some ds := by
  induction cs with
  | nil => exact ⟨[], rfl⟩
  | cons c cs ih =>
    obtain ⟨d, hd⟩ := base58Index_isSome (h c List.mem_cons_self)
    obtain ⟨ds, hds⟩ := ih fun x hx => h x (List.mem_cons_of_mem c hx)
    exact ⟨d :: ds, by rw [List.mapM_cons, hd, hds]; rfl⟩

/-- What a run at the front takes and what it leaves. -/
theorem length_sub_dropWhile {α : Type} (p : α → Bool) (xs : List α) :
    xs.length - (xs.dropWhile p).length = (xs.takeWhile p).length := by
  have hlen := congrArg List.length (List.takeWhile_append_dropWhile (p := p) (l := xs))
  rw [List.length_append] at hlen
  omega

theorem takeWhile_replicate_append {α : Type} {p : α → Bool} {a : α} (ha : p a = true) (k : ℕ)
    {xs : List α} (hxs : xs.takeWhile p = []) :
    (List.replicate k a ++ xs).takeWhile p = List.replicate k a := by
  induction k with
  | zero => simpa using hxs
  | succ k ih => simp [List.replicate_succ, ha, ih]

/-- A run of one element at the front, put back. -/
theorem replicate_append_dropWhile {α : Type} [DecidableEq α] (a : α) (xs : List α) :
    List.replicate (xs.takeWhile fun x => x = a).length a ++ xs.dropWhile (fun x => x = a) =
      xs := by
  have hrun : xs.takeWhile (fun x => decide (x = a)) =
      List.replicate (xs.takeWhile fun x => decide (x = a)).length a := by
    apply List.eq_replicate_of_mem
    intro x hx
    simpa using List.mem_takeWhile_imp hx
  rw [← hrun, List.takeWhile_append_dropWhile]

theorem dropWhile_ones {ds : List ℕ} (h : ∀ d ∈ ds, d < 58) :
    (ds.map base58Char).dropWhile (fun c => c = '1') =
      (ds.dropWhile fun d => d = 0).map base58Char := by
  induction ds with
  | nil => rfl
  | cons d ds ih =>
    have htail : ∀ x ∈ ds, x < 58 := fun x hx => h x (List.mem_cons_of_mem d hx)
    have hone := base58Char_eq_one (h d List.mem_cons_self)
    by_cases hd : d = 0
    · have hchar : base58Char d = '1' := hone.mpr hd
      rw [List.map_cons, List.dropWhile_cons_of_pos (by simpa using hchar),
        List.dropWhile_cons_of_pos (by simpa using hd), ih htail]
    · have hchar : base58Char d ≠ '1' := fun hc => hd (hone.mp hc)
      rw [List.map_cons, List.dropWhile_cons_of_neg (by simpa using hchar),
        List.dropWhile_cons_of_neg (by simpa using hd), List.map_cons]

/-- The digits of a byte string in base 58, a zero for each leading zero byte. -/
def base58Digits (raw : Bytes) : List ℕ :=
  List.replicate (raw.takeWhile fun b => b = 0).length 0 ++ Digits.ofNat 58 raw.toNatBig

theorem base58Digits_lt (raw : Bytes) : ∀ d ∈ base58Digits raw, d < 58 := by
  intro d hd
  rcases List.mem_append.mp hd with hd | hd
  · rw [List.eq_of_mem_replicate hd]
    decide
  · exact Digits.mem_ofNat_lt (by decide) hd

theorem value_base58Digits (raw : Bytes) : Digits.value 58 (base58Digits raw) = raw.toNatBig := by
  rw [base58Digits, Digits.value_replicate_append, Digits.value_ofNat]

theorem takeWhile_base58Digits (raw : Bytes) :
    (base58Digits raw).takeWhile (fun d => d = 0) =
      List.replicate (raw.takeWhile fun b => b = 0).length 0 :=
  takeWhile_replicate_append (by simp) _ (Digits.takeWhile_ofNat 58 _)

theorem base58Digits_ne_nil {raw : Bytes} (h : raw ≠ []) : base58Digits raw ≠ [] := by
  intro hnil
  obtain ⟨hzeros, hdigits⟩ := List.append_eq_nil_iff.mp hnil
  have hvalue : raw.toNatBig = 0 := by
    rw [← Digits.value_ofNat 58 raw.toNatBig, hdigits]
    rfl
  have hrest : raw.lstripZeros = [] := by
    rw [← Bytes.ofNatBig_toNatBig, hvalue]
    rfl
  have hcount : (raw.takeWhile fun b => b = 0).length = 0 := by
    simpa using congrArg List.length hzeros
  have hraw := replicate_append_dropWhile 0 raw
  rw [hcount, show raw.dropWhile (fun b => b = 0) = [] from hrest] at hraw
  exact h hraw.symm

theorem b58encode_eq {raw : Bytes} (h : raw ≠ []) :
    b58encode raw = String.ofList ((base58Digits raw).map base58Char) := by
  have hleading : raw.length - raw.lstripZeros.length = (raw.takeWhile fun b => b = 0).length :=
    length_sub_dropWhile _ raw
  have hne := base58Digits_ne_nil h
  unfold b58encode
  dsimp only
  rw [hleading, base58Digits, List.map_append, List.map_replicate]
  congr 2
  split_ifs with hempty hzeros
  · rfl
  · exact (not_not.mp hempty).symm
  · refine absurd ?_ hne
    have hdigits : Digits.ofNat 58 raw.toNatBig = [] := List.map_eq_nil_iff.mp (not_not.mp hempty)
    rw [base58Digits, hdigits, not_not.mp hzeros]
    rfl

theorem b58decode_eq {ds : List ℕ} (h : ∀ d ∈ ds, d < 58) (hne : ds ≠ []) :
    b58decode (String.ofList (ds.map base58Char)) =
      some (List.replicate (ds.takeWhile fun d => d = 0).length 0 ++
        Bytes.ofNatBig (Digits.value 58 ds)) := by
  have htext : String.ofList (ds.map base58Char) ≠ "" := by
    intro hempty
    have hlist := congrArg String.toList hempty
    simp [hne] at hlist
  unfold b58decode
  rw [if_neg htext, String.toList_ofList, mapM_base58Index_map h]
  simp only [Option.bind_eq_bind, Option.bind_some, dropWhile_ones h, List.length_map,
    length_sub_dropWhile]
  rfl

theorem b58decode_some {value : String} {raw : Bytes} (h : b58decode value = some raw) :
    ∃ ds, ds ≠ [] ∧ (∀ d ∈ ds, d < 58) ∧ value = String.ofList (ds.map base58Char) := by
  unfold b58decode at h
  split_ifs at h with hempty
  obtain ⟨ds, hds, _⟩ := Option.bind_eq_some_iff.mp h
  obtain ⟨hmap, hlt⟩ := mapM_base58Index_some hds
  refine ⟨ds, ?_, hlt, by rw [hmap, String.ofList_toList]⟩
  rintro rfl
  apply hempty
  rw [← String.ofList_toList (s := value), ← hmap]
  rfl

theorem b58decode_encode {raw : Bytes} (h : raw ≠ []) : b58decode (b58encode raw) = some raw := by
  rw [b58encode_eq h, b58decode_eq (base58Digits_lt raw) (base58Digits_ne_nil h),
    takeWhile_base58Digits, List.length_replicate, value_base58Digits, Bytes.ofNatBig_toNatBig]
  exact congrArg some (replicate_append_dropWhile 0 raw)

/-- The bytes of a list of digits have those digits. -/
theorem base58Digits_bytes {ds : List ℕ} (h : ∀ d ∈ ds, d < 58) :
    base58Digits (List.replicate (ds.takeWhile fun d => d = 0).length 0 ++
      Bytes.ofNatBig (Digits.value 58 ds)) = ds := by
  have hfront : (Bytes.ofNatBig (Digits.value 58 ds)).takeWhile (fun b => b = 0) = [] := by
    have hdigits := Digits.takeWhile_ofNat 256 (Digits.value 58 ds)
    rw [← Bytes.digits_ofNatBig, Bytes.takeWhile_digits] at hdigits
    exact List.map_eq_nil_iff.mp hdigits
  have hvalue : Bytes.toNatBig (List.replicate (ds.takeWhile fun d => d = 0).length 0 ++
      Bytes.ofNatBig (Digits.value 58 ds)) = Digits.value 58 ds := by
    rw [Bytes.toNatBig, Bytes.digits_append, Bytes.digits_ofNatBig, Bytes.digits,
      List.map_replicate]
    exact (Digits.value_replicate_append 256 _ _).trans (Digits.value_ofNat 256 _)
  rw [base58Digits, takeWhile_replicate_append (by simp) _ hfront, List.length_replicate, hvalue,
    Digits.ofNat_value (by decide) h, replicate_append_dropWhile]

theorem b58encode_decode {value : String} {raw : Bytes} (h : b58decode value = some raw) :
    b58encode raw = value := by
  obtain ⟨ds, hne, hlt, rfl⟩ := b58decode_some h
  rw [b58decode_eq hlt hne] at h
  obtain rfl := Option.some.inj h
  have hdigits := base58Digits_bytes hlt
  rw [b58encode_eq, hdigits]
  intro hraw
  rw [hraw] at hdigits
  exact hne hdigits.symm

/-- A text over the alphabet is accepted. -/
theorem b58decode_of_alphabet {value : String} (h : value ≠ "")
    (halphabet : ∀ c ∈ value.toList, c ∈ base58Alphabet) : ∃ raw, b58decode value = some raw := by
  obtain ⟨ds, hds⟩ := mapM_base58Index_of_mem halphabet
  unfold b58decode
  rw [if_neg h, hds]
  exact ⟨_, rfl⟩

theorem b58encode_injective {a b : Bytes} (ha : a ≠ []) (hb : b ≠ [])
    (h : b58encode a = b58encode b) : a = b := by
  have hdecoded := b58decode_encode hb
  rw [← h, b58decode_encode ha] at hdecoded
  exact Option.some.inj hdecoded

/-- Both round trips, and what follows for public keys of 32 bytes. -/
theorem base58_round_trips :
    (∀ raw : Bytes, raw ≠ [] → b58decode (b58encode raw) = some raw) ∧
      (∀ value : String, value ≠ "" → (∀ c ∈ value.toList, c ∈ base58Alphabet) →
        (b58decode value).map b58encode = some value) ∧
      (∀ a b : Bytes, a.length = 32 → b.length = 32 → (b58encode a = b58encode b ↔ a = b)) ∧
      ∀ v w : String, ∀ a b : Bytes, b58decode v = some a → b58decode w = some b →
        (v = w ↔ a = b) := by
  refine ⟨fun raw h => b58decode_encode h, ?_, ?_, ?_⟩
  · intro value h halphabet
    obtain ⟨raw, hraw⟩ := b58decode_of_alphabet h halphabet
    rw [hraw, Option.map_some, b58encode_decode hraw]
  · intro a b ha hb
    have hne : ∀ raw : Bytes, raw.length = 32 → raw ≠ [] := by
      rintro raw hraw rfl
      cases hraw
    exact ⟨b58encode_injective (hne a ha) (hne b hb), congrArg b58encode⟩
  · intro v w a b hv hw
    constructor
    · rintro rfl
      exact Option.some.inj (hv.symm.trans hw)
    · rintro rfl
      rw [← b58encode_decode hv, b58encode_decode hw]

/-- The bytes and the text of a key with a leading zero. -/
theorem base58_round_trips_zero :
    b58decode (b58encode [0, 1]) = some [0, 1] ∧
      (b58decode "1So").map b58encode = some "1So" ∧
      (b58encode (List.replicate 32 7) = b58encode (List.replicate 32 8) ↔
        (List.replicate 32 7 : Bytes) = List.replicate 32 8) ∧
      ("12" = "12" ↔ ([0, 1] : Bytes) = [0, 1]) :=
  have hletters : "1So".toList.all (fun c => c ∈ base58Alphabet) = true := by decide
  ⟨base58_round_trips.1 [0, 1] (by decide),
    base58_round_trips.2.1 "1So" (by decide)
      fun c hc => of_decide_eq_true (List.all_eq_true.mp hletters c hc),
    base58_round_trips.2.2.1 _ _ (by decide) (by decide),
    base58_round_trips.2.2.2 "12" "12" [0, 1] [0, 1] (by decide) (by decide)⟩

/-- No bytes at all are written as a one, which is read as a zero byte. -/
theorem not_round_trip_empty : ¬∀ raw : Bytes, b58decode (b58encode raw) = some raw := by
  intro h
  exact absurd (h []) (by decide)

end PrinterV1.Sources
