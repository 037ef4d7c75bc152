import PrinterV1.Foundation.Digits

/-!
# Byte strings

`int.from_bytes` and `int.to_bytes`, the most or the least significant byte
first.
-/

namespace PrinterV1.Python

abbrev Bytes := List UInt8

namespace Bytes

def digits (raw : Bytes) : List ℕ := raw.map UInt8.toNat

/-- `int.from_bytes(raw, "big")` -/
def toNatBig (raw : Bytes) : ℕ := Digits.value 256 raw.digits

/-- `int.from_bytes(raw, "little")` -/
def toNatLittle (raw : Bytes) : ℕ := Nat.ofDigits 256 raw.digits

/-- `n.to_bytes((n.bit_length() + 7) // 8, "big")` -/
def ofNatBig (n : ℕ) : Bytes := (Digits.ofNat 256 n).map UInt8.ofNat

/-- `int.from_bytes(raw, "little", signed=True)` -/
def toIntLittle (raw : Bytes) : ℤ :=
  if 256 ^ raw.length ≤ 2 * raw.toNatLittle then (raw.toNatLittle : ℤ) - 256 ^ raw.length
  else raw.toNatLittle

/-- `n.to_bytes(length, "little")`, of a number that fits. -/
def ofNatLittle : ℕ → ℕ → Bytes
  | 0, _ => []
  | length + 1, n => UInt8.ofNat n :: ofNatLittle length (n / 256)

/-- `n.to_bytes(length, "little", signed=True)`, of a number that fits. -/
def ofIntLittle (length : ℕ) (n : ℤ) : Bytes := ofNatLittle length (n % 256 ^ length).toNat

/-- `raw[start:start + length]` -/
def slice (raw : Bytes) (start length : ℕ) : Bytes := (raw.drop start).take length

/-- `raw[i]`, of an index in the range. -/
def byteAt (raw : Bytes) (i : ℕ) : UInt8 := raw.getD i 0

/-- `raw.lstrip(b"\0")` -/
def lstripZeros (raw : Bytes) : Bytes := raw.dropWhile fun b => b = 0

theorem digits_lt (raw : Bytes) : ∀ d ∈ raw.digits, d < 256 := by
  intro d hd
  obtain ⟨b, _, rfl⟩ := List.mem_map.mp hd
  exact b.toNat_lt

theorem digits_map_ofNat {ds : List ℕ} (h : ∀ d ∈ ds, d < 256) :
    digits (ds.map UInt8.ofNat) = ds := by
  rw [digits, List.map_map]
  conv_rhs => rw [← List.map_id ds]
  apply List.map_congr_left
  intro d hd
  simpa using Nat.mod_eq_of_lt (h d hd)

theorem map_ofNat_digits (raw : Bytes) : raw.digits.map UInt8.ofNat = raw := by
  simp [digits, Function.comp_def]

theorem digits_append (a b : Bytes) : digits (a ++ b) = a.digits ++ b.digits := List.map_append

theorem digits_ofNatBig (n : ℕ) : (ofNatBig n).digits = Digits.ofNat 256 n :=
  digits_map_ofNat fun _ hd => Digits.mem_ofNat_lt (by decide) hd

theorem dropWhile_digits (raw : Bytes) :
    raw.digits.dropWhile (fun d => d = 0) = raw.lstripZeros.digits := by
  rw [digits, List.dropWhile_map, lstripZeros, digits]
  congr 2
  funext b
  simp [← UInt8.toNat_inj]

theorem takeWhile_digits (raw : Bytes) :
    raw.digits.takeWhile (fun d => d = 0) = digits (raw.takeWhile fun b => b = 0) := by
  rw [digits, List.takeWhile_map, digits]
  congr 2
  funext b
  simp [← UInt8.toNat_inj]

/-- The bytes of the number of a byte string are those behind its leading zeros. -/
theorem ofNatBig_toNatBig (raw : Bytes) : ofNatBig raw.toNatBig = raw.lstripZeros := by
  rw [ofNatBig, toNatBig, Digits.ofNat_value (by decide) raw.digits_lt, dropWhile_digits,
    map_ofNat_digits]

@[simp] theorem toNatLittle_cons (b : UInt8) (raw : Bytes) :
    toNatLittle (b :: raw) = b.toNat + 256 * raw.toNatLittle := by
  simp [toNatLittle, digits, Nat.ofDigits_cons]

theorem toNatLittle_lt (raw : Bytes) : raw.toNatLittle < 256 ^ raw.length := by
  have h := Nat.ofDigits_lt_base_pow_length (by decide : 1 < 256) raw.digits_lt
  simpa [toNatLittle, digits] using h

theorem ofNatLittle_toNatLittle (raw : Bytes) : ofNatLittle raw.length raw.toNatLittle = raw := by
  induction raw with
  | nil => rfl
  | cons b raw ih =>
    have hb : b.toNat < 256 := b.toNat_lt
    have hdiv : (b.toNat + 256 * toNatLittle raw) / 256 = toNatLittle raw := by omega
    have hbyte : UInt8.ofNat (b.toNat + 256 * toNatLittle raw) = b := by
      rw [← UInt8.toNat_inj, UInt8.toNat_ofNat']
      omega
    rw [toNatLittle_cons, List.length_cons, ofNatLittle, hdiv, ih, hbyte]

@[simp] theorem length_ofNatLittle (length n : ℕ) : (ofNatLittle length n).length = length := by
  induction length generalizing n with
  | zero => rfl
  | succ length ih => simp [ofNatLittle, ih]

theorem toNatLittle_ofNatLittle {length n : ℕ} (h : n < 256 ^ length) :
    (ofNatLittle length n).toNatLittle = n := by
  induction length generalizing n with
  | zero =>
    obtain rfl : n = 0 := by simpa using h
    rfl
  | succ length ih =>
    have hdiv : n / 256 < 256 ^ length := by
      rw [pow_succ] at h
      omega
    rw [ofNatLittle, toNatLittle_cons, ih hdiv, UInt8.toNat_ofNat']
    omega

theorem ofNatLittle_eq {raw : Bytes} {length : ℕ} (h : raw.length = length) :
    ofNatLittle length raw.toNatLittle = raw := by
  rw [← h, ofNatLittle_toNatLittle]

theorem ofIntLittle_eq {raw : Bytes} {length : ℕ} (h : raw.length = length) :
    ofIntLittle length raw.toIntLittle = raw := by
  subst h
  have hlt : (raw.toNatLittle : ℤ) < 256 ^ raw.length := by exact_mod_cast raw.toNatLittle_lt
  have hmod : raw.toIntLittle % 256 ^ raw.length = raw.toNatLittle := by
    unfold toIntLittle
    split_ifs
    · rw [Int.sub_emod_right]
      exact Int.emod_eq_of_lt (Int.natCast_nonneg _) hlt
    · exact Int.emod_eq_of_lt (Int.natCast_nonneg _) hlt
  rw [ofIntLittle, hmod, Int.toNat_natCast, ofNatLittle_toNatLittle]

theorem slice_append_slice (raw : Bytes) (start k l : ℕ) :
    raw.slice start k ++ raw.slice (start + k) l = raw.slice start (k + l) := by
  rw [slice, slice, slice, ← List.drop_drop, List.take_add]

theorem slice_zero (raw : Bytes) (length : ℕ) : raw.slice 0 length = raw.take length := rfl

theorem length_slice {raw : Bytes} {start length : ℕ} (h : start + length ≤ raw.length) :
    (raw.slice start length).length = length := by
  rw [slice, List.length_take, List.length_drop]
  omega

theorem slice_append {raw rest : Bytes} {start length : ℕ} (h : start + length ≤ raw.length) :
    slice (raw ++ rest) start length = raw.slice start length := by
  rw [slice, slice, List.drop_append_of_le_length (by omega),
    List.take_append_of_le_length (by rw [List.length_drop]; omega)]

theorem byteAt_append {raw rest : Bytes} {i : ℕ} (h : i < raw.length) :
    byteAt (raw ++ rest) i = raw.byteAt i := by
  rw [byteAt, byteAt, List.getD_eq_getElem?_getD, List.getD_eq_getElem?_getD,
    List.getElem?_append_left h]

theorem slice_one {raw : Bytes} {i : ℕ} (h : i < raw.length) : raw.slice i 1 = [raw.byteAt i] := by
  rw [slice, byteAt, List.drop_eq_getElem_cons h, List.getD_eq_getElem?_getD,
    List.getElem?_eq_getElem h]
  rfl

end Bytes

end PrinterV1.Python
