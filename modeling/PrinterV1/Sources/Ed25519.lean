import PrinterV1.Foundation.PrimeFields
import PrinterV1.Python.Bytes
import Mathlib.Tactic.FieldSimp
import Mathlib.Tactic.LinearCombination
import Mathlib.Tactic.NormNum.Prime

/-!
# Points of the Edwards curve

`_is_ed25519_point` decompresses 32 bytes: the lower 255 bits are the coordinate
`y`, the last one is the sign of `x`. It is compared with the equation of the
curve over the field of `2 ^ 255 - 19` elements.
-/

namespace PrinterV1.Sources

open Python

/-- `_ED25519_P` -/
def ed25519P : ℕ := 2 ^ 255 - 19

/-- `_ED25519_D` -/
def ed25519D : ℕ := ((-121665 * (powMod 121666 (ed25519P - 2) ed25519P : ℤ)) % ed25519P).toNat

/-- The square of `x` that `_is_ed25519_point` computes. -/
def ed25519X2 (y2 denominator : ℕ) : ℕ :=
  ((((y2 : ℤ) - 1) * powMod denominator (ed25519P - 2) ed25519P) % ed25519P).toNat

/-- The candidate for `x`, corrected by a root of minus one. -/
def ed25519X (x2 : ℕ) : ℕ :=
  let x := powMod x2 ((ed25519P + 3) / 8) ed25519P
  if x * x % ed25519P ≠ x2 then x * powMod 2 ((ed25519P - 1) / 4) ed25519P % ed25519P else x

/-- `_is_ed25519_point` -/
def isEd25519Point (raw : Bytes) : Bool :=
  if raw.length ≠ 32 then false
  else
    let encoded := raw.toNatLittle
    let sign := encoded >>> 255
    let y := encoded &&& ((1 <<< 255) - 1)
    if y ≥ ed25519P then false
    else
      let y2 := y * y % ed25519P
      let denominator := (ed25519D * y2 + 1) % ed25519P
      if denominator = 0 then false
      else
        let x2 := ed25519X2 y2 denominator
        let x := ed25519X x2
        if x * x % ed25519P ≠ x2 ∨ (x = 0 ∧ sign = 1) then false else true

theorem prime_2773320623 : Nat.Prime 2773320623 := by
  apply prime_of_root (a := 5) [(2, 1), (2437, 1), (569003, 1)]
    (by norm_num) _ (by decide) (by decide) (by decide)
  simp only [List.forall_mem_cons]
  exact ⟨by norm_num, by norm_num, by norm_num, by simp⟩

theorem prime_72106336199 : Nat.Prime 72106336199 := by
  apply prime_of_root (a := 7) [(2, 1), (13, 1), (2773320623, 1)]
    (by norm_num) _ (by decide) (by decide) (by decide)
  simp only [List.forall_mem_cons]
  exact ⟨by norm_num, by norm_num, prime_2773320623, by simp⟩

theorem prime_1919519569386763 : Nat.Prime 1919519569386763 := by
  apply prime_of_root (a := 2) [(2, 1), (3, 1), (7, 1), (19, 1), (47, 2), (127, 1), (8574133, 1)]
    (by norm_num) _ (by decide) (by decide) (by decide)
  simp only [List.forall_mem_cons]
  exact ⟨by norm_num, by norm_num, by norm_num, by norm_num, by norm_num, by norm_num,
    by norm_num, by simp⟩

theorem prime_31757755568855353 : Nat.Prime 31757755568855353 := by
  apply prime_of_root (a := 10) [(2, 3), (3, 1), (31, 1), (107, 1), (223, 1), (4153, 1), (430751,
    1)]
    (by norm_num) _ (by decide) (by decide) (by decide)
  simp only [List.forall_mem_cons]
  exact ⟨by norm_num, by norm_num, by norm_num, by norm_num, by norm_num, by norm_num,
    by norm_num, by simp⟩

set_option maxRecDepth 8000 in
theorem prime_75445702479781427272750846543864801 : Nat.Prime 75445702479781427272750846543864801
    := by
  apply prime_of_root (a := 7) [(2, 5), (3, 2), (5, 2), (75707, 1), (72106336199, 1),
    (1919519569386763, 1)]
    (by norm_num) _ (by decide) (by decide) (by decide)
  simp only [List.forall_mem_cons]
  exact ⟨by norm_num, by norm_num, by norm_num, by norm_num, prime_72106336199,
    prime_1919519569386763, by simp⟩

set_option maxRecDepth 8000 in
/-- The large factor of the order of the multiplicative group. -/
theorem prime_ed25519_factor : Nat.Prime
    74058212732561358302231226437062788676166966415465897661863160754340907 := by
  apply prime_of_root (a := 2) [(2, 1), (3, 1), (353, 1), (57467, 1), (132049, 1), (1923133, 1),
    (31757755568855353, 1), (75445702479781427272750846543864801, 1)]
    (by norm_num) _ (by decide) (by decide) (by decide)
  simp only [List.forall_mem_cons]
  exact ⟨by norm_num, by norm_num, by norm_num, by norm_num, by norm_num, by norm_num,
    prime_31757755568855353, prime_75445702479781427272750846543864801, by simp⟩

set_option maxRecDepth 8000 in
theorem ed25519P_prime : ed25519P.Prime := by
  apply prime_of_root (a := 2) [(2, 2), (3, 1), (65147, 1),
    (74058212732561358302231226437062788676166966415465897661863160754340907, 1)]
    (by decide) _ (by decide) (by decide) (by decide)
  simp only [List.forall_mem_cons]
  exact ⟨by norm_num, by norm_num, by norm_num, prime_ed25519_factor, by simp⟩

instance : Fact ed25519P.Prime := ⟨ed25519P_prime⟩

theorem natCast_eq_iff {a b : ℕ} (ha : a < ed25519P) (hb : b < ed25519P) :
    (a : ZMod ed25519P) = b ↔ a = b := by
  rw [ZMod.natCast_eq_natCast_iff', Nat.mod_eq_of_lt ha, Nat.mod_eq_of_lt hb]

theorem ed25519P_pos : 0 < ed25519P := Nat.Prime.pos ed25519P_prime

/-- An integer, reduced to a residue. -/
theorem natCast_toNat_emod (n : ℤ) :
    (((n % (ed25519P : ℤ)).toNat : ℕ) : ZMod ed25519P) = (n : ZMod ed25519P) := by
  have hpos : 0 ≤ n % (ed25519P : ℤ) :=
    Int.emod_nonneg n (Int.natCast_ne_zero.mpr ed25519P_pos.ne')
  have hcast : (((n % (ed25519P : ℤ)).toNat : ℕ) : ZMod ed25519P) =
      ((n % (ed25519P : ℤ) : ℤ) : ZMod ed25519P) := by
    rw [← Int.cast_natCast, Int.toNat_of_nonneg hpos]
  rw [hcast, ZMod.intCast_mod]

theorem toNat_emod_lt (n : ℤ) : (n % (ed25519P : ℤ)).toNat < ed25519P := by
  have hlt : n % (ed25519P : ℤ) < ed25519P :=
    Int.emod_lt_of_pos n (Int.natCast_pos.mpr ed25519P_pos)
  have hpos : 0 ≤ n % (ed25519P : ℤ) :=
    Int.emod_nonneg n (Int.natCast_ne_zero.mpr ed25519P_pos.ne')
  omega

theorem powMod_lt (a e : ℕ) : powMod a e ed25519P < ed25519P := by
  rw [powMod_eq]
  exact Nat.mod_lt _ ed25519P_pos

theorem natCast_powMod_inv {a : ℕ} (h : (a : ZMod ed25519P) ≠ 0) :
    (powMod a (ed25519P - 2) ed25519P : ZMod ed25519P) = (a : ZMod ed25519P)⁻¹ := by
  rw [natCast_powMod, pow_sub_two_eq_inv h (Nat.Prime.two_le ed25519P_prime)]

/-- The coefficient of the curve. -/
def edwardsD : ZMod ed25519P := -121665 / 121666

/-- The equation of the curve. -/
def EdwardsEquation (x y : ZMod ed25519P) : Prop := -x ^ 2 + y ^ 2 = 1 + edwardsD * x ^ 2 * y ^ 2

/-- The coordinate and the sign that 32 bytes hold. -/
def compressedY (raw : Bytes) : ℕ := raw.toNatLittle % 2 ^ 255

def compressedSign (raw : Bytes) : ℕ := raw.toNatLittle / 2 ^ 255

/-- The bytes are a compressed point of the curve. -/
def OnCurve (raw : Bytes) : Prop :=
  compressedY raw < ed25519P ∧
    (∃ x, EdwardsEquation x (compressedY raw : ZMod ed25519P)) ∧
    ¬((∀ x, EdwardsEquation x (compressedY raw : ZMod ed25519P) → x = 0) ∧ compressedSign raw = 1)

theorem natCast_ne_zero {a : ℕ} (hpos : a ≠ 0) (ha : a < ed25519P) :
    (a : ZMod ed25519P) ≠ 0 := by
  rw [← Nat.cast_zero]
  exact fun h => hpos ((natCast_eq_iff ha ed25519P_pos).mp h)

theorem natCast_ed25519D : (ed25519D : ZMod ed25519P) = edwardsD := by
  have hden : ((121666 : ℕ) : ZMod ed25519P) ≠ 0 := natCast_ne_zero (by decide) (by decide)
  rw [ed25519D, natCast_toNat_emod]
  push_cast
  rw [natCast_powMod_inv hden, edwardsD, div_eq_mul_inv]
  push_cast
  rfl

set_option maxRecDepth 8000 in
theorem edwardsD_not_square : ¬IsSquare edwardsD := by
  have hne : edwardsD ≠ 0 := by
    rw [← natCast_ed25519D]
    exact natCast_ne_zero (by decide) (by decide)
  rw [ZMod.euler_criterion ed25519P hne, ← natCast_ed25519D,
    ← powMod_eq_one_iff (Nat.Prime.one_lt ed25519P_prime)]
  decide

theorem edwards_denominator_ne_zero (y : ZMod ed25519P) : edwardsD * (y * y) + 1 ≠ 0 :=
  mul_sq_add_one_ne_zero (by decide) edwardsD_not_square y

/-- The equation, solved for the square of `x`. -/
theorem edwardsEquation_iff (x y : ZMod ed25519P) :
    EdwardsEquation x y ↔ x * x = (y * y - 1) * (edwardsD * (y * y) + 1)⁻¹ := by
  rw [← div_eq_mul_inv, eq_div_iff (edwards_denominator_ne_zero y), EdwardsEquation]
  constructor
  · intro h
    linear_combination -h
  · intro h
    linear_combination -h

theorem natCast_ed25519X2 (y : ZMod ed25519P) {y2 denominator : ℕ}
    (hy2 : (y2 : ZMod ed25519P) = y * y)
    (hden : (denominator : ZMod ed25519P) = edwardsD * (y * y) + 1) :
    (ed25519X2 y2 denominator : ZMod ed25519P) =
      (y * y - 1) * (edwardsD * (y * y) + 1)⁻¹ := by
  have hne : (denominator : ZMod ed25519P) ≠ 0 := by
    rw [hden]
    exact edwards_denominator_ne_zero y
  rw [ed25519X2, natCast_toNat_emod]
  push_cast
  rw [natCast_powMod_inv hne, hy2, hden]

theorem ed25519X2_lt (y2 denominator : ℕ) : ed25519X2 y2 denominator < ed25519P :=
  toNat_emod_lt _

theorem ed25519X_lt (x2 : ℕ) : ed25519X x2 < ed25519P := by
  unfold ed25519X
  dsimp only
  split_ifs
  · exact Nat.mod_lt _ ed25519P_pos
  · exact powMod_lt _ _

theorem mul_self_mod_iff {x a : ℕ} (ha : a < ed25519P) :
    x * x % ed25519P = a ↔ (x : ZMod ed25519P) * x = a := by
  rw [← Nat.cast_mul, ZMod.natCast_eq_natCast_iff', Nat.mod_eq_of_lt ha]

/-- The corrected candidate is a root exactly where there is one. -/
theorem ed25519X_root_iff {x2 : ℕ} (hx2 : x2 < ed25519P) :
    ed25519X x2 * ed25519X x2 % ed25519P = x2 ↔ IsSquare (x2 : ZMod ed25519P) := by
  rw [isSquare_iff_candidate (by decide), ← natCast_powMod, ← mul_self_mod_iff hx2]
  unfold ed25519X
  dsimp only
  by_cases hroot : powMod x2 ((ed25519P + 3) / 8) ed25519P *
      powMod x2 ((ed25519P + 3) / 8) ed25519P % ed25519P = x2
  · rw [if_neg (not_not.mpr hroot)]
    exact iff_of_true hroot (Or.inl hroot)
  · rw [if_pos hroot, mul_self_mod_iff hx2, ZMod.natCast_mod, Nat.cast_mul, natCast_powMod 2,
      Nat.cast_ofNat]
    exact ⟨Or.inr, fun h => h.resolve_left hroot⟩

/-- A root is zero exactly where its square is. -/
theorem root_eq_zero_iff {x a : ℕ} (hx : x < ed25519P) (ha : a < ed25519P)
    (h : x * x % ed25519P = a) : x = 0 ↔ (a : ZMod ed25519P) = 0 := by
  rw [← (mul_self_mod_iff ha).mp h, mul_self_eq_zero]
  constructor
  · intro hzero
    rw [hzero, Nat.cast_zero]
  · intro hcast
    by_contra hne
    exact natCast_ne_zero hne hx hcast

theorem isEd25519Point_iff {raw : Bytes} (hlen : raw.length = 32) :
    isEd25519Point raw = true ↔ OnCurve raw := by
  have hy : raw.toNatLittle &&& ((1 <<< 255) - 1) = compressedY raw := by
    rw [Nat.one_shiftLeft, Nat.and_two_pow_sub_one_eq_mod, compressedY]
  have hsign : raw.toNatLittle >>> 255 = compressedSign raw := Nat.shiftRight_eq_div_pow _ _
  unfold isEd25519Point OnCurve
  rw [if_neg (not_not.mpr hlen)]
  dsimp only
  rw [hy, hsign]
  by_cases hlt : compressedY raw < ed25519P
  swap
  · rw [if_pos (not_lt.mp hlt)]
    simp [hlt]
  rw [if_neg (not_le.mpr hlt)]
  generalize hyz : (compressedY raw : ZMod ed25519P) = y
  have hy2 : ((compressedY raw * compressedY raw % ed25519P : ℕ) : ZMod ed25519P) = y * y := by
    rw [ZMod.natCast_mod, Nat.cast_mul, hyz]
  have hden : (((ed25519D * (compressedY raw * compressedY raw % ed25519P) + 1) % ed25519P : ℕ) :
      ZMod ed25519P) = edwardsD * (y * y) + 1 := by
    rw [ZMod.natCast_mod]
    push_cast
    rw [natCast_ed25519D, ← hyz]
    simp
  have hne : (ed25519D * (compressedY raw * compressedY raw % ed25519P) + 1) % ed25519P ≠ 0 := by
    intro hzero
    rw [hzero, Nat.cast_zero] at hden
    exact edwards_denominator_ne_zero y hden.symm
  rw [if_neg hne]
  have hx2 := natCast_ed25519X2 y hy2 hden
  have hx2lt := ed25519X2_lt (compressedY raw * compressedY raw % ed25519P)
    ((ed25519D * (compressedY raw * compressedY raw % ed25519P) + 1) % ed25519P)
  generalize ed25519X2 (compressedY raw * compressedY raw % ed25519P)
    ((ed25519D * (compressedY raw * compressedY raw % ed25519P) + 1) % ed25519P) = x2 at hx2 hx2lt ⊢
  -- the equation says that `x` is a root of `x2`
  have hcurve : ∀ x, EdwardsEquation x y ↔ x * x = (x2 : ZMod ed25519P) := by
    intro x
    rw [edwardsEquation_iff, hx2]
  have hsquare : (∃ x, EdwardsEquation x y) ↔ IsSquare (x2 : ZMod ed25519P) := by
    constructor
    · rintro ⟨x, hx⟩
      exact ⟨x, ((hcurve x).mp hx).symm⟩
    · rintro ⟨x, hx⟩
      exact ⟨x, (hcurve x).mpr hx.symm⟩
  rw [hsquare, ← ed25519X_root_iff hx2lt]
  by_cases hroot : ed25519X x2 * ed25519X x2 % ed25519P = x2
  swap
  · simp [hroot]
  have hzero : ed25519X x2 = 0 ↔ ∀ x, EdwardsEquation x y → x = 0 := by
    rw [root_eq_zero_iff (ed25519X_lt x2) hx2lt hroot]
    constructor
    · intro h x hx
      rw [hcurve, h] at hx
      exact mul_self_eq_zero.mp hx
    · intro h
      have hx := h (ed25519X x2) ((hcurve _).mpr ((mul_self_mod_iff hx2lt).mp hroot))
      rw [← (mul_self_mod_iff hx2lt).mp hroot, hx, mul_zero]
  rw [← hzero]
  simp [hroot, hlt, imp_iff_not_or]

end PrinterV1.Sources
