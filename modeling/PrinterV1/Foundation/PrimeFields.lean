import Mathlib.NumberTheory.LegendreSymbol.QuadraticReciprocity
import Mathlib.NumberTheory.LucasPrimality
import Mathlib.Tactic.Ring

/-!
# Arithmetic modulo a prime

Powers by repeated squaring, a primality test by a primitive root, and square
roots modulo a prime that is five more than a multiple of eight: the power
`(p + 3) / 8` of a square is a root of it or of its negative, and a root of minus
one carries one over to the other.
-/

namespace PrinterV1

/-- The turns of repeated squaring, for as many bits of the exponent. -/
def squareMultiply (m : ℕ) : ℕ → ℕ → ℕ → ℕ → ℕ
  | 0, _, _, acc => acc
  | bits + 1, a, e, acc =>
    squareMultiply m bits (a * a % m) (e / 2) (if e % 2 = 1 then acc * a % m else acc)

/-- `pow(a, e, m)` -/
def powMod (a e m : ℕ) : ℕ := squareMultiply m (Nat.log2 e + 1) (a % m) e (1 % m) % m

theorem squareMultiply_mod (m bits : ℕ) : ∀ a e acc : ℕ, e < 2 ^ bits →
    squareMultiply m bits a e acc % m = acc * a ^ e % m := by
  induction bits with
  | zero =>
    intro a e acc he
    obtain rfl : e = 0 := by simpa using he
    simp [squareMultiply]
  | succ bits ih =>
    intro a e acc he
    have hhalf : e / 2 < 2 ^ bits := by
      rw [pow_succ] at he
      omega
    have hpower : (a * a % m) ^ (e / 2) % m = a ^ (2 * (e / 2)) % m := by
      rw [← Nat.pow_mod, pow_mul, sq]
    rw [squareMultiply, ih _ _ _ hhalf]
    by_cases hodd : e % 2 = 1
    · have he' : e = 2 * (e / 2) + 1 := by omega
      rw [if_pos hodd, Nat.mul_mod, Nat.mod_mod, hpower, ← Nat.mul_mod]
      conv_rhs => rw [he']
      rw [pow_succ]
      ring_nf
    · have he' : e = 2 * (e / 2) := by omega
      rw [if_neg hodd, Nat.mul_mod, hpower, ← Nat.mul_mod]
      conv_rhs => rw [he']

theorem powMod_eq (a e m : ℕ) : powMod a e m = a ^ e % m := by
  have he : e < 2 ^ (Nat.log2 e + 1) := Nat.lt_log2_self
  rw [powMod, squareMultiply_mod m _ _ _ _ he, Nat.mul_mod, Nat.mod_mod, ← Nat.pow_mod,
    ← Nat.mul_mod, one_mul]

theorem natCast_powMod (a e m : ℕ) : (powMod a e m : ZMod m) = (a : ZMod m) ^ e := by
  rw [powMod_eq, ZMod.natCast_mod, Nat.cast_pow]

theorem powMod_eq_one_iff {a e p : ℕ} (hp : 1 < p) :
    powMod a e p = 1 ↔ (a : ZMod p) ^ e = 1 := by
  have hone : (1 : ZMod p) = ((1 : ℕ) : ZMod p) := Nat.cast_one.symm
  rw [← Nat.cast_pow, hone, ZMod.natCast_eq_natCast_iff', powMod_eq, Nat.mod_eq_of_lt hp]

/-- A number is prime when an element has its predecessor as order, whose prime factors are
given. -/
theorem prime_of_root {p a : ℕ} (factors : List (ℕ × ℕ)) (hp : 1 < p)
    (hprime : ∀ f ∈ factors, f.1.Prime)
    (hproduct : (factors.map fun f => f.1 ^ f.2).prod = p - 1)
    (hone : powMod a (p - 1) p = 1)
    (hroot : ∀ f ∈ factors, powMod a ((p - 1) / f.1) p ≠ 1) : p.Prime := by
  apply lucas_primality p (a : ZMod p)
  · exact (powMod_eq_one_iff hp).mp hone
  · intro q hq hdvd
    rw [← hproduct] at hdvd
    obtain ⟨x, hx, hqx⟩ := (Prime.dvd_prod_iff hq.prime).mp hdvd
    obtain ⟨f, hf, rfl⟩ := List.mem_map.mp hx
    have hqf : q = f.1 :=
      (Nat.prime_dvd_prime_iff_eq hq (hprime f hf)).mp (hq.dvd_of_dvd_pow hqx)
    rw [hqf]
    exact fun h => hroot f hf ((powMod_eq_one_iff hp).mpr h)

section Field

variable {p : ℕ} [Fact p.Prime]

theorem pow_sub_two_eq_inv {a : ZMod p} (h : a ≠ 0) (hp : 2 ≤ p) : a ^ (p - 2) = a⁻¹ := by
  apply eq_inv_of_mul_eq_one_left
  rw [← pow_succ, show p - 2 + 1 = p - 1 by omega]
  exact ZMod.pow_card_sub_one_eq_one h

/-- Where minus one is a square and `d` is none, `d * y ^ 2 + 1` does not vanish. -/
theorem mul_sq_add_one_ne_zero (hp : p % 4 ≠ 3) {d : ZMod p} (hd : ¬IsSquare d) (y : ZMod p) :
    d * (y * y) + 1 ≠ 0 := by
  intro h
  by_cases hy : y = 0
  · simp [hy] at h
  · obtain ⟨i, hi⟩ := ZMod.exists_sq_eq_neg_one_iff.mpr hp
    apply hd
    refine ⟨i / y, ?_⟩
    have hd' : d * (y * y) = i * i := by
      rw [← hi]
      exact eq_neg_of_add_eq_zero_left h
    field_simp
    rw [sq, hd', sq]

/-- The power `(p - 1) / 4` of two is a root of minus one. -/
theorem two_pow_mul_self (hp : p % 8 = 5) :
    (2 : ZMod p) ^ ((p - 1) / 4) * 2 ^ ((p - 1) / 4) = -1 := by
  have htwo : (2 : ZMod p) ≠ 0 := by
    intro h
    have hdvd : p ∣ 2 := (ZMod.natCast_eq_zero_iff 2 p).mp (by simpa using h)
    have hle := Nat.le_of_dvd (by decide) hdvd
    omega
  have hhalf : (p - 1) / 4 + (p - 1) / 4 = p / 2 := by omega
  rw [← pow_add, hhalf]
  rcases ZMod.pow_div_two_eq_neg_one_or_one p htwo with h | h
  · have hsquare := (ZMod.euler_criterion p htwo).mpr h
    rw [ZMod.exists_sq_eq_two_iff (by omega)] at hsquare
    omega
  · exact h

/-- The candidate of a square is a root of it or of its negative. -/
theorem candidate_sq {a : ZMod p} (hp : p % 8 = 5) (h : IsSquare a) :
    a ^ ((p + 3) / 8) * a ^ ((p + 3) / 8) = a ∨ a ^ ((p + 3) / 8) * a ^ ((p + 3) / 8) = -a := by
  by_cases ha : a = 0
  · left
    rw [ha, zero_pow (by omega), zero_mul]
  · have hhalf : a ^ (p / 2) = 1 := (ZMod.euler_criterion p ha).mp h
    apply sq_eq_sq_iff_eq_or_eq_neg.mp
    calc (a ^ ((p + 3) / 8) * a ^ ((p + 3) / 8)) ^ 2
        = a ^ ((p + 3) / 8 + (p + 3) / 8 + ((p + 3) / 8 + (p + 3) / 8)) := by ring
      _ = a ^ (p / 2 + 2) := by
          congr 1
          omega
      _ = a ^ 2 := by rw [pow_add, hhalf, one_mul]

/-- An element is a square exactly when its candidate, or the candidate times the root of minus
one, squares to it. -/
theorem isSquare_iff_candidate (hp : p % 8 = 5) (a : ZMod p) :
    IsSquare a ↔ a ^ ((p + 3) / 8) * a ^ ((p + 3) / 8) = a ∨
      (a ^ ((p + 3) / 8) * 2 ^ ((p - 1) / 4)) * (a ^ ((p + 3) / 8) * 2 ^ ((p - 1) / 4)) = a := by
  constructor
  · intro h
    rcases candidate_sq hp h with hroot | hroot
    · exact Or.inl hroot
    · right
      rw [mul_mul_mul_comm, hroot, two_pow_mul_self hp, neg_mul_neg, mul_one]
  · rintro (h | h)
    · exact ⟨_, h.symm⟩
    · exact ⟨_, h.symm⟩

end Field

end PrinterV1
