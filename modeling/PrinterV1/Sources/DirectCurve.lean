import PrinterV1.Sources.ProgramAddresses

/-!
# Program addresses of the direct decoder

`pumpfun_direct` has a base58 codec, a test of curve points and a search for
program addresses of its own. The test is Euler's criterion on the square of `x`;
it agrees with the square root that `pump_contracts` takes.
-/

namespace PrinterV1.Sources.Direct

open Python

/-- `PumpContractError` -/
structure PumpContractError where
  code : String
  detail : String
  deriving DecidableEq, Repr

def malformed (detail : String) : PumpContractError := ⟨"MALFORMED_TRANSACTION", detail⟩

/-- `_b58decode` -/
def b58decode (value : String) : Except PumpContractError Bytes :=
  if value = "" then .error (malformed "invalid base58 value")
  else
    match value.toList.mapM base58Index with
    | none => .error (malformed "invalid base58 value")
    | some ds =>
      let number := Digits.value 58 ds
      let raw := if number ≠ 0 then Bytes.ofNatBig number else []
      let leading := value.toList.length - (value.toList.dropWhile fun c => c = '1').length
      .ok (List.replicate leading 0 ++ raw)

/-- `_b58encode` -/
def b58encode (value : Bytes) : String :=
  let encoded := (Digits.ofNat 58 value.toNatBig).map base58Char
  let leading := value.length - value.lstripZeros.length
  String.ofList (List.replicate leading '1' ++ encoded)

/-- `_is_ed25519_point` -/
def isEd25519Point (value : Bytes) : Bool :=
  if value.length ≠ 32 then false
  else
    let encoded := value.toNatLittle
    let sign := encoded >>> 255
    let y := encoded &&& (2 ^ 255 - 1)
    if y ≥ ed25519P then false
    else
      let ySquared := y * y % ed25519P
      let denominator := (ed25519D * ySquared + 1) % ed25519P
      if denominator = 0 then false
      else
        let xSquared := ed25519X2 ySquared denominator
        if xSquared = 0 then sign = 0
        else powMod xSquared ((ed25519P - 1) / 2) ed25519P = 1

/-- `derive_program_address` -/
def deriveProgramAddress (sha256 : Bytes → Digest) (seeds : List Bytes) (programId : String) :
    Except PumpContractError String :=
  if seeds.any fun seed => 32 < seed.length then .error (malformed "PDA seed exceeds 32 bytes")
  else
    match b58decode programId with
    | .error e => .error e
    | .ok program =>
      if program.length ≠ 32 then .error (malformed "program is not a pubkey")
      else
        match bumps.find? fun bump => !isEd25519Point (pdaDigest sha256 seeds program bump) with
        | none => .error (malformed "no PDA bump")
        | some bump => .ok (b58encode (pdaDigest sha256 seeds program bump))

theorem b58decode_toOption (value : String) :
    (b58decode value).toOption = Sources.b58decode value := by
  unfold b58decode Sources.b58decode
  by_cases hempty : value = ""
  · rw [if_pos hempty, if_pos hempty]
    rfl
  · rw [if_neg hempty, if_neg hempty]
    cases hds : value.toList.mapM base58Index with
    | none => rfl
    | some ds =>
      by_cases hzero : Digits.value 58 ds = 0
      · simp [hzero, Except.toOption, Bytes.ofNatBig, Digits.ofNat]
      · simp [hzero, Except.toOption]

theorem b58encode_eq {value : Bytes} (h : value ≠ []) :
    b58encode value = Sources.b58encode value := by
  have hne := base58Digits_ne_nil h
  have hleading : value.length - value.lstripZeros.length =
      (value.takeWhile fun b => b = 0).length := length_sub_dropWhile _ value
  rw [Sources.b58encode_eq h]
  unfold b58encode
  dsimp only
  rw [hleading, base58Digits, List.map_append, List.map_replicate]
  rfl

/-- Euler's criterion, on a residue that is not zero. -/
theorem euler_iff {x2 : ℕ} (hne : x2 ≠ 0) (hlt : x2 < ed25519P) :
    powMod x2 ((ed25519P - 1) / 2) ed25519P = 1 ↔ IsSquare (x2 : ZMod ed25519P) := by
  have hhalf : (ed25519P - 1) / 2 = ed25519P / 2 := by decide
  rw [powMod_eq_one_iff ed25519P_prime.one_lt, hhalf,
    ← ZMod.euler_criterion ed25519P (natCast_ne_zero hne hlt)]

/-- The root of a residue is zero exactly where the residue is. -/
theorem ed25519X_eq_zero_iff {x2 : ℕ} (hlt : x2 < ed25519P)
    (hroot : ed25519X x2 * ed25519X x2 % ed25519P = x2) : ed25519X x2 = 0 ↔ x2 = 0 := by
  rw [root_eq_zero_iff (ed25519X_lt x2) hlt hroot]
  constructor
  · intro hcast
    by_contra hne
    exact natCast_ne_zero hne hlt hcast
  · rintro rfl
    exact Nat.cast_zero

/-- The residue decides the sign and the root as the corrected candidate does. -/
theorem tests_agree {x2 sign : ℕ} (hlt : x2 < ed25519P) (hsign : sign = 0 ∨ sign = 1) :
    (if x2 = 0 then decide (sign = 0)
      else decide (powMod x2 ((ed25519P - 1) / 2) ed25519P = 1)) =
      if ed25519X x2 * ed25519X x2 % ed25519P ≠ x2 ∨ (ed25519X x2 = 0 ∧ sign = 1) then false
      else true := by
  by_cases hroot : ed25519X x2 * ed25519X x2 % ed25519P = x2
  · have hsquare := (ed25519X_root_iff hlt).mp hroot
    have hzero := ed25519X_eq_zero_iff hlt hroot
    by_cases hx2 : x2 = 0
    · have hx := hzero.mpr hx2
      rw [if_pos hx2]
      rcases hsign with rfl | rfl
      · rw [if_neg (by simp [hroot])]
        rfl
      · rw [if_pos (.inr ⟨hx, rfl⟩)]
        rfl
    · have hx : ed25519X x2 ≠ 0 := fun hc => hx2 (hzero.mp hc)
      have heuler := (euler_iff hx2 hlt).mpr hsquare
      simp [hx2, hx, heuler, hroot]
  · have hx2 : x2 ≠ 0 := by
      rintro rfl
      have hzero : IsSquare ((0 : ℕ) : ZMod ed25519P) := ⟨0, by simp⟩
      exact hroot ((ed25519X_root_iff hlt).mpr hzero)
    have heuler : ¬powMod x2 ((ed25519P - 1) / 2) ed25519P = 1 := by
      rw [euler_iff hx2 hlt, ← ed25519X_root_iff hlt]
      exact hroot
    simp [hx2, heuler, hroot]

theorem isEd25519Point_eq (raw : Bytes) : isEd25519Point raw = Sources.isEd25519Point raw := by
  unfold isEd25519Point Sources.isEd25519Point
  by_cases hlen : raw.length = 32
  swap
  · rw [if_pos hlen, if_pos hlen]
  rw [if_neg (not_not.mpr hlen), if_neg (not_not.mpr hlen)]
  have hsign : raw.toNatLittle >>> 255 = 0 ∨ raw.toNatLittle >>> 255 = 1 := by
    have hlt := raw.toNatLittle_lt
    rw [hlen] at hlt
    rw [Nat.shiftRight_eq_div_pow]
    omega
  dsimp only
  rw [Nat.one_shiftLeft]
  by_cases hy : raw.toNatLittle &&& (2 ^ 255 - 1) ≥ ed25519P
  · rw [if_pos hy, if_pos hy]
  rw [if_neg hy, if_neg hy]
  generalize (raw.toNatLittle &&& (2 ^ 255 - 1)) *
    (raw.toNatLittle &&& (2 ^ 255 - 1)) % ed25519P = y2
  by_cases hden : (ed25519D * y2 + 1) % ed25519P = 0
  · rw [if_pos hden, if_pos hden]
  rw [if_neg hden, if_neg hden]
  exact tests_agree (ed25519X2_lt _ _) hsign

theorem deriveProgramAddress_toOption (sha256 : Bytes → Digest) {seeds : List Bytes}
    (h : validSeeds seeds = true) (programId : String) :
    (deriveProgramAddress sha256 seeds programId).toOption =
      (Sources.deriveProgramAddress sha256 seeds programId).toOption.map Prod.fst := by
  have hshort : ¬(seeds.any fun seed => decide (32 < seed.length)) = true := by
    simp only [validSeeds, Bool.and_eq_true, List.all_eq_true, decide_eq_true_eq] at h
    intro hany
    obtain ⟨seed, hseed, hlong⟩ := List.any_eq_true.mp hany
    have hlen := h.2 seed hseed
    simp only [decide_eq_true_eq] at hlong
    omega
  have hdecode := b58decode_toOption programId
  unfold deriveProgramAddress Sources.deriveProgramAddress
  rw [if_neg hshort, ← hdecode]
  cases b58decode programId with
  | error e => rfl
  | ok program =>
    by_cases hlen : program.length = 32
    swap
    · simp [Except.toOption, hlen]
    simp only [Except.toOption, hlen, ne_eq, not_true_eq_false, ↓reduceIte, h, Bool.not_true,
      Bool.false_eq_true, isEd25519Point_eq]
    cases bumps.find? fun bump =>
        !Sources.isEd25519Point (pdaDigest sha256 seeds program bump) with
    | none => rfl
    | some bump =>
      have hne : (pdaDigest sha256 seeds program bump : Bytes) ≠ [] := by
        intro hnil
        have hlen := (pdaDigest sha256 seeds program bump).2
        rw [hnil] at hlen
        cases hlen
      simp [b58encode_eq hne]

/-- Both tests return the same Boolean, and both searches the same address, or no address. -/
theorem derivations_agree (sha256 : Bytes → Digest) :
    (∀ raw : Bytes, isEd25519Point raw = Sources.isEd25519Point raw) ∧
      ∀ (seeds : List Bytes) (programId : String), seeds.length ≤ 16 →
        (∀ seed ∈ seeds, seed.length ≤ 32) →
        (deriveProgramAddress sha256 seeds programId).toOption =
          (Sources.deriveProgramAddress sha256 seeds programId).toOption.map Prod.fst := by
  refine ⟨isEd25519Point_eq, fun seeds programId hcount hshort => ?_⟩
  apply deriveProgramAddress_toOption
  simp only [validSeeds, Bool.and_eq_true, List.all_eq_true, decide_eq_true_eq]
  exact ⟨hcount, hshort⟩

/-- The search of the mayhem parameters, under a hash that is constant. -/
theorem derivations_agree_globalParams :
    (deriveProgramAddress (fun _ => ⟨2 :: List.replicate 31 0, rfl⟩) [ascii "global-params"]
        "11111111111111111111111111111111").toOption =
      (Sources.deriveProgramAddress (fun _ => ⟨2 :: List.replicate 31 0, rfl⟩)
        [ascii "global-params"] "11111111111111111111111111111111").toOption.map Prod.fst :=
  (derivations_agree _).2 _ _ (by decide) (by decide)

end PrinterV1.Sources.Direct
