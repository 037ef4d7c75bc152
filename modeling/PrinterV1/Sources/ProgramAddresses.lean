import PrinterV1.Foundation.Faults
import PrinterV1.Python.Sha256
import PrinterV1.Sources.Base58
import PrinterV1.Sources.Ed25519
import PrinterV1.Sources.PumpConstants

/-!
# Program addresses

`derive_program_address` searches, from 255 down, a bump whose digest is no
point of the curve. The hash is a parameter; its digests have 32 bytes.
-/

namespace PrinterV1.Sources

open Python

/-- `b"ProgramDerivedAddress"` -/
def pdaMarker : Bytes := ascii "ProgramDerivedAddress"

/-- The seeds that `derive_program_address` accepts. -/
def validSeeds (seeds : List Bytes) : Bool :=
  seeds.length ≤ 16 && seeds.all fun seed => seed.length ≤ 32

section Derivation

variable (sha256 : Bytes → Digest)

/-- `hashlib.sha256(b"".join((*seeds, bytes([bump]), program, _PDA_MARKER))).digest()` -/
def pdaDigest (seeds : List Bytes) (program : Bytes) (bump : ℕ) : Digest :=
  sha256 (seeds.flatten ++ [UInt8.ofNat bump] ++ program ++ pdaMarker)

/-- `range(255, -1, -1)` -/
def bumps : List ℕ := (List.range 256).reverse

/-- `derive_program_address` -/
def deriveProgramAddress (seeds : List Bytes) (programId : String) : Except String (String × ℕ) :=
  match b58decode programId with
  | none => .error "invalid program id"
  | some program =>
    if program.length ≠ 32 then .error "invalid program id"
    else if !validSeeds seeds then .error "invalid PDA seed contract"
    else
      match bumps.find? fun bump => !isEd25519Point (pdaDigest sha256 seeds program bump) with
      | none => .error "no viable PDA bump"
      | some bump => .ok (b58encode (pdaDigest sha256 seeds program bump), bump)

variable {sha256}

/-- The call has a program of 32 bytes and seeds within the limits. -/
def DerivesFrom (seeds : List Bytes) (programId : String) (program : Bytes) : Prop :=
  b58decode programId = some program ∧ program.length = 32 ∧ validSeeds seeds = true

theorem deriveProgramAddress_eq {seeds : List Bytes} {programId : String} {program : Bytes}
    (h : DerivesFrom seeds programId program) :
    deriveProgramAddress sha256 seeds programId =
      match bumps.find? fun bump => !isEd25519Point (pdaDigest sha256 seeds program bump) with
      | none => .error "no viable PDA bump"
      | some bump => .ok (b58encode (pdaDigest sha256 seeds program bump), bump) := by
  obtain ⟨hprogram, hlen, hseeds⟩ := h
  simp [deriveProgramAddress, hprogram, hlen, hseeds]

theorem derivesFrom_of_ok {seeds : List Bytes} {programId : String} {result : String × ℕ}
    (h : deriveProgramAddress sha256 seeds programId = .ok result) :
    ∃ program, DerivesFrom seeds programId program := by
  unfold deriveProgramAddress at h
  cases hprogram : b58decode programId with
  | none => simp [hprogram] at h
  | some program =>
    simp only [hprogram] at h
    split_ifs at h with hlen hseeds
    exact ⟨program, hprogram, not_not.mp hlen, by simpa using hseeds⟩

theorem mem_bumps {bump : ℕ} : bump ∈ bumps ↔ bump ≤ 255 := by
  rw [bumps, List.mem_reverse, List.mem_range]
  omega

/-- The first bump of a kind is the largest one. -/
theorem find?_bumps {p : ℕ → Bool} {bump : ℕ} :
    bumps.find? p = some bump ↔
      bump ≤ 255 ∧ p bump = true ∧ ∀ b, bump < b → b ≤ 255 → p b = false := by
  have hsorted : bumps.Pairwise (· > ·) := List.pairwise_reverse.mpr List.pairwise_lt_range
  constructor
  · intro h
    obtain ⟨hp, before, after, hsplit, hbefore⟩ := List.find?_eq_some_iff_append.mp h
    have hmem : bump ∈ bumps := List.mem_of_find?_eq_some h
    refine ⟨mem_bumps.mp hmem, hp, ?_⟩
    intro b hlt hle
    have hb : b ∈ before ++ bump :: after := hsplit ▸ mem_bumps.mpr hle
    rw [hsplit, List.pairwise_append] at hsorted
    rcases List.mem_append.mp hb with hb | hb
    · simpa using hbefore b hb
    · rcases List.mem_cons.mp hb with rfl | hb
      · omega
      · have hgt := (List.pairwise_cons.mp hsorted.2.1).1 b hb
        omega
  · rintro ⟨hle, hp, hlarger⟩
    cases hfind : bumps.find? p with
    | none =>
      have hnone := List.find?_eq_none.mp hfind bump (mem_bumps.mpr hle)
      exact absurd hp hnone
    | some found =>
      obtain ⟨hpf, before, after, hsplit, hbefore⟩ := List.find?_eq_some_iff_append.mp hfind
      have hb : bump ∈ before ++ found :: after := hsplit ▸ mem_bumps.mpr hle
      rw [hsplit, List.pairwise_append] at hsorted
      rcases List.mem_append.mp hb with hb | hb
      · have hnot := hbefore bump hb
        simp [hp] at hnot
      · rcases List.mem_cons.mp hb with rfl | hb
        · rfl
        · have hgt := (List.pairwise_cons.mp hsorted.2.1).1 bump hb
          have hfound : found ≤ 255 := mem_bumps.mp (List.mem_of_find?_eq_some hfind)
          rw [hlarger found hgt hfound] at hpf
          cases hpf

theorem offCurve_iff (digest : Digest) : (!isEd25519Point digest) = true ↔ ¬OnCurve digest := by
  rw [← isEd25519Point_iff digest.2, Bool.not_eq_true', Bool.not_eq_true]

/-- The address is the digest of the largest bump whose digest is off the curve. -/
theorem deriveProgramAddress_ok_iff {seeds : List Bytes} {programId address : String} {bump : ℕ} :
    deriveProgramAddress sha256 seeds programId = .ok (address, bump) ↔
      ∃ program, DerivesFrom seeds programId program ∧ bump ≤ 255 ∧
        ¬OnCurve (pdaDigest sha256 seeds program bump) ∧
        (∀ b, bump < b → b ≤ 255 → OnCurve (pdaDigest sha256 seeds program b)) ∧
        address = b58encode (pdaDigest sha256 seeds program bump) := by
  constructor
  · intro h
    obtain ⟨program, hvalid⟩ := derivesFrom_of_ok h
    rw [deriveProgramAddress_eq hvalid] at h
    cases hfind : bumps.find? fun b => !isEd25519Point (pdaDigest sha256 seeds program b) with
    | none => simp [hfind] at h
    | some found =>
      obtain ⟨rfl, rfl⟩ : b58encode (pdaDigest sha256 seeds program found) = address ∧
          found = bump := by simpa [hfind] using h
      obtain ⟨hle, hoff, hlarger⟩ := find?_bumps.mp hfind
      refine ⟨program, hvalid, hle, (offCurve_iff _).mp hoff, ?_, rfl⟩
      intro b hlt hb
      by_contra hoffb
      have hon := hlarger b hlt hb
      rw [(offCurve_iff _).mpr hoffb] at hon
      cases hon
  · rintro ⟨program, hvalid, hle, hoff, hlarger, rfl⟩
    have hfind : bumps.find? (fun b => !isEd25519Point (pdaDigest sha256 seeds program b)) =
        some bump := by
      rw [find?_bumps]
      refine ⟨hle, (offCurve_iff _).mpr hoff, ?_⟩
      intro b hlt hb
      by_contra hnot
      exact (offCurve_iff _).mp (by simpa using hnot) (hlarger b hlt hb)
    rw [deriveProgramAddress_eq hvalid, hfind]

/-- It fails on an invalid program or seeds, and where every digest is on the curve. -/
theorem deriveProgramAddress_error_iff {seeds : List Bytes} {programId : String} :
    (∃ e, deriveProgramAddress sha256 seeds programId = .error e) ↔
      ∀ program, DerivesFrom seeds programId program →
        ∀ bump, bump ≤ 255 → OnCurve (pdaDigest sha256 seeds program bump) := by
  constructor
  · rintro ⟨e, h⟩ program hvalid bump hle
    rw [deriveProgramAddress_eq hvalid] at h
    cases hfind : bumps.find? fun b => !isEd25519Point (pdaDigest sha256 seeds program b) with
    | some found => simp [hfind] at h
    | none =>
      by_contra hoff
      exact List.find?_eq_none.mp hfind bump (mem_bumps.mpr hle) ((offCurve_iff _).mpr hoff)
  · intro h
    cases hrun : deriveProgramAddress sha256 seeds programId with
    | error e => exact ⟨e, rfl⟩
    | ok result =>
      obtain ⟨program, hvalid, hle, hoff, _⟩ := deriveProgramAddress_ok_iff.mp hrun
      exact absurd (h program hvalid _ hle) hoff

end Derivation

/-- The test decides the equation of the curve, and a derivation returns the largest bump off it
or fails. -/
theorem onCurve_exact (sha256 : Bytes → Digest) :
    (∀ raw : Bytes, raw.length = 32 → (isEd25519Point raw = true ↔ OnCurve raw)) ∧
      ∀ seeds programId,
        (∀ address bump, deriveProgramAddress sha256 seeds programId = .ok (address, bump) ↔
          ∃ program, DerivesFrom seeds programId program ∧ bump ≤ 255 ∧
            ¬OnCurve (pdaDigest sha256 seeds program bump) ∧
            (∀ b, bump < b → b ≤ 255 → OnCurve (pdaDigest sha256 seeds program b)) ∧
            address = b58encode (pdaDigest sha256 seeds program bump)) ∧
        ((∃ e, deriveProgramAddress sha256 seeds programId = .error e) ↔
          ∀ program, DerivesFrom seeds programId program →
            ∀ bump, bump ≤ 255 → OnCurve (pdaDigest sha256 seeds program bump)) :=
  ⟨fun _ h => isEd25519Point_iff h, fun _ _ =>
    ⟨fun _ _ => deriveProgramAddress_ok_iff, deriveProgramAddress_error_iff⟩⟩

/-- The neutral point is on the curve, and two is the coordinate of no point. -/
theorem onCurve_exact_one :
    OnCurve (1 :: List.replicate 31 0) ∧ ¬OnCurve (2 :: List.replicate 31 0) :=
  ⟨((onCurve_exact fun _ => ⟨List.replicate 32 0, by decide⟩).1 _ (by decide)).mp
      (by decide +kernel),
    fun h => absurd (((onCurve_exact fun _ => ⟨List.replicate 32 0, by decide⟩).1 _
      (by decide)).mpr h) (by decide +kernel)⟩

end PrinterV1.Sources
