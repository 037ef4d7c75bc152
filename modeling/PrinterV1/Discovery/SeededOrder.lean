import Mathlib.Data.Prod.Lex
import PrinterV1.Foundation.Shuffles
import PrinterV1.Foundation.Sorting

/-!
# Seeded orders

The orders of discovery come from digests of a seed: a shuffle whose choices are
numbers, and keys whose texts are compared. The digest is any function of its
text.
-/

namespace PrinterV1.Discovery

open Shuffles

/-- The SHA-256 digest of a text: its first eight bytes as a number, and its
hexadecimal digits. -/
structure Digests where
  number : String → ℕ
  hex : String → String

/-- The choice a seed makes at each step of its shuffle. -/
def Digests.choice (D : Digests) (seedHex : String) (counter : ℕ) : ℕ :=
  D.number (seedHex ++ "|fy|" ++ toString counter)

/-- `_fisher_yates` -/
def fisherYates {α : Type*} (D : Digests) (items : List α) (seedHex : String) : List α :=
  shuffle (D.choice seedHex) items

/-- `_verification_key` -/
def verificationKey (D : Digests) (cycleSeed domain tokenIdentity : String) : String :=
  D.hex (cycleSeed ++ "|" ++ domain ++ "|" ++ tokenIdentity)

/-- `_market_identity` -/
def marketIdentity (venue pool : String) : String := "solana-mainnet:" ++ venue ++ ":" ++ pool

/-- `_token_identity` -/
def tokenIdentity (mint : String) : String := "solana-mainnet:" ++ mint

theorem tokenIdentity_injective : Function.Injective tokenIdentity := by
  intro a b h
  exact (String.append_right_inj _).mp h

variable {α : Type*} {D : Digests} {items : List α} {seedHex : String}

theorem fisherYates_perm (D : Digests) (items : List α) (seedHex : String) :
    (fisherYates D items seedHex).Perm items :=
  shuffle_perm _ items

@[simp] theorem mem_fisherYates {x : α} : x ∈ fisherYates D items seedHex ↔ x ∈ items :=
  mem_shuffle

@[simp] theorem length_fisherYates : (fisherYates D items seedHex).length = items.length :=
  length_shuffle _ items

/-- Digests whose every choice is the first position. -/
def firstChoices : Digests := ⟨fun _ => 0, id⟩

theorem toString_injective {m n : ℕ} (h : toString m = toString n) : m = n := by
  have hdigits := congrArg String.toList h
  simp only [Nat.toString_eq_ofList_toDigits, String.toList_ofList] at hdigits
  rw [← Nat.ofDigitChars_ten_toDigits (n := m), hdigits, Nat.ofDigitChars_ten_toDigits]

theorem bar_notMem_toString (n : ℕ) : '|' ∉ (toString n).toList := by
  rw [Nat.toString_eq_ofList_toDigits, String.toList_ofList]
  intro hmem
  have hdigit := Nat.isDigit_of_mem_toDigits (by decide) (by decide) hmem
  simp at hdigit

/-- What follows the last occurrence of a character, and what comes before it. -/
theorem append_cons_inj {xs ys xs' ys' : List Char} {c : Char} (h : c ∉ ys) (h' : c ∉ ys')
    (heq : xs ++ c :: ys = xs' ++ c :: ys') : xs = xs' ∧ ys = ys' := by
  rcases List.append_eq_append_iff.mp heq with ⟨zs, hxs, hzs⟩ | ⟨zs, hxs, hzs⟩
  · cases zs with
    | nil =>
      rw [List.append_nil] at hxs
      exact ⟨hxs.symm, (List.cons.inj hzs).2⟩
    | cons z zs =>
      obtain ⟨_, hrest⟩ := List.cons.inj hzs
      exact absurd (by rw [hrest]; simp) h
  · cases zs with
    | nil =>
      rw [List.append_nil] at hxs
      exact ⟨hxs, (List.cons.inj hzs).2.symm⟩
    | cons z zs =>
      obtain ⟨_, hrest⟩ := List.cons.inj hzs
      exact absurd (by rw [hrest]; simp) h'

/-- The text of a choice tells its seed and its step. -/
theorem choiceText_inj {seed seed' : String} {n n' : ℕ}
    (h : seed ++ "|fy|" ++ toString n = seed' ++ "|fy|" ++ toString n') :
    seed = seed' ∧ n = n' := by
  have hchars := congrArg String.toList h
  have hfy : "|fy|".toList = ['|', 'f', 'y', '|'] := rfl
  have hsplit : ∀ (s : String) (k : ℕ), (s ++ "|fy|" ++ toString k).toList =
      (s.toList ++ ['|', 'f', 'y']) ++ '|' :: (toString k).toList := by
    intro s k
    rw [String.toList_append, String.toList_append, hfy]
    simp
  rw [hsplit, hsplit] at hchars
  obtain ⟨hseed, hn⟩ := append_cons_inj (bar_notMem_toString n) (bar_notMem_toString n') hchars
  exact ⟨String.toList_injective (List.append_cancel_right hseed),
    toString_injective (String.toList_injective hn)⟩

/-- Some digests make any given choices, for every seed. -/
theorem exists_digests (choices : String → ℕ → ℕ) (hex : String → String) :
    ∃ D : Digests, D.hex = hex ∧ ∀ seed, D.choice seed = choices seed := by
  classical
  let number : String → ℕ := fun text =>
    if h : ∃ p : String × ℕ, text = p.1 ++ "|fy|" ++ toString p.2 then
      choices h.choose.1 h.choose.2
    else 0
  refine ⟨⟨number, hex⟩, rfl, ?_⟩
  intro seed
  funext n
  have hsome : ∃ p : String × ℕ, seed ++ "|fy|" ++ toString n = p.1 ++ "|fy|" ++ toString p.2 :=
    ⟨(seed, n), rfl⟩
  obtain ⟨hseed, hn⟩ := choiceText_inj hsome.choose_spec
  rw [Digests.choice]
  simp only [number, dif_pos hsome]
  rw [← hseed, ← hn]

/-- A seed of which some digests shuffle a list into any order. -/
theorem exists_fisherYates_eq {xs ys : List α} (h : ys.Perm xs) :
    ∃ choice, ∀ (D : Digests) (seedHex : String), D.choice seedHex = choice →
      fisherYates D xs seedHex = ys := by
  obtain ⟨choice, hchoice⟩ := exists_shuffle_eq h
  exact ⟨choice, fun D seedHex hD => by rw [fisherYates, hD, hchoice]⟩

/-- Texts of which some digests tell any order. -/
theorem exists_hex_sortBy {text : String → String} (hinj : Function.Injective text)
    {xs ys : List String} (h : ys.Perm xs) (hnodup : ys.Nodup) :
    ∃ hex : String → String, sortBy (fun x => toLex (hex (text x), x)) xs = ys := by
  let hex : String → String := fun t =>
    String.ofList (List.replicate ((ys.map text).idxOf t) 'a')
  let key : String → String ×ₗ String := fun x => toLex (hex (text x), x)
  have hsorted : ys.Pairwise fun a b => key a ≤ key b := by
    rw [List.pairwise_iff_getElem]
    intro i j hi hj hij
    have hindex : ∀ (k : ℕ) (hk : k < ys.length), (ys.map text).idxOf (text ys[k]) = k := by
      intro k hk
      have hmap : (ys.map text).Nodup := hnodup.map hinj
      have hk' := hmap.idxOf_getElem k (by simpa using hk)
      rwa [List.getElem_map] at hk'
    have hlt : hex (text ys[i]) < hex (text ys[j]) := by
      simp only [hex, hindex i hi, hindex j hj]
      rw [String.lt_iff_toList_lt, String.toList_ofList, String.toList_ofList]
      have hpos : j - i = (j - i - 1) + 1 := by omega
      have hrest : ([] : List Char) < List.replicate (j - i) 'a' := by
        rw [hpos, List.replicate_succ]
        exact List.nil_lt_cons _ _
      calc List.replicate i 'a' = List.replicate i 'a' ++ [] := (List.append_nil _).symm
        _ < List.replicate i 'a' ++ List.replicate (j - i) 'a' := List.append_left_lt hrest
        _ = List.replicate j 'a' := by
          rw [List.replicate_append_replicate, Nat.add_sub_cancel' hij.le]
    exact (Prod.Lex.toLex_le_toLex).mpr (.inl hlt)
  refine ⟨hex, ?_⟩
  rw [← sortBy_of_sorted hsorted]
  apply sortBy_eq_of_perm h.symm
  intro a _ b _ hab
  exact congrArg (fun k => (ofLex k).2) hab

end PrinterV1.Discovery
