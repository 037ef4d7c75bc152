import Mathlib.Data.Finset.Sort
import Mathlib.Data.Prod.Lex
import PrinterV1.Discovery.MergedCandidates
import PrinterV1.Foundation.FirstWins

/-!
# Seeded selection

The eligible candidates are collapsed to one for each mint and up to two of these
are picked: one where there is one vacancy, for two vacancies one of the latest
category and one of another in turn, or two of the only kind there is. The mint's
candidate is the first by its number of channels and its market, so candidates
that tie in both are told apart by their order alone, and nothing compares the
markets of different mints.
-/

namespace PrinterV1.Discovery.Combined

open Shuffles

/-- `PUMPSWAP_MARKET_PREFIX` -/
def pumpswapMarketPrefix : String := "solana-mainnet:" ++ pumpswapVenue ++ ":"

/-- `_CHANNEL_CATEGORY.get(channel, "TOP")` -/
def channelCategory : String → String
  | "LATEST_PUMPFUN" => "LATEST_GRADUATED"
  | "LATEST_GRADUATED" => "LATEST_GRADUATED"
  | "ACTIVE_PUMPFUN" => "ACTIVE"
  | "TRENDING_PUMPFUN" => "TRENDING"
  | "TOP_PUMPFUN" => "TOP"
  | "PERSISTED_GRADUATED" => "PERSISTED_GRADUATED"
  | "PERSISTED_ACTIVE" => "PERSISTED_GRADUATED"
  | "REVIVAL_PUMPFUN" => "REVIVAL"
  | "DUMP_PUMPFUN" => "DUMP"
  | "CONSOLIDATION_PUMPFUN" => "CONSOLIDATION"
  | "DECAY_PUMPFUN" => "DECAY"
  | _ => "TOP"

/-- `_candidate_categories` -/
def candidateCategories (channels : Finset String) : Finset String :=
  channels.image channelCategory

/-- `_non_latest_categories` -/
def nonLatestCategories (channels : Finset String) : Finset String :=
  (candidateCategories channels).filter fun category => category ≠ "LATEST_GRADUATED"

/-- A union gathered over a list, `found |= f(item)`. -/
def unionOf {α : Type*} (f : α → Finset String) (items : List α) : Finset String :=
  items.foldl (fun found item => found ∪ f item) ∅

/-- The candidates `_select` keeps. -/
def Merged.Selectable (c : Merged) : Prop :=
  c.conflicts = [] ∧ c.lifecycle = graduatedLifecycle ∧
    pumpswapMarketPrefix.toList <+: c.marketIdentity.toList

instance (c : Merged) : Decidable c.Selectable :=
  inferInstanceAs (Decidable (_ ∧ _ ∧ _))

/-- `(-len(item.channels), item.market_identity)` -/
def Merged.collapseKey (c : Merged) : ℤ ×ₗ String :=
  toLex (-(c.channels.card : ℤ), c.marketIdentity)

/-- The candidate of a mint, with the channels of all its candidates. -/
def collapseMint (graduated : List Merged) (mint : String) : Option Merged :=
  let group := graduated.filter fun c => c.mint = mint
  (sortBy Merged.collapseKey group).head?.map fun chosen =>
    { chosen with channels := unionOf Merged.channels group }

/-- One candidate for each mint, in the order in which the mints are first met. -/
def collapse (graduated : List Merged) : List Merged :=
  (FirstWins.firsts id [] (graduated.map Merged.mint)).filterMap (collapseMint graduated)

/-- The order `_uniform_pick` shuffles. -/
def Merged.pickKey (c : Merged) : String ×ₗ String ×ₗ String :=
  toLex (tokenIdentity c.mint, toLex (c.marketIdentity, c.lifecycle))

/-- `_uniform_pick` -/
def uniformPick (D : Digests) (candidates : List Merged) (cycleSeed domain : String)
    (count : ℕ) : List Merged :=
  if count = 0 ∨ candidates = [] then []
  else
    (fisherYates D (sortBy Merged.pickKey candidates) (cycleSeed ++ "|" ++ domain)).take count

/-- The categories in the order of their digests. -/
def orderedCategories (D : Digests) (nonLatest : List Merged) (cycleSeed : String) :
    List String :=
  sortBy (fun category => toLex (D.hex (cycleSeed ++ "|category|" ++ category), category))
    (unionOf (fun c => nonLatestCategories c.channels) nonLatest).sort

/-- `_round_robin_non_latest`; no category gives the empty text. -/
def roundRobinNonLatest (D : Digests) (batchSeq : ℤ) (nonLatest : List Merged)
    (cycleSeed : String) : String :=
  let ordered := orderedCategories D nonLatest cycleSeed
  let cursor := (max batchSeq 1 - 1).toNat
  ordered[cursor % ordered.length]?.getD ""

/-- A candidate with a category other than the latest. -/
def Merged.NonLatest (c : Merged) : Prop := (nonLatestCategories c.channels).Nonempty

instance (c : Merged) : Decidable c.NonLatest := Finset.decidableNonempty

def latestOnly (candidates : List Merged) : List Merged :=
  candidates.filter fun c => ¬c.NonLatest

def nonLatest (candidates : List Merged) : List Merged := candidates.filter fun c => c.NonLatest

/-- `_categorical_two_slot` -/
def categoricalTwoSlot (D : Digests) (batchSeq : ℤ) (candidates : List Merged)
    (cycleSeed : String) (vacancyCount : ℕ) : List Merged :=
  if candidates = [] then []
  else if vacancyCount = 1 then uniformPick D candidates cycleSeed "single" 1
  else if latestOnly candidates ≠ [] ∧ nonLatest candidates ≠ [] ∧ 2 ≤ vacancyCount then
    let first := uniformPick D (latestOnly candidates) cycleSeed "LATEST_GRADUATED" 1
    let category := roundRobinNonLatest D batchSeq (nonLatest candidates) cycleSeed
    let members := (nonLatest candidates).filter fun c =>
      category ∈ nonLatestCategories c.channels
    let second := uniformPick D members cycleSeed category 1
    first ++ second
  else
    let pool := if nonLatest candidates ≠ [] then nonLatest candidates else latestOnly candidates
    uniformPick D pool cycleSeed "SINGLE_CATEGORY" vacancyCount

/-- `_select`; the batch sequence is that of the fixtures. -/
def select (D : Digests) (batchSeq : ℤ) (eligible : List Merged) (cycleSeed : String)
    (vacancyCount : ℕ) : List Merged :=
  if vacancyCount = 0 then []
  else
    categoricalTwoSlot D batchSeq (collapse (eligible.filter fun c => c.Selectable)) cycleSeed
      vacancyCount

/-! ## The collapse -/

variable {α : Type*} {G G' : List Merged} {c c' : Merged} {m : String}

theorem mem_unionOf {f : α → Finset String} {items : List α} {x : String} :
    x ∈ unionOf f items ↔ ∃ item ∈ items, x ∈ f item := by
  have hfold : ∀ (items : List α) (found : Finset String),
      x ∈ items.foldl (fun found item => found ∪ f item) found ↔
        x ∈ found ∨ ∃ item ∈ items, x ∈ f item := by
    intro items
    induction items with
    | nil => simp
    | cons item items ih =>
      intro found
      rw [List.foldl_cons, ih, Finset.mem_union, or_assoc]
      simp
  rw [unionOf, hfold]
  simp

theorem unionOf_perm {f : α → Finset String} {items items' : List α} (h : items'.Perm items) :
    unionOf f items' = unionOf f items := by
  ext x
  simp only [mem_unionOf, h.mem_iff]

/-- No candidate of the mint comes before this one. -/
structure BestOfMint (G : List Merged) (c : Merged) : Prop where
  mem : c ∈ G
  le : ∀ d ∈ G, d.mint = c.mint → c.collapseKey ≤ d.collapseKey

theorem BestOfMint.of_perm (h : G'.Perm G) (hc : BestOfMint G' c) : BestOfMint G c :=
  ⟨h.mem_iff.mp hc.mem, fun d hd => hc.le d (h.mem_iff.mpr hd)⟩

/-- The candidate with the channels of its mint. -/
def Merged.collapsed (G : List Merged) (c : Merged) : Merged :=
  { c with channels := unionOf Merged.channels (G.filter fun d => d.mint = c.mint) }

/-- Candidates that differ in their channels at most. -/
def Alike (c c' : Merged) : Prop := { c with channels := ∅ } = { c' with channels := ∅ }

theorem collapsed_perm (h : G'.Perm G) (c : Merged) : c.collapsed G' = c.collapsed G := by
  rw [Merged.collapsed, Merged.collapsed, unionOf_perm (h.filter _)]

theorem collapsed_eq_iff (hmint : c.mint = c'.mint) :
    c.collapsed G = c'.collapsed G ↔ Alike c c' := by
  simp only [Merged.collapsed, Alike, hmint, Merged.mk.injEq]

theorem collapseMint_eq_some (h : collapseMint G m = some c') :
    ∃ c, BestOfMint G c ∧ c.mint = m ∧ c' = c.collapsed G := by
  obtain ⟨c, hhead, rfl⟩ := Option.map_eq_some_iff.mp h
  obtain ⟨hc, hle⟩ := head?_sortBy hhead
  obtain ⟨hG, hmint⟩ := List.mem_filter.mp hc
  have hm : c.mint = m := of_decide_eq_true hmint
  subst hm
  refine ⟨c, ⟨hG, ?_⟩, rfl, rfl⟩
  intro d hd hsame
  exact hle d (List.mem_filter.mpr ⟨hd, decide_eq_true hsame⟩)

/-- A best candidate at the front is chosen. -/
theorem collapseMint_cons (h : BestOfMint (c :: G) c) :
    collapseMint (c :: G) c.mint = some (c.collapsed (c :: G)) := by
  have hgroup : ((c :: G).filter fun d => d.mint = c.mint) =
      c :: G.filter fun d => d.mint = c.mint := List.filter_cons_of_pos (by simp)
  have hhead : (sortBy Merged.collapseKey (c :: G.filter fun d => d.mint = c.mint)).head? =
      some c := by
    apply head?_sortBy_cons
    intro d hd
    obtain ⟨hG, hmint⟩ := List.mem_filter.mp hd
    exact h.le d (List.mem_cons_of_mem _ hG) (of_decide_eq_true hmint)
  simp only [collapseMint, Merged.collapsed, hgroup, hhead, Option.map_some]

theorem exists_collapseMint (h : m ∈ G.map Merged.mint) : ∃ c', collapseMint G m = some c' := by
  obtain ⟨c, hc, rfl⟩ := List.mem_map.mp h
  have hmem : c ∈ sortBy Merged.collapseKey (G.filter fun d => d.mint = c.mint) :=
    mem_sortBy.mpr (List.mem_filter.mpr ⟨hc, decide_eq_true rfl⟩)
  cases hhead : (sortBy Merged.collapseKey (G.filter fun d => d.mint = c.mint)).head? with
  | none =>
    rw [List.head?_eq_none_iff.mp hhead] at hmem
    cases hmem
  | some chosen => exact ⟨_, congrArg (Option.map _) hhead⟩

theorem mem_firsts_mints :
    m ∈ FirstWins.firsts id [] (G.map Merged.mint) ↔ m ∈ G.map Merged.mint := by
  have hmem : m ∈ (FirstWins.firsts id [] (G.map Merged.mint)).map id ↔
      m ∉ [] ∧ m ∈ (G.map Merged.mint).map id := FirstWins.key_mem_firsts _ []
  rw [List.map_id, List.map_id] at hmem
  rw [hmem]
  exact and_iff_right List.not_mem_nil

theorem nodup_firsts_mints (G : List Merged) :
    (FirstWins.firsts id [] (G.map Merged.mint)).Nodup := by
  have hnodup : ((FirstWins.firsts id [] (G.map Merged.mint)).map id).Nodup :=
    FirstWins.nodup_firsts _ []
  rwa [List.map_id] at hnodup

theorem mem_collapse : c ∈ collapse G ↔ collapseMint G c.mint = some c := by
  rw [collapse, List.mem_filterMap]
  constructor
  · rintro ⟨m, _, hm⟩
    obtain ⟨d, _, hd, rfl⟩ := collapseMint_eq_some hm
    subst hd
    exact hm
  · intro h
    obtain ⟨d, hbest, hmint, _⟩ := collapseMint_eq_some h
    exact ⟨c.mint, mem_firsts_mints.mpr (List.mem_map.mpr ⟨d, hbest.mem, hmint⟩), h⟩

theorem map_mint_collapse (G : List Merged) :
    (collapse G).map Merged.mint = FirstWins.firsts id [] (G.map Merged.mint) := by
  have hmints : ∀ mints : List String, (∀ m ∈ mints, m ∈ G.map Merged.mint) →
      (mints.filterMap (collapseMint G)).map Merged.mint = mints := by
    intro mints
    induction mints with
    | nil => intro _; rfl
    | cons m mints ih =>
      intro h
      obtain ⟨c, hc⟩ := exists_collapseMint (h m List.mem_cons_self)
      obtain ⟨d, _, hd, rfl⟩ := collapseMint_eq_some hc
      rw [List.filterMap_cons_some hc, List.map_cons,
        ih fun m hm => h m (List.mem_cons_of_mem _ hm)]
      exact congrArg (· :: mints) hd
  exact hmints _ fun m hm => mem_firsts_mints.mp hm

theorem nodup_mints_collapse (G : List Merged) : ((collapse G).map Merged.mint).Nodup := by
  rw [map_mint_collapse]
  exact nodup_firsts_mints G

theorem length_collapse (G : List Merged) :
    (collapse G).length = (G.map Merged.mint).toFinset.card := by
  have hsame : (FirstWins.firsts id [] (G.map Merged.mint)).toFinset =
      (G.map Merged.mint).toFinset := by
    ext m
    rw [List.mem_toFinset, List.mem_toFinset, mem_firsts_mints]
  rw [← hsame, List.toFinset_card_of_nodup (nodup_firsts_mints G), ← map_mint_collapse,
    List.length_map]

/-- The best candidates of a mint are one. -/
def OneBest (G : List Merged) : Prop :=
  ∀ c c', BestOfMint G c → BestOfMint G c' → c.mint = c'.mint → Alike c c'

theorem collapseMint_perm (hone : OneBest G) (h : G'.Perm G) (m : String) :
    collapseMint G' m = collapseMint G m := by
  by_cases hm : m ∈ G.map Merged.mint
  · obtain ⟨a, ha⟩ := exists_collapseMint hm
    obtain ⟨b, hb⟩ := exists_collapseMint ((h.map Merged.mint).mem_iff.mpr hm)
    obtain ⟨c, hc, hcm, rfl⟩ := collapseMint_eq_some ha
    obtain ⟨d, hd, hdm, rfl⟩ := collapseMint_eq_some hb
    have hmint : d.mint = c.mint := hdm.trans hcm.symm
    rw [ha, hb, collapsed_perm h,
      (collapsed_eq_iff hmint).mpr (hone d c (hd.of_perm h) hc hmint)]
  · have hnone : ∀ H : List Merged, m ∉ H.map Merged.mint → collapseMint H m = none := by
      intro H hH
      rw [Option.eq_none_iff_forall_ne_some]
      intro c hc
      obtain ⟨d, hbest, rfl, _⟩ := collapseMint_eq_some hc
      exact hH (List.mem_map_of_mem hbest.mem)
    rw [hnone G hm, hnone G' ((h.map Merged.mint).mem_iff.not.mpr hm)]

/-- The order of the candidates is lost but for the order of the mints. -/
theorem collapse_perm (hone : OneBest G) (h : G'.Perm G) : (collapse G').Perm (collapse G) := by
  have hmints : (FirstWins.firsts id [] (G'.map Merged.mint)).Perm
      (FirstWins.firsts id [] (G.map Merged.mint)) := by
    rw [List.perm_ext_iff_of_nodup (nodup_firsts_mints G') (nodup_firsts_mints G)]
    intro m
    rw [mem_firsts_mints, mem_firsts_mints, (h.map Merged.mint).mem_iff]
  have hsame : collapseMint G' = collapseMint G := funext (collapseMint_perm hone h)
  rw [collapse, collapse, hsame]
  exact hmints.filterMap _

/-! ## The picks -/

variable {D : Digests} {cycleSeed domain : String} {count : ℕ} {K K' : List Merged}

theorem uniformPick_eq (D : Digests) (K : List Merged) (cycleSeed domain : String) (count : ℕ) :
    uniformPick D K cycleSeed domain count =
      (fisherYates D (sortBy Merged.pickKey K) (cycleSeed ++ "|" ++ domain)).take count := by
  unfold uniformPick
  split_ifs with h
  · rcases h with rfl | rfl
    · rfl
    · have hnil : (fisherYates D (sortBy Merged.pickKey []) (cycleSeed ++ "|" ++ domain)) = [] :=
        List.eq_nil_of_length_eq_zero (length_fisherYates)
      rw [hnil, List.take_nil]
  · rfl

/-- What is picked and what is not. -/
theorem exists_uniformPick_perm (D : Digests) (K : List Merged) (cycleSeed domain : String)
    (count : ℕ) : ∃ rest, (uniformPick D K cycleSeed domain count ++ rest).Perm K := by
  let shuffled := fisherYates D (sortBy Merged.pickKey K) (cycleSeed ++ "|" ++ domain)
  refine ⟨shuffled.drop count, ?_⟩
  rw [uniformPick_eq, List.take_append_drop]
  exact (fisherYates_perm _ _ _).trans (sortBy_perm _ _)

theorem mem_of_mem_uniformPick (h : c ∈ uniformPick D K cycleSeed domain count) : c ∈ K := by
  obtain ⟨rest, hrest⟩ := exists_uniformPick_perm D K cycleSeed domain count
  exact hrest.mem_iff.mp (List.mem_append_left _ h)

theorem length_uniformPick :
    (uniformPick D K cycleSeed domain count).length = min count K.length := by
  rw [uniformPick_eq, List.length_take, length_fisherYates, (sortBy_perm _ _).length_eq]

theorem nodup_mints_uniformPick (h : (K.map Merged.mint).Nodup) :
    ((uniformPick D K cycleSeed domain count).map Merged.mint).Nodup := by
  obtain ⟨rest, hrest⟩ := exists_uniformPick_perm D K cycleSeed domain count
  have hall := (hrest.map Merged.mint).nodup_iff.mpr h
  rw [List.map_append] at hall
  exact hall.of_append_left

/-- Where the mints are distinct the order of the candidates does not matter. -/
theorem uniformPick_perm (h : K'.Perm K) (hmints : (K'.map Merged.mint).Nodup) :
    uniformPick D K' cycleSeed domain count = uniformPick D K cycleSeed domain count := by
  have hkey : ∀ a ∈ K', ∀ b ∈ K', a.pickKey = b.pickKey → a = b := by
    intro a ha b hb hab
    have hidentity : tokenIdentity a.mint = tokenIdentity b.mint :=
      congrArg (fun k => (ofLex k).1) hab
    exact List.inj_on_of_nodup_map hmints ha hb (tokenIdentity_injective hidentity)
  rw [uniformPick_eq, uniformPick_eq, sortBy_eq_of_perm h hkey]

/-- Some choices pick any of the candidates, as many as are asked for. -/
theorem exists_uniformPick (cycleSeed domain : String) {ys zs : List Merged}
    (h : (ys ++ zs).Perm K) (hcount : ys.length ≤ count) :
    ∃ choice, ∀ D : Digests, D.choice (cycleSeed ++ "|" ++ domain) = choice →
      ∀ c ∈ ys, c ∈ uniformPick D K cycleSeed domain count := by
  obtain ⟨choice, hchoice⟩ := exists_fisherYates_eq (h.trans (sortBy_perm Merged.pickKey K).symm)
  refine ⟨choice, ?_⟩
  intro D hD c hc
  rw [uniformPick_eq, hchoice D _ hD, List.take_append, List.take_of_length_le hcount]
  exact List.mem_append_left _ hc

theorem exists_uniformPick_eq_singleton (D : Digests) (cycleSeed domain : String) (h : K ≠ []) :
    ∃ c ∈ K, uniformPick D K cycleSeed domain 1 = [c] := by
  have hlength : (uniformPick D K cycleSeed domain 1).length = 1 := by
    rw [length_uniformPick]
    have hpos := List.length_pos_iff.mpr h
    omega
  obtain ⟨c, hc⟩ := List.length_eq_one_iff.mp hlength
  exact ⟨c, mem_of_mem_uniformPick (by rw [hc]; exact List.mem_singleton_self c), hc⟩

/-! ## The category in turn -/

variable {batchSeq : ℤ} {category : String}

theorem mem_orderedCategories (D : Digests) (K : List Merged) (cycleSeed : String) :
    category ∈ orderedCategories D K cycleSeed ↔
      ∃ c ∈ K, category ∈ nonLatestCategories c.channels := by
  rw [orderedCategories, mem_sortBy, Finset.mem_sort, mem_unionOf]

theorem roundRobinNonLatest_perm (h : K'.Perm K) :
    roundRobinNonLatest D batchSeq K' cycleSeed = roundRobinNonLatest D batchSeq K cycleSeed := by
  rw [roundRobinNonLatest, roundRobinNonLatest, orderedCategories, orderedCategories,
    unionOf_perm h]

theorem roundRobinNonLatest_mem (D : Digests) (batchSeq : ℤ) (cycleSeed : String)
    (h : nonLatest K ≠ []) :
    ∃ c ∈ nonLatest K,
      roundRobinNonLatest D batchSeq (nonLatest K) cycleSeed ∈ nonLatestCategories c.channels := by
  obtain ⟨c, hc⟩ := List.exists_mem_of_ne_nil _ h
  have hclass : c.NonLatest := of_decide_eq_true (List.mem_filter.mp hc).2
  obtain ⟨category, hcategory⟩ := hclass
  have hordered := (mem_orderedCategories D _ cycleSeed).mpr ⟨c, hc, hcategory⟩
  have hlt : (max batchSeq 1 - 1).toNat % (orderedCategories D (nonLatest K) cycleSeed).length <
      (orderedCategories D (nonLatest K) cycleSeed).length :=
    Nat.mod_lt _ (List.length_pos_of_mem hordered)
  rw [← mem_orderedCategories D _ cycleSeed]
  simp only [roundRobinNonLatest, List.getElem?_eq_getElem hlt, Option.getD_some]
  exact List.getElem_mem hlt

/-- Some digests bring the turn to any of the categories. -/
theorem exists_roundRobinNonLatest_eq (batchSeq : ℤ) (cycleSeed : String)
    (hc : c ∈ K) (hcategory : category ∈ nonLatestCategories c.channels) :
    ∃ hex, ∀ D : Digests, D.hex = hex → roundRobinNonLatest D batchSeq K cycleSeed = category := by
  let categories := (unionOf (fun c => nonLatestCategories c.channels) K).sort
  have hmem : category ∈ categories :=
    (Finset.mem_sort _).mpr (mem_unionOf.mpr ⟨c, hc, hcategory⟩)
  have hlt : (max batchSeq 1 - 1).toNat % categories.length < categories.length :=
    Nat.mod_lt _ (List.length_pos_of_mem hmem)
  let turn := (max batchSeq 1 - 1).toNat % categories.length
  -- the category is put where the turn comes, the others around it
  let ordered := (categories.erase category).insertIdx turn category
  have hperm : ordered.Perm categories := by
    have hle : turn ≤ (categories.erase category).length := by
      rw [List.length_erase_of_mem hmem]
      omega
    exact (List.perm_insertIdx category _ hle).trans (List.perm_cons_erase hmem).symm
  have hnodup : ordered.Nodup := hperm.nodup_iff.mpr (Finset.sort_nodup _ _)
  have htext : Function.Injective fun category => cycleSeed ++ "|category|" ++ category := by
    intro a b hab
    exact (String.append_right_inj _).mp hab
  obtain ⟨hex, hhex⟩ := exists_hex_sortBy htext hperm hnodup
  refine ⟨hex, ?_⟩
  intro D hD
  have hordered : orderedCategories D K cycleSeed = ordered := by
    rw [orderedCategories, hD]
    exact hhex
  have hturn : turn < ordered.length := by
    rw [hperm.length_eq]
    exact hlt
  simp only [roundRobinNonLatest, hordered, hperm.length_eq]
  rw [List.getElem?_eq_getElem hturn, Option.getD_some]
  exact List.getElem_insertIdx_self hturn

/-! ## The two slots -/

variable {v : ℕ}

@[simp] theorem mem_latestOnly : c ∈ latestOnly K ↔ c ∈ K ∧ ¬c.NonLatest := by
  simp [latestOnly]

@[simp] theorem mem_nonLatest : c ∈ nonLatest K ↔ c ∈ K ∧ c.NonLatest := by
  simp [nonLatest]

theorem categoricalTwoSlot_one : categoricalTwoSlot D batchSeq K cycleSeed 1 =
    uniformPick D K cycleSeed "single" 1 := by
  by_cases hK : K = []
  · rw [categoricalTwoSlot, if_pos hK, uniformPick, if_pos (.inr hK)]
  · rw [categoricalTwoSlot, if_neg hK, if_pos rfl]

/-- Where there is one kind of candidate, two of it are picked. -/
theorem categoricalTwoSlot_pool (h : latestOnly K = [] ∨ nonLatest K = []) :
    categoricalTwoSlot D batchSeq K cycleSeed 2 =
      uniformPick D K cycleSeed "SINGLE_CATEGORY" 2 := by
  have hpool : (if nonLatest K ≠ [] then nonLatest K else latestOnly K) = K := by
    split_ifs with hnon
    · have hlatest := h.resolve_right hnon
      apply List.filter_eq_self.mpr
      intro c hc
      by_contra hclass
      exact List.eq_nil_iff_forall_not_mem.mp hlatest c
        (mem_latestOnly.mpr ⟨hc, mt decide_eq_true hclass⟩)
    · apply List.filter_eq_self.mpr
      intro c hc
      refine decide_eq_true fun hclass => ?_
      exact List.eq_nil_iff_forall_not_mem.mp (not_not.mp hnon) c (mem_nonLatest.mpr ⟨hc, hclass⟩)
  have hnot : ¬(latestOnly K ≠ [] ∧ nonLatest K ≠ [] ∧ 2 ≤ 2) := by
    rintro ⟨hlatest, hnon, _⟩
    exact h.elim hlatest hnon
  by_cases hK : K = []
  · rw [categoricalTwoSlot, if_pos hK, uniformPick, if_pos (.inr hK)]
  · rw [categoricalTwoSlot, if_neg hK, if_neg (by omega), if_neg hnot]
    exact congrArg (fun pool => uniformPick D pool cycleSeed "SINGLE_CATEGORY" 2) hpool

/-- Where there are both kinds, one of each is picked. -/
theorem categoricalTwoSlot_both (hlatest : latestOnly K ≠ []) (hnon : nonLatest K ≠ []) :
    categoricalTwoSlot D batchSeq K cycleSeed 2 =
      uniformPick D (latestOnly K) cycleSeed "LATEST_GRADUATED" 1 ++
        uniformPick D ((nonLatest K).filter fun c =>
          roundRobinNonLatest D batchSeq (nonLatest K) cycleSeed ∈
            nonLatestCategories c.channels)
          cycleSeed (roundRobinNonLatest D batchSeq (nonLatest K) cycleSeed) 1 := by
  have hK : K ≠ [] := by
    rintro rfl
    exact hlatest rfl
  unfold categoricalTwoSlot
  rw [if_neg hK, if_neg (by omega), if_pos ⟨hlatest, hnon, le_rfl⟩]

/-- What the two slots hold: a uniform pick, for two slots from candidates of one kind,
or one candidate of each kind. -/
inductive Slots (D : Digests) (K : List Merged) (cycleSeed : String) (v : ℕ) :
    List Merged → Prop
  | uniform (domain : String) (one : v = 2 → latestOnly K = [] ∨ nonLatest K = []) :
      Slots D K cycleSeed v (uniformPick D K cycleSeed domain v)
  | both {a b : Merged} (two : v = 2) (first : a ∈ latestOnly K) (second : b ∈ nonLatest K) :
      Slots D K cycleSeed v [a, b]

theorem categoricalTwoSlot_slots (hv : v = 1 ∨ v = 2) :
    Slots D K cycleSeed v (categoricalTwoSlot D batchSeq K cycleSeed v) := by
  rcases hv with rfl | rfl
  · rw [categoricalTwoSlot_one]
    exact .uniform "single" fun h => by omega
  · by_cases hlatest : latestOnly K = []
    · rw [categoricalTwoSlot_pool (.inl hlatest)]
      exact .uniform _ fun _ => .inl hlatest
    by_cases hnon : nonLatest K = []
    · rw [categoricalTwoSlot_pool (.inr hnon)]
      exact .uniform _ fun _ => .inr hnon
    rw [categoricalTwoSlot_both hlatest hnon]
    obtain ⟨d, hd, hturn⟩ := roundRobinNonLatest_mem D batchSeq cycleSeed hnon
    have hmembers : ((nonLatest K).filter fun c =>
        roundRobinNonLatest D batchSeq (nonLatest K) cycleSeed ∈
          nonLatestCategories c.channels) ≠ [] :=
      List.ne_nil_of_mem (List.mem_filter.mpr ⟨hd, decide_eq_true hturn⟩)
    obtain ⟨a, ha, hpicka⟩ :=
      exists_uniformPick_eq_singleton D cycleSeed "LATEST_GRADUATED" hlatest
    obtain ⟨b, hb, hpickb⟩ := exists_uniformPick_eq_singleton D cycleSeed
      (roundRobinNonLatest D batchSeq (nonLatest K) cycleSeed) hmembers
    rw [hpicka, hpickb]
    exact .both rfl ha (List.mem_filter.mp hb).1

/-- Two candidates may fill the two slots: they are of different kinds, or there is
one kind. -/
def Together (K : List Merged) (a b : Merged) : Prop :=
  (a.NonLatest ↔ b.NonLatest) → ∀ d ∈ K, d.NonLatest ↔ a.NonLatest

theorem one_kind_of_forall {a : Merged} (h : ∀ d ∈ K, d.NonLatest ↔ a.NonLatest) :
    latestOnly K = [] ∨ nonLatest K = [] := by
  by_cases hclass : a.NonLatest
  · refine .inl (List.eq_nil_iff_forall_not_mem.mpr fun d hd => ?_)
    obtain ⟨hdK, hlatest⟩ := mem_latestOnly.mp hd
    exact hlatest ((h d hdK).mpr hclass)
  · refine .inr (List.eq_nil_iff_forall_not_mem.mpr fun d hd => ?_)
    obtain ⟨hdK, hnon⟩ := mem_nonLatest.mp hd
    exact hclass ((h d hdK).mp hnon)

theorem iff_of_one_kind (h : latestOnly K = [] ∨ nonLatest K = []) {a b : Merged} (ha : a ∈ K)
    (hb : b ∈ K) : a.NonLatest ↔ b.NonLatest := by
  rcases h with h | h
  · have hall : ∀ d ∈ K, d.NonLatest := by
      intro d hd
      by_contra hclass
      exact List.eq_nil_iff_forall_not_mem.mp h d (mem_latestOnly.mpr ⟨hd, hclass⟩)
    exact iff_of_true (hall a ha) (hall b hb)
  · have hnone : ∀ d ∈ K, ¬d.NonLatest := fun d hd hclass =>
      List.eq_nil_iff_forall_not_mem.mp h d (mem_nonLatest.mpr ⟨hd, hclass⟩)
    exact iff_of_false (hnone a ha) (hnone b hb)

section Slots

variable {S : List Merged} (hS : Slots D K cycleSeed v S)
include hS

theorem Slots.mem (hc : c ∈ S) : c ∈ K := by
  cases hS with
  | uniform => exact mem_of_mem_uniformPick hc
  | both _ first second =>
    rcases List.mem_pair.mp hc with rfl | rfl
    · exact (mem_latestOnly.mp first).1
    · exact (mem_nonLatest.mp second).1

theorem Slots.nodup_mints (hmints : (K.map Merged.mint).Nodup) : (S.map Merged.mint).Nodup := by
  cases hS with
  | uniform => exact nodup_mints_uniformPick hmints
  | @both a b two first second =>
    obtain ⟨ha, hlatest⟩ := mem_latestOnly.mp first
    obtain ⟨hb, hnon⟩ := mem_nonLatest.mp second
    have hne : a.mint ≠ b.mint := by
      intro hsame
      have hab := List.inj_on_of_nodup_map hmints ha hb hsame
      subst hab
      exact hlatest hnon
    simpa using hne

theorem Slots.length_eq : S.length = min v K.length := by
  cases hS with
  | uniform => exact length_uniformPick
  | @both a b two first second =>
    obtain ⟨ha, hlatest⟩ := mem_latestOnly.mp first
    obtain ⟨hb, hnon⟩ := mem_nonLatest.mp second
    have htwo : 2 ≤ K.length := by
      match K, ha, hb with
      | [], ha, _ => cases ha
      | [d], ha, hb =>
        rw [List.mem_singleton.mp ha, ← List.mem_singleton.mp hb] at hlatest
        exact absurd hnon hlatest
      | _ :: _ :: _, _, _ => simp
    rw [two, min_eq_left htwo]
    rfl

theorem Slots.exists_nonLatest (two : v = 2) (h : ∃ d ∈ K, d.NonLatest) :
    ∃ d ∈ S, d.NonLatest := by
  cases hS with
  | uniform domain one =>
    obtain ⟨d, hd, hclass⟩ := h
    have hlength : 0 < (uniformPick D K cycleSeed domain v).length := by
      rw [length_uniformPick, two]
      have hpos := List.length_pos_of_mem hd
      omega
    obtain ⟨c, hc⟩ := List.exists_mem_of_length_pos hlength
    exact ⟨c, hc, (iff_of_one_kind (one two) (mem_of_mem_uniformPick hc) hd).mpr hclass⟩
  | @both a b _ _ second => exact ⟨b, by simp, (mem_nonLatest.mp second).2⟩

theorem Slots.together (two : v = 2) {a b : Merged} (ha : a ∈ S) (hb : b ∈ S) (hab : a ≠ b) :
    Together K a b := by
  cases hS with
  | uniform domain one =>
    intro _ d hd
    exact iff_of_one_kind (one two) hd (mem_of_mem_uniformPick ha)
  | both _ first second =>
    intro hsame
    have hlatest := (mem_latestOnly.mp first).2
    have hnon := (mem_nonLatest.mp second).2
    rcases List.mem_pair.mp ha with rfl | rfl <;> rcases List.mem_pair.mp hb with rfl | rfl
    · exact absurd rfl hab
    · exact absurd (hsame.mpr hnon) hlatest
    · exact absurd (hsame.mp hnon) hlatest
    · exact absurd rfl hab

end Slots

theorem filter_eq_nil_of_perm {p : Merged → Bool} (h : K'.Perm K) :
    K'.filter p = [] ↔ K.filter p = [] := by
  rw [List.filter_eq_nil_iff, List.filter_eq_nil_iff]
  exact forall_congr' fun d => by rw [h.mem_iff]

/-- Where the mints are distinct the order of the candidates does not matter. -/
theorem categoricalTwoSlot_perm (hv : v = 1 ∨ v = 2) (h : K'.Perm K)
    (hmints : (K'.map Merged.mint).Nodup) :
    categoricalTwoSlot D batchSeq K' cycleSeed v = categoricalTwoSlot D batchSeq K cycleSeed v := by
  have hfilter : ∀ p : Merged → Bool, ((K'.filter p).map Merged.mint).Nodup := fun p =>
    hmints.sublist (List.filter_sublist.map Merged.mint)
  rcases hv with rfl | rfl
  · rw [categoricalTwoSlot_one, categoricalTwoSlot_one, uniformPick_perm h hmints]
  · have hlatest : latestOnly K' = [] ↔ latestOnly K = [] := filter_eq_nil_of_perm h
    have hnon : nonLatest K' = [] ↔ nonLatest K = [] := filter_eq_nil_of_perm h
    by_cases hone : latestOnly K = [] ∨ nonLatest K = []
    · rw [categoricalTwoSlot_pool hone, categoricalTwoSlot_pool (by rwa [hlatest, hnon]),
        uniformPick_perm h hmints]
    · obtain ⟨hlatest', hnon'⟩ := not_or.mp hone
      have hlatestPerm : (latestOnly K').Perm (latestOnly K) := h.filter _
      have hnonPerm : (nonLatest K').Perm (nonLatest K) := h.filter _
      rw [categoricalTwoSlot_both hlatest' hnon',
        categoricalTwoSlot_both (mt hlatest.mp hlatest') (mt hnon.mp hnon'),
        uniformPick_perm hlatestPerm (hfilter _),
        roundRobinNonLatest_perm hnonPerm]
      congr 1
      refine uniformPick_perm (hnonPerm.filter _) ?_
      exact (hfilter _).sublist (List.filter_sublist.map Merged.mint)

/-! ## Every candidate can be picked -/

theorem category_ne (h : category ∈ nonLatestCategories c.channels) :
    category ≠ "LATEST_GRADUATED" :=
  (Finset.mem_filter.mp h).2

/-- Some digests pick the two of different kinds. -/
theorem exists_pick_both (batchSeq : ℤ) (cycleSeed : String) {a b : Merged}
    (ha : a ∈ latestOnly K) (hb : b ∈ nonLatest K) :
    ∃ D, a ∈ categoricalTwoSlot D batchSeq K cycleSeed 2 ∧
      b ∈ categoricalTwoSlot D batchSeq K cycleSeed 2 := by
  obtain ⟨category, hcategory⟩ := (mem_nonLatest.mp hb).2
  obtain ⟨hex, hhex⟩ := exists_roundRobinNonLatest_eq batchSeq cycleSeed hb hcategory
  let members := (nonLatest K).filter fun c => category ∈ nonLatestCategories c.channels
  have hmember : b ∈ members := List.mem_filter.mpr ⟨hb, decide_eq_true hcategory⟩
  have hperm : ([a] ++ (latestOnly K).erase a).Perm (latestOnly K) :=
    (List.perm_cons_erase ha).symm
  have hperm' : ([b] ++ members.erase b).Perm members := (List.perm_cons_erase hmember).symm
  obtain ⟨choice, hchoice⟩ := exists_uniformPick cycleSeed "LATEST_GRADUATED" hperm le_rfl
  obtain ⟨choice', hchoice'⟩ := exists_uniformPick cycleSeed category hperm' le_rfl
  -- the two picks are of different domains, so each has choices of its own
  have hseed : cycleSeed ++ "|" ++ category ≠ cycleSeed ++ "|" ++ "LATEST_GRADUATED" := fun h =>
    category_ne hcategory ((String.append_right_inj _).mp h)
  obtain ⟨D, hD, hDchoice⟩ := exists_digests
    (Function.update (fun _ => choice') (cycleSeed ++ "|" ++ "LATEST_GRADUATED") choice) hex
  have hfirst := hchoice D (by rw [hDchoice, Function.update_self]) a (by simp)
  have hsecond := hchoice' D (by rw [hDchoice, Function.update_of_ne hseed]) b (by simp)
  refine ⟨D, ?_⟩
  rw [categoricalTwoSlot_both (List.ne_nil_of_mem ha) (List.ne_nil_of_mem hb), hhex D hD]
  exact ⟨List.mem_append_left _ hfirst, List.mem_append_right _ hsecond⟩

/-- Some digests pick the two that may fill the slots together. -/
theorem exists_pick_together (batchSeq : ℤ) (cycleSeed : String) {a b : Merged} (ha : a ∈ K)
    (hb : b ∈ K) (hab : a ≠ b) (h : Together K a b) :
    ∃ D, a ∈ categoricalTwoSlot D batchSeq K cycleSeed 2 ∧
      b ∈ categoricalTwoSlot D batchSeq K cycleSeed 2 := by
  by_cases hkind : a.NonLatest ↔ b.NonLatest
  · have hone := one_kind_of_forall (h hkind)
    have hb' : b ∈ K.erase a := (List.mem_erase_of_ne hab.symm).mpr hb
    have hperm : ([a, b] ++ (K.erase a).erase b).Perm K :=
      ((List.perm_cons_erase hb').symm.cons a).trans (List.perm_cons_erase ha).symm
    obtain ⟨choice, hchoice⟩ := exists_uniformPick cycleSeed "SINGLE_CATEGORY" hperm le_rfl
    obtain ⟨D, _, hD⟩ := exists_digests (fun _ => choice) id
    refine ⟨D, ?_⟩
    rw [categoricalTwoSlot_pool hone]
    exact ⟨hchoice D (hD _) a (by simp), hchoice D (hD _) b (by simp)⟩
  · by_cases hclass : a.NonLatest
    · have hclassb : ¬b.NonLatest := fun hb' => hkind (iff_of_true hclass hb')
      obtain ⟨D, hDb, hDa⟩ := exists_pick_both batchSeq cycleSeed
        (mem_latestOnly.mpr ⟨hb, hclassb⟩) (mem_nonLatest.mpr ⟨ha, hclass⟩)
      exact ⟨D, hDa, hDb⟩
    · have hclassb : b.NonLatest := by
        by_contra hb'
        exact hkind (iff_of_false hclass hb')
      exact exists_pick_both batchSeq cycleSeed (mem_latestOnly.mpr ⟨ha, hclass⟩)
        (mem_nonLatest.mpr ⟨hb, hclassb⟩)

/-- Some digests pick the candidate. -/
theorem exists_pick (batchSeq : ℤ) (cycleSeed : String) (hv : v = 1 ∨ v = 2) (hc : c ∈ K) :
    ∃ D, c ∈ categoricalTwoSlot D batchSeq K cycleSeed v := by
  have hperm : ([c] ++ K.erase c).Perm K := (List.perm_cons_erase hc).symm
  rcases hv with rfl | rfl
  · obtain ⟨choice, hchoice⟩ := exists_uniformPick cycleSeed "single" hperm le_rfl
    obtain ⟨D, _, hD⟩ := exists_digests (fun _ => choice) id
    refine ⟨D, ?_⟩
    rw [categoricalTwoSlot_one]
    exact hchoice D (hD _) c (by simp)
  · by_cases hother : ∃ d ∈ K, ¬(d.NonLatest ↔ c.NonLatest)
    · obtain ⟨d, hd, hkind⟩ := hother
      have hcd : c ≠ d := by
        rintro rfl
        exact hkind Iff.rfl
      obtain ⟨D, hD, _⟩ := exists_pick_together batchSeq cycleSeed hc hd hcd
        fun hsame => absurd hsame.symm hkind
      exact ⟨D, hD⟩
    · have hall : ∀ d ∈ K, d.NonLatest ↔ c.NonLatest := by
        intro d hd
        by_contra hkind
        exact hother ⟨d, hd, hkind⟩
      have htwo : [c].length ≤ 2 := by simp
      obtain ⟨choice, hchoice⟩ := exists_uniformPick cycleSeed "SINGLE_CATEGORY" hperm htwo
      obtain ⟨D, _, hD⟩ := exists_digests (fun _ => choice) id
      refine ⟨D, ?_⟩
      rw [categoricalTwoSlot_pool (one_kind_of_forall hall)]
      exact hchoice D (hD _) c (by simp)

/-! ## The selection -/

/-- The candidates the selection keeps. -/
def graduatedOf (eligible : List Merged) : List Merged := eligible.filter fun c => c.Selectable

/-- A mint with a candidate of another category than the latest. -/
def NonLatestMint (G : List Merged) (mint : String) : Prop :=
  ∃ d ∈ G, d.mint = mint ∧ d.NonLatest

/-- The selected candidates do not depend on the order of the eligible ones, are
selectable ones with the channels of their mint, have mints and markets of their
own, are as many as there are vacancies and mints for, and for two vacancies are
not of the latest category alone where there is another. -/
structure SelectsWell (D : Digests) (batchSeq : ℤ) (eligible : List Merged) (cycleSeed : String)
    (vacancyCount : ℕ) : Prop where
  orderFree : ∀ eligible' : List Merged, eligible'.Perm eligible →
    select D batchSeq eligible' cycleSeed vacancyCount =
      select D batchSeq eligible cycleSeed vacancyCount
  selectable : ∀ c ∈ select D batchSeq eligible cycleSeed vacancyCount,
    c.Selectable ∧ ∃ d ∈ eligible, Alike c d
  mints : ((select D batchSeq eligible cycleSeed vacancyCount).map Merged.mint).Nodup
  pools : ((select D batchSeq eligible cycleSeed vacancyCount).map Merged.marketIdentity).Nodup
  count : (select D batchSeq eligible cycleSeed vacancyCount).length =
    min vacancyCount ((graduatedOf eligible).map Merged.mint).toFinset.card
  spread : vacancyCount = 2 → (∃ c ∈ eligible, c.Selectable ∧ c.NonLatest) →
    ∃ c ∈ select D batchSeq eligible cycleSeed vacancyCount, c.NonLatest

/-- Candidates of the mints may be selected together: they are of different kinds, or
there is one kind. -/
def Paired (G : List Merged) (m m' : String) : Prop :=
  (NonLatestMint G m ↔ NonLatestMint G m') →
    ∀ d ∈ G, NonLatestMint G d.mint ↔ NonLatestMint G m

/-- The best candidates of a mint are one, and for two vacancies the best candidates
of two mints that may be selected together have markets of their own. -/
structure ToldApart (eligible : List Merged) (vacancyCount : ℕ) : Prop where
  one : OneBest (graduatedOf eligible)
  apart : vacancyCount = 2 → ∀ c d, BestOfMint (graduatedOf eligible) c →
    BestOfMint (graduatedOf eligible) d → c.mint ≠ d.mint →
    Paired (graduatedOf eligible) c.mint d.mint → c.marketIdentity ≠ d.marketIdentity

variable {eligible eligible' : List Merged}

theorem select_eq (hv : v = 1 ∨ v = 2) :
    select D batchSeq eligible cycleSeed v =
      categoricalTwoSlot D batchSeq (collapse (graduatedOf eligible)) cycleSeed v :=
  if_neg (by omega)

@[simp] theorem mem_graduatedOf : c ∈ graduatedOf eligible ↔ c ∈ eligible ∧ c.Selectable := by
  simp [graduatedOf]

theorem nonLatest_iff :
    c.NonLatest ↔ ∃ channel ∈ c.channels, channelCategory channel ≠ "LATEST_GRADUATED" := by
  constructor
  · rintro ⟨category, hcategory⟩
    obtain ⟨himage, hne⟩ := Finset.mem_filter.mp hcategory
    obtain ⟨channel, hchannel, rfl⟩ := Finset.mem_image.mp himage
    exact ⟨channel, hchannel, hne⟩
  · rintro ⟨channel, hchannel, hne⟩
    exact ⟨channelCategory channel,
      Finset.mem_filter.mpr ⟨Finset.mem_image_of_mem _ hchannel, hne⟩⟩

theorem nonLatest_collapsed : (c.collapsed G).NonLatest ↔ NonLatestMint G c.mint := by
  simp only [nonLatest_iff, NonLatestMint, Merged.collapsed, mem_unionOf, List.mem_filter,
    decide_eq_true_eq]
  constructor
  · rintro ⟨channel, ⟨d, ⟨hd, hmint⟩, hchannel⟩, hne⟩
    exact ⟨d, hd, hmint, channel, hchannel, hne⟩
  · rintro ⟨d, hd, hmint, channel, hchannel, hne⟩
    exact ⟨channel, ⟨d, ⟨hd, hmint⟩, hchannel⟩, hne⟩

theorem exists_best_of_mem_collapse (h : c ∈ collapse G) :
    ∃ d, BestOfMint G d ∧ c = d.collapsed G := by
  obtain ⟨d, hd, _, hc⟩ := collapseMint_eq_some (mem_collapse.mp h)
  exact ⟨d, hd, hc⟩

theorem together_collapsed_iff {a b : Merged} :
    Together (collapse G) (a.collapsed G) (b.collapsed G) ↔ Paired G a.mint b.mint := by
  have hkinds : (∀ d ∈ collapse G, d.NonLatest ↔ (a.collapsed G).NonLatest) ↔
      ∀ d ∈ G, NonLatestMint G d.mint ↔ NonLatestMint G a.mint := by
    rw [nonLatest_collapsed]
    constructor
    · intro h d hd
      obtain ⟨c, hc⟩ := exists_collapseMint (List.mem_map_of_mem hd)
      obtain ⟨e, _, he, rfl⟩ := collapseMint_eq_some hc
      have hmem : e.collapsed G ∈ collapse G := mem_collapse.mpr (by rw [← hc, ← he]; rfl)
      rw [← he, ← nonLatest_collapsed]
      exact h _ hmem
    · intro h d hd
      obtain ⟨e, he, rfl⟩ := exists_best_of_mem_collapse hd
      rw [nonLatest_collapsed]
      exact h e he.mem
  rw [Together, Paired, hkinds, nonLatest_collapsed, nonLatest_collapsed]

/-- In some order of the candidates any of the best is chosen. -/
theorem exists_order_choosing (hc : BestOfMint (graduatedOf eligible) c) :
    ∃ eligible' : List Merged, eligible'.Perm eligible ∧
      c.collapsed (graduatedOf eligible) ∈ collapse (graduatedOf eligible') := by
  obtain ⟨hmem, hselectable⟩ := mem_graduatedOf.mp hc.mem
  have hperm : (c :: eligible.erase c).Perm eligible := (List.perm_cons_erase hmem).symm
  have hgraduated : graduatedOf (c :: eligible.erase c) = c :: graduatedOf (eligible.erase c) :=
    List.filter_cons_of_pos (decide_eq_true hselectable)
  have hsame : (graduatedOf (c :: eligible.erase c)).Perm (graduatedOf eligible) :=
    hperm.filter _
  refine ⟨c :: eligible.erase c, hperm, mem_collapse.mpr ?_⟩
  rw [← collapsed_perm hsame, hgraduated]
  exact collapseMint_cons (hc.of_perm (by rw [← hgraduated]; exact hsame.symm))

theorem collapsed_mem_collapse (hone : OneBest G) (hc : BestOfMint G c) :
    c.collapsed G ∈ collapse G := by
  obtain ⟨d, hd⟩ := exists_collapseMint (List.mem_map_of_mem hc.mem)
  obtain ⟨e, he, hmint, rfl⟩ := collapseMint_eq_some hd
  rw [(collapsed_eq_iff hmint.symm).mpr (hone c e hc he hmint.symm)]
  exact mem_collapse.mpr (by rw [← hd, ← hmint]; rfl)

/-- A selection that never depends on the order tells the candidates of a mint apart. -/
theorem oneBest_of_selectsWell (hv : v = 1 ∨ v = 2)
    (h : ∀ D, SelectsWell D batchSeq eligible cycleSeed v) : OneBest (graduatedOf eligible) := by
  intro c c' hc hc' hmint
  obtain ⟨first, hfirst, hmem⟩ := exists_order_choosing hc
  obtain ⟨second, hsecond, hmem'⟩ := exists_order_choosing hc'
  obtain ⟨D, hpicked⟩ := exists_pick batchSeq cycleSeed hv hmem
  have hselected : c.collapsed (graduatedOf eligible) ∈
      select D batchSeq second cycleSeed v := by
    rw [(h D).orderFree second hsecond, ← (h D).orderFree first hfirst, select_eq hv]
    exact hpicked
  rw [select_eq hv] at hselected
  have hchosen := mem_collapse.mp ((categoricalTwoSlot_slots hv).mem hselected)
  have hchosen' := mem_collapse.mp hmem'
  have hsame : collapseMint (graduatedOf second) (c'.collapsed (graduatedOf eligible)).mint =
      some (c.collapsed (graduatedOf eligible)) := by
    rw [← hchosen]
    exact congrArg _ hmint.symm
  exact (collapsed_eq_iff hmint).mp (Option.some.inj (hsame.symm.trans hchosen'))

theorem toldApart_of_selectsWell (hv : v = 1 ∨ v = 2)
    (h : ∀ D, SelectsWell D batchSeq eligible cycleSeed v) : ToldApart eligible v where
  one := oneBest_of_selectsWell hv h
  apart := by
    rintro rfl c d hc hd hmint hpaired hmarket
    have hone := oneBest_of_selectsWell hv h
    have hne : c.collapsed (graduatedOf eligible) ≠ d.collapsed (graduatedOf eligible) := by
      intro heq
      have hsame : (c.collapsed (graduatedOf eligible)).mint =
          (d.collapsed (graduatedOf eligible)).mint := congrArg Merged.mint heq
      exact hmint hsame
    obtain ⟨D, hpickc, hpickd⟩ := exists_pick_together batchSeq cycleSeed
      (collapsed_mem_collapse hone hc) (collapsed_mem_collapse hone hd) hne
      (together_collapsed_iff.mpr hpaired)
    rw [← select_eq hv] at hpickc hpickd
    exact hne (List.inj_on_of_nodup_map (h D).pools hpickc hpickd hmarket)

theorem selectsWell_of_toldApart (hv : v = 1 ∨ v = 2) (h : ToldApart eligible v)
    (D : Digests) (batchSeq : ℤ) (cycleSeed : String) :
    SelectsWell D batchSeq eligible cycleSeed v := by
  have hslots : Slots D (collapse (graduatedOf eligible)) cycleSeed v
      (select D batchSeq eligible cycleSeed v) := by
    rw [select_eq hv]
    exact categoricalTwoSlot_slots hv
  have hlength := hslots.length_eq
  rw [length_collapse] at hlength
  have hmints := hslots.nodup_mints (nodup_mints_collapse _)
  constructor
  case orderFree =>
    intro eligible' hperm
    have hgraduated : (graduatedOf eligible).Perm (graduatedOf eligible') :=
      (hperm.filter _).symm
    have hcollapse := (collapse_perm h.one hgraduated.symm)
    rw [select_eq hv, select_eq hv]
    exact categoricalTwoSlot_perm hv hcollapse (nodup_mints_collapse _)
  case selectable =>
    intro c hc
    obtain ⟨d, hd, rfl⟩ := exists_best_of_mem_collapse (hslots.mem hc)
    obtain ⟨hmem, hselectable⟩ := mem_graduatedOf.mp hd.mem
    exact ⟨hselectable, d, hmem, rfl⟩
  case mints => exact hmints
  case pools =>
    apply List.Nodup.map_on _ hmints.of_map
    intro a ha b hb hmarket
    by_contra hab
    rcases hv with rfl | rfl
    · -- one slot holds one candidate
      have hone : (select D batchSeq eligible cycleSeed 1).length ≤ 1 := by omega
      match hselect : select D batchSeq eligible cycleSeed 1, ha, hb, hone with
      | [c], ha, hb, _ =>
        exact hab ((List.mem_singleton.mp ha).trans (List.mem_singleton.mp hb).symm)
    · obtain ⟨c, hc, rfl⟩ := exists_best_of_mem_collapse (hslots.mem ha)
      obtain ⟨d, hd, rfl⟩ := exists_best_of_mem_collapse (hslots.mem hb)
      have hpaired := together_collapsed_iff.mp (hslots.together rfl ha hb hab)
      have hmint : c.mint ≠ d.mint := fun hsame =>
        hab (List.inj_on_of_nodup_map hmints ha hb hsame)
      exact h.apart rfl c d hc hd hmint hpaired hmarket
  case count => exact hlength
  case spread =>
    rintro two ⟨c, hc, hselectable, hclass⟩
    have hgraduated : c ∈ graduatedOf eligible := mem_graduatedOf.mpr ⟨hc, hselectable⟩
    obtain ⟨d, hd⟩ := exists_collapseMint (List.mem_map_of_mem hgraduated)
    obtain ⟨e, he, hmint, rfl⟩ := collapseMint_eq_some hd
    refine hslots.exists_nonLatest two ⟨e.collapsed (graduatedOf eligible), ?_, ?_⟩
    · exact mem_collapse.mpr (by rw [← hd, ← hmint]; rfl)
    · exact nonLatest_collapsed.mpr ⟨c, hgraduated, hmint.symm, hclass⟩

/-- The selection is as it is meant to be, for every digest, exactly where the order
of the candidates does not tell and no market is shared by two mints that may be
selected together. -/
theorem selectsWell_iff (batchSeq : ℤ) (eligible : List Merged) (cycleSeed : String)
    {vacancyCount : ℕ} (hv : vacancyCount = 1 ∨ vacancyCount = 2) :
    (∀ D, SelectsWell D batchSeq eligible cycleSeed vacancyCount) ↔
      ToldApart eligible vacancyCount :=
  ⟨toldApart_of_selectsWell hv, fun h D => selectsWell_of_toldApart hv h D batchSeq cycleSeed⟩

/-- A candidate whose mint was confirmed in a pool, and whose market is that pool. -/
def confirmedIn (key mint pool : String) : Merged where
  key := key
  mint := mint
  marketIdentity := marketIdentity pumpswapVenue pool
  lifecycle := graduatedLifecycle
  channels := {"ACTIVE_PUMPFUN"}
  observationIds := [key]
  conflicts := []
  gaps := []
  originState := .confirmed
  pumpswapState := .confirmed

theorem selectsWell_two_pools : SelectsWell firstChoices 1
    [confirmedIn "first" "A" "P", confirmedIn "second" "B" "Q"] "seed" 2 := by
  refine (selectsWell_iff 1 _ "seed" (.inr rfl)).mpr ⟨?_, ?_⟩ firstChoices
  · intro c c' hc hc' hmint
    have hmem := (mem_graduatedOf.mp hc.mem).1
    have hmem' := (mem_graduatedOf.mp hc'.mem).1
    rcases List.mem_pair.mp hmem with rfl | rfl <;> rcases List.mem_pair.mp hmem' with rfl | rfl
    · rfl
    · exact absurd hmint (by decide)
    · exact absurd hmint (by decide)
    · rfl
  · intro _ c d hc hd hmint _
    have hmem := (mem_graduatedOf.mp hc.mem).1
    have hmem' := (mem_graduatedOf.mp hd.mem).1
    rcases List.mem_pair.mp hmem with rfl | rfl <;> rcases List.mem_pair.mp hmem' with rfl | rfl
    · exact absurd rfl hmint
    · decide
    · decide
    · exact absurd rfl hmint

/-- Two markets of one mint were bound to its pool, and the first in order is selected;
one pool was confirmed for two mints, and both are selected. -/
theorem not_selectsWell_bound_markets :
    ¬SelectsWell firstChoices 1
        [confirmedIn "first" "A" "P", confirmedIn "second" "A" "P"] "seed" 1 ∧
      ¬SelectsWell firstChoices 1
        [confirmedIn "first" "A" "P", confirmedIn "second" "B" "P"] "seed" 2 := by
  constructor
  · intro h
    have horder := h.orderFree [confirmedIn "second" "A" "P", confirmedIn "first" "A" "P"]
      (List.Perm.swap _ _ _)
    revert horder
    decide
  · intro h
    have hpools := h.pools
    revert hpools
    decide

end PrinterV1.Discovery.Combined
