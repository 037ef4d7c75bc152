import Mathlib.Data.Finset.Insert
import PrinterV1.Discovery.Persistence
import PrinterV1.Discovery.SeededOrder

/-!
# Merged candidates

The observations of a cycle are merged into candidates, one for each mint, market
and lifecycle, in the order in which these are first observed. A candidate knows
its channels, and whether the origin of its mint was observed directly, on
whichever market.
-/

namespace PrinterV1.Discovery.Combined

open Python Persistence

def graduatedLifecycle : String := "PUMPSWAP_GRADUATED_CONFIRMED"
def pumpswapProgramId : String := "pAMMBay6oceH9fJKBRHGP5D4bD4sWpmSwMn52FMfXEA"
def pumpswapVenue : String := "pumpswap"

inductive OriginRoute
  | pumpCreate | graduationNative
  deriving DecidableEq, Repr

inductive OriginStatus
  | providerLabelUnverified | pumpfunOriginConfirmed
  deriving DecidableEq, Repr

inductive OriginState
  | pending | confirmed | failed | notAdmittedCeiling
  deriving DecidableEq, Repr

inductive PumpswapState
  | notRequired | confirmed | failed | ambiguous | notAdmittedCeiling
  deriving DecidableEq, Repr

inductive Gap
  | originUnverified | originVerificationFailed | originNotAdmittedCeiling
  deriving DecidableEq, Repr

/-- What `_merge` reads of an observation. It was stored, so its mint is filled. -/
structure Observation where
  observationId : String
  channel : String
  mint : String
  pool : String
  venue : String
  pumpfunOriginStatus : OriginStatus := .providerLabelUnverified
  lifecycle : String := "PUMP_LIFECYCLE_UNKNOWN"
  originRoute : OriginRoute := .pumpCreate
  filled : strip mint ≠ ""
  deriving DecidableEq

/-- A merged candidate. Its id is a digest of its key, which is taken to tell keys
apart. -/
structure Merged where
  key : String
  mint : String
  marketIdentity : String
  lifecycle : String
  channels : Finset String
  observationIds : List String
  conflicts : List String
  gaps : List Gap
  originState : OriginState := .pending
  pumpswapState : PumpswapState := .notRequired
  originRoute : OriginRoute := .pumpCreate
  deriving DecidableEq

/-- `candidate_identity_key` of an observation. -/
def Observation.key (obs : Observation) : String :=
  candidateIdentityKey (strip obs.mint) (marketIdentity obs.venue obs.pool) obs.lifecycle

/-- The candidate a first observation opens. -/
def Observation.opened (obs : Observation) : Merged where
  key := obs.key
  mint := obs.mint
  marketIdentity := marketIdentity obs.venue obs.pool
  lifecycle := obs.lifecycle
  channels := ∅
  observationIds := []
  conflicts := []
  gaps := []

/-- The mints an observation confirms the origin of. -/
def confirmedMints (observations : List Observation) : List String :=
  (observations.filter fun obs => obs.pumpfunOriginStatus = .pumpfunOriginConfirmed).map
    Observation.mint

/-- The origin of the mint was observed directly, by this observation or another. -/
def Observation.direct (confirmed : List String) (obs : Observation) : Bool :=
  obs.pumpfunOriginStatus = .pumpfunOriginConfirmed ∨ obs.mint ∈ confirmed

/-- What a further observation adds to its candidate. -/
def Merged.absorb (confirmed : List String) (c : Merged) (obs : Observation) : Merged :=
  { c with
    observationIds :=
      if obs.observationId ∈ c.observationIds then c.observationIds
      else c.observationIds ++ [obs.observationId]
    channels := insert obs.channel c.channels
    originRoute :=
      if obs.originRoute = .graduationNative then .graduationNative else c.originRoute
    originState := if obs.direct confirmed then .confirmed else c.originState
    gaps :=
      if obs.direct confirmed ∨ c.originState = .confirmed then c.gaps
      else c.gaps ++ [.originUnverified] }

/-- The observation in its candidate, a new one where there is none. -/
def mergeStep (confirmed : List String) (merged : List Merged) (obs : Observation) : List Merged :=
  let merged := if merged.any fun c => c.key = obs.key then merged else merged ++ [obs.opened]
  merged.map fun c => if c.key = obs.key then c.absorb confirmed obs else c

/-- `_merge` -/
def merge (observations : List Observation) : List Merged :=
  observations.foldl (mergeStep (confirmedMints observations)) []

variable {confirmed : List String} {c : Merged} {obs : Observation}

@[simp] theorem key_absorb : (c.absorb confirmed obs).key = c.key := rfl

@[simp] theorem mint_absorb : (c.absorb confirmed obs).mint = c.mint := rfl

@[simp] theorem pumpswapState_absorb :
    (c.absorb confirmed obs).pumpswapState = c.pumpswapState := rfl

theorem originState_absorb : (c.absorb confirmed obs).originState =
    if obs.direct confirmed then .confirmed else c.originState := rfl

/-- The keys of the candidates are those observed. -/
theorem mem_keys_mergeStep {merged : List Merged} {k : String} :
    k ∈ (mergeStep confirmed merged obs).map Merged.key ↔
      k ∈ merged.map Merged.key ∨ k = obs.key := by
  have hkeys : ∀ cs : List Merged, (cs.map fun c =>
      if c.key = obs.key then c.absorb confirmed obs else c).map Merged.key =
        cs.map Merged.key := by
    intro cs
    rw [List.map_map]
    apply List.map_congr_left
    intro c _
    by_cases h : c.key = obs.key <;> simp [h]
  rw [mergeStep, hkeys]
  by_cases h : merged.any fun c => c.key = obs.key
  · rw [if_pos h]
    obtain ⟨old, hold, hkey⟩ := List.any_eq_true.mp h
    have hmem : obs.key ∈ merged.map Merged.key :=
      List.mem_map.mpr ⟨old, hold, of_decide_eq_true hkey⟩
    exact ⟨.inl, fun hk => hk.elim id fun heq => heq ▸ hmem⟩
  · rw [if_neg h, List.map_append, List.mem_append]
    simp [Observation.opened]

/-- The list `seen` of observations is merged into these candidates. -/
structure Merges (confirmed : List String) (seen : List Observation) (merged : List Merged) :
    Prop where
  nodup : (merged.map Merged.key).Nodup
  keys : ∀ k, k ∈ merged.map Merged.key ↔ k ∈ seen.map Observation.key
  observed : ∀ c ∈ merged, ∃ obs ∈ seen, obs.key = c.key ∧ obs.mint = c.mint
  origin : ∀ c ∈ merged, c.originState =
    if ∃ obs ∈ seen, obs.key = c.key ∧ obs.direct confirmed = true then .confirmed else .pending
  unasked : ∀ c ∈ merged, c.pumpswapState = .notRequired

theorem Merges.nil : Merges confirmed [] [] := by
  constructor <;> simp

/-- The candidates before the observation is added to its own. -/
theorem merges_opened {seen : List Observation} {merged : List Merged}
    (h : Merges confirmed seen merged) (obs : Observation) :
    let merged' := if merged.any fun c => c.key = obs.key then merged else merged ++ [obs.opened]
    (merged'.map Merged.key).Nodup ∧ ∀ c ∈ merged', c ∈ merged ∨
      ((∀ old ∈ merged, old.key ≠ obs.key) ∧ c = obs.opened) := by
  intro merged'
  by_cases hany : merged.any fun c => c.key = obs.key
  · have hmerged' : merged' = merged := if_pos hany
    rw [hmerged']
    exact ⟨h.nodup, fun c hc => .inl hc⟩
  · have hmerged' : merged' = merged ++ [obs.opened] := if_neg hany
    have hnew : ∀ old ∈ merged, old.key ≠ obs.key := by simpa using hany
    rw [hmerged', List.map_append]
    constructor
    · refine List.nodup_append.mpr ⟨h.nodup, by simp, ?_⟩
      intro k hk k' hk' heq
      obtain ⟨old, hold, rfl⟩ := List.mem_map.mp hk
      have hk'' : k' = obs.key := by simpa [Observation.opened] using hk'
      exact hnew old hold (heq.trans hk'')
    · intro c hc
      rcases List.mem_append.mp hc with hc | hc
      · exact .inl hc
      · exact .inr ⟨hnew, List.mem_singleton.mp hc⟩

/-- What one observation adds. -/
theorem Merges.step {seen : List Observation} {merged : List Merged}
    (h : Merges confirmed seen merged) (obs : Observation) :
    Merges confirmed (seen ++ [obs]) (mergeStep confirmed merged obs) := by
  obtain ⟨hnodup, hopened⟩ := merges_opened h obs
  have hmem : ∀ c ∈ mergeStep confirmed merged obs, ∃ old, (old ∈ merged ∨
      ((∀ other ∈ merged, other.key ≠ obs.key) ∧ old = obs.opened)) ∧
        c = if old.key = obs.key then old.absorb confirmed obs else old := by
    intro c hc
    obtain ⟨old, hold, rfl⟩ := List.mem_map.mp hc
    exact ⟨old, hopened old hold, rfl⟩
  constructor
  · have hkeys : (mergeStep confirmed merged obs).map Merged.key =
        (if merged.any fun c => c.key = obs.key then merged
          else merged ++ [obs.opened]).map Merged.key := by
      rw [mergeStep, List.map_map]
      apply List.map_congr_left
      intro c _
      by_cases hkey : c.key = obs.key <;> simp [hkey]
    rw [hkeys]
    exact hnodup
  · intro k
    rw [mem_keys_mergeStep, h.keys k, List.map_append, List.mem_append, List.map_singleton,
      List.mem_singleton]
  · intro c hc
    obtain ⟨old, hold | ⟨_, rfl⟩, rfl⟩ := hmem c hc
    · obtain ⟨first, hfirst, hkey, hmint⟩ := h.observed old hold
      refine ⟨first, List.mem_append_left _ hfirst, ?_⟩
      split_ifs <;> exact ⟨hkey, hmint⟩
    · refine ⟨obs, by simp, ?_⟩
      split_ifs <;> exact ⟨rfl, rfl⟩
  · intro c hc
    obtain ⟨old, hold, rfl⟩ := hmem c hc
    have hstate : old.originState =
        if ∃ o ∈ seen, o.key = old.key ∧ o.direct confirmed = true then .confirmed
        else .pending := by
      rcases hold with hold | ⟨hnew, rfl⟩
      · exact h.origin old hold
      · rw [if_neg]
        · rfl
        · rintro ⟨o, ho, hkey, _⟩
          obtain ⟨other, hother, hotherKey⟩ :=
            List.mem_map.mp ((h.keys o.key).mpr (List.mem_map_of_mem ho))
          exact hnew other hother (hotherKey.trans hkey)
    by_cases hkey : old.key = obs.key
    · rw [if_pos hkey, originState_absorb, hstate, key_absorb]
      by_cases hdirect : obs.direct confirmed = true
      · rw [if_pos hdirect, if_pos ⟨obs, by simp, hkey.symm, hdirect⟩]
      · rw [if_neg hdirect]
        simp [hdirect]
    · rw [if_neg hkey, hstate]
      simp [Ne.symm hkey]
  · intro c hc
    obtain ⟨old, hold | ⟨_, rfl⟩, rfl⟩ := hmem c hc
    · split_ifs <;> exact h.unasked old hold
    · split_ifs <;> rfl

theorem Merges.run {seen : List Observation} {merged : List Merged}
    (h : Merges confirmed seen merged) (observations : List Observation) :
    Merges confirmed (seen ++ observations) (observations.foldl (mergeStep confirmed) merged) := by
  induction observations generalizing seen merged with
  | nil => simpa using h
  | cons obs rest ih =>
    have hrest := ih (h.step obs)
    rwa [List.append_assoc] at hrest

theorem merges_merge (observations : List Observation) :
    Merges (confirmedMints observations) observations (merge observations) :=
  Merges.nil.run observations

/-- Observations with one key are of one mint, as they are where the mints are plain
(`keysTellMints_of_plain`). -/
def KeysTellMints (observations : List Observation) : Prop :=
  ∀ o ∈ observations, ∀ o' ∈ observations, o.key = o'.key → o.mint = o'.mint

/-- A mint as addresses are written: without blanks around it and without a bar. -/
def PlainMint (mint : String) : Prop := strip mint = mint ∧ '|' ∉ mint.toList

theorem eq_of_append_bar {a b x y : List Char} (ha : '|' ∉ a) (hb : '|' ∉ b)
    (h : a ++ '|' :: x = b ++ '|' :: y) : a = b := by
  have htake : ∀ {text rest : List Char}, '|' ∉ text →
      (text ++ '|' :: rest).takeWhile (fun c => c ≠ '|') = text := by
    intro text rest hbar
    rw [List.takeWhile_append_of_pos fun c hc => decide_eq_true (ne_of_mem_of_not_mem hc hbar)]
    simp
  rw [← htake ha, h, htake hb]

theorem key_of_plain {obs : Observation} (h : PlainMint obs.mint) :
    ∃ rest, obs.key = "solana-mainnet:" ++ (obs.mint ++ ("|" ++ rest)) := by
  unfold Observation.key candidateIdentityKey
  rw [h.1]
  exact ⟨_, by simp only [String.append_assoc]; rfl⟩

theorem keysTellMints_of_plain {observations : List Observation}
    (h : ∀ o ∈ observations, PlainMint o.mint) : KeysTellMints observations := by
  intro o ho o' ho' hkey
  obtain ⟨rest, hrest⟩ := key_of_plain (h o ho)
  obtain ⟨rest', hrest'⟩ := key_of_plain (h o' ho')
  have hlist : o.mint.toList ++ '|' :: rest.toList = o'.mint.toList ++ '|' :: rest'.toList := by
    have hbehind := (String.append_right_inj _).mp (hrest.symm.trans (hkey.trans hrest'))
    have hlist := congrArg String.toList hbehind
    simp only [String.toList_append] at hlist
    exact hlist
  exact String.toList_injective (eq_of_append_bar (h o ho).2 (h o' ho').2 hlist)

variable {observations : List Observation}

theorem nodup_keys_merge : ((merge observations).map Merged.key).Nodup :=
  (merges_merge observations).nodup

theorem KeysTellMints.of_perm {observations' : List Observation} (h : KeysTellMints observations)
    (hperm : observations'.Perm observations) : KeysTellMints observations' :=
  fun o ho o' ho' => h o (hperm.mem_iff.mp ho) o' (hperm.mem_iff.mp ho')

theorem mint_eq_of_key (h : KeysTellMints observations) (hc : c ∈ merge observations)
    (hobs : obs ∈ observations) (hkey : obs.key = c.key) : obs.mint = c.mint := by
  obtain ⟨first, hfirst, hfirstKey, hmint⟩ := (merges_merge observations).observed c hc
  exact (h obs hobs first hfirst (hkey.trans hfirstKey.symm)).trans hmint

theorem direct_iff (hobs : obs ∈ observations) :
    obs.direct (confirmedMints observations) = true ↔ obs.mint ∈ confirmedMints observations := by
  rw [Observation.direct, decide_eq_true_eq]
  refine ⟨fun h => h.elim (fun hstatus => ?_) id, .inr⟩
  exact List.mem_map_of_mem (List.mem_filter.mpr ⟨hobs, decide_eq_true hstatus⟩)

/-- A candidate starts out confirmed exactly where its mint was observed directly. -/
theorem originState_merge (h : KeysTellMints observations) (hc : c ∈ merge observations) :
    c.originState = if c.mint ∈ confirmedMints observations then .confirmed else .pending := by
  rw [(merges_merge observations).origin c hc]
  congr 1
  apply propext
  constructor
  · rintro ⟨obs, hobs, hkey, hdirect⟩
    rw [← mint_eq_of_key h hc hobs hkey]
    exact (direct_iff hobs).mp hdirect
  · intro hmint
    obtain ⟨first, hfirst, hkey, hfirstMint⟩ := (merges_merge observations).observed c hc
    exact ⟨first, hfirst, hkey, (direct_iff hfirst).mpr (hfirstMint ▸ hmint)⟩

theorem confirmedMints_of_perm {observations' : List Observation}
    (hperm : observations'.Perm observations) {mint : String} :
    mint ∈ confirmedMints observations' ↔ mint ∈ confirmedMints observations :=
  ((hperm.filter _).map _).mem_iff

/-- Every candidate has its counterpart in the merge of the observations in another
order. -/
theorem exists_counterpart {observations' : List Observation} (h : KeysTellMints observations)
    (hperm : observations'.Perm observations) (hc : c ∈ merge observations) :
    ∃ c' ∈ merge observations', c'.key = c.key ∧ c'.mint = c.mint := by
  have hkey : c.key ∈ observations'.map Observation.key :=
    ((hperm.map _).mem_iff).mpr (((merges_merge observations).keys c.key).mp
      (List.mem_map_of_mem hc))
  obtain ⟨c', hc', hkey'⟩ := List.mem_map.mp (((merges_merge observations').keys c.key).mpr hkey)
  obtain ⟨first, hfirst, hfirstKey, hmint⟩ := (merges_merge observations').observed c' hc'
  refine ⟨c', hc', hkey', ?_⟩
  rw [← hmint]
  exact mint_eq_of_key h hc (hperm.mem_iff.mp hfirst) (hfirstKey.trans hkey')

/-- How many markets are observed of the mints that `p` holds of. -/
def marketCount (observations : List Observation) (p : String → Bool) : ℕ :=
  ((observations.filter fun obs => p obs.mint).map Observation.key).dedup.length

/-- The candidates of these mints are as many. -/
theorem countP_merge (h : KeysTellMints observations) (p : String → Bool) :
    ((merge observations).countP fun c => p c.mint) = marketCount observations p := by
  have hnodup : (((merge observations).filter fun c => p c.mint).map Merged.key).Nodup :=
    nodup_keys_merge.sublist (List.filter_sublist.map _)
  have hperm : (((merge observations).filter fun c => p c.mint).map Merged.key).Perm
      ((observations.filter fun obs => p obs.mint).map Observation.key).dedup := by
    rw [List.perm_ext_iff_of_nodup hnodup (List.nodup_dedup _)]
    intro k
    rw [List.mem_dedup]
    constructor
    · intro hk
      obtain ⟨c, hc, rfl⟩ := List.mem_map.mp hk
      obtain ⟨hmem, hp⟩ := List.mem_filter.mp hc
      obtain ⟨first, hfirst, hkey, hmint⟩ := (merges_merge observations).observed c hmem
      rw [← hkey]
      exact List.mem_map_of_mem (List.mem_filter.mpr ⟨hfirst, hmint ▸ hp⟩)
    · intro hk
      obtain ⟨obs, hobs, rfl⟩ := List.mem_map.mp hk
      obtain ⟨hmem, hp⟩ := List.mem_filter.mp hobs
      obtain ⟨c, hc, hkey⟩ := List.mem_map.mp
        (((merges_merge observations).keys obs.key).mpr (List.mem_map_of_mem hmem))
      rw [← hkey]
      refine List.mem_map_of_mem (List.mem_filter.mpr ⟨hc, ?_⟩)
      rw [← mint_eq_of_key h hc hmem hkey.symm]
      exact hp
  rw [List.countP_eq_length_filter, marketCount, ← hperm.length_eq, List.length_map]

theorem marketCount_of_perm {observations' : List Observation}
    (hperm : observations'.Perm observations) (p : String → Bool) :
    marketCount observations' p = marketCount observations p :=
  (((hperm.filter _).map _).dedup).length_eq

end PrinterV1.Discovery.Combined
