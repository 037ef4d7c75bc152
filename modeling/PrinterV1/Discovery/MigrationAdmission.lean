import PrinterV1.Discovery.MigrationDiscovery

/-!
# What a migration discovery run admits

The run reconciles its ledger and totals before it records anything, and of a
payload it checks the mint of the token alone. The confirmation, the resolution
and the proof beside it may name another mint, and a block time or a slot that
the token lacks is taken from a block that may name another pool. `Unmixed` is
the condition on one payload, and it is exact.
-/

namespace PrinterV1.Discovery.DirectMigration

open Python Sources Graduated

inductive Block
  | token | confirmation | resolution | proof
  deriving DecidableEq, Repr

def Block.all : List Block := [.token, .confirmation, .resolution, .proof]

/-- A value's entries; one that is no mapping has none. -/
def entriesOf : Value → Dict
  | .dict entries => entries
  | _ => []

namespace Block

def entries (payload : Dict) : Block → Dict
  | .token =>
    match payload.get "tokens" with
    | .list (entry :: _) => entriesOf entry
    | _ => []
  | .confirmation => entriesOf (payload.get "pumpswap_confirmation")
  | .resolution => entriesOf (payload.get "pumpswap_resolution")
  | .proof => entriesOf (payload.get "pump_migration_proof")

/-- The keys under which the verifiers write the mint that the block is about. -/
def mintKeys : Block → List String
  | .token => ["mint"]
  | .confirmation => ["expected_mint", "base_mint"]
  | .resolution => ["expected_mint"]
  | .proof => ["mint", "expected_mint"]

def pool (payload : Dict) : Block → Value
  | .token => (token.entries payload).get "pairAddress"
  | b => (b.entries payload).get "pool_address"

def blockTime (payload : Dict) : Block → Value
  | .token => (token.entries payload).get "pumpswap_migration_block_time"
  | b => (b.entries payload).get "migration_block_time"

def slot (payload : Dict) : Block → Value
  | .token => (token.entries payload).get "pumpswap_migration_slot"
  | b => (b.entries payload).get "migration_slot"

/-- The block names a mint that is not the one given. -/
def NamesOtherMint (payload : Dict) (b : Block) (mint : String) : Prop :=
  ∃ key ∈ b.mintKeys, (b.entries payload).get key ≠ .none ∧ (b.entries payload).get key ≠ .str mint

instance (payload : Dict) (b : Block) (mint : String) : Decidable (b.NamesOtherMint payload mint) :=
  inferInstanceAs (Decidable (∃ key ∈ b.mintKeys, _ ∧ _))

variable (R : Value.Rendering)

/-- The block names a pool that is not the one given. -/
def NamesOtherPool (payload : Dict) (b : Block) (pool : String) : Prop :=
  (b.pool payload).truthy = true ∧ (b.pool payload).text R ≠ pool

instance (payload : Dict) (b : Block) (pool : String) :
    Decidable (b.NamesOtherPool R payload pool) := inferInstanceAs (Decidable (_ ∧ _))

end Block

/-- The token holds the graduation of the mint, and the confirmation is given. -/
def TokenHolds (payload : Dict) (mint : String) : Prop :=
  (Block.token.pool payload).truthy = true ∧ Block.token.blockTime payload ≠ .none ∧
    (Block.token.entries payload).get "mint" = .str mint ∧
    ((Block.confirmation.entries payload).get "confirmed").truthy = true

instance (payload : Dict) (mint : String) : Decidable (TokenHolds payload mint) :=
  inferInstanceAs (Decidable (_ ∧ _ ∧ _ ∧ _))

/-- The block that the pool is taken from. -/
def poolBlock (payload : Dict) : Block :=
  if (Block.token.pool payload).truthy then .token
  else if (Block.resolution.pool payload).truthy then .resolution
  else .proof

/-- The block that the block time is taken from. -/
def timeBlock (payload : Dict) : Block :=
  if Block.token.blockTime payload ≠ .none then .token
  else if (Block.proof.blockTime payload).truthy then .proof
  else .resolution

/-- The block that the slot is taken from. -/
def slotBlock (payload : Dict) (mint : String) : Block :=
  if TokenHolds payload mint ∨ Block.token.slot payload ≠ .none then .token
  else if (Block.proof.slot payload).truthy then .proof
  else .resolution

section Reading

variable {R : Value.Rendering} {payload : Dict} {mint : String}

theorem block_ok {key : String} {d : Dict} (h : block payload key = .ok d) :
    d = entriesOf (payload.get key) := by
  unfold block at h
  cases hv : payload.get key with
  | dict entries =>
    rw [hv] at h
    exact (Except.ok.inj h).symm
  | _ =>
    rw [hv] at h
    dsimp only at h
    split_ifs at h
    exact (Except.ok.inj h).symm

theorem tokenEntry_ok {token : Dict} (h : tokenEntry payload = .ok token) :
    token = Block.token.entries payload := by
  unfold tokenEntry at h
  unfold Block.entries
  split at h
  · rename_i token' rest hv
    rw [hv]
    exact (Except.ok.inj h).symm
  · cases h
  · rename_i s hv
    split_ifs at h
    rw [hv]
    exact (Except.ok.inj h).symm
  · rename_i entries hv
    split_ifs at h
    rw [hv]
    exact (Except.ok.inj h).symm
  · rename_i v hdict hlist hstr hmap
    split_ifs at h
    obtain rfl := Except.ok.inj h
    cases hv : payload.get "tokens" with
    | list vs =>
      cases vs with
      | nil => rfl
      | cons v vs => exact absurd hv (hlist v vs)
    | _ => rfl

/-- What comes out of two blocks in turn. -/
theorem orBlocks_ok {value found : Value} {first second : Except RunFault Dict} {key : String}
    (h : orBlocks value first second key = .ok found) :
    (value.truthy = true ∧ found = value) ∨
      value.truthy = false ∧ ∃ d, first = .ok d ∧ ((d.get key).truthy = true ∧ found = d.get key ∨
        (d.get key).truthy = false ∧ ∃ d', second = .ok d' ∧ found = d'.get key) := by
  unfold orBlocks at h
  by_cases hvalue : value.truthy = true
  · rw [if_pos hvalue] at h
    exact .inl ⟨hvalue, (Except.ok.inj h).symm⟩
  · rw [if_neg hvalue] at h
    obtain ⟨d, hd, h⟩ := Faults.bind_ok h
    refine .inr ⟨by simpa using hvalue, d, hd, ?_⟩
    dsimp only at h
    by_cases hfound : (d.get key).truthy = true
    · rw [if_pos hfound] at h
      exact .inl ⟨hfound, (Except.ok.inj h).symm⟩
    · rw [if_neg hfound] at h
      obtain ⟨d', hd', h⟩ := Faults.bind_ok h
      exact .inr ⟨by simpa using hfound, d', hd', (Except.ok.inj h).symm⟩

theorem tokenSuffices_ok {b : Bool}
    (h : tokenSuffices payload (Block.token.entries payload) mint = .ok b) :
    b = true ↔ TokenHolds payload mint := by
  unfold tokenSuffices at h
  dsimp only [tokenEvidence] at h
  unfold TokenHolds Block.pool Block.blockTime
  split_ifs at h with hlacks
  · obtain rfl := Except.ok.inj h
    simp only [Bool.or_eq_true, Bool.not_eq_true', decide_eq_true_eq] at hlacks
    refine iff_of_false (by simp) ?_
    rintro ⟨hpool, htime, hmint, -⟩
    rcases hlacks with (hlack | hlack) | hlack
    · rw [hlack] at hpool
      cases hpool
    · exact htime hlack
    · exact hlack hmint
  · obtain ⟨confirmation, hconfirmation, h⟩ := Faults.bind_ok h
    obtain rfl := Except.ok.inj h
    have hentries : confirmation = Block.confirmation.entries payload := block_ok hconfirmation
    simp only [Bool.or_eq_true, Bool.not_eq_true', decide_eq_true_eq, not_or] at hlacks
    obtain ⟨⟨hpool, htime⟩, hmint⟩ := hlacks
    rw [hentries]
    exact ⟨fun hconfirmed => ⟨by simpa using hpool, htime, not_not.mp hmint, hconfirmed⟩,
      fun hholds => hholds.2.2.2⟩

/-- The evidence of the blocks that each part of it is taken from. -/
def suppliedEvidence (payload : Dict) (mint : String) : Evidence where
  pool := (poolBlock payload).pool payload
  blockTime := (timeBlock payload).blockTime payload
  slot := (slotBlock payload mint).slot payload

/-- A part that the token lacks is the proof's, or else the resolution's. -/
theorem ifNone_ok {value found : Value} {key : String}
    (h : ifNone value (orBlocks .none (block payload "pump_migration_proof")
      (block payload "pumpswap_resolution") key) = .ok found) :
    found = if value ≠ .none then value
      else if ((Block.proof.entries payload).get key).truthy then (Block.proof.entries payload).get key
      else (Block.resolution.entries payload).get key := by
  unfold ifNone at h
  by_cases hvalue : value = .none
  · rw [if_pos hvalue] at h
    rw [if_neg (not_not.mpr hvalue)]
    rcases orBlocks_ok h with ⟨htruthy, -⟩ | ⟨-, d, hd, hrest⟩
    · cases htruthy
    · have hproof : d = Block.proof.entries payload := block_ok hd
      subst hproof
      rcases hrest with ⟨htruthy, rfl⟩ | ⟨htruthy, d', hd', rfl⟩
      · rw [if_pos htruthy]
      · have hresolution : d' = Block.resolution.entries payload := block_ok hd'
        rw [if_neg (by simp [htruthy]), hresolution]
  · rw [if_neg hvalue] at h
    rw [if_pos hvalue]
    exact (Except.ok.inj h).symm

theorem fallBack_ok {e : Evidence} (hlacks : ¬TokenHolds payload mint)
    (h : fallBack payload (tokenEvidence (Block.token.entries payload)) = .ok e) :
    e = suppliedEvidence payload mint := by
  unfold fallBack at h
  obtain ⟨pool, hpool, h⟩ := Faults.bind_ok h
  obtain ⟨blockTime, htime, h⟩ := Faults.bind_ok h
  obtain ⟨slot, hslot, h⟩ := Faults.bind_ok h
  obtain rfl := Except.ok.inj h
  have hsupplied : pool = (poolBlock payload).pool payload := by
    unfold poolBlock
    rcases orBlocks_ok hpool with ⟨htruthy, rfl⟩ | ⟨htruthy, d, hd, hrest⟩
    · rw [if_pos (show (Block.token.pool payload).truthy = true from htruthy)]
      rfl
    · have hresolution : d = Block.resolution.entries payload := block_ok hd
      subst hresolution
      rw [if_neg (by simp [show (Block.token.pool payload).truthy = false from htruthy])]
      rcases hrest with ⟨hfound, rfl⟩ | ⟨hfound, d', hd', rfl⟩
      · rw [if_pos (show (Block.resolution.pool payload).truthy = true from hfound)]
        rfl
      · have hproof : d' = Block.proof.entries payload := block_ok hd'
        rw [if_neg (by simp [show (Block.resolution.pool payload).truthy = false from hfound]),
          hproof]
        rfl
  have hsuppliedTime : blockTime = (timeBlock payload).blockTime payload := by
    rw [ifNone_ok htime, timeBlock, apply_ite (Block.blockTime payload),
      apply_ite (Block.blockTime payload)]
    rfl
  have hsuppliedSlot : slot = (slotBlock payload mint).slot payload := by
    have hgiven : (TokenHolds payload mint ∨ Block.token.slot payload ≠ .none) ↔
        Block.token.slot payload ≠ .none := or_iff_right hlacks
    rw [ifNone_ok hslot, slotBlock, apply_ite (Block.slot payload), apply_ite (Block.slot payload)]
    simp only [hgiven]
    rfl
  rw [hsupplied, hsuppliedTime, hsuppliedSlot]
  rfl

/-- The evidence of the token alone is that of its blocks, where the token holds it. -/
theorem tokenEvidence_of_holds (h : TokenHolds payload mint) :
    tokenEvidence (Block.token.entries payload) = suppliedEvidence payload mint := by
  unfold suppliedEvidence poolBlock timeBlock slotBlock
  rw [if_pos h.1, if_pos h.2.1, if_pos (Or.inl h)]
  rfl

/-- The graduation is that of the blocks it is taken from. -/
structure Supplied (R : Value.Rendering) (payload : Dict) (mint : String) (g : ReadGraduation) :
    Prop where
  pool : g.pool = ((poolBlock payload).pool payload).text R
  blockTime : ((timeBlock payload).blockTime payload).toInt R = .ok g.graduationBlockTime
  slot : g.graduationSlot = none ∧ (slotBlock payload mint).slot payload = .none ∨
    ∃ n, g.graduationSlot = some n ∧ (slotBlock payload mint).slot payload ≠ .none ∧
      ((slotBlock payload mint).slot payload).toInt R = .ok n

theorem raised_ok {α : Type} {x : Except PyError α} {a : α} (h : raised x = .ok a) : x = .ok a :=
  Faults.mapError_ok h

theorem typedGraduation_ok {g : ReadGraduation}
    (h : typedGraduation R (suppliedEvidence payload mint) = .ok g) : Supplied R payload mint g := by
  unfold typedGraduation at h
  obtain ⟨time, htime, h⟩ := Faults.bind_ok h
  obtain ⟨slot, hslot, h⟩ := Faults.bind_ok h
  obtain rfl := Except.ok.inj h
  refine ⟨rfl, raised_ok htime, ?_⟩
  by_cases hnone : (slotBlock payload mint).slot payload = .none
  · rw [if_pos (show (suppliedEvidence payload mint).slot = .none from hnone)] at hslot
    exact .inl ⟨(Except.ok.inj hslot).symm, hnone⟩
  · rw [if_neg (show (suppliedEvidence payload mint).slot ≠ .none from hnone)] at hslot
    have hsome := raised_ok hslot
    cases hint : (suppliedEvidence payload mint).slot.toInt R with
    | error e =>
      rw [hint] at hsome
      cases hsome
    | ok n =>
      rw [hint] at hsome
      exact .inr ⟨n, (Except.ok.inj hsome).symm, hnone, hint⟩

/-- A graduation that was read is supplied by the blocks, of a token that names no other mint. -/
theorem readGraduation_ok {g : ReadGraduation} (h : readGraduation R payload mint = .ok (some g)) :
    Supplied R payload mint g ∧ ¬Block.token.NamesOtherMint payload mint := by
  unfold readGraduation at h
  obtain ⟨token, htoken, h⟩ := Faults.bind_ok h
  obtain rfl := tokenEntry_ok htoken
  obtain ⟨enough, henough, h⟩ := Faults.bind_ok h
  obtain ⟨e, he, h⟩ := Faults.bind_ok h
  have hsupplied : e = suppliedEvidence payload mint := by
    by_cases hholds : enough = true
    · rw [if_pos hholds] at he
      rw [← Except.ok.inj he]
      exact tokenEvidence_of_holds ((tokenSuffices_ok henough).mp hholds)
    · rw [if_neg hholds] at he
      exact fallBack_ok (fun hlacks => hholds ((tokenSuffices_ok henough).mpr hlacks)) he
  subst hsupplied
  split_ifs at h with hincomplete hmint
  · cases h
  · obtain ⟨confirmed, -, h⟩ := Faults.bind_ok h
    split_ifs at h
    · cases h
    · cases h
  obtain ⟨confirmed, -, h⟩ := Faults.bind_ok h
  split_ifs at h with hunconfirmed
  · cases h
  obtain ⟨g', hg, h⟩ := Faults.bind_ok h
  obtain rfl := Option.some.inj (Except.ok.inj h)
  refine ⟨typedGraduation_ok hg, ?_⟩
  rintro ⟨key, hkey, hnone, hother⟩
  obtain rfl : key = "mint" := by simpa [Block.mintKeys] using hkey
  exact hmint ⟨hnone, hother⟩

end Reading

/-- The mints and the pool of a graduation: every block is about its mint, and the blocks that
its block time and its slot are taken from are about its pool. -/
structure Consistent (R : Value.Rendering) (payload : Dict) (mint : String) (g : ReadGraduation) :
    Prop where
  supplied : Supplied R payload mint g
  oneMint : ∀ b : Block, ¬b.NamesOtherMint payload mint
  timeOfPool : ¬(timeBlock payload).NamesOtherPool R payload g.pool
  slotOfPool : g.graduationSlot ≠ none → ¬(slotBlock payload mint).NamesOtherPool R payload g.pool

/-- The blocks beside the token name no other mint, and where the block time or the slot is not
taken from the block of the pool, its block names no other pool. -/
structure Unmixed (R : Value.Rendering) (payload : Dict) (mint : String) : Prop where
  oneMint : ∀ b ∈ [Block.confirmation, .resolution, .proof], ¬b.NamesOtherMint payload mint
  timeOfPool : timeBlock payload ≠ poolBlock payload →
    ¬(timeBlock payload).NamesOtherPool R payload (((poolBlock payload).pool payload).text R)
  slotOfPool : slotBlock payload mint ≠ poolBlock payload →
    (slotBlock payload mint).slot payload ≠ .none →
      ¬(slotBlock payload mint).NamesOtherPool R payload (((poolBlock payload).pool payload).text R)

theorem consistent_iff {R : Value.Rendering} {payload : Dict} {mint : String} {g : ReadGraduation}
    (h : readGraduation R payload mint = .ok (some g)) :
    Consistent R payload mint g ↔ Unmixed R payload mint := by
  obtain ⟨hsupplied, htoken⟩ := readGraduation_ok h
  have hpool := hsupplied.pool
  constructor
  · intro hg
    refine ⟨fun b _ => hg.oneMint b, fun _ => ?_, fun _ hslot => ?_⟩
    · rw [← hpool]
      exact hg.timeOfPool
    · rw [← hpool]
      refine hg.slotOfPool fun hnone => ?_
      rcases hsupplied.slot with ⟨-, habsent⟩ | ⟨n, hn, -, -⟩
      · exact hslot habsent
      · rw [hn] at hnone
        cases hnone
  · intro hu
    have hself : ¬(poolBlock payload).NamesOtherPool R payload g.pool := fun hother =>
      hother.2 hpool.symm
    refine ⟨hsupplied, fun b => ?_, ?_, fun hgiven => ?_⟩
    · cases b with
      | token => exact htoken
      | confirmation => exact hu.oneMint _ (by simp)
      | resolution => exact hu.oneMint _ (by simp)
      | proof => exact hu.oneMint _ (by simp)
    · by_cases hblock : timeBlock payload = poolBlock payload
      · rw [hblock]
        exact hself
      · rw [hpool]
        exact hu.timeOfPool hblock
    · by_cases hblock : slotBlock payload mint = poolBlock payload
      · rw [hblock]
        exact hself
      · rw [hpool]
        refine hu.slotOfPool hblock ?_
        rcases hsupplied.slot with ⟨hnone, -⟩ | ⟨n, -, hslot, -⟩
        · exact absurd hnone hgiven
        · exact hslot

end PrinterV1.Discovery.DirectMigration
