import PrinterV1.Foundation.FirstWins
import PrinterV1.Python.Value

/-!
# Migration intake

Token events name a mint and the signature of its migration. The intake walks
the events once: a pair whose mint or signature was taken by another pair is
recorded as a conflict and not used, one that was taken itself is a duplicate.
The pair that came first has been used by then, so the intake keeps clear of
every conflict exactly where the events hold none.
-/

namespace PrinterV1.Discovery

open Python FirstWins

/-- A valid pair: a mint and the signature of its migration. -/
structure MigrationPair where
  mint : String
  signature : String
  deriving DecidableEq, Repr

inductive ConflictKind
  | mintToMultipleSignatures | signatureToMultipleMints | crossRoundConflict
  deriving DecidableEq, Repr

structure IntakeConflict where
  kind : ConflictKind
  pair : MigrationPair
  deriving DecidableEq, Repr

/-- An intake. The fields from the operation count on are those the discovery
run adds to the intake of a round. -/
structure Intake where
  eventsReceived : ℕ := 0
  validPairs : List MigrationPair := []
  missingMint : ℕ := 0
  missingSignature : ℕ := 0
  duplicate : ℕ := 0
  conflicting : List IntakeConflict := []
  transportOperationCount : ℕ := 0
  cursorUsed : Bool := false
  transactionRejections : List String := []
  transactionSourceFailures : List String := []
  directPumpLiveTailFailure : Option String := none
  deriving DecidableEq, Repr

/-- `by_mint.get(mint)`, for the pairs used so far. -/
def priorSignature (pairs : List MigrationPair) (mint : String) : Option String :=
  (pairs.find? fun p => p.mint = mint).map MigrationPair.signature

/-- `by_sig.get(sig)` -/
def priorMint (pairs : List MigrationPair) (signature : String) : Option String :=
  (pairs.find? fun p => p.signature = signature).map MigrationPair.mint

/-- `isinstance(value, str) and value.strip()`, with the blanks taken off. -/
def nonBlank? : Value → Option String
  | .str s => if strip s = "" then none else some (strip s)
  | _ => none

/-- The mappings among the payload's `tokens`. -/
def intakeTokens (normalizedPayload : Value) : List Dict :=
  match normalizedPayload with
  | .dict entries =>
    match Dict.get entries "tokens" with
    | .list raw => raw.filterMap fun t => match t with | .dict token => some token | _ => none
    | _ => []
  | _ => []

/-- One pass of the loop of `intake_migration_events`. -/
def intakeToken (i : Intake) (token : Dict) : Intake :=
  match nonBlank? (token.get "mint") with
  | none => { i with missingMint := i.missingMint + 1 }
  | some mint =>
    match nonBlank? (token.get "migration_signature") with
    | none => { i with missingSignature := i.missingSignature + 1 }
    | some signature =>
      let prior := priorSignature i.validPairs mint
      let priorOwner := priorMint i.validPairs signature
      if prior ≠ none ∧ prior ≠ some signature then
        { i with conflicting := i.conflicting ++ [⟨.mintToMultipleSignatures, ⟨mint, signature⟩⟩] }
      else if priorOwner ≠ none ∧ priorOwner ≠ some mint then
        { i with conflicting := i.conflicting ++ [⟨.signatureToMultipleMints, ⟨mint, signature⟩⟩] }
      else if prior = some signature ∨ priorOwner = some mint then
        { i with duplicate := i.duplicate + 1 }
      else { i with validPairs := i.validPairs ++ [⟨mint, signature⟩] }

def intakeMigrationEvents (normalizedPayload : Value) : Intake :=
  (intakeTokens normalizedPayload).foldl intakeToken
    { eventsReceived := (intakeTokens normalizedPayload).length }

/-- The intake of an attempt: the rounds merged. -/
structure MergedIntake where
  eventsReceived : ℕ := 0
  validPairs : List MigrationPair := []
  missingMint : ℕ := 0
  missingSignature : ℕ := 0
  duplicate : ℕ := 0
  conflicting : List IntakeConflict := []
  collectionRounds : ℕ := 0
  transportOperationCount : ℕ := 0
  cursorUsed : Bool := false
  transactionRejections : List String := []
  transactionSourceFailures : List String := []
  directPumpLiveTailFailures : List String := []
  deriving DecidableEq, Repr

/-- A valid pair of a round, against the pairs of the rounds before. -/
def mergePair (m : MergedIntake) (p : MigrationPair) : MergedIntake :=
  let prior := priorSignature m.validPairs p.mint
  let priorOwner := priorMint m.validPairs p.signature
  if (prior ≠ none ∧ prior ≠ some p.signature) ∨
      (priorOwner ≠ none ∧ priorOwner ≠ some p.mint) then
    { m with conflicting := m.conflicting ++ [⟨.crossRoundConflict, p⟩] }
  else if prior = some p.signature ∨ priorOwner = some p.mint then
    { m with duplicate := m.duplicate + 1 }
  else { m with validPairs := m.validPairs ++ [p] }

/-- One pass of the loop of `_merge_intakes`. -/
def mergeIntake (m : MergedIntake) (i : Intake) : MergedIntake :=
  i.validPairs.foldl mergePair
    { m with
      eventsReceived := m.eventsReceived + i.eventsReceived
      missingMint := m.missingMint + i.missingMint
      missingSignature := m.missingSignature + i.missingSignature
      duplicate := m.duplicate + i.duplicate
      transportOperationCount := m.transportOperationCount + i.transportOperationCount
      cursorUsed := m.cursorUsed || i.cursorUsed
      transactionRejections := m.transactionRejections ++ i.transactionRejections
      transactionSourceFailures := m.transactionSourceFailures ++ i.transactionSourceFailures
      directPumpLiveTailFailures := m.directPumpLiveTailFailures ++
        (i.directPumpLiveTailFailure.filter fun failure => failure ≠ "").toList
      conflicting := m.conflicting ++ i.conflicting }

/-- `_merge_intakes` -/
def mergeIntakes (intakes : List Intake) : MergedIntake :=
  intakes.foldl mergeIntake { collectionRounds := intakes.length }

/-- The pairs share their mint or their signature. -/
def Touches (a b : MigrationPair) : Prop := a.mint = b.mint ∨ a.signature = b.signature

instance : DecidableRel Touches := fun a b =>
  inferInstanceAs (Decidable (a.mint = b.mint ∨ a.signature = b.signature))

theorem Touches.refl (p : MigrationPair) : Touches p p := Or.inl rfl

theorem priorSignature_eq_none {pairs : List MigrationPair} {mint : String} :
    priorSignature pairs mint = none ↔ ∀ p ∈ pairs, p.mint ≠ mint := by
  simp [priorSignature]

theorem priorMint_eq_none {pairs : List MigrationPair} {signature : String} :
    priorMint pairs signature = none ↔ ∀ p ∈ pairs, p.signature ≠ signature := by
  simp [priorMint]

/-- A pair is used where neither of its identities was taken, by itself or by
another pair. -/
theorem used_iff (pairs : List MigrationPair) (mint signature : String) :
    (¬(priorSignature pairs mint ≠ none ∧ priorSignature pairs mint ≠ some signature) ∧
        ¬(priorMint pairs signature ≠ none ∧ priorMint pairs signature ≠ some mint) ∧
        ¬(priorSignature pairs mint = some signature ∨ priorMint pairs signature = some mint)) ↔
      ¬∃ k ∈ pairs, Touches k ⟨mint, signature⟩ := by
  have hfree : (priorSignature pairs mint = none ∧ priorMint pairs signature = none) ↔
      ¬∃ k ∈ pairs, Touches k ⟨mint, signature⟩ := by
    rw [priorSignature_eq_none, priorMint_eq_none]
    unfold Touches
    grind
  rw [← hfree]
  cases priorSignature pairs mint <;> cases priorMint pairs signature <;> grind

/-- The well-formed pair of an event. -/
def eventPair (token : Dict) : Option MigrationPair := do
  let mint ← nonBlank? (token.get "mint")
  let signature ← nonBlank? (token.get "migration_signature")
  return ⟨mint, signature⟩

/-- What the counts of an intake add up to. -/
def Intake.accounted (i : Intake) : ℕ :=
  i.validPairs.length + i.duplicate + i.conflicting.length + i.missingMint + i.missingSignature

theorem intakeToken_accounted (i : Intake) (token : Dict) :
    (intakeToken i token).accounted = i.accounted + 1 ∧
      (intakeToken i token).eventsReceived = i.eventsReceived := by
  unfold intakeToken
  cases nonBlank? (token.get "mint") with
  | none => constructor <;> simp only [Intake.accounted]; omega
  | some mint =>
    cases nonBlank? (token.get "migration_signature") with
    | none => constructor <;> simp only [Intake.accounted]; omega
    | some signature =>
      dsimp only
      split_ifs <;> constructor <;> simp only [Intake.accounted, List.length_append,
        List.length_singleton] <;> omega

/-- An event adds its pair where nothing used before touches it. -/
theorem intakeToken_validPairs (i : Intake) (token : Dict) :
    (intakeToken i token).validPairs =
      i.validPairs ++ kept Touches i.validPairs (eventPair token).toList := by
  unfold intakeToken eventPair
  cases nonBlank? (token.get "mint") with
  | none => simp
  | some mint =>
    cases nonBlank? (token.get "migration_signature") with
    | none => simp
    | some signature =>
      have hused := used_iff i.validPairs mint signature
      have hpair : (do let mint ← some mint; let signature ← some signature
                       return MigrationPair.mk mint signature).toList =
          [⟨mint, signature⟩] := rfl
      rw [hpair, kept_singleton]
      by_cases htouch : ∃ k ∈ i.validPairs, Touches k ⟨mint, signature⟩
      · rw [if_pos htouch, List.append_nil]
        dsimp only
        split_ifs with hconflict hconflict' hdup
        · rfl
        · rfl
        · rfl
        · exact absurd htouch (hused.mp ⟨hconflict, hconflict', hdup⟩)
      · obtain ⟨hconflict, hconflict', hdup⟩ := hused.mpr htouch
        rw [if_neg htouch]
        dsimp only
        rw [if_neg hconflict, if_neg hconflict', if_neg hdup]

theorem mergePair_validPairs (m : MergedIntake) (p : MigrationPair) :
    (mergePair m p).validPairs = m.validPairs ++ kept Touches m.validPairs [p] := by
  have hused := used_iff m.validPairs p.mint p.signature
  rw [kept_singleton, mergePair]
  by_cases htouch : ∃ k ∈ m.validPairs, Touches k p
  · rw [if_pos htouch, List.append_nil]
    split_ifs with hconflict hdup
    · rfl
    · rfl
    · rw [not_or] at hconflict
      exact absurd htouch (hused.mp ⟨hconflict.1, hconflict.2, hdup⟩)
  · obtain ⟨hconflict, hconflict', hdup⟩ := hused.mpr htouch
    rw [if_neg htouch, if_neg (not_or.mpr ⟨hconflict, hconflict'⟩), if_neg hdup]

/-- The well-formed pairs of a payload's events, in their order. -/
def eventPairs (normalizedPayload : Value) : List MigrationPair :=
  (intakeTokens normalizedPayload).filterMap eventPair

theorem flatMap_toList_eq_filterMap {α β : Type*} (f : α → Option β) (xs : List α) :
    (xs.flatMap fun x => (f x).toList) = xs.filterMap f := by
  induction xs with
  | nil => rfl
  | cons x xs ih =>
    rw [List.flatMap_cons, ih, List.filterMap_cons]
    cases f x <;> rfl

/-- The valid pairs are those that touch none used before. -/
theorem intakeMigrationEvents_validPairs (payload : Value) :
    (intakeMigrationEvents payload).validPairs = kept Touches [] (eventPairs payload) := by
  rw [intakeMigrationEvents, foldl_kept Intake.validPairs _ intakeToken_validPairs,
    flatMap_toList_eq_filterMap]
  rfl

theorem mergeIntake_validPairs (m : MergedIntake) (i : Intake) :
    (mergeIntake m i).validPairs = m.validPairs ++ kept Touches m.validPairs i.validPairs := by
  rw [mergeIntake, foldl_kept MergedIntake.validPairs (fun p => [p]) mergePair_validPairs, List.flatMap_singleton']

theorem mergeIntakes_validPairs (intakes : List Intake) :
    (mergeIntakes intakes).validPairs = kept Touches [] (intakes.flatMap Intake.validPairs) := by
  rw [mergeIntakes, foldl_kept MergedIntake.validPairs _ mergeIntake_validPairs]
  rfl

theorem intakeMigrationEvents_accounted (payload : Value) :
    (intakeMigrationEvents payload).accounted = (intakeMigrationEvents payload).eventsReceived := by
  have hrun : ∀ (tokens : List Dict) (i : Intake),
      (tokens.foldl intakeToken i).accounted = i.accounted + tokens.length ∧
        (tokens.foldl intakeToken i).eventsReceived = i.eventsReceived := by
    intro tokens
    induction tokens with
    | nil => intro i; exact ⟨rfl, rfl⟩
    | cons token rest ih =>
      intro i
      obtain ⟨hcount, hreceived⟩ := intakeToken_accounted i token
      obtain ⟨hcountRest, hreceivedRest⟩ := ih (intakeToken i token)
      rw [List.foldl_cons, hcountRest, hreceivedRest, hcount, hreceived, List.length_cons]
      exact ⟨by omega, rfl⟩
  obtain ⟨hcount, hreceived⟩ := hrun (intakeTokens payload)
    { eventsReceived := (intakeTokens payload).length }
  rw [intakeMigrationEvents, hcount, hreceived]
  simp [Intake.accounted]

/-- The pairs give one mint two signatures, or one signature two mints. -/
def Conflicting (a b : MigrationPair) : Prop := Touches a b ∧ a ≠ b

/-- No pair is a party to a conflict. -/
def FreeOfConflicts (pairs : List MigrationPair) : Prop := ∀ a ∈ pairs, ∀ b ∈ pairs, ¬Conflicting a b

theorem mem_kept_iff_of_freeOfConflicts {pairs : List MigrationPair} (h : FreeOfConflicts pairs)
    (p : MigrationPair) : p ∈ kept Touches [] pairs ↔ p ∈ pairs := by
  constructor
  · exact fun hp => (kept_sublist pairs []).mem hp
  · intro hp
    have hcases : p ∈ kept Touches [] pairs ∨ ∃ k ∈ [] ++ kept Touches [] pairs, Touches k p :=
      mem_kept_or_clash pairs [] hp
    rcases hcases with hkept | ⟨k, hk, htouch⟩
    · exact hkept
    · rw [List.nil_append] at hk
      by_contra hnot
      have hne : k ≠ p := fun heq => hnot (heq ▸ hk)
      exact h k ((kept_sublist pairs []).mem hk) p hp ⟨htouch, hne⟩

theorem nodup_kept (pairs : List MigrationPair) : (kept Touches [] pairs).Nodup :=
  (pairwise_kept pairs []).imp fun {a b} htouch (heq : a = b) => htouch (heq ▸ Touches.refl a)

/-- The payload of a list of events. -/
def eventsPayload (events : List Value) : Value := .dict [("tokens", .list events)]

/-- The pair of an event that may be no mapping. -/
def pairOf : Value → Option MigrationPair
  | .dict token => eventPair token
  | _ => none

theorem eventPairs_payload (events : List Value) :
    eventPairs (eventsPayload events) = events.filterMap pairOf := by
  have hraw : Dict.get [("tokens", Value.list events)] "tokens" = .list events := by simp
  simp only [eventPairs, intakeTokens, eventsPayload, hraw, List.filterMap_filterMap]
  congr 1
  funext t
  cases t <;> rfl

/-- What the intake of a list of events is to be: the pairs that are no party to
a conflict, each once, whatever the order; every event accounted for; and the
pairs of any rounds the events are cut into. -/
structure ExactIntake (events : List Value) : Prop where
  mem_iff : ∀ p, p ∈ (intakeMigrationEvents (eventsPayload events)).validPairs ↔
    p ∈ events.filterMap pairOf ∧ ∀ q ∈ events.filterMap pairOf,
      (q.mint = p.mint → q.signature = p.signature) ∧ (q.signature = p.signature → q.mint = p.mint)
  nodup : (intakeMigrationEvents (eventsPayload events)).validPairs.Nodup
  order : ∀ events', events'.Perm events → ∀ p,
    p ∈ (intakeMigrationEvents (eventsPayload events')).validPairs ↔
      p ∈ (intakeMigrationEvents (eventsPayload events)).validPairs
  accounted : (intakeMigrationEvents (eventsPayload events)).accounted =
    (intakeMigrationEvents (eventsPayload events)).eventsReceived
  rounds : ∀ rounds : List (List Value), rounds.flatten = events → ∀ p,
    p ∈ (mergeIntakes (rounds.map fun round =>
        intakeMigrationEvents (eventsPayload round))).validPairs ↔
      p ∈ (intakeMigrationEvents (eventsPayload events)).validPairs

theorem freeOfConflicts_iff {pairs : List MigrationPair} :
    FreeOfConflicts pairs ↔ ∀ p ∈ pairs, ∀ q ∈ pairs,
      (q.mint = p.mint → q.signature = p.signature) ∧
        (q.signature = p.signature → q.mint = p.mint) := by
  constructor
  · intro h p hp q hq
    by_cases heq : q = p
    · exact ⟨fun _ => by rw [heq], fun _ => by rw [heq]⟩
    · exact ⟨fun hmint => absurd ⟨.inl hmint, heq⟩ (h q hq p hp),
        fun hsignature => absurd ⟨.inr hsignature, heq⟩ (h q hq p hp)⟩
  · rintro h a ha b hb ⟨htouch, hne⟩
    obtain ⟨hmint, hsignature⟩ := h b hb a ha
    rcases htouch with hm | hs
    · exact hne (by cases a; cases b; simp_all)
    · exact hne (by cases a; cases b; simp_all)

theorem FreeOfConflicts.subset {pairs pairs' : List MigrationPair} (h : FreeOfConflicts pairs)
    (hsub : ∀ p ∈ pairs', p ∈ pairs) : FreeOfConflicts pairs' :=
  fun a ha b hb => h a (hsub a ha) b (hsub b hb)

/-- The pairs used of the rounds, where no pair conflicts with another. -/
theorem mem_rounds_iff {rounds : List (List Value)}
    (h : FreeOfConflicts (rounds.flatten.filterMap pairOf)) (p : MigrationPair) :
    p ∈ (mergeIntakes (rounds.map fun round =>
        intakeMigrationEvents (eventsPayload round))).validPairs ↔
      p ∈ rounds.flatten.filterMap pairOf := by
  have hround : ∀ round ∈ rounds, ∀ q,
      q ∈ (intakeMigrationEvents (eventsPayload round)).validPairs ↔
        q ∈ round.filterMap pairOf := by
    intro round hmem q
    rw [intakeMigrationEvents_validPairs, eventPairs_payload]
    apply mem_kept_iff_of_freeOfConflicts (h.subset _)
    intro a ha
    obtain ⟨event, hevent, hpair⟩ := List.mem_filterMap.mp ha
    exact List.mem_filterMap.mpr ⟨event, List.mem_flatten_of_mem hmem hevent, hpair⟩
  have hall : ∀ q, q ∈ ((rounds.map fun round =>
      intakeMigrationEvents (eventsPayload round)).flatMap Intake.validPairs) ↔
        q ∈ rounds.flatten.filterMap pairOf := by
    intro q
    simp only [List.mem_flatMap, List.mem_map, exists_exists_and_eq_and, List.mem_filterMap,
      List.mem_flatten]
    constructor
    · rintro ⟨round, hmem, hq⟩
      obtain ⟨event, hevent, hpair⟩ := List.mem_filterMap.mp ((hround round hmem q).mp hq)
      exact ⟨event, ⟨round, hmem, hevent⟩, hpair⟩
    · rintro ⟨event, ⟨round, hmem, hevent⟩, hpair⟩
      exact ⟨round, hmem, (hround round hmem q).mpr (List.mem_filterMap.mpr ⟨event, hevent, hpair⟩)⟩
  rw [mergeIntakes_validPairs, mem_kept_iff_of_freeOfConflicts _, hall]
  exact h.subset fun q hq => (hall q).mp hq

/-- The intake is exact where no two events conflict, and only there. -/
theorem intakeMigrationEvents_exact_iff (events : List Value) :
    ExactIntake events ↔ FreeOfConflicts (events.filterMap pairOf) := by
  have hvalid : ∀ events : List Value, (intakeMigrationEvents (eventsPayload events)).validPairs =
      kept Touches [] (events.filterMap pairOf) := by
    intro events
    rw [intakeMigrationEvents_validPairs, eventPairs_payload]
  constructor
  · -- an event can be put first, and then its pair is used
    intro h
    rw [freeOfConflicts_iff]
    intro p hp
    obtain ⟨event, hevent, hpair⟩ := List.mem_filterMap.mp hp
    obtain ⟨before, after, rfl⟩ := List.append_of_mem hevent
    have hfirst : (event :: (before ++ after)).Perm (before ++ event :: after) :=
      List.perm_middle.symm
    have hused : p ∈ (intakeMigrationEvents
        (eventsPayload (event :: (before ++ after)))).validPairs := by
      rw [hvalid, List.filterMap_cons, hpair]
      exact mem_kept_head p _
    exact ((h.mem_iff p).mp ((h.order _ hfirst p).mp hused)).2
  · intro h
    have hmem : ∀ p, p ∈ (intakeMigrationEvents (eventsPayload events)).validPairs ↔
        p ∈ events.filterMap pairOf := by
      intro p
      rw [hvalid]
      exact mem_kept_iff_of_freeOfConflicts h p
    constructor
    · intro p
      rw [hmem]
      exact ⟨fun hp => ⟨hp, freeOfConflicts_iff.mp h p hp⟩, And.left⟩
    · rw [hvalid]
      exact nodup_kept _
    · intro events' hperm p
      have hpairs := hperm.filterMap pairOf
      rw [hmem, hvalid, mem_kept_iff_of_freeOfConflicts (h.subset fun q hq => hpairs.mem_iff.mp hq)]
      exact hpairs.mem_iff
    · exact intakeMigrationEvents_accounted _
    · rintro rounds rfl p
      rw [hmem]
      exact mem_rounds_iff h p

/-- An event of a mint and a signature. -/
def tokenEvent (mint signature : String) : Value :=
  .dict [("migration_signature", .str signature), ("mint", .str mint)]

/-- Of two signatures of one mint, the one that comes first is used. -/
theorem intakeMigrationEvents_not_exact_pair :
    ¬ExactIntake [tokenEvent "M" "S1", tokenEvent "M" "S2"] := by
  intro h
  have hused : (⟨"M", "S1"⟩ : MigrationPair) ∈ (intakeMigrationEvents
      (eventsPayload [tokenEvent "M" "S1", tokenEvent "M" "S2"])).validPairs := by
    decide
  have hboth := (h.mem_iff _).mp hused
  have hother : (⟨"M", "S2"⟩ : MigrationPair) ∈
      [tokenEvent "M" "S1", tokenEvent "M" "S2"].filterMap pairOf := by
    decide
  exact absurd ((hboth.2 _ hother).1 rfl) (by decide)

end PrinterV1.Discovery
