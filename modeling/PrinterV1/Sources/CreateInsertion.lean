import PrinterV1.Sources.CreateDecode

/-!
# Unrelated instructions beside a create

What follows the loop of `decode_finalized_create` depends on the findings up to
their order and up to those of unrelated instructions. A transaction with more
instructions of other programs is decoded as without them exactly where the data
of each of them can be read, which empty data cannot.
-/

namespace PrinterV1.Sources.Direct

open Python Faults

/-! ## Findings -/

def Finding.isOther : Finding → Bool
  | .other => true
  | _ => false

/-- The findings are those of before, in some order, and others that say nothing. -/
def SameFindings (findings findings' : List Finding) : Prop :=
  ∃ more : List Finding, (∀ f ∈ more, f.isOther = true) ∧ findings'.Perm (findings ++ more)

namespace SameFindings

variable {findings findings' : List Finding} (h : SameFindings findings findings')

include h in
theorem filterMap_perm {α : Type} {f : Finding → Option α} (hf : f .other = none) :
    (findings'.filterMap f).Perm (findings.filterMap f) := by
  obtain ⟨more, hmore, hperm⟩ := h
  have hnone : more.filterMap f = [] := by
    rw [List.filterMap_eq_nil_iff]
    intro x hx
    have hother := hmore x hx
    cases x <;> simp [Finding.isOther] at hother
    exact hf
  have hmap := hperm.filterMap f
  rwa [List.filterMap_append, hnone, List.append_nil] at hmap

include h in
theorem any_eq {p : Finding → Bool} (hp : p .other = false) :
    findings'.any p = findings.any p := by
  obtain ⟨more, hmore, hperm⟩ := h
  have hnone : more.any p = false := by
    rw [List.any_eq_false]
    intro x hx
    have hother := hmore x hx
    cases x <;> simp [Finding.isOther] at hother
    simp [hp]
  rw [hperm.any_eq, List.any_append, hnone, Bool.or_false]

end SameFindings

/-- At most one element has no order. -/
theorem eq_of_perm_of_length_le {α : Type} {xs ys : List α} (h : xs.Perm ys)
    (hlen : ys.length ≤ 1) : xs = ys := by
  match ys, hlen with
  | [], _ => exact List.perm_nil.mp h
  | [y], _ => exact List.perm_singleton.mp h

theorem ne_nil_iff_of_perm {α : Type} {xs ys : List α} (h : xs.Perm ys) : xs = [] ↔ ys = [] := by
  rw [← List.length_eq_zero_iff, h.length_eq, List.length_eq_zero_iff]

section Decide

variable {sha256 : Bytes → Digest} {keys : List String} {expectedMint : Option String}

/-- What follows the loop sees no order and no unrelated instruction. -/
theorem decideCreate_eq {findings findings' : List Finding}
    (h : SameFindings findings findings') :
    decideCreate sha256 keys expectedMint findings' =
      decideCreate sha256 keys expectedMint findings := by
  have hcreates : (createsOf findings').Perm (createsOf findings) := h.filterMap_perm rfl
  have hcreatesV2 : (createsV2Of findings').Perm (createsV2Of findings) := h.filterMap_perm rfl
  have hevents : (eventsOf findings').Perm (eventsOf findings) := h.filterMap_perm rfl
  have hwrong := h.any_eq (p := Finding.isWrongProgram) rfl
  have hmarker := h.any_eq (p := Finding.isFamilyMarker) rfl
  have hnil := ne_nil_iff_of_perm hcreates
  have hnilV2 := ne_nil_iff_of_perm hcreatesV2
  unfold decideCreate
  simp only [hwrong, hmarker, hnil, hnilV2, hcreates.length_eq, hcreatesV2.length_eq, ne_eq,
    hevents.any_eq]
  by_cases hmany : 1 < (createsOf findings).length ∨ 1 < (createsV2Of findings).length
  · simp only [hmany, ↓reduceIte]
    rfl
  · have hone : (createsOf findings).length ≤ 1 := by omega
    have honeV2 : (createsV2Of findings).length ≤ 1 := by omega
    rw [eq_of_perm_of_length_le hcreates hone, eq_of_perm_of_length_le hcreatesV2 honeV2]

end Decide

/-! ## Instructions -/

/-- The instructions that are compiled, before they are known to be mappings. -/
def itemsOf (top groups : List Value) : List Value :=
  top ++ (groups.filterMap groupInstructions).flatten

theorem orMalformed_ok {α : Type} {x : Option α} {detail : String} {a : α} :
    orMalformed x detail = .ok a ↔ x = some a := by
  cases x <;> simp [orMalformed]

theorem compiledInstructions_iff {result metaFields : Dict} {instructions : List Dict} :
    compiledInstructions result metaFields = .ok instructions ↔
      ∃ top groups, topLevel result = some top ∧ innerGroups metaFields = .ok groups ∧
        (∀ g ∈ groups, (groupInstructions g).isSome = true) ∧
        (∀ x ∈ itemsOf top groups, (asMapping x).isSome = true) ∧
        instructions = (itemsOf top groups).filterMap asMapping := by
  constructor
  · intro h
    obtain ⟨top, htop, h⟩ := bind_ok h
    obtain ⟨groups, hgroups, h⟩ := bind_ok h
    obtain ⟨inner, hinner, h⟩ := bind_ok h
    obtain ⟨hwell, rfl⟩ := mapM_some_iff.mp (orMalformed_ok.mp hinner)
    obtain ⟨hitems, rfl⟩ := mapM_some_iff.mp (orMalformed_ok.mp h)
    exact ⟨top, groups, orMalformed_ok.mp htop, mapError_ok hgroups, hwell, hitems, rfl⟩
  · rintro ⟨top, groups, htop, hgroups, hwell, hitems, rfl⟩
    unfold compiledInstructions
    rw [htop, hgroups, show orMalformed (some top) "missing instruction envelope" = .ok top from rfl,
      ok_bind]
    change (orMalformed (groups.mapM groupInstructions) _ >>= _) = _
    rw [mapM_some_iff.mpr ⟨hwell, rfl⟩]
    change orMalformed ((itemsOf top groups).mapM asMapping) _ = _
    rw [mapM_some_iff.mpr ⟨hitems, rfl⟩]
    rfl

/-- A well-formed instruction of another program, whose data is no create. -/
structure Foreign (keys : List String) (instruction : Dict) : Prop where
  data : ∃ raw, instruction.get "data" = .str (b58encode raw) ∧
    ¬createDiscriminator <+: raw ∧ ¬createV2Discriminator <+: raw
  program : ∃ (i : ℕ) (program : String), instruction.get "programIdIndex" = .int i ∧
    keys[i]? = some program ∧ program ≠ pumpProgramId

theorem b58decode_encode {raw : Bytes} (h : raw ≠ []) : b58decode (b58encode raw) = .ok raw := by
  have hround := Sources.b58decode_encode h
  rw [← b58encode_eq h, ← b58decode_toOption] at hround
  cases hdecode : b58decode (b58encode raw) with
  | error e =>
    rw [hdecode] at hround
    cases hround
  | ok found =>
    rw [hdecode] at hround
    rw [Option.some.inj hround]

/-- Such an instruction is passed over where its data is not empty. -/
theorem Foreign.classify_other {keys : List String} {instruction : Dict}
    (h : Foreign keys instruction) (hdata : instruction.get "data" ≠ .str "") :
    classify keys instruction = .ok .other := by
  obtain ⟨raw, hraw, hcreate, hcreateV2⟩ := h.data
  obtain ⟨i, program, hindex, hprogram, hother⟩ := h.program
  have hne : raw ≠ [] := by
    rintro rfl
    exact hdata hraw
  have hread : instructionData instruction = .ok raw := by
    rw [instructionData, hraw]
    change contractM (b58decode (b58encode raw)) = _
    rw [b58decode_encode hne]
    rfl
  have hkey : instructionProgram instruction keys = .ok program := by
    have hnonneg : 0 ≤ (i : ℤ) := Int.natCast_nonneg i
    rw [instructionProgram, hindex, keyAt, if_pos hnonneg, Int.toNat_natCast, hprogram]
    rfl
  unfold classify
  rw [hread, ok_bind, hkey, ok_bind, if_neg hcreate, if_neg hcreateV2,
    if_neg (fun hc => hother hc.1), if_neg (fun hc => hother hc.1)]
  rfl

/-- Empty data has no reading. -/
theorem classify_empty {keys : List String} {instruction : Dict}
    (h : instruction.get "data" = .str "") (f : Finding) : classify keys instruction ≠ .ok f := by
  intro hf
  obtain ⟨data, hdata, -⟩ := bind_ok hf
  rw [instructionData, h] at hdata
  cases hdata

/-! ## The envelope -/

/-- What an accepted envelope says. -/
structure Accepted (result : Dict) (reference : SignatureReference) (cutoffSlot : ℤ)
    (e : Envelope) : Prop where
  version : supportedVersion (result.get "version") = true
  slot : subscript (.dict result) "slot" = some (.int e.slot)
  blockTime : subscript (.dict result) "blockTime" = some (.int e.blockTime)
  metaFields : subscript (.dict result) "meta" = some (.dict e.metaFields)
  referenced : 0 ≤ e.slot ∧ e.slot = reference.slot ∧ e.slot ≤ cutoffSlot
  succeeded : Dict.get e.metaFields "err" = .none
  signatures : ∃ rest, (subscript (.dict result) "transaction").bind (subscript · "signatures") =
    some (.list (.str reference.signature :: rest))

theorem slotOf_iff {reference : SignatureReference} {v : Value} {slot : ℤ} :
    slotOf reference v = .ok slot ↔ v = .int slot ∧ 0 ≤ slot ∧ slot = reference.slot := by
  cases v with
  | int n =>
    simp only [slotOf]
    by_cases hbad : n < 0 ∨ n ≠ reference.slot
    · rw [if_pos hbad]
      refine iff_of_false (by simp) ?_
      rintro ⟨hn, hpos, href⟩
      obtain rfl := Value.int.inj hn
      omega
    · rw [if_neg hbad]
      simp only [Except.ok.injEq, Value.int.injEq]
      constructor
      · rintro rfl
        omega
      · exact fun h => h.1
  | _ => simp [slotOf]

theorem metaOf_iff {v : Value} {entries : Dict} : metaOf v = .ok entries ↔ v = .dict entries := by
  cases v <;> simp [metaOf]

theorem blockTimeOf_iff {v : Value} {n : ℤ} : blockTimeOf v = .ok n ↔ v = .int n := by
  cases v <;> simp [blockTimeOf]

theorem checkSignatures_iff {reference : SignatureReference} {v : Value} :
    checkSignatures reference v = .ok () ↔ ∃ rest, v = .list (.str reference.signature :: rest) := by
  unfold checkSignatures
  split
  next first rest =>
    by_cases hfirst : first = .str reference.signature
    · rw [if_neg (not_not.mpr hfirst)]
      exact iff_of_true rfl ⟨rest, by rw [hfirst]⟩
    · rw [if_pos hfirst]
      refine iff_of_false (by simp) ?_
      rintro ⟨rest', hrest⟩
      exact hfirst (List.cons.inj (Value.list.inj hrest)).1
  next hno =>
    refine iff_of_false (by simp) ?_
    rintro ⟨rest, rfl⟩
    exact hno _ _ rfl

theorem checkEnvelope_iff {result : Dict} {reference : SignatureReference} {cutoffSlot : ℤ}
    {e : Envelope} :
    checkEnvelope result reference cutoffSlot = .ok e ↔
      Accepted result reference cutoffSlot e := by
  constructor
  · intro h
    obtain ⟨hversion, h⟩ := check_ok h
    obtain ⟨slotValue, hslot, h⟩ := bind_ok h
    obtain ⟨blockTimeValue, hblockTime, h⟩ := bind_ok h
    obtain ⟨metaValue, hmeta, h⟩ := bind_ok h
    obtain ⟨transaction, htransaction, h⟩ := bind_ok h
    obtain ⟨signatures, hsignatures, h⟩ := bind_ok h
    obtain ⟨slot, hslotOf, h⟩ := bind_ok h
    obtain ⟨hcut, h⟩ := check_ok h
    obtain ⟨metaFields, hmetaOf, h⟩ := bind_ok h
    obtain ⟨herr, h⟩ := check_ok h
    obtain ⟨blockTime, hblockTimeOf, h⟩ := bind_ok h
    obtain ⟨⟨⟩, hfirst, h⟩ := bind_ok h
    obtain rfl := Except.ok.inj h
    rw [orMalformed_ok] at hslot hblockTime hmeta htransaction hsignatures
    obtain ⟨rfl, hpos, href⟩ := slotOf_iff.mp hslotOf
    obtain rfl := metaOf_iff.mp hmetaOf
    obtain rfl := blockTimeOf_iff.mp hblockTimeOf
    obtain ⟨rest, rfl⟩ := checkSignatures_iff.mp hfirst
    refine ⟨by simpa using hversion, hslot, hblockTime, hmeta, ⟨hpos, href, not_lt.mp hcut⟩,
      not_not.mp herr, rest, ?_⟩
    rw [htransaction]
    exact hsignatures
  · intro h
    obtain ⟨rest, hsignatures⟩ := h.signatures
    obtain ⟨transaction, htransaction, hsignatures⟩ := Option.bind_eq_some_iff.mp hsignatures
    obtain ⟨hpos, href, hcut⟩ := h.referenced
    unfold checkEnvelope
    rw [h.version, h.slot, h.blockTime, h.metaFields, htransaction]
    change (orMalformed (subscript transaction "signatures") _ >>= _) = _
    rw [hsignatures]
    change (slotOf reference (.int e.slot) >>= _) = _
    rw [slotOf_iff.mpr ⟨rfl, hpos, href⟩, ok_bind, if_neg (not_lt.mpr hcut)]
    change (if Dict.get e.metaFields "err" ≠ .none then _ else _) = _
    rw [if_neg (not_not.mpr h.succeeded)]
    change (checkSignatures reference _ >>= _) = _
    rw [checkSignatures_iff.mpr ⟨rest, rfl⟩]
    rfl

/-! ## Insertion -/

/-- A transaction and the lists of its instructions. -/
structure Shape (result : Dict) where
  transaction : Dict
  message : Dict
  metaFields : Dict
  top : List Value
  groups : List Value
  transaction_eq : result.get "transaction" = .dict transaction
  message_eq : transaction.get "message" = .dict message
  meta_eq : result.get "meta" = .dict metaFields
  top_eq : topLevel result = some top
  groups_eq : innerGroups metaFields = .ok groups

/-- Lists of instructions for a transaction: its own and others of other programs, inserted at the
top level or in groups, all of them in any order. Groups that are malformed stay. -/
structure Insertion (extras : List Dict) (result : Dict) where
  shape : Shape result
  top : List Value
  groups : List Value
  malformed : (groups.filter fun g => (groupInstructions g).isNone).Perm
    (shape.groups.filter fun g => (groupInstructions g).isNone)
  items : (itemsOf top groups).Perm (itemsOf shape.top shape.groups ++ extras.map .dict)
  foreign : ∀ keys, resolvedKeys result shape.metaFields = .ok keys → ∀ e ∈ extras, Foreign keys e

@[simp] theorem subscript_dict (entries : Dict) (key : String) :
    subscript (.dict entries) key =
      if entries.has key then some (entries.get key) else none := rfl

theorem has_of_get {entries : Dict} {key : String} {v : Value} (h : entries.get key = v)
    (hv : v ≠ .none) : entries.has key = true := by
  by_contra hc
  rw [Dict.get_of_not_has (by simpa using hc)] at h
  exact hv h.symm

theorem Shape.messageOf_eq {result : Dict} (s : Shape result) :
    messageOf result = some (.dict s.message) := by
  have htransaction := has_of_get s.transaction_eq (by simp)
  have hmessage := has_of_get s.message_eq (by simp)
  simp [messageOf, htransaction, s.transaction_eq, hmessage, s.message_eq]

namespace Insertion

variable {extras : List Dict} {result : Dict} (h : Insertion extras result)

def metaFields : Dict := Dict.set h.shape.metaFields "innerInstructions" (.list h.groups)

/-- The transaction with the lists. -/
def result' : Dict :=
  Dict.set (Dict.set result "transaction" (.dict (Dict.set h.shape.transaction "message"
    (.dict (Dict.set h.shape.message "instructions" (.list h.top)))))) "meta" (.dict h.metaFields)

theorem messageOf_eq :
    messageOf h.result' = some (.dict (Dict.set h.shape.message "instructions" (.list h.top))) := by
  simp [messageOf, result']

/-- The keys do not depend on the instructions. -/
theorem resolvedKeys_eq :
    resolvedKeys h.result' h.metaFields = resolvedKeys result h.shape.metaFields := by
  unfold resolvedKeys
  rw [h.messageOf_eq, h.shape.messageOf_eq]
  simp [metaFields]

/-- Nor do the checks of the envelope. -/
theorem accepted_iff {reference : SignatureReference} {cutoffSlot : ℤ} {e : Envelope} :
    Accepted h.result' reference cutoffSlot e ↔
      e.metaFields = h.metaFields ∧
        Accepted result reference cutoffSlot { e with metaFields := h.shape.metaFields } := by
  have hmeta := has_of_get h.shape.meta_eq (by simp)
  have htransaction := has_of_get h.shape.transaction_eq (by simp)
  have hversion : h.result'.get "version" = result.get "version" := by simp [result']
  have hslot : subscript (.dict h.result') "slot" = subscript (.dict result) "slot" := by
    simp [result']
  have hblockTime : subscript (.dict h.result') "blockTime" =
      subscript (.dict result) "blockTime" := by
    simp [result']
  have hmeta' : subscript (.dict h.result') "meta" = some (.dict h.metaFields) := by simp [result']
  have hmetaOld : subscript (.dict result) "meta" = some (.dict h.shape.metaFields) := by
    simp [hmeta, h.shape.meta_eq]
  have herr : h.metaFields.get "err" = h.shape.metaFields.get "err" := by simp [metaFields]
  have hsignatures : (subscript (.dict h.result') "transaction").bind (subscript · "signatures") =
      (subscript (.dict result) "transaction").bind (subscript · "signatures") := by
    simp [result', htransaction, h.shape.transaction_eq]
  constructor
  · intro ha
    have hfields : e.metaFields = h.metaFields := by
      have heq := ha.metaFields
      rw [hmeta'] at heq
      exact (Value.dict.inj (Option.some.inj heq)).symm
    refine ⟨hfields, hversion ▸ ha.version, hslot ▸ ha.slot, hblockTime ▸ ha.blockTime, hmetaOld,
      ha.referenced, ?_, hsignatures ▸ ha.signatures⟩
    have hsucceeded := ha.succeeded
    rwa [hfields, herr] at hsucceeded
  · rintro ⟨hfields, ha⟩
    refine ⟨hversion ▸ ha.version, hslot ▸ ha.slot, hblockTime ▸ ha.blockTime, hfields ▸ hmeta',
      ha.referenced, ?_, hsignatures ▸ ha.signatures⟩
    rw [hfields, herr]
    exact ha.succeeded

theorem topLevel_eq : topLevel h.result' = some h.top := by
  rw [topLevel, h.messageOf_eq]
  simp [iterate, Except.toOption]

theorem innerGroups_eq : innerGroups h.metaFields = .ok h.groups := by
  rw [innerGroups, metaFields, Dict.get_set, if_pos rfl, orSequence]
  by_cases hnil : h.groups = []
  · simp [hnil, Value.truthy, iterate]
  · simp [hnil, Value.truthy, iterate]

theorem groups_isSome_iff :
    (∀ g ∈ h.groups, (groupInstructions g).isSome = true) ↔
      ∀ g ∈ h.shape.groups, (groupInstructions g).isSome = true := by
  have hnil := ne_nil_iff_of_perm h.malformed
  simpa [List.filter_eq_nil_iff, Option.isSome_iff_ne_none] using hnil

theorem items_isSome_iff :
    (∀ x ∈ itemsOf h.top h.groups, (asMapping x).isSome = true) ↔
      ∀ x ∈ itemsOf h.shape.top h.shape.groups, (asMapping x).isSome = true := by
  constructor
  · intro hall x hx
    exact hall x (h.items.mem_iff.mpr (List.mem_append_left _ hx))
  · intro hall x hx
    rcases List.mem_append.mp (h.items.mem_iff.mp hx) with hx | hx
    · exact hall x hx
    · obtain ⟨e, -, rfl⟩ := List.mem_map.mp hx
      rfl

/-- The instructions are those of before and the others, in some order. -/
theorem compiledInstructions_perm {instructions instructions' : List Dict}
    (hold : compiledInstructions result h.shape.metaFields = .ok instructions)
    (hnew : compiledInstructions h.result' h.metaFields = .ok instructions') :
    instructions'.Perm (instructions ++ extras) := by
  obtain ⟨top, groups, htop, hgroups, -, -, rfl⟩ := compiledInstructions_iff.mp hold
  obtain ⟨top', groups', htop', hgroups', -, -, rfl⟩ := compiledInstructions_iff.mp hnew
  obtain rfl := Option.some.inj (htop.symm.trans h.shape.top_eq)
  obtain rfl := Except.ok.inj (hgroups.symm.trans h.shape.groups_eq)
  obtain rfl := Option.some.inj (htop'.symm.trans h.topLevel_eq)
  obtain rfl := Except.ok.inj (hgroups'.symm.trans h.innerGroups_eq)
  have hextras : (extras.map Value.dict).filterMap asMapping = extras := by
    rw [List.filterMap_map]
    exact List.filterMap_some
  have hperm := h.items.filterMap asMapping
  rwa [List.filterMap_append, hextras] at hperm

theorem compiledInstructions_iff :
    (∃ instructions, compiledInstructions h.result' h.metaFields = .ok instructions) ↔
      ∃ instructions, compiledInstructions result h.shape.metaFields = .ok instructions := by
  simp only [Direct.compiledInstructions_iff, h.topLevel_eq, h.innerGroups_eq, h.shape.top_eq,
    h.shape.groups_eq]
  constructor
  · rintro ⟨_, top, groups, htop, hgroups, hwell, hitems, rfl⟩
    obtain rfl := Option.some.inj htop
    obtain rfl := Except.ok.inj hgroups
    exact ⟨_, _, _, rfl, rfl, h.groups_isSome_iff.mp hwell, h.items_isSome_iff.mp hitems, rfl⟩
  · rintro ⟨_, top, groups, htop, hgroups, hwell, hitems, rfl⟩
    obtain rfl := Option.some.inj htop
    obtain rfl := Except.ok.inj hgroups
    exact ⟨_, _, _, rfl, rfl, h.groups_isSome_iff.mpr hwell, h.items_isSome_iff.mpr hitems, rfl⟩

end Insertion

/-! ## The decoder -/

/-- The finding of an instruction that is read. -/
def findingOf (keys : List String) (instruction : Dict) : Finding :=
  match classify keys instruction with
  | .ok f => f
  | .error _ => .other

theorem classifyAll_iff {keys : List String} {instructions : List Dict} {findings : List Finding} :
    instructions.mapM (classify keys) = .ok findings ↔
      (∀ i ∈ instructions, classify keys i = .ok (findingOf keys i)) ∧
        findings = instructions.map (findingOf keys) := by
  apply mapM_ok_iff
  intro i f hf
  rw [findingOf, hf]

theorem classify_findingOf {keys : List String} {instruction : Dict} {f : Finding}
    (h : classify keys instruction = .ok f) :
    classify keys instruction = .ok (findingOf keys instruction) := by
  rw [findingOf, h]

section Decoder

variable {sha256 : Bytes → Digest} {reference : SignatureReference} {cutoffSlot : ℤ}
  {expectedMint : Option String} {observation : PumpCreateObservation}

/-- What an accepted transaction says. -/
structure Decoded (sha256 : Bytes → Digest) (result : Dict) (reference : SignatureReference)
    (cutoffSlot : ℤ) (expectedMint : Option String) (observation : PumpCreateObservation)
    (e : Envelope) (keys : List String) (instructions : List Dict) (c : CheckedCreate) : Prop where
  finalized : reference.confirmationStatus = "finalized"
  succeeded : reference.err = .none
  cutoff : 0 ≤ cutoffSlot
  envelope : Accepted result reference cutoffSlot e
  keys_eq : resolvedKeys result e.metaFields = .ok keys
  instructions_eq : compiledInstructions result e.metaFields = .ok instructions
  classified : ∀ i ∈ instructions, classify keys i = .ok (findingOf keys i)
  decided : decideCreate sha256 keys expectedMint (instructions.map (findingOf keys)) = .ok c
  observed : observation = c.observation reference e

theorem decodeFinalizedCreate_iff {result : Dict} :
    decodeFinalizedCreate sha256 (.dict result) reference cutoffSlot expectedMint =
        .ok observation ↔
      ∃ e keys instructions c, Decoded sha256 result reference cutoffSlot expectedMint observation e
        keys instructions c := by
  constructor
  · intro h
    obtain ⟨hfinalized, h⟩ := check_ok h
    obtain ⟨herr, h⟩ := check_ok h
    obtain ⟨hcutoff, h⟩ := check_ok h
    obtain ⟨_, hresult, h⟩ := bind_ok h
    obtain rfl := Except.ok.inj hresult
    obtain ⟨e, henvelope, h⟩ := bind_ok h
    obtain ⟨keys, hkeys, h⟩ := bind_ok h
    obtain ⟨instructions, hinstructions, h⟩ := bind_ok h
    obtain ⟨findings, hfindings, h⟩ := bind_ok h
    obtain ⟨hclassified, hmap⟩ := classifyAll_iff.mp hfindings
    subst hmap
    obtain ⟨c, hc, h⟩ := bind_ok h
    exact ⟨e, keys, instructions, c, not_not.mp hfinalized, not_not.mp herr, not_lt.mp hcutoff,
      checkEnvelope_iff.mp henvelope, hkeys, hinstructions, hclassified, hc,
      (Except.ok.inj h).symm⟩
  · rintro ⟨e, keys, instructions, c, h⟩
    unfold decodeFinalizedCreate
    rw [if_neg (not_not.mpr h.finalized), if_neg (not_not.mpr h.succeeded),
      if_neg (not_lt.mpr h.cutoff)]
    change (checkEnvelope result reference cutoffSlot >>= _) = _
    rw [checkEnvelope_iff.mpr h.envelope, ok_bind, h.keys_eq, ok_bind, h.instructions_eq, ok_bind,
      classifyAll_iff.mpr ⟨h.classified, rfl⟩, ok_bind, h.decided, h.observed]
    rfl

theorem sameFindings {keys : List String} {instructions instructions' extras : List Dict}
    (hperm : instructions'.Perm (instructions ++ extras))
    (hother : ∀ e ∈ extras, classify keys e = .ok .other) :
    SameFindings (instructions.map (findingOf keys)) (instructions'.map (findingOf keys)) := by
  refine ⟨extras.map (findingOf keys), ?_, ?_⟩
  · intro f hf
    obtain ⟨e, he, rfl⟩ := List.mem_map.mp hf
    rw [findingOf, hother e he]
    rfl
  · rw [← List.map_append]
    exact hperm.map _

variable {extras : List Dict} {result : Dict}

theorem Decoded.remove (h : Insertion extras result) {e : Envelope} {keys : List String}
    {instructions : List Dict} {c : CheckedCreate}
    (hnew : Decoded sha256 h.result' reference cutoffSlot expectedMint observation e keys
      instructions c) :
    (∃ instructions, Decoded sha256 result reference cutoffSlot expectedMint observation
        { e with metaFields := h.shape.metaFields } keys instructions c) ∧
      ∀ x ∈ extras, x.get "data" ≠ .str "" := by
  obtain ⟨hfields, hold⟩ := h.accepted_iff.mp hnew.envelope
  have hinstructions' := hnew.instructions_eq
  rw [hfields] at hinstructions'
  obtain ⟨instructions₀, hinstructions⟩ := h.compiledInstructions_iff.mp ⟨_, hinstructions'⟩
  have hperm := h.compiledInstructions_perm hinstructions hinstructions'
  have hkeys : resolvedKeys result h.shape.metaFields = .ok keys := by
    rw [← h.resolvedKeys_eq, ← hfields]
    exact hnew.keys_eq
  have hdata : ∀ x ∈ extras, x.get "data" ≠ .str "" := by
    intro x hx hempty
    have hread := hnew.classified x (hperm.mem_iff.mpr (List.mem_append_right _ hx))
    exact classify_empty hempty _ hread
  have hother : ∀ x ∈ extras, classify keys x = .ok .other := fun x hx =>
    (h.foreign keys hkeys x hx).classify_other (hdata x hx)
  refine ⟨⟨instructions₀, {
    finalized := hnew.finalized
    succeeded := hnew.succeeded
    cutoff := hnew.cutoff
    envelope := hold
    keys_eq := hkeys
    instructions_eq := hinstructions
    classified := ?_
    decided := ?_
    observed := hnew.observed }⟩, hdata⟩
  · intro i hi
    exact hnew.classified i (hperm.mem_iff.mpr (List.mem_append_left _ hi))
  · rw [← decideCreate_eq (sameFindings hperm hother)]
    exact hnew.decided

theorem Decoded.insert (h : Insertion extras result) {e : Envelope} {keys : List String}
    {instructions : List Dict} {c : CheckedCreate}
    (hold : Decoded sha256 result reference cutoffSlot expectedMint observation e keys
      instructions c) (hdata : ∀ x ∈ extras, x.get "data" ≠ .str "") :
    ∃ instructions, Decoded sha256 h.result' reference cutoffSlot expectedMint observation
      { e with metaFields := h.metaFields } keys instructions c := by
  have hfields : e.metaFields = h.shape.metaFields := by
    have hmeta := hold.envelope.metaFields
    rw [subscript_dict, if_pos (has_of_get h.shape.meta_eq (by simp)), h.shape.meta_eq] at hmeta
    exact (Value.dict.inj (Option.some.inj hmeta)).symm
  have hkeys := hold.keys_eq
  have hinstructions := hold.instructions_eq
  rw [hfields] at hkeys hinstructions
  obtain ⟨instructions', hinstructions'⟩ := h.compiledInstructions_iff.mpr ⟨_, hinstructions⟩
  have hperm := h.compiledInstructions_perm hinstructions hinstructions'
  have hother : ∀ x ∈ extras, classify keys x = .ok .other := fun x hx =>
    (h.foreign keys hkeys x hx).classify_other (hdata x hx)
  refine ⟨instructions', {
    finalized := hold.finalized
    succeeded := hold.succeeded
    cutoff := hold.cutoff
    envelope := h.accepted_iff.mpr ⟨rfl, ?_⟩
    keys_eq := ?_
    instructions_eq := hinstructions'
    classified := ?_
    decided := ?_
    observed := hold.observed }⟩
  · have henvelope := hold.envelope
    rwa [show e = { e with metaFields := h.shape.metaFields } by rw [← hfields]] at henvelope
  · rw [h.resolvedKeys_eq]
    exact hkeys
  · intro i hi
    rcases List.mem_append.mp (hperm.mem_iff.mp hi) with hi | hi
    · exact hold.classified i hi
    · exact classify_findingOf (hother i hi)
  · rw [decideCreate_eq (sameFindings hperm hother)]
    exact hold.decided

/-- With other instructions beside it a transaction is decoded as before where none of them has
empty data, and not at all where one of them has. -/
theorem decode_insertion_iff (h : Insertion extras result) :
    decodeFinalizedCreate sha256 (.dict h.result') reference cutoffSlot expectedMint =
        .ok observation ↔
      decodeFinalizedCreate sha256 (.dict result) reference cutoffSlot expectedMint =
          .ok observation ∧ ∀ x ∈ extras, x.get "data" ≠ .str "" := by
  rw [decodeFinalizedCreate_iff, decodeFinalizedCreate_iff]
  constructor
  · rintro ⟨e, keys, instructions, c, hnew⟩
    obtain ⟨⟨instructions₀, hold⟩, hdata⟩ := hnew.remove h
    exact ⟨⟨_, keys, instructions₀, c, hold⟩, hdata⟩
  · rintro ⟨⟨e, keys, instructions, c, hold⟩, hdata⟩
    obtain ⟨instructions', hnew⟩ := hold.insert h hdata
    exact ⟨_, keys, instructions', c, hnew⟩

end Decoder

/-- Beside an accepted create other instructions leave the observation as it is exactly where none
of them has empty data; they never make a rejected transaction acceptable. -/
theorem unrelated_instructions_iff (sha256 : Bytes → Digest) (reference : SignatureReference)
    (cutoffSlot : ℤ) (expectedMint : Option String) {extras : List Dict} {result : Dict}
    (h : Insertion extras result) :
    (∀ observation, decodeFinalizedCreate sha256 (.dict result) reference cutoffSlot expectedMint =
        .ok observation →
      (decodeFinalizedCreate sha256 (.dict h.result') reference cutoffSlot expectedMint =
          .ok observation ↔ ∀ x ∈ extras, x.get "data" ≠ .str "")) ∧
      ((∀ observation, decodeFinalizedCreate sha256 (.dict result) reference cutoffSlot
          expectedMint ≠ .ok observation) →
        ∀ observation, decodeFinalizedCreate sha256 (.dict h.result') reference cutoffSlot
          expectedMint ≠ .ok observation) := by
  constructor
  · intro observation hold
    rw [decode_insertion_iff h]
    exact and_iff_right hold
  · intro hold observation hnew
    exact hold observation ((decode_insertion_iff h).mp hnew).1

/-! ## An accepted create -/

/-- The keys of a create, and among them its own accounts in their order. -/
def createKeys : List String :=
  ["LbUiWL3xVV8hTFYBVdbTNrpDo41NKS6o3LHHuDzjfcY", mintAuthorityId,
    "5j1jZvtqhNbtaBvQaZDMd4Ko8t1jbudTB1B1P27VxJqn", "GNzgdLCizNgTxCSc3fAFUcYhKiB3Dx8RS2WYPcKHCfjg",
    pumpGlobalId, metadataProgramId, "6jRGZ3TsbBxdfYW1VjXDvotT3FMQcTdSdLdQEZmXo7J4", "user",
    systemProgramId, tokenProgramId, associatedTokenProgramId, rentSysvarId, pumpEventAuthorityId,
    pumpProgramId]

def createItem : Dict :=
  [("programIdIndex", .int 13), ("accounts", .list ((List.range 14).map fun i => .int i)),
    ("data", .str "6nok4qhiSqJHL6Uq55jPnuBcPEEvB4xTHgFGcoaphUXQwGjGuXMjAWSHK6A3mA4nqGtFaPe")]

def createMessage : Dict :=
  [("accountKeys", .list (createKeys.map .str)), ("instructions", .list [.dict createItem])]

def createTransaction : Dict :=
  [("signatures", .list [.str "signature"]), ("message", .dict createMessage)]

def createResult : Dict :=
  [("version", .str "legacy"), ("slot", .int 7), ("blockTime", .int 9),
    ("meta", .dict [("err", .none)]), ("transaction", .dict createTransaction)]

def createReference : SignatureReference where
  signature := "signature"
  slot := 7
  confirmationStatus := "finalized"

/-- An instruction of the system program. -/
def systemItem (raw : Bytes) : Dict :=
  [("programIdIndex", .int 8), ("accounts", .list []), ("data", .str (b58encode raw))]

/-- Behind the create comes an instruction of the system program. -/
def createInsertion (raw : Bytes) (hcreate : ¬createDiscriminator <+: raw)
    (hcreateV2 : ¬createV2Discriminator <+: raw) : Insertion [systemItem raw] createResult where
  shape := {
    transaction := createTransaction
    message := createMessage
    metaFields := [("err", .none)]
    top := [.dict createItem]
    groups := []
    transaction_eq := rfl
    message_eq := rfl
    meta_eq := rfl
    top_eq := rfl
    groups_eq := rfl }
  top := [.dict createItem, .dict (systemItem raw)]
  groups := []
  malformed := .refl _
  items := .refl _
  foreign := by
    intro keys hkeys x hx
    obtain rfl := List.mem_singleton.mp hx
    have hall : resolvedKeys createResult [("err", .none)] = .ok createKeys := by decide +kernel
    obtain rfl := Except.ok.inj (hall.symm.trans hkeys)
    exact ⟨⟨raw, rfl, hcreate, hcreateV2⟩, 8, systemProgramId, rfl, rfl, by decide⟩

def createdLegacy : PumpCreateObservation where
  mint := "LbUiWL3xVV8hTFYBVdbTNrpDo41NKS6o3LHHuDzjfcY"
  bondingCurve := "5j1jZvtqhNbtaBvQaZDMd4Ko8t1jbudTB1B1P27VxJqn"
  associatedBondingCurve := "GNzgdLCizNgTxCSc3fAFUcYhKiB3Dx8RS2WYPcKHCfjg"
  creatorAddress := "LbUiWL3xVV8hTFYBVdbTNrpDo41NKS6o3LHHuDzjfcY"
  signature := "signature"
  slot := 7
  blockTime := 9

theorem decode_createResult :
    decodeFinalizedCreate Python.sha256 (.dict createResult) createReference 7 none =
      .ok createdLegacy := by decide +kernel

/-- An instruction with one byte of data leaves the observation of a create as it is. -/
theorem unrelated_instructions_iff_oneByte :
    decodeFinalizedCreate Python.sha256
      (.dict (createInsertion [2] (by decide) (by decide)).result') createReference 7 none =
      .ok createdLegacy := by
  have hiff := (unrelated_instructions_iff Python.sha256 createReference 7 none
    (createInsertion [2] (by decide) (by decide))).1 createdLegacy decode_createResult
  rw [hiff]
  intro x hx
  obtain rfl := List.mem_singleton.mp hx
  decide

/-- An instruction without data rejects the same create. -/
theorem not_unrelated_emptyData :
    ¬∀ (extras : List Dict) (result : Dict) (h : Insertion extras result) observation,
      decodeFinalizedCreate Python.sha256 (.dict result) createReference 7 none = .ok observation →
      decodeFinalizedCreate Python.sha256 (.dict h.result') createReference 7 none =
        .ok observation := by
  intro hall
  have hnew := hall _ _ (createInsertion [] (by decide) (by decide)) _ decode_createResult
  exact ((decode_insertion_iff _).mp hnew).2 _ (List.mem_singleton.mpr rfl) rfl

end PrinterV1.Sources.Direct
