import PrinterV1.Sources.SixUnitExactness

/-!
# What passes through the wrapper

The wrapper of the ingestion catches the faults of the accounting. An exception
of the language passes through it: the overflow of an infinite float, the hash
of a list, a number that is no number in the no-work contract, an integer too long
to be written as a text. This module says on which evidence one does, check by check
in the order they are made.
-/

namespace PrinterV1.Sources

open Python Faults

/-- The fault is none of the accounting's own. -/
def Fault.Foreign : Fault → Prop
  | .sixUnit _ => False
  | _ => True

@[simp] theorem foreign_sixUnit (e : CampaignSixUnitError) : ¬(Fault.sixUnit e).Foreign := id

@[simp] theorem foreign_python (e : PyError) : (Fault.python e).Foreign := trivial

variable (R : Value.Rendering)

/-! ## The evidence an exception escapes on -/

/-- The identity fields of an operation are hashable and not those of one before it. -/
def FreshIdentity (seen : List (List Value)) (entries : Dict) : Prop :=
  (∀ v ∈ rawKey entries, v.hashable = true) ∧
    seen.any (fun k => Value.pyEqList (rawKey entries) k) = false

/-- An operation the reconstruction takes. -/
def OperationSound (seen : List (List Value)) (entries : Dict) : Prop :=
  FreshIdentity seen entries ∧ ∃ bytes rows,
    (entries.get "response_bytes").toIntOrZero R = .ok bytes ∧
    (entries.get "normalized_rows").toIntOrZero R = .ok rows ∧ 0 ≤ bytes ∧ 0 ≤ rows

/-- An identity field is a list or a mapping, or a measure is infinite. -/
def OperationEscapes (seen : List (List Value)) (entries : Dict) : Prop :=
  (∃ v ∈ rawKey entries, v.hashable = false) ∨
    FreshIdentity seen entries ∧
      ((entries.get "response_bytes").isInf = true ∨
        (∃ bytes, (entries.get "response_bytes").toIntOrZero R = .ok bytes) ∧
          (entries.get "normalized_rows").isInf = true)

def OperationsSound : List (List Value) → List Value → Prop
  | _, [] => True
  | seen, raw :: rest => ∃ entries, raw = .dict entries ∧ OperationSound R seen entries ∧
      OperationsSound (rawKey entries :: seen) rest

/-- The first operation that is not sound escapes. -/
def OperationsEscape : List (List Value) → List Value → Prop
  | _, [] => False
  | seen, raw :: rest => ∃ entries, raw = .dict entries ∧
      (OperationEscapes R seen entries ∨
        OperationSound R seen entries ∧ OperationsEscape (rawKey entries :: seen) rest)

def CountersSound (entries : Dict) : Prop :=
  ∃ validations work reservations,
    (entries.get "local_validations").toIntOrZero R = .ok validations ∧
    (entries.get "scheduler_work_items").toIntOrZero R = .ok work ∧
    (entries.get "lifecycle_reservations").toIntOrZero R = .ok reservations ∧
    0 ≤ validations ∧ 0 ≤ work ∧ 0 ≤ reservations

/-- A counter is infinite, the ones before it being numbers. -/
def CountersEscape (entries : Dict) : Prop :=
  (entries.get "local_validations").isInf = true ∨
    (∃ n, (entries.get "local_validations").toIntOrZero R = .ok n) ∧
      ((entries.get "scheduler_work_items").isInf = true ∨
        (∃ n, (entries.get "scheduler_work_items").toIntOrZero R = .ok n) ∧
          (entries.get "lifecycle_reservations").isInf = true)

def EvidenceSound (entries : Dict) : Prop :=
  ∃ raws, operationsOf entries = some raws ∧ OperationsSound R [] raws ∧ CountersSound R entries

def EvidenceEscapes (entries : Dict) : Prop :=
  ∃ raws, operationsOf entries = some raws ∧
    (OperationsEscape R [] raws ∨ OperationsSound R [] raws ∧ CountersEscape R entries)

/-- The field has a text that is not blank. -/
def TextSound (entries : Dict) (field : String) : Prop :=
  (entries.get field).overlong = false ∧ strip ((entries.get field).textOrEmpty R) ≠ ""

/-- One of the fields is too long, the ones before it being sound. -/
def TextsEscape (entries : Dict) : List String → Prop
  | [] => False
  | field :: rest => (entries.get field).overlong = true ∨
      TextSound R entries field ∧ TextsEscape entries rest

/-- The fields of a sealed stage behind its sequence number, in the order they are read. -/
def TerminalEscapes (entries : Dict) : Prop :=
  (entries.get "stage_terminal_status").overlong = true ∨
    TextSound R entries "stage_terminal_status" ∧
      upper (strip ((entries.get "stage_terminal_status").textOrEmpty R)) ∈
        stageTerminalStatuses ∧
      TextsEscape R entries ["sealed_at", "campaign_id", "run_id", "cycle_id"]

/-- The fields of a sealed stage: the sequence number is infinite, or another is too long. -/
def StageEscapes (entries : Dict) : Prop :=
  isSealed entries = true ∧
    ((entries.get "stage_id").overlong = true ∨ TextSound R entries "stage_id" ∧
      ((entries.get "stage_kind").overlong = true ∨ TextSound R entries "stage_kind" ∧
        ((entries.get "stage_sequence").isInf = true ∨
          (∃ n, (entries.get "stage_sequence").toInt R = .ok n ∧ 1 ≤ n) ∧
            TerminalEscapes R entries)))

/-- The evidence names the owner's value, or none; an owner without a value asks for none. -/
def IdentitySound (entries : Dict) (field : String) (ownerValue : Option String) : Prop :=
  ∀ value, ownerValue = some value → entries.get field = .none ∨
    (entries.get field).overlong = false ∧ (entries.get field).text R = value

/-- A name that the owner compares is too long, the ones before it being sound. -/
def IdentitiesEscape (entries : Dict) : List (String × Option String) → Prop
  | [] => False
  | (field, ownerValue) :: rest =>
    ownerValue ≠ none ∧ (entries.get field).overlong = true ∨
      IdentitySound R entries field ownerValue ∧ IdentitiesEscape entries rest

/-- The first evidence says that no work was done, and its count of governor requests is no
number, or its reason is too long. -/
def NoWorkEscapes (owner : CampaignSixUnitOwner) (entries : Dict) : Prop :=
  isPreOperation entries = true ∧ owner.stageEvidenceCount = 0 ∧
    owner.preOperationNoWork = false ∧
    entries.get "source_transport_attempted" = .bool false ∧
    ((∀ n, (entries.get "source_governor_requests").toIntOrZero R ≠ .ok n) ∨
      (entries.get "source_governor_requests").toIntOrZero R = .ok 0 ∧
        entries.get "scheduler_work_exists" = .bool false ∧
        entries.get "lifecycle_began" = .bool false ∧
        (entries.get "no_work_reason").overlong = true)

/-- The texts of an operation that are read before its ordinal. -/
def textsBeforeOrdinal : List String :=
  ["stage", "source_name", "endpoint_owner", "governed_request_kind", "method_or_endpoint"]

/-- The ordinal of an operation is infinite, no text before it is too long, and a ledger takes
the operations before this one. -/
def OrdinalEscapes (entries : Dict) : Prop :=
  ∃ pre raw post ledger, operationsOf entries = some (pre ++ .dict raw :: post) ∧
    pre.foldlM (recordRaw R) MeasuredTransportLedger.empty = .ok ledger ∧
    (∀ field ∈ textsBeforeOrdinal, (Dict.get raw field).overlong = false) ∧
    (Dict.get raw "within_request_ordinal").isInf = true

/-- An exception of the language escapes from the ingestion. -/
def Escapes (owner : CampaignSixUnitOwner) (evidence : Value) : Prop :=
  ∃ entries, readHeader evidence = .ok entries ∧
    (StageEscapes R entries ∨
      ((∃ stage, readStage R owner entries = .ok stage) ∧
        (IdentitiesEscape R entries owner.identities ∨
          checkIdentities R owner entries = .ok () ∧
            (EvidenceEscapes R entries ∨
              (EvidenceSound R entries ∧
                (NoWorkEscapes R owner entries ∨
                  (isPreOperation entries = false ∧ owner.preOperationNoWork = false ∧
                    OrdinalEscapes R entries)))))))

variable {R}

/-! ## Numbers -/

theorem integer_eq_ok {v : Value} {n : ℤ} : integer R v = .ok n ↔ v.toIntOrZero R = .ok n := by
  constructor
  · exact integer_ok
  · intro h
    simp [integer, h]

theorem raises_integer {v : Value} :
    Raises Fault.Foreign (integer R v) ↔ v.isInf = true := by
  rw [← Value.raises_toIntOrZero (R := R)]
  unfold integer
  cases hv : v.toIntOrZero R with
  | ok n => simp
  | error e => cases e <;> simp [PyError.IsOverflow]

theorem raises_mapError_python {α : Type} {x : Except PyError α} :
    Raises Fault.Foreign (x.mapError Fault.python) ↔ ∃ e, x = .error e := by
  cases x <;> simp [Except.mapError]

theorem toTextOrEmpty_error {v : Value} :
    (∃ e, v.toTextOrEmpty R = .error e) ↔ v.overlong = true := by
  simp [error_iff, Value.toTextOrEmpty_ok]

theorem toText_error {v : Value} : (∃ e, v.toText R = .error e) ↔ v.overlong = true := by
  simp [error_iff, Value.toText_ok]

/-- A text that is asked for raises where it is too long, and what follows reads the text. -/
theorem raises_requireNonemptyText {α : Type} {entries : Dict} {field capitals : String}
    {f : String → Except Fault α} :
    Raises Fault.Foreign (requireNonemptyText R entries field capitals >>= f) ↔
      (entries.get field).overlong = true ∨ TextSound R entries field ∧
        Raises Fault.Foreign (f (strip ((entries.get field).textOrEmpty R))) := by
  have hread : requireNonemptyText R entries field capitals =
      ((entries.get field).toTextOrEmpty R).mapError .python >>= fun text =>
        if strip text = "" then .error (.sixUnit (malformed ("MISSING_" ++ capitals)))
        else .ok (strip text) := rfl
  cases htext : (entries.get field).toTextOrEmpty R with
  | error e =>
    have hlong := toTextOrEmpty_error.mp ⟨e, htext⟩
    rw [hread, htext]
    exact iff_of_true ⟨.python e, rfl, trivial⟩ (.inl hlong)
  | ok text =>
    obtain ⟨hshort, rfl⟩ := Value.toTextOrEmpty_ok.mp htext
    rw [hread, htext, Except.mapError, ok_bind, TextSound, hshort]
    by_cases hblank : strip ((entries.get field).textOrEmpty R) = ""
    · simp [hblank, error_bind]
    · simp [hblank, ok_bind]

/-! ## The reconstruction -/

theorem hashFault_eq_none {key : List Value} :
    hashFault key = none ↔ ∀ v ∈ key, v.hashable = true := by
  simp [hashFault]

theorem readEntries_ok {seen : List (List Value)} {entries : Dict} {read : List Value × ℤ × ℤ} :
    readEntries R seen entries = .ok read ↔
      FreshIdentity seen entries ∧ read.1 = rawKey entries ∧
        (entries.get "response_bytes").toIntOrZero R = .ok read.2.1 ∧
        (entries.get "normalized_rows").toIntOrZero R = .ok read.2.2 ∧ 0 ≤ read.2.1 ∧ 0 ≤ read.2.2 := by
  obtain ⟨key, bytes, rows⟩ := read
  constructor
  · intro h
    have hread : readOperation R seen (.dict entries) = .ok (key, bytes, rows) := h
    obtain ⟨_, hraw, hkey, hhash, hb, hr, hb0, hr0⟩ := readOperation_ok hread
    obtain rfl := Value.dict.inj hraw
    refine ⟨⟨?_, ?_⟩, hkey, hb, hr, hb0, hr0⟩
    · rw [hkey] at hhash
      exact hashFault_eq_none.mp hhash
    · apply Bool.eq_false_iff.mpr
      intro hdup
      rw [hkey] at hhash
      simp [readEntries, hhash, hdup] at h
  · rintro ⟨⟨hhash, hdup⟩, rfl, hb, hr, hb0, hr0⟩
    have hsign : ¬(bytes < 0 ∨ rows < 0) := by
      dsimp only at hb0 hr0
      omega
    simp [readEntries, hashFault_eq_none.mpr hhash, hdup, integer_eq_ok.mpr hb,
      integer_eq_ok.mpr hr, hsign, bind, Except.bind]

theorem raises_readEntries {seen : List (List Value)} {entries : Dict} :
    Raises Fault.Foreign (readEntries R seen entries) ↔ OperationEscapes R seen entries := by
  unfold OperationEscapes
  by_cases hhash : ∀ v ∈ rawKey entries, v.hashable = true
  · have hno : ¬∃ v ∈ rawKey entries, v.hashable = false := by
      rintro ⟨v, hv, hf⟩
      rw [hhash v hv] at hf
      cases hf
    unfold readEntries
    simp only [hashFault_eq_none.mpr hhash, hno, false_or]
    by_cases hdup : seen.any (fun k => Value.pyEqList (rawKey entries) k) = true
    · simp [FreshIdentity, hdup]
    · have hdup' : seen.any (fun k => Value.pyEqList (rawKey entries) k) = false := by
        simpa using hdup
      have hfresh : FreshIdentity seen entries := ⟨hhash, hdup'⟩
      rw [if_neg hdup, raises_bind, raises_integer]
      simp only [raises_bind, raises_integer, hfresh, true_and]
      apply or_congr Iff.rfl
      have htail : ∀ bytes rows : ℤ, ¬Raises Fault.Foreign
          (if bytes < 0 ∨ rows < 0 then .error (.sixUnit ⟨"EVIDENCE_NEGATIVE_MEASURE"⟩)
            else .ok (rawKey entries, bytes, rows) : Except Fault (List Value × ℤ × ℤ)) := by
        intro bytes rows
        split_ifs <;> simp
      simp only [htail, and_false, exists_false, or_false, integer_eq_ok, exists_and_right]
  · have hsome : ∃ v ∈ rawKey entries, v.hashable = false := by
      by_contra hno
      apply hhash
      intro v hv
      by_contra hf
      exact hno ⟨v, hv, by simpa using hf⟩
    unfold readEntries
    cases hfault : hashFault (rawKey entries) with
    | none => exact absurd (hashFault_eq_none.mp hfault) hhash
    | some e => simp [hfault, hsome]

theorem readOperation_dict (seen : List (List Value)) (entries : Dict) :
    readOperation R seen (.dict entries) = readEntries R seen entries := rfl

theorem readOperations_ok {raws : List Value} : ∀ {seen : List (List Value)},
    (∃ sums, readOperations R seen raws = .ok sums) ↔ OperationsSound R seen raws := by
  induction raws with
  | nil => intro seen; simp [readOperations, OperationsSound]
  | cons raw raws ih =>
    intro seen
    constructor
    · rintro ⟨sums, h⟩
      simp only [readOperations] at h
      obtain ⟨⟨key, bytes, rows⟩, hop, hrest⟩ := bind_ok h
      obtain ⟨more, hmore, _⟩ := bind_ok hrest
      obtain ⟨entries, rfl, rfl, _⟩ := readOperation_ok hop
      rw [readOperation_dict, readEntries_ok] at hop
      obtain ⟨hfresh, _, hb, hr, hb0, hr0⟩ := hop
      exact ⟨entries, rfl, ⟨hfresh, bytes, rows, hb, hr, hb0, hr0⟩, ih.mp ⟨more, hmore⟩⟩
    · rintro ⟨entries, rfl, ⟨hfresh, bytes, rows, hb, hr, hb0, hr0⟩, hrest⟩
      obtain ⟨more, hmore⟩ := ih.mpr hrest
      have hop : readEntries R seen entries = .ok (rawKey entries, bytes, rows) :=
        readEntries_ok.mpr ⟨hfresh, rfl, hb, hr, hb0, hr0⟩
      refine ⟨(bytes + more.1, rows + more.2), ?_⟩
      simp [readOperations, readOperation_dict, hop, hmore, bind, Except.bind, pure, Except.pure]

theorem raises_readOperations {raws : List Value} : ∀ {seen : List (List Value)},
    Raises Fault.Foreign (readOperations R seen raws) ↔ OperationsEscape R seen raws := by
  induction raws with
  | nil => intro seen; simp [readOperations, OperationsEscape]
  | cons raw raws ih =>
    intro seen
    cases raw with
    | dict entries =>
      simp only [readOperations, OperationsEscape, readOperation_dict, raises_bind,
        raises_readEntries]
      constructor
      · rintro (h | ⟨⟨key, bytes, rows⟩, hop, hrest⟩)
        · exact ⟨entries, rfl, .inl h⟩
        · obtain ⟨hfresh, hkey, hb, hr, hb0, hr0⟩ := readEntries_ok.mp hop
          dsimp only at hkey
          rcases hrest with hmore | ⟨more, _, hpure⟩
          · rw [hkey, ih] at hmore
            exact ⟨entries, rfl, .inr ⟨⟨hfresh, bytes, rows, hb, hr, hb0, hr0⟩, hmore⟩⟩
          · exact absurd hpure (not_raises_ok _)
      · rintro ⟨entries', heq, h⟩
        obtain rfl := Value.dict.inj heq
        rcases h with h | ⟨⟨hfresh, bytes, rows, hb, hr, hb0, hr0⟩, hmore⟩
        · exact .inl h
        · refine .inr ⟨(rawKey entries, bytes, rows), ?_, .inl (ih.mpr hmore)⟩
          exact readEntries_ok.mpr ⟨hfresh, rfl, hb, hr, hb0, hr0⟩
    | _ => simp [readOperations, OperationsEscape, readOperation, bind, Except.bind]

theorem readCounters_ok {entries : Dict} :
    (∃ counters, readCounters R entries = .ok counters) ↔ CountersSound R entries := by
  unfold readCounters CountersSound
  constructor
  · rintro ⟨counters, h⟩
    obtain ⟨v, hv, h⟩ := bind_ok h
    obtain ⟨w, hw, h⟩ := bind_ok h
    obtain ⟨l, hl, h⟩ := bind_ok h
    split_ifs at h with hsign
    exact ⟨v, w, l, integer_ok hv, integer_ok hw, integer_ok hl, by omega, by omega, by omega⟩
  · rintro ⟨v, w, l, hv, hw, hl, hv0, hw0, hl0⟩
    have hsign : ¬(v < 0 ∨ w < 0 ∨ l < 0) := by omega
    refine ⟨(v, w, l), ?_⟩
    simp [integer_eq_ok.mpr hv, integer_eq_ok.mpr hw, integer_eq_ok.mpr hl, hsign, bind,
      Except.bind]

theorem raises_readCounters {entries : Dict} :
    Raises Fault.Foreign (readCounters R entries) ↔ CountersEscape R entries := by
  have htail : ∀ v w l : ℤ, ¬Raises Fault.Foreign
      (if v < 0 ∨ w < 0 ∨ l < 0 then .error (.sixUnit ⟨"EVIDENCE_NEGATIVE_MEASURE"⟩)
        else .ok (v, w, l) : Except Fault (ℤ × ℤ × ℤ)) := by
    intro v w l
    split_ifs <;> simp
  unfold readCounters CountersEscape
  simp only [raises_bind, raises_integer, htail, and_false, exists_false, or_false, integer_eq_ok,
    exists_and_right]

/-- Evidence with the header of the accounting is of a supported kind. -/
theorem reconstructEntries_of_header {evidence : Value} {entries : Dict}
    (h : readHeader evidence = .ok entries) :
    (entries.get "evidence_kind").textOrEmpty R = evidenceKind := by
  obtain rfl := readHeader_ok h
  simp only [readHeader, checkHeader] at h
  split_ifs at h with hempty hkind
  have heq : entries.get "evidence_kind" = .str evidenceKind := by
    by_contra hne
    exact hkind (.inl hne)
  rw [heq]
  simp [Value.textOrEmpty, Value.truthy, Value.text, evidenceKind]

theorem raises_stageTotals {evidence : Value} {entries : Dict}
    (h : readHeader evidence = .ok entries) :
    Raises Fault.Foreign (stageTotals R entries) ↔ EvidenceEscapes R entries := by
  have hstage : Raises Fault.Foreign (stageTotals R entries) ↔
      Raises Fault.Foreign (reconstructEntries R entries) := by
    unfold stageTotals reconstructSixUnitTotalsFromEvidence
    dsimp only
    cases reconstructEntries R entries with
    | ok totals => simp
    | error fault => cases fault <;> simp
  rw [hstage]
  unfold reconstructEntries EvidenceEscapes
  dsimp only
  rw [reconstructEntries_of_header h, if_neg (by simp)]
  cases hops : operationsOf entries with
  | none => simp
  | some raws =>
    simp only [raises_bind, raises_readOperations, raises_readCounters, Option.some.injEq,
      exists_eq_left']
    apply or_congr Iff.rfl
    constructor
    · rintro ⟨sums, hread, hcounters | ⟨counters, _, hpure⟩⟩
      · exact ⟨readOperations_ok.mp ⟨sums, hread⟩, hcounters⟩
      · exact absurd hpure (not_raises_ok _)
    · rintro ⟨hsound, hcounters⟩
      obtain ⟨sums, hread⟩ := readOperations_ok.mpr hsound
      exact ⟨sums, hread, .inl hcounters⟩

theorem stageTotals_ok_iff {evidence : Value} {entries : Dict}
    (h : readHeader evidence = .ok entries) :
    (∃ totals, stageTotals R entries = .ok totals) ↔ EvidenceSound R entries := by
  constructor
  · rintro ⟨totals, htotals⟩
    obtain ⟨raws, bytes, rows, v, w, l, hops, hread, hv, hw, hl, hv0, hw0, hl0, _⟩ :=
      reconstructEntries_ok (stageTotals_ok htotals)
    exact ⟨raws, hops, readOperations_ok.mp ⟨_, hread⟩, v, w, l, hv, hw, hl, hv0, hw0, hl0⟩
  · rintro ⟨raws, hops, hsound, hcounters⟩
    obtain ⟨sums, hread⟩ := readOperations_ok.mpr hsound
    obtain ⟨counters, hcounters⟩ := readCounters_ok.mpr hcounters
    unfold stageTotals reconstructSixUnitTotalsFromEvidence reconstructEntries
    dsimp only
    rw [reconstructEntries_of_header h, if_neg (by simp), hops]
    simp [hread, hcounters, bind, Except.bind, pure, Except.pure]

/-! ## The checks around it -/

theorem raises_readHeader (evidence : Value) : ¬Raises Fault.Foreign (readHeader evidence) := by
  cases evidence with
  | dict entries =>
    simp only [readHeader, checkHeader]
    split_ifs <;> simp
  | _ => simp [readHeader]

theorem raises_readSequence {entries : Dict} :
    Raises Fault.Foreign (readSequence R entries) ↔ (entries.get "stage_sequence").isInf = true := by
  rw [← Value.raises_toInt (R := R)]
  unfold readSequence
  cases hv : (entries.get "stage_sequence").toInt R with
  | ok n =>
    dsimp only
    split_ifs <;> simp
  | error e => cases e <;> simp [PyError.IsOverflow]

theorem readSequence_ok {entries : Dict} :
    (∃ n, readSequence R entries = .ok n) ↔
      ∃ n, (entries.get "stage_sequence").toInt R = .ok n ∧ 1 ≤ n := by
  unfold readSequence
  cases hv : (entries.get "stage_sequence").toInt R with
  | ok n =>
    dsimp only
    split_ifs with hn
    · simp [hn]
    · simp [Int.not_lt.mp hn]
  | error e => cases e <;> simp

theorem raises_checkSealedTail {entries : Dict} :
    Raises Fault.Foreign (checkSealedTail R entries) ↔ TerminalEscapes R entries := by
  unfold checkSealedTail TerminalEscapes
  rw [raises_requireNonemptyText]
  apply or_congr Iff.rfl
  apply and_congr_right
  intro _
  by_cases hstatus : upper (strip ((entries.get "stage_terminal_status").textOrEmpty R)) ∈
      stageTerminalStatuses
  · simp only [hstatus, not_true_eq_false, if_false, true_and, raises_requireNonemptyText,
      not_raises_pure, TextsEscape]
  · simp only [hstatus, not_false_eq_true, if_true, false_and, iff_false]
    rintro ⟨e, he, hforeign⟩
    obtain rfl := Except.error.inj he
    exact hforeign

/-- A stage that was read before is a fault of the accounting. -/
theorem not_raises_duplicate (owner : CampaignSixUnitOwner) (stageId : String) (sequence : ℤ) :
    ¬Raises Fault.Foreign (do
      if stageId ∈ owner.ingestedStageIds then
        throw (.sixUnit ⟨"STAGE_EVIDENCE_DUPLICATE_STAGE_ID:" ++ stageId⟩)
      return some (stageId, sequence) : Except Fault (Option (String × ℤ))) := by
  split_ifs
  · rintro ⟨e, he, hforeign⟩
    obtain rfl := Except.error.inj he
    exact hforeign
  · exact not_raises_pure _

theorem raises_readStage {owner : CampaignSixUnitOwner} {entries : Dict} :
    Raises Fault.Foreign (readStage R owner entries) ↔ StageEscapes R entries := by
  unfold readStage StageEscapes
  by_cases hsealed : isSealed entries = true
  · rw [if_pos hsealed, raises_requireNonemptyText]
    simp only [hsealed, true_and]
    apply or_congr Iff.rfl
    apply and_congr_right
    intro _
    rw [raises_requireNonemptyText]
    apply or_congr Iff.rfl
    apply and_congr_right
    intro _
    rw [raises_bind, raises_readSequence, ← readSequence_ok]
    apply or_congr Iff.rfl
    constructor
    · rintro ⟨sequence, hsequence, h⟩
      rcases raises_bind.mp h with h | ⟨_, _, h⟩
      · exact ⟨⟨sequence, hsequence⟩, raises_checkSealedTail.mp h⟩
      · exact absurd h (not_raises_duplicate owner _ sequence)
    · rintro ⟨⟨sequence, hsequence⟩, h⟩
      exact ⟨sequence, hsequence, raises_bind.mpr (.inl (raises_checkSealedTail.mpr h))⟩
  · rw [if_neg hsealed]
    simp [hsealed]

theorem raises_checkIdentity {entries : Dict} {field : String} {ownerValue : Option String} :
    Raises Fault.Foreign (checkIdentity R entries field ownerValue) ↔
      ownerValue ≠ none ∧ (entries.get field).overlong = true := by
  unfold checkIdentity
  cases ownerValue with
  | none => simp
  | some value =>
    dsimp only
    by_cases hnone : entries.get field = .none
    · simp [hnone, Value.overlong]
    · have htail : ∀ text : String, ¬Raises Fault.Foreign
          (if text ≠ value then .error (.sixUnit ⟨"STAGE_EVIDENCE_IDENTITY_MISMATCH:" ++ field ++
            ":" ++ R.repr (entries.get field) ++ "!=" ++ R.repr (.str value)⟩)
            else .ok () : Except Fault Unit) := by
        intro text
        split_ifs <;> simp
      simp only [if_neg hnone, raises_bind, htail, and_false, exists_false, or_false,
        raises_mapError_python, toText_error, ne_eq, reduceCtorEq, not_false_eq_true, true_and]

theorem checkIdentity_ok {entries : Dict} {field : String} {ownerValue : Option String} :
    checkIdentity R entries field ownerValue = .ok () ↔
      IdentitySound R entries field ownerValue := by
  unfold checkIdentity IdentitySound
  cases ownerValue with
  | none => simp
  | some value =>
    dsimp only
    by_cases hnone : entries.get field = .none
    · simp [hnone]
    · simp only [Option.some.injEq, hnone, if_false, false_or, forall_eq']
      rw [← Value.toText_ok]
      cases htext : (entries.get field).toText R with
      | error e => simp [Except.mapError, error_bind]
      | ok text =>
        rw [Except.mapError, ok_bind]
        by_cases hsame : text = value <;> simp [hsame]

theorem raises_identities {entries : Dict} {identities : List (String × Option String)} :
    Raises Fault.Foreign
        (identities.forM fun identity => checkIdentity R entries identity.1 identity.2) ↔
      IdentitiesEscape R entries identities := by
  induction identities with
  | nil => exact iff_of_false (not_raises_ok ()) id
  | cons identity rest ih =>
    have hcons : ((identity :: rest).forM fun identity =>
        checkIdentity R entries identity.1 identity.2) =
          checkIdentity R entries identity.1 identity.2 >>= fun _ =>
            rest.forM fun identity => checkIdentity R entries identity.1 identity.2 := rfl
    rw [hcons, raises_bind, raises_checkIdentity]
    simp only [IdentitiesEscape, ih, ← checkIdentity_ok]
    apply or_congr Iff.rfl
    constructor
    · rintro ⟨_, hfirst, hrest⟩
      exact ⟨hfirst, hrest⟩
    · rintro ⟨hfirst, hrest⟩
      exact ⟨(), hfirst, hrest⟩

theorem raises_checkPhase {owner : CampaignSixUnitOwner} {entries : Dict} {totals : SixUnitTotals} :
    Raises Fault.Foreign (checkPhase R owner entries totals) ↔ NoWorkEscapes R owner entries := by
  unfold checkPhase NoWorkEscapes
  dsimp only
  by_cases hpre : isPreOperation entries = true
  · rw [if_pos hpre]
    by_cases hfirst : owner.stageEvidenceCount ≠ 0 ∨ owner.preOperationNoWork = true ∨
        entries.get "source_transport_attempted" ≠ .bool false
    · rw [if_pos hfirst]
      have hno : ¬(owner.stageEvidenceCount = 0 ∧ owner.preOperationNoWork = false ∧
          entries.get "source_transport_attempted" = .bool false) := by
        rintro ⟨hcount, hwork, hattempt⟩
        rcases hfirst with h | h | h
        · exact h hcount
        · rw [hwork] at h
          cases h
        · exact h hattempt
      constructor
      · simp
      · rintro ⟨_, hcount, hwork, hattempt, _⟩
        exact absurd ⟨hcount, hwork, hattempt⟩ hno
    · rw [if_neg hfirst]
      push Not at hfirst
      obtain ⟨hcount, hwork, hattempt⟩ := hfirst
      simp only [hpre, hcount, hattempt, Bool.eq_false_iff.mpr hwork, true_and]
      cases hreq : (entries.get "source_governor_requests").toIntOrZero R with
      | error e => simp
      | ok requests =>
        have hnumber : ¬∀ n, (Except.ok requests : Except PyError ℤ) ≠ .ok n :=
          fun h => h requests rfl
        simp only [hnumber, false_or, Except.ok.injEq]
        by_cases hopen : requests ≠ 0 ∨ entries.get "scheduler_work_exists" ≠ .bool false ∨
            entries.get "lifecycle_began" ≠ .bool false
        · rw [if_pos hopen]
          refine iff_of_false (by simp) ?_
          rintro ⟨hrequests, hwork, hbegan, _⟩
          rcases hopen with h | h | h
          · exact h hrequests
          · exact h hwork
          · exact h hbegan
        · rw [if_neg hopen]
          push Not at hopen
          simp only [hopen, true_and]
          rw [← toTextOrEmpty_error (R := R)]
          cases (entries.get "no_work_reason").toTextOrEmpty R with
          | error e => simp
          | ok reason =>
            dsimp only
            split_ifs <;> simp
  · rw [if_neg hpre]
    simp only [hpre, Bool.false_eq_true, false_and, iff_false]
    split_ifs <;> simp

/-- Evidence of no work has no operation. -/
theorem operations_eq_nil_of_preOperation {owner : CampaignSixUnitOwner} {entries : Dict}
    {totals : SixUnitTotals} (hpre : isPreOperation entries = true)
    (hphase : checkPhase R owner entries totals = .ok ())
    (htotals : stageTotals R entries = .ok totals) : operationsOf entries = some [] := by
  obtain ⟨raws, bytes, rows, v, w, l, hops, _, _, _, _, _, _, _, rfl⟩ :=
    reconstructEntries_ok (stageTotals_ok htotals)
  unfold checkPhase at hphase
  dsimp only at hphase
  rw [if_pos hpre] at hphase
  split_ifs at hphase with hfirst
  cases hreq : (entries.get "source_governor_requests").toIntOrZero R with
  | error e => simp [hreq] at hphase
  | ok requests =>
    simp only [hreq] at hphase
    split_ifs at hphase with hopen
    cases hreason : (entries.get "no_work_reason").toTextOrEmpty R with
    | error e => simp [hreason] at hphase
    | ok reason =>
      simp only [hreason] at hphase
      split_ifs at hphase with hrest
      have hzero : raws.length = 0 := by
        by_contra hlen
        apply hrest
        right
        simp [SixUnitTotals.values, hlen]
      rw [hops, List.length_eq_zero_iff.mp hzero]

/-! ## The ledger of the stage -/

/-- Where its measures can be read, an operation overflows at its ordinal, if no text before
that is too long. -/
theorem raises_readIdentity {entries : Dict} {bytes rows : ℤ}
    (hb : (entries.get "response_bytes").toIntOrZero R = .ok bytes)
    (hr : (entries.get "normalized_rows").toIntOrZero R = .ok rows) :
    Raises PyError.IsOverflow (readIdentity R entries) ↔
      (∀ field ∈ textsBeforeOrdinal, (entries.get field).overlong = false) ∧
        (entries.get "within_request_ordinal").isInf = true := by
  have hoptional : ∀ v : Value, ¬Raises PyError.IsOverflow (optionalText R v) := by
    intro v
    unfold optionalText
    split_ifs
    · exact not_raises_ok _
    · rw [raises_map]
      exact Value.raises_toText v
  have hresult : ∀ v : Value, ¬Raises PyError.IsOverflow (resultText R v) := by
    intro v
    unfold resultText
    split_ifs
    · exact Value.raises_toText v
    · exact not_raises_ok _
  have htext : ∀ v : Value, (∃ a, v.toTextOrEmpty R = .ok a) ↔ v.overlong = false := by
    intro v
    simp [Value.toTextOrEmpty_ok]
  unfold readIdentity
  simp only [raises_bind, Value.raises_toTextOrEmpty, Value.raises_toIntOrZero, false_or, hb, hr,
    hoptional, hresult, not_raises_pure, and_false, exists_false, or_false, exists_and_right,
    htext]
  simp [textsBeforeOrdinal, and_assoc]

theorem raises_recordRaw {seen : List (List Value)} {ledger : MeasuredTransportLedger}
    {entries : Dict} (h : OperationSound R seen entries) :
    Raises Fault.Foreign (recordRaw R ledger (.dict entries)) ↔
      (∀ field ∈ textsBeforeOrdinal, (entries.get field).overlong = false) ∧
        (entries.get "within_request_ordinal").isInf = true := by
  obtain ⟨_, bytes, rows, hb, hr, _, _⟩ := h
  rw [← raises_readIdentity hb hr]
  unfold recordRaw
  dsimp only
  cases hid : readIdentity R entries with
  | error e => cases e <;> simp [PyError.IsOverflow]
  | ok identity =>
    dsimp only
    cases ledger.recordTransport identity <;> simp

theorem operationsSound_cut {pre : List Value} : ∀ {seen : List (List Value)} {raw : Value}
    {post : List Value}, OperationsSound R seen (pre ++ raw :: post) →
      ∃ seen' entries, raw = .dict entries ∧ OperationSound R seen' entries := by
  induction pre with
  | nil =>
    intro seen raw post h
    obtain ⟨entries, hraw, hsound, _⟩ := h
    exact ⟨seen, entries, hraw, hsound⟩
  | cons first pre ih =>
    intro seen raw post h
    obtain ⟨entries, _, _, hrest⟩ := h
    exact ih hrest

theorem raises_stageLedger {entries : Dict} (h : EvidenceSound R entries) :
    Raises Fault.Foreign (stageLedger R entries ((operationsOf entries).getD [])) ↔
      OrdinalEscapes R entries := by
  obtain ⟨raws, hops, hsound, v, w, l, hv, hw, hl, hv0, hw0, hl0⟩ := h
  unfold stageLedger OrdinalEscapes
  rw [hops, Option.getD_some, raises_bind, raises_foldlM]
  simp only [recordCounters_ok hv hw hl hv0 hw0 hl0, not_raises_ok, and_false, exists_false,
    or_false, Option.some.injEq]
  constructor
  · rintro ⟨pre, raw, post, ledger, rfl, hpre, hraw⟩
    obtain ⟨seen, items, rfl, hop⟩ := operationsSound_cut hsound
    exact ⟨pre, items, post, ledger, rfl, hpre, (raises_recordRaw hop).mp hraw⟩
  · rintro ⟨pre, items, post, ledger, rfl, hpre, hinf⟩
    obtain ⟨seen, items', heq, hop⟩ := operationsSound_cut hsound
    obtain rfl := Value.dict.inj heq
    exact ⟨pre, .dict items, post, ledger, rfl, hpre, (raises_recordRaw hop).mpr hinf⟩

theorem raises_combine (ledger stage : MeasuredTransportLedger) :
    ¬Raises Fault.Foreign (combine ledger stage) := by
  unfold combine
  cases ledger.extend stage with
  | ok combined => simp
  | error e =>
    dsimp only
    split_ifs <;> simp

/-! ## The whole ingestion -/

/-- Past the reconstruction, an exception escapes from the contract of no work or
from the ordinal of an operation. -/
theorem raises_past_totals {owner : CampaignSixUnitOwner} {entries : Dict}
    {stage : Option (String × ℤ)} {totals : SixUnitTotals} (hsound : EvidenceSound R entries)
    (htotals : stageTotals R entries = .ok totals) :
    Raises Fault.Foreign (do
        checkPhase R owner entries totals
        let staged ← stageLedger R entries ((operationsOf entries).getD [])
        let ledger ← combine owner.ledger staged
        return commitStage R owner entries stage totals ledger) ↔
      NoWorkEscapes R owner entries ∨
        (isPreOperation entries = false ∧ owner.preOperationNoWork = false ∧
          OrdinalEscapes R entries) := by
  have hcommit : ∀ staged : MeasuredTransportLedger, ¬Raises Fault.Foreign (do
      let ledger ← combine owner.ledger staged
      return commitStage R owner entries stage totals ledger) := by
    intro staged
    simp only [raises_bind, raises_combine, not_raises_pure, and_false, exists_false, false_or,
      not_false_eq_true]
  rw [raises_bind, raises_checkPhase]
  apply or_congr Iff.rfl
  simp only [raises_bind (x := stageLedger _ _ _), hcommit, and_false, exists_false, or_false,
    raises_stageLedger hsound]
  constructor
  · rintro ⟨_, hphase, hord⟩
    by_cases hpre : isPreOperation entries = true
    · obtain ⟨pre, raw, post, _, hops, _⟩ := hord
      rw [operations_eq_nil_of_preOperation hpre hphase htotals] at hops
      simp at hops
    · have hpre' : isPreOperation entries = false := by simpa using hpre
      refine ⟨hpre', ?_, hord⟩
      by_contra hwork
      have hwork' : owner.preOperationNoWork = true := by simpa using hwork
      simp [checkPhase, hpre', hwork'] at hphase
  · rintro ⟨hpre, hwork, hord⟩
    exact ⟨(), by simp [checkPhase, hpre, hwork], hord⟩

/-- An exception escapes from the ingestion exactly on this evidence. -/
theorem raises_ingestStageEvidenceImpl {owner : CampaignSixUnitOwner} {evidence : Value} :
    Raises Fault.Foreign (ingestStageEvidenceImpl R owner evidence) ↔ Escapes R owner evidence := by
  unfold ingestStageEvidenceImpl Escapes
  rw [raises_bind]
  simp only [raises_readHeader, false_or]
  apply exists_congr
  intro entries
  apply and_congr_right
  intro hheader
  rw [raises_bind, raises_readStage]
  apply or_congr Iff.rfl
  have hids : Raises Fault.Foreign (checkIdentities R owner entries) ↔
      IdentitiesEscape R entries owner.identities := raises_identities
  have htail : ∀ stage, Raises Fault.Foreign (do
      let totals ← stageTotals R entries
      checkPhase R owner entries totals
      let staged ← stageLedger R entries ((operationsOf entries).getD [])
      let ledger ← combine owner.ledger staged
      return commitStage R owner entries stage totals ledger) ↔
        EvidenceEscapes R entries ∨ EvidenceSound R entries ∧
          (NoWorkEscapes R owner entries ∨ isPreOperation entries = false ∧
            owner.preOperationNoWork = false ∧ OrdinalEscapes R entries) := by
    intro stage
    rw [raises_bind, raises_stageTotals hheader]
    apply or_congr Iff.rfl
    constructor
    · rintro ⟨totals, htotals, h⟩
      have hsound := (stageTotals_ok_iff hheader).mp ⟨totals, htotals⟩
      exact ⟨hsound, (raises_past_totals hsound htotals).mp h⟩
    · rintro ⟨hsound, h⟩
      obtain ⟨totals, htotals⟩ := (stageTotals_ok_iff hheader).mpr hsound
      exact ⟨totals, htotals, (raises_past_totals hsound htotals).mpr h⟩
  simp only [raises_bind (x := checkIdentities _ _ _), hids, htail]
  constructor
  · rintro ⟨stage, hstage, h⟩
    refine ⟨⟨stage, hstage⟩, ?_⟩
    rcases h with h | ⟨_, hpassed, h⟩
    · exact .inl h
    · exact .inr ⟨hpassed, h⟩
  · rintro ⟨⟨stage, hstage⟩, h⟩
    refine ⟨stage, hstage, ?_⟩
    rcases h with h | ⟨hpassed, h⟩
    · exact .inl h
    · exact .inr ⟨(), hpassed, h⟩

end PrinterV1.Sources
