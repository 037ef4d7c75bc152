import PrinterV1.Sources.MintInstructions

/-!
# Exact initialisation of a mint

What it takes for an instruction to initialise a mint: it states its program and its
first account, by name where it is parsed and by the index of an account key where it
is compiled. Every such instruction is found.
-/

namespace PrinterV1.Sources.TokenAge

open Python Faults

/-- The account key at an index, counted from the front. -/
def exactKey (accountKeys : List String) : Value → Option String
  | .int n => if 0 ≤ n then accountKeys[n.toNat]? else none
  | _ => none

/-- A compiled instruction that initialises the mint. -/
structure CompiledInit (accountKeys : List String) (programId tokenMint : String)
    (instruction : Dict) : Prop where
  compiled : ∀ parsed, instruction.get "parsed" ≠ .dict parsed
  program : exactKey accountKeys (instruction.get "programIdIndex") = some programId
  account : ∃ index rest, instruction.get "accounts" = .list (index :: rest) ∧
    exactKey accountKeys index = some tokenMint
  opcode : ∃ type, opcodeType (instruction.get "data") = some type

/-- A parsed instruction that initialises the mint. -/
structure ParsedInit (programId tokenMint : String) (instruction parsed : Dict) : Prop where
  isParsed : instruction.get "parsed" = .dict parsed
  program : instruction.get "programId" = .str programId
  type : ∃ type ∈ initMintInstructionTypes, parsed.get "type" = .str type
  account : ∃ info : Dict, parsed.get "info" = .dict info ∧ info.get "mint" = .str tokenMint
  named : tokenMint ≠ ""

/-- The instruction initialises the mint, by the program. -/
def Initialises (accountKeys : List String) (programId tokenMint : String) (v : Value) : Prop :=
  ∃ instruction, v = .dict instruction ∧
    (CompiledInit accountKeys programId tokenMint instruction ∨
      ∃ parsed, ParsedInit programId tokenMint instruction parsed)

theorem exactKey_int {accountKeys : List String} {v : Value} {key : String}
    (h : exactKey accountKeys v = some key) :
    ∃ n : ℤ, v = .int n ∧ 0 ≤ n ∧ accountKeys[n.toNat]? = some key := by
  cases v with
  | int n =>
    by_cases hn : 0 ≤ n
    · exact ⟨n, rfl, hn, by simpa [exactKey, hn] using h⟩
    · simp [exactKey, hn] at h
  | _ => cases h

theorem keyAt_of_exactKey {R : Value.Rendering} {accountKeys : List String} {v : Value}
    {key : String} (h : exactKey accountKeys v = some key) :
    keyAt R accountKeys v = .ok (some key) := by
  obtain ⟨n, rfl, hn, hkey⟩ := exactKey_int h
  simp [keyAt, Value.toInt, pyIndex, hn, hkey]

/-- A key that is there holds what is read under it. -/
theorem has_of_get_ne_none {entries : Dict} {key : String} (h : entries.get key ≠ .none) :
    entries.has key = true := by
  by_contra hno
  exact h (Dict.get_of_not_has (by simpa using hno))

section Found

variable {R : Value.Rendering} {accountKeys : List String} {programId tokenMint : String}
  {instruction parsed : Dict}

theorem CompiledInit.compiledKeys
    (h : CompiledInit accountKeys programId tokenMint instruction) :
    compiledKeys R instruction accountKeys = .ok (some (programId, tokenMint)) := by
  obtain ⟨index, rest, haccounts, hindex⟩ := h.account
  obtain ⟨n, hprogram, -, -⟩ := exactKey_int h.program
  have hhas : instruction.has "programIdIndex" = true := has_of_get_ne_none (by simp [hprogram])
  have hhas' : instruction.has "accounts" = true := has_of_get_ne_none (by simp [haccounts])
  have hfirst : firstAccountIndex instruction = some index := by
    simp [firstAccountIndex, hhas', haccounts, iterate]
  rw [TokenAge.compiledKeys, if_pos hhas, keyAt_of_exactKey h.program, ok_bind]
  simp only [hfirst, keyAt_of_exactKey hindex, ok_bind]
  rfl

theorem CompiledInit.found (h : CompiledInit accountKeys programId tokenMint instruction)
    (hallowed : programId ∈ allowedTokenPrograms) :
    ∃ found, isInitMintInstruction R instruction tokenMint accountKeys = .ok (some found) := by
  obtain ⟨type, htype⟩ := h.opcode
  have hcompiled : isInitMintInstruction R instruction tokenMint accountKeys =
      matchCompiled R instruction tokenMint accountKeys := by
    unfold isInitMintInstruction
    split
    · exact absurd ‹_› (h.compiled _)
    · rfl
  refine ⟨(type, programLabel programId), ?_⟩
  rw [hcompiled, matchCompiled, h.compiledKeys, ok_bind]
  simp only [htype, hallowed, not_true_eq_false, ne_eq, or_self, if_false]
  rfl

theorem ParsedInit.found (h : ParsedInit programId tokenMint instruction parsed)
    (hallowed : programId ∈ allowedTokenPrograms) :
    ∃ found, isInitMintInstruction R instruction tokenMint accountKeys = .ok (some found) := by
  obtain ⟨type, hknown, htype⟩ := h.type
  obtain ⟨info, hinfo, hmint⟩ := h.account
  have hprogram : parsedProgram instruction = .ok (some programId) := by
    have hne : programId ≠ "" := by
      rintro rfl
      exact absurd hallowed (by decide)
    simp [parsedProgram, h.program, orEmpty, Value.truthy, hne, memTexts, hallowed, ok_bind,
      pure, Except.pure]
  have htypeOr : orEmpty (parsed.get "type") = .str type := by
    have hne : type ≠ "" := by
      rintro rfl
      exact absurd hknown (by decide)
    simp [htype, orEmpty, Value.truthy, hne]
  have hinfoOr : mappingOr (parsed.get "info") = .ok info := by
    have hne : info ≠ [] := by
      rintro rfl
      simp [Dict.get] at hmint
    simp [hinfo, mappingOr, Value.truthy, hne]
  have hmintOr : parsedMint info = .str tokenMint := by
    simp [parsedMint, hmint, Value.truthy, h.named]
  refine ⟨(type, programLabel programId), ?_⟩
  have hparsed : isInitMintInstruction R instruction tokenMint accountKeys =
      matchParsed instruction parsed tokenMint := by
    simp only [isInitMintInstruction, h.isParsed]
  rw [hparsed, matchParsed, hprogram, ok_bind]
  simp [htypeOr, hinfoOr, hmintOr, memTexts, hknown, ok_bind, pure, Except.pure]

end Found

section Matches

variable (R : Value.Rendering) (tokenMint : String) (accountKeys : List String)

/-- What an instruction is matched as. -/
def matchOf : Value → Option (String × String)
  | .dict instruction =>
    (isInitMintInstruction R instruction tokenMint accountKeys).toOption.join
  | _ => none

variable {R tokenMint accountKeys}

theorem matchOf_of_initialises {programId : String} {v : Value}
    (h : Initialises accountKeys programId tokenMint v)
    (hallowed : programId ∈ allowedTokenPrograms) : matchOf R tokenMint accountKeys v ≠ none := by
  obtain ⟨instruction, rfl, hexact⟩ := h
  have hfound :
      ∃ found, isInitMintInstruction R instruction tokenMint accountKeys = .ok (some found) := by
    rcases hexact with hcompiled | ⟨parsed, hparsed⟩
    · exact hcompiled.found hallowed
    · exact hparsed.found hallowed
  obtain ⟨found, hfound⟩ := hfound
  simp [matchOf, hfound, Except.toOption]

/-- The loop over the instructions collects the matches. -/
theorem initMatches_ok {instructions : List Value} {found : List (String × String)}
    (h : initMatches R tokenMint accountKeys instructions = .ok (some found)) :
    found = instructions.filterMap (matchOf R tokenMint accountKeys) := by
  induction instructions generalizing found with
  | nil =>
    obtain rfl := Option.some.inj (Except.ok.inj h)
    rfl
  | cons v instructions ih =>
    cases v with
    | dict instruction =>
      rw [initMatches] at h
      obtain ⟨first, hfirst, h⟩ := bind_ok h
      obtain ⟨rest, hrest, h⟩ := bind_ok h
      obtain ⟨others, rfl, hfound⟩ := Option.map_eq_some_iff.mp (Except.ok.inj h)
      have hmatch : matchOf R tokenMint accountKeys (.dict instruction) = first := by
        simp [matchOf, hfirst, Except.toOption]
      rw [List.filterMap_cons, hmatch, ← hfound, ih hrest]
      cases first <;> rfl
    | _ => simp [initMatches] at h

theorem transactionInitMatches_ok {tx : Dict} {found : List (String × String)}
    (h : transactionInitMatches R tx tokenMint = .ok (some found)) :
    ∃ accountKeys instructions, resolveTransaction R tx = .ok (some (accountKeys, instructions)) ∧
      found = instructions.filterMap (matchOf R tokenMint accountKeys) := by
  obtain ⟨resolved, hresolved, h⟩ := bind_ok h
  match resolved, hresolved, h with
  | some (accountKeys, instructions), hresolved, h =>
    exact ⟨accountKeys, instructions, hresolved, initMatches_ok h⟩

/-- Of instructions with one match, those that are matched are one. -/
theorem eq_of_one_match {instructions : List Value} {found : String × String} {v w : Value}
    (h : instructions.filterMap (matchOf R tokenMint accountKeys) = [found])
    (hv : v ∈ instructions) (hw : w ∈ instructions)
    (hmv : matchOf R tokenMint accountKeys v ≠ none)
    (hmw : matchOf R tokenMint accountKeys w ≠ none) : v = w := by
  obtain ⟨before, x, after, rfl, hbefore, -, hafter⟩ := List.filterMap_eq_cons_iff.mp h
  rw [List.filterMap_eq_nil_iff] at hafter
  have hx : ∀ y ∈ before ++ x :: after, matchOf R tokenMint accountKeys y ≠ none → y = x := by
    intro y hy hmatch
    rcases List.mem_append.mp hy with hy | hy
    · exact absurd (hbefore y hy) hmatch
    · rcases List.mem_cons.mp hy with rfl | hy
      · rfl
      · exact absurd (hafter y hy) hmatch
  rw [hx v hv hmv, hx w hw hmw]

end Matches

end PrinterV1.Sources.TokenAge
