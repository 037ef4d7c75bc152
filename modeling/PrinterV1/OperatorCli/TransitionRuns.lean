import PrinterV1.Foundation.Runs
import PrinterV1.OperatorCli.CampaignOwnership

/-!
# Runs of state transitions

In every run of `transition_state` on the rows of a kind, changes follow the
kind's table, a terminal row is never touched again, and exactly the terminal
rows have a cause and a time. Asking again for the transition that ended a row
is answered without a change exactly when the cause of that call was given and
was its own stripped text, because the stripped cause is what the row keeps.
-/

namespace PrinterV1.OperatorCli

open Python Runs

variable {σ : Type} {kind : RecordKind} {table : StateTable σ}

/-- The cause and the time of a row are those of its state. -/
def StateRow.CauseConsistent (table : StateTable σ) (r : StateRow σ) : Prop :=
  (r.firstTerminalCause ≠ none ↔ r.state ∈ table.terminalStates) ∧
    (r.terminalAt ≠ none ↔ r.state ∈ table.terminalStates)

/-- The terminal rows are left alone, every column of them. -/
def KeepsEnded (table : StateTable σ) (rows rows' : StateRows σ) : Prop :=
  ∀ r ∈ rows.rows, r.state ∈ table.terminalStates → r ∈ rows'.rows

theorem keepsEnded_refl (rows : StateRows σ) : KeepsEnded table rows rows := fun _ hr _ => hr

theorem keepsEnded_trans (a b c : StateRows σ) (hab : KeepsEnded table a b)
    (hbc : KeepsEnded table b c) : KeepsEnded table a c :=
  fun r hr hended => hbc r (hab r hr hended) hended

/-- The row a call leaves when it ends it. -/
def EndedRow (table : StateTable σ) (c : TransitionCall) (r : StateRow σ) : Prop :=
  r.state ∈ table.terminalStates ∧ table.value r.state = c.newState ∧
    r.firstTerminalCause = some c.strippedCause

/-- A row that a call ended stays as that call left it. -/
theorem find?_of_endedRow {rows rows' : StateRows σ} (hkeep : KeepsEnded table rows rows')
    {identity : String} {c : TransitionCall} {r : StateRow σ} (hfind : rows.find? identity = some r)
    (hended : EndedRow table c r) : rows'.find? identity = some r := by
  obtain ⟨hr, hid⟩ := Table.find?_eq_some_iff.mp hfind
  exact Table.find?_eq_some_iff.mpr ⟨hkeep r hr hended.1, hid⟩

variable [DecidableEq σ]

/-- A move has a cause and a time exactly when it goes to a terminal state. -/
theorem moveTo_ok {target : σ} {c : TransitionCall} {m : Move σ} (h : moveTo table target c = .ok m) :
    m.state = target ∧
      ((target ∈ table.terminalStates ∧ c.strippedCause ≠ "" ∧ m.cause = some c.strippedCause ∧
          m.terminalAt = some c.timestamp) ∨
        (target ∉ table.terminalStates ∧ m.cause = none ∧ m.terminalAt = none)) := by
  unfold moveTo at h
  split_ifs at h with hends hblank hcause
  · obtain rfl := Except.ok.inj h
    exact ⟨rfl, Or.inl ⟨hends, hblank, rfl, rfl⟩⟩
  · obtain rfl := Except.ok.inj h
    exact ⟨rfl, Or.inr ⟨hends, rfl, rfl⟩⟩

/-- A move is planned on an open row in the expected state, to an allowed state. -/
theorem plannedMove_some {row : StateRow σ} {c : TransitionCall} {m : Move σ}
    (h : plannedMove kind table row c = .ok (some m)) :
    row.state ∉ table.terminalStates ∧ table.value row.state = c.expectedState ∧
      (table.allowed row.state).find? (fun s => table.value s = c.newState) = some m.state ∧
      moveTo table m.state c = .ok m := by
  unfold plannedMove at h
  by_cases hterm : row.state ∈ table.terminalStates
  · rw [if_pos hterm] at h
    split_ifs at h
    cases h
  · rw [if_neg hterm] at h
    by_cases hexpected : table.value row.state = c.expectedState
    · rw [if_neg (not_not.mpr hexpected)] at h
      cases hfind : (table.allowed row.state).find? fun s => table.value s = c.newState with
      | none => simp [hfind] at h
      | some target =>
        simp only [hfind] at h
        cases hmove : moveTo table target c with
        | error message => simp [hmove, Except.map] at h
        | ok m' =>
          obtain rfl : m' = m := by simpa [hmove, Except.map] using h
          obtain rfl := (moveTo_ok hmove).1
          exact ⟨hterm, hexpected, rfl, hmove⟩
    · rw [if_pos hexpected] at h
      cases h

theorem plannedMove_allowed {row : StateRow σ} {c : TransitionCall} {m : Move σ}
    (h : plannedMove kind table row c = .ok (some m)) : m.state ∈ table.allowed row.state :=
  List.mem_of_find?_eq_some (plannedMove_some h).2.2.1

/-- On a terminal row nothing is planned, and the answer depends on the cause. -/
theorem plannedMove_terminal (kind : RecordKind) {row : StateRow σ}
    (h : row.state ∈ table.terminalStates)
    (c : TransitionCall) :
    plannedMove kind table row c =
      if table.value row.state = c.newState ∧ row.firstTerminalCause = c.terminalCause then .ok none
      else .error "terminal state and first cause are immutable" := by
  unfold plannedMove
  rw [if_pos h]

/-- What a call does to the table: nothing, or the planned move of its row. -/
theorem afterTransition_cases (kind : RecordKind) (table : StateTable σ) (rows : StateRows σ)
    (c : TransitionCall) :
    afterTransition kind table rows c = rows ∨
    ∃ row m, rows.find? c.identity = some row ∧ plannedMove kind table row c = .ok (some m) ∧
      c.accepted = true ∧ afterTransition kind table rows c = moveUpdate rows c m := by
  unfold afterTransition transitionState
  cases hfind : rows.find? c.identity with
  | none => exact Or.inl rfl
  | some row =>
    cases hplan : plannedMove kind table row c with
    | error message => exact Or.inl (by simp [hplan])
    | ok planned =>
      cases planned with
      | none => exact Or.inl (by simp [hplan])
      | some m =>
        by_cases hacc : c.accepted = true
        · exact Or.inr ⟨row, m, rfl, hplan, hacc, by simp [hplan, hacc]⟩
        · exact Or.inl (by simp [hplan, hacc])

/-- A call that raises leaves the table as it was. -/
theorem afterTransition_of_error {rows : StateRows σ} {c : TransitionCall} {message : String}
    (h : transitionState kind table rows c = .error message) :
    afterTransition kind table rows c = rows := by
  simp [afterTransition, h]

/-- Every row is still there, unmoved or moved along the table. -/
def Follows (table : StateTable σ) (rows rows' : StateRows σ) : Prop :=
  ∀ r ∈ rows.rows, ∃ r' ∈ rows'.rows, r'.identity = r.identity ∧
    (r'.state = r.state ∨ r'.state ∈ table.allowed r.state)

theorem afterTransition_follows (rows : StateRows σ) (c : TransitionCall) :
    Follows table rows (afterTransition kind table rows c) := by
  rcases afterTransition_cases kind table rows c with h | ⟨row, m, hfind, hplan, _, h⟩
  · rw [h]
    exact fun r hr => ⟨r, hr, rfl, Or.inl rfl⟩
  · rw [h]
    intro r hr
    by_cases hk : r.identity = c.identity
    · refine ⟨moveRow m c.timestamp r, Table.mem_updateKey.mpr (Or.inr ⟨r, hr, hk, rfl⟩), rfl, ?_⟩
      have hrow : row = r := by
        rw [Table.find?_eq_some_iff.mpr ⟨hr, hk⟩] at hfind
        exact (Option.some.inj hfind).symm
      exact Or.inr (hrow ▸ plannedMove_allowed hplan)
    · exact ⟨r, Table.mem_updateKey.mpr (Or.inl ⟨hr, hk⟩), rfl, Or.inl rfl⟩

theorem afterTransition_keepsEnded (rows : StateRows σ) (c : TransitionCall) :
    KeepsEnded table rows (afterTransition kind table rows c) := by
  rcases afterTransition_cases kind table rows c with h | ⟨row, m, hfind, hplan, _, h⟩
  · rw [h]
    exact fun r hr _ => hr
  · rw [h]
    intro r hr hended
    refine Table.mem_updateKey.mpr (Or.inl ⟨hr, fun hk => ?_⟩)
    rw [Table.find?_eq_some_iff.mpr ⟨hr, hk⟩] at hfind
    obtain rfl := Option.some.inj hfind
    exact (plannedMove_some hplan).1 hended

theorem afterTransition_causeConsistent {rows : StateRows σ}
    (hrows : ∀ r ∈ rows.rows, r.CauseConsistent table) (c : TransitionCall) :
    ∀ r ∈ (afterTransition kind table rows c).rows, r.CauseConsistent table := by
  rcases afterTransition_cases kind table rows c with h | ⟨row, m, _, hplan, _, h⟩
  · rw [h]
    exact hrows
  · rw [h]
    refine Table.forall_updateWhere hrows fun r _ _ _ => ?_
    rcases (moveTo_ok (plannedMove_some hplan).2.2.2).2 with
      ⟨hs, _, hcause, hat⟩ | ⟨hs, hcause, hat⟩ <;>
      simp [StateRow.CauseConsistent, moveRow, hs, hcause, hat]

/-- The call finds its row open and in the expected state, and takes it to a
terminal state with a cause that is not blank. -/
def Ends (table : StateTable σ) (rows : StateRows σ) (c : TransitionCall) : Prop :=
  ∃ row, rows.find? c.identity = some row ∧ row.state ∉ table.terminalStates ∧
    table.value row.state = c.expectedState ∧
    (∃ target, (table.allowed row.state).find? (fun s => table.value s = c.newState) = some target ∧
      target ∈ table.terminalStates) ∧
    c.strippedCause ≠ "" ∧ c.accepted = true

/-- The call returns with `changed=True` in a terminal state. -/
def Ended (kind : RecordKind) (table : StateTable σ) (rows : StateRows σ) (c : TransitionCall) :
    Prop :=
  ∃ result rows', transitionState kind table rows c = .ok (result, rows') ∧ result.changed = true ∧
    result.currentState ∈ table.terminalStates

theorem plannedMove_of_ends (kind : RecordKind) {row : StateRow σ} {c : TransitionCall} {target : σ}
    (hopen : row.state ∉ table.terminalStates) (hexpected : table.value row.state = c.expectedState)
    (htarget : (table.allowed row.state).find? (fun s => table.value s = c.newState) = some target)
    (hends : target ∈ table.terminalStates) (hblank : c.strippedCause ≠ "") :
    plannedMove kind table row c =
      .ok (some ⟨target, some c.strippedCause, some c.timestamp⟩) := by
  simp [plannedMove, hopen, hexpected, htarget, moveTo, hends, hblank, Except.map]

/-- The calls that end a row, as the arguments and the row decide them. -/
theorem ended_iff_ends {rows : StateRows σ} {c : TransitionCall} :
    Ended kind table rows c ↔ Ends table rows c := by
  constructor
  · intro h
    obtain ⟨result, rows', hok, hchanged, hterm⟩ := h
    unfold transitionState at hok
    cases hfind : rows.find? c.identity with
    | none => simp [hfind] at hok
    | some row =>
      simp only [hfind] at hok
      cases hplan : plannedMove kind table row c with
      | error message => simp [hplan] at hok
      | ok planned =>
        cases planned with
        | none =>
          simp only [hplan, Except.ok.injEq, Prod.mk.injEq] at hok
          rw [← hok.1] at hchanged
          exact absurd hchanged Bool.false_ne_true
        | some m =>
          simp only [hplan] at hok
          by_cases hacc : c.accepted = true
          · simp only [hacc, if_true, Except.ok.injEq, Prod.mk.injEq] at hok
            rw [← hok.1] at hterm
            obtain ⟨hopen, hexpected, htarget, hmove⟩ := plannedMove_some hplan
            rcases (moveTo_ok hmove).2 with ⟨hends, hblank, _⟩ | ⟨hends, _⟩
            · exact ⟨row, hfind, hopen, hexpected, ⟨m.state, htarget, hends⟩, hblank, hacc⟩
            · exact absurd hterm hends
          · simp [hacc] at hok
  · intro h
    obtain ⟨row, hfind, hopen, hexpected, ⟨target, htarget, hends⟩, hblank, hacc⟩ := h
    have hplan := plannedMove_of_ends kind hopen hexpected htarget hends hblank
    let m : Move σ := ⟨target, some c.strippedCause, some c.timestamp⟩
    refine ⟨movedResult c row m, moveUpdate rows c m, ?_, rfl, hends⟩
    simp only [transitionState, hfind, hplan, hacc, if_true]
    rfl

/-- The row as it stands after the call that ended it. -/
theorem find?_after_ends (kind : RecordKind) {rows : StateRows σ} {c : TransitionCall}
    (h : Ends table rows c) :
    ∃ r, (afterTransition kind table rows c).find? c.identity = some r ∧ EndedRow table c r := by
  obtain ⟨row, hfind, hopen, hexpected, ⟨target, htarget, hends⟩, hblank, hacc⟩ := h
  have hplan := plannedMove_of_ends kind hopen hexpected htarget hends hblank
  have hvalue : table.value target = c.newState := by simpa using List.find?_some htarget
  refine ⟨moveRow ⟨target, some c.strippedCause, some c.timestamp⟩ c.timestamp row, ?_, hends,
    hvalue, rfl⟩
  simp [afterTransition, transitionState, hfind, hplan, hacc, moveUpdate,
    Table.find?_updateKey]

/-- The call is answered without a change. -/
def Replays (kind : RecordKind) (table : StateTable σ) (rows : StateRows σ) (c : TransitionCall) :
    Prop :=
  ∃ result, transitionState kind table rows c = .ok (result, rows) ∧ result.changed = false

/-- The cause is given and is its own stripped text. -/
def TransitionArgs.CauseStripped (a : TransitionArgs) : Prop :=
  ∃ cause, a.terminalCause = some cause ∧ strip cause = cause

instance (a : TransitionArgs) : Decidable a.CauseStripped :=
  match h : a.terminalCause with
  | none => isFalse (by simp [TransitionArgs.CauseStripped, h])
  | some cause =>
    decidable_of_iff (strip cause = cause) (by simp [TransitionArgs.CauseStripped, h])

theorem strippedCause_eq_iff (a : TransitionArgs) :
    some a.strippedCause = a.terminalCause ↔ a.CauseStripped := by
  unfold TransitionArgs.strippedCause TransitionArgs.CauseStripped
  cases a.terminalCause with
  | none => simp
  | some cause => simp

/-- The same request on the row that the call ended. -/
theorem replays_iff_causeStripped {rows : StateRows σ} {c again : TransitionCall} {r : StateRow σ}
    (hargs : again.toTransitionArgs = c.toTransitionArgs) (hfind : rows.find? c.identity = some r)
    (hended : EndedRow table c r) :
    Replays kind table rows again ↔ c.CauseStripped := by
  obtain ⟨hterm, hvalue, hcause⟩ := hended
  have hidentity : again.identity = c.identity := by rw [hargs]
  have hnew : again.newState = c.newState := by rw [hargs]
  have hagain : again.terminalCause = c.terminalCause := by rw [hargs]
  have hplan := plannedMove_terminal kind hterm again
  rw [hvalue, hnew, hcause, hagain] at hplan
  simp only [true_and, strippedCause_eq_iff] at hplan
  by_cases hs : c.CauseStripped
  · rw [if_pos hs] at hplan
    refine iff_of_true ⟨unchangedResult again r, ?_, rfl⟩ hs
    simp only [transitionState, hidentity, hfind, hplan]
  · rw [if_neg hs] at hplan
    refine iff_of_false (fun h => ?_) hs
    obtain ⟨result, hok, _⟩ := h
    simp [transitionState, hidentity, hfind, hplan] at hok

/-- The laws of a run of calls on the rows of a kind. -/
structure LawfulRun (kind : RecordKind) (table : StateTable σ) (start : StateRows σ)
    (xs : List TransitionCall) : Prop where
  follows : ∀ pre c post, xs = pre ++ c :: post →
    Follows table (run (afterTransition kind table) start pre)
      (run (afterTransition kind table) start (pre ++ [c]))
  cause_iff_terminal : ∀ pre, pre <+: xs →
    ∀ r ∈ (run (afterTransition kind table) start pre).rows, r.CauseConsistent table
  terminal_final : Kept (afterTransition kind table) (KeepsEnded table) start xs
  raise_unchanged : ∀ pre c post, xs = pre ++ c :: post → ∀ message,
    transitionState kind table (run (afterTransition kind table) start pre) c = .error message →
      run (afterTransition kind table) start (pre ++ [c]) =
        run (afterTransition kind table) start pre
  replayed : ∀ pre c mid post, xs = pre ++ c :: mid ++ post →
    Ended kind table (run (afterTransition kind table) start pre) c →
      ∀ again : TransitionCall, again.toTransitionArgs = c.toTransitionArgs →
        Replays kind table (run (afterTransition kind table) start (pre ++ c :: mid)) again

/-- The condition on one call: when it ends its row, its cause is given and is
its own stripped text. -/
def EndsWithStrippedCause (table : StateTable σ) (rows : StateRows σ) (c : TransitionCall) : Prop :=
  Ends table rows c → c.CauseStripped

theorem run_keepsEnded (kind : RecordKind) (table : StateTable σ) (start : StateRows σ)
    (xs : List TransitionCall) :
    Kept (afterTransition kind table) (KeepsEnded table) start xs := by
  rw [kept_iff_along keepsEnded_refl keepsEnded_trans]
  exact along_trivial _ (fun rows c => afterTransition_keepsEnded rows c) start xs

/-- The row a call ended, at any later point of the run. -/
theorem find?_later {start : StateRows σ} {pre : List TransitionCall} {c : TransitionCall}
    (mid : List TransitionCall) (h : Ends table (run (afterTransition kind table) start pre) c) :
    ∃ r, (run (afterTransition kind table) start (pre ++ c :: mid)).find? c.identity = some r ∧
      EndedRow table c r := by
  obtain ⟨r, hfind, hended⟩ := find?_after_ends kind h
  have hkeep := run_keepsEnded kind table start (pre ++ c :: mid)
    (pre ++ [c]) mid [] (by simp)
  rw [run_append, run_cons, run_nil] at hkeep
  refine ⟨r, ?_, hended⟩
  have hsplit : pre ++ c :: mid = pre ++ [c] ++ mid := by simp
  rw [hsplit]
  exact find?_of_endedRow hkeep hfind hended

/-- Rows as they are created: in the kind's initial state, with no cause. -/
def Fresh (table : StateTable σ) (rows : StateRows σ) : Prop :=
  ∀ r ∈ rows.rows, r.state = table.initial ∧ r.firstTerminalCause = none ∧ r.terminalAt = none

theorem lawfulRun_iff_along {start : StateRows σ} (hstart : Fresh table start)
    (xs : List TransitionCall) :
    LawfulRun kind table start xs ↔
      Along (afterTransition kind table) (EndsWithStrippedCause table) start xs := by
  rw [along_iff_forall]
  constructor
  · intro h pre c post hcut hends
    have hreplay := h.replayed pre c [] post (by simpa using hcut) (ended_iff_ends.mpr hends) c rfl
    obtain ⟨r, hfind, hended⟩ := find?_later [] hends
    exact (replays_iff_causeStripped rfl hfind hended).mp hreplay
  · intro h
    refine ⟨fun pre c post _ => ?_, fun pre _ => ?_, run_keepsEnded kind table start xs, ?_, ?_⟩
    · rw [run_append]
      exact afterTransition_follows _ c
    · apply invariant (I := fun rows : StateRows σ => ∀ r ∈ rows.rows, r.CauseConsistent table)
      · intro rows c hrows
        exact afterTransition_causeConsistent hrows c
      · intro r hr
        obtain ⟨hinitial, hcause, hat⟩ := hstart r hr
        simp [StateRow.CauseConsistent, hinitial, hcause, hat, table.initial_open]
    · intro pre c post _ message herror
      rw [run_append]
      exact afterTransition_of_error herror
    · intro pre c mid post hcut hended again hargs
      have hends := ended_iff_ends.mp hended
      obtain ⟨r, hfind, hrow⟩ := find?_later mid hends
      have hstripped := h pre c (mid ++ post) (by simpa using hcut) hends
      exact (replays_iff_causeStripped hargs hfind hrow).mpr hstripped

/-- For each kind of record, a run from fresh rows is lawful exactly when every
call that ends a row gives its cause as the row keeps it. -/
theorem lawfulRun_kind_iff (kind : RecordKind) (start : StateRows kind.State)
    (hstart : Fresh kind.table start) (xs : List TransitionCall) :
    LawfulRun kind kind.table start xs ↔
      Along (afterTransition kind kind.table) (EndsWithStrippedCause kind.table) start xs :=
  lawfulRun_iff_along hstart xs

/-- One campaign, as it is created. -/
def draftCampaign : StateRows RunState :=
  Table.empty.insert ⟨"c1", .draft, none, none, "2026-01-01T00:00:00+00:00"⟩ (by simp)

theorem draftCampaign_fresh : Fresh runTable draftCampaign := by
  intro r hr
  rcases Table.mem_insert.mp hr with hold | rfl
  · simp at hold
  · exact ⟨rfl, rfl, rfl⟩

/-- The campaign is blocked for a cause. -/
def blockCall (cause : String) : TransitionCall :=
  { identity := "c1", expectedState := "DRAFT", newState := "TERMINAL_BLOCKED"
    terminalCause := some cause, utcNow := "2026-01-02T00:00:00+00:00", accepted := true }

theorem lawfulRun_kind_campaign :
    LawfulRun .campaign runTable draftCampaign [blockCall "no pool"] :=
  (lawfulRun_kind_iff .campaign draftCampaign draftCampaign_fresh [blockCall "no pool"]).mpr
    ⟨fun _ => ⟨"no pool", rfl, by decide⟩, trivial⟩

theorem paddedCause_not_lawful :
    ¬ LawfulRun .campaign runTable draftCampaign [blockCall " no pool"] := by
  intro h
  have hends : Ends runTable draftCampaign (blockCall " no pool") :=
    ⟨⟨"c1", .draft, none, none, "2026-01-01T00:00:00+00:00"⟩, by decide, by decide, rfl,
      ⟨.terminalBlocked, by decide, by decide⟩, by decide, rfl⟩
  have hended : Ended .campaign runTable draftCampaign (blockCall " no pool") :=
    ended_iff_ends.mpr hends
  have hreplay := h.replayed [] (blockCall " no pool") [] [] rfl hended (blockCall " no pool") rfl
  obtain ⟨r, hfind, hrow⟩ := find?_after_ends .campaign hends
  have hstripped := (replays_iff_causeStripped rfl hfind hrow).mp hreplay
  exact absurd hstripped (by decide)

end PrinterV1.OperatorCli
