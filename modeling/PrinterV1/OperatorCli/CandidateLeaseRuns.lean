import PrinterV1.OperatorCli.CandidateLeaseCalls

/-!
# Runs and cancellations beside each other

In every state that runs and cancellations reach, whatever their clocks say and
wherever one comes between the transactions of another, the table of leases
stands for a register that allows the trace.
-/

namespace PrinterV1.OperatorCli.CandidateLease

open Python Faults

/-! ## The place of a run -/

/-- The row of the run has been entered. -/
def Pc.Entered : Pc → Prop
  | .start | .rejected => False
  | _ => True

/-- The run is not done, and no lease was entered for it. -/
def Pc.Unleased : Pc → Prop
  | .authorized | .refused | .settledRefused => True
  | _ => False

/-- The run took a lease, and will give it back. -/
def Pc.Leased : Pc → Prop
  | .holding | .settledHolding => True
  | _ => False

/-- What the tables hold of a run. -/
structure Place (db : Db) (a : RunArgs) (pc : Pc) : Prop where
  entered : pc.Entered → ∃ i ∈ db.integrations.rows, i.integrationId = a.integrationId ∧
    i.executionId = a.executionId
  unleased : pc.Unleased → ∀ l ∈ db.leases.rows, l.integrationId ≠ a.integrationId
  waiting : pc.Unleased → ∃ i ∈ db.integrations.rows, i.integrationId = a.integrationId ∧
    i.ending = none
  leased : pc.Leased → ∃ l ∈ db.leases.rows, l.leaseId = a.leaseId ∧
    l.integrationId = a.integrationId
  finished : pc = .done → ∃ i ∈ db.integrations.rows, i.integrationId = a.integrationId ∧
    i.ending ≠ none

section Place

variable {touched : String → Prop} {db db' : Db} {a : RunArgs} {pc pc' : Pc}

theorem entered_of_unleased (h : pc.Unleased) : pc.Entered := by
  cases pc with
  | authorized | refused | settledRefused => trivial
  | _ => exact False.elim h

theorem Place.frame (h : Place db a pc) (hframe : Frame touched db db')
    (hother : pc.Unleased → ¬touched a.integrationId) : Place db' a pc := by
  constructor
  · exact fun hpc => hframe.entered (h.entered hpc)
  · intro hpc l hl hid
    rcases hframe.newLeases l hl with htouched | ⟨m, hm, hmid⟩
    · exact hother hpc (hid ▸ htouched)
    · exact h.unleased hpc m hm (hmid.trans hid)
  · intro hpc
    obtain ⟨i, hi, hid, hopen⟩ := h.waiting hpc
    rcases hframe.others i hi with hi' | htouched | ⟨l, hl, hlid⟩
    · exact ⟨i, hi', hid, hopen⟩
    · exact absurd (hid ▸ htouched) (hother hpc)
    · exact absurd (hlid.trans hid) (h.unleased hpc l hl)
  · intro hpc
    obtain ⟨l, hl, hkey, hid⟩ := h.leased hpc
    obtain ⟨l', hl', hkey', hid', -⟩ := hframe.leases l hl
    exact ⟨l', hl', hkey'.trans hkey, hid'.trans hid⟩
  · intro hpc
    obtain ⟨i, hi, hid, hended⟩ := h.finished hpc
    exact ⟨i, hframe.endedIntegrations i hi hended, hid, hended⟩

/-- A place that asks for no more. -/
theorem Place.weaken (h : Place db a pc) (hentered : pc'.Entered → pc.Entered)
    (hunleased : pc'.Unleased → pc.Unleased) (hleased : pc'.Leased → pc.Leased)
    (hfinished : pc' = .done → pc = .done) : Place db a pc' :=
  ⟨fun hpc => h.entered (hentered hpc), fun hpc => h.unleased (hunleased hpc),
    fun hpc => h.waiting (hunleased hpc), fun hpc => h.leased (hleased hpc),
    fun hpc => h.finished (hfinished hpc)⟩

/-- A place behind everything that is asked for but the row. -/
theorem Place.raised (h : Place db a pc) (hpc : pc.Entered) : Place db a .raised where
  entered _ := h.entered hpc
  unleased h := nomatch h
  waiting h := nomatch h
  leased h := nomatch h
  finished h := nomatch h

theorem place_outside (hpc : ¬pc.Entered) : Place db a pc := by
  cases pc with
  | start | rejected =>
    exact ⟨False.elim, False.elim, False.elim, False.elim, fun h => nomatch h⟩
  | _ => exact absurd trivial hpc

theorem place_afterError (h : Place db a pc) : Place db a (System.afterError pc) := by
  cases pc with
  | start => exact place_outside id
  | authorized =>
    exact h.weaken (fun _ => trivial) (fun _ => trivial) False.elim fun h => nomatch h
  | rejected | holding | done => exact h
  | refused | settledHolding | settledRefused | raised => exact h.raised trivial

theorem entered_of_afterError (h : (System.afterError pc).Entered) : pc.Entered := by
  cases pc with
  | start | rejected => exact h
  | _ => trivial

end Place

/-! ## What every step keeps -/

variable {ι κ : Type*} {calls : ι → RunArgs}

structure Inv (calls : ι → RunArgs) (s : System ι κ) : Prop where
  place : ∀ run, Place s.db (calls run) (s.pc run)
  distinct : ∀ run run', (s.pc run).Entered → (s.pc run').Entered →
    (calls run).integrationId = (calls run').integrationId → run = run'
  pending : ∀ client call, s.pending client = some call →
    ∃ l ∈ s.db.leases.rows, l.executionId = call.executionId
  coupled : Coupled s.db
  register : ∃ r, Leases.Register.start.accepts s.trace = some r ∧ Represents s.db.leases r

theorem inv_begin : Inv calls (System.begin : System ι κ) where
  place _ := place_outside id
  distinct _ _ := False.elim
  pending _ _ h := nomatch h
  coupled l hl := by simp [System.begin, Db.empty] at hl
  register := ⟨_, rfl, represents_empty⟩

/-- What a step leads to, and what it leaves alone. -/
structure Next (calls : ι → RunArgs) (s s' : System ι κ) : Prop where
  inv : Inv calls s'
  frame : Frame (fun _ => True) s.db s'.db

variable {s : System ι κ} {run : ι} {touched : String → Prop}
  {result : Except Fault (Db × List Event)} {db' : Db} {es : List Event}

/-- A transaction that was committed, with the runs where they are then. -/
theorem Inv.commit (h : Inv calls s) (hsound : Sound touched s.db result)
    (hresult : result = .ok (db', es)) {pc : ι → Pc} {pending : κ → Option CancelCall}
    (hplace : ∀ run, Place db' (calls run) (pc run))
    (hdistinct : ∀ run run', (pc run).Entered → (pc run').Entered →
      (calls run).integrationId = (calls run').integrationId → run = run')
    (hpending : ∀ client call, pending client = some call → s.pending client = some call) :
    Inv calls (⟨db', pc, pending, s.trace ++ es⟩ : System ι κ) where
  place := hplace
  distinct := hdistinct
  pending client call hcall := by
    obtain ⟨l, hl, hexec⟩ := h.pending client call (hpending client call hcall)
    obtain ⟨l', hl', -, -, hexec'⟩ := (hsound.frame db' es hresult).leases l hl
    exact ⟨l', hl', hexec'.trans hexec⟩
  coupled := hsound.coupled db' es hresult
  register := by
    obtain ⟨r, haccepts, hr⟩ := h.register
    obtain ⟨r', haccepts', hr'⟩ := hsound.represents r hr db' es hresult
    exact ⟨r', (Leases.accepts_append_of_some haccepts es).trans haccepts', hr'⟩

theorem Inv.stay (h : Inv calls s) : Next calls s s := ⟨h, Frame.refl _⟩

variable [DecidableEq ι]

/-- A run moves and the tables stay. -/
theorem Inv.move (h : Inv calls s) {pc : Pc} (hplace : Place s.db (calls run) pc)
    (hentered : pc.Entered → (s.pc run).Entered) :
    Inv calls { s with pc := Function.update s.pc run pc } := by
  have hback : ∀ run', (Function.update s.pc run pc run').Entered → (s.pc run').Entered := by
    intro run'
    rcases eq_or_ne run' run with rfl | hne
    · rw [Function.update_self]
      exact hentered
    · rw [Function.update_of_ne hne]
      exact id
  refine ⟨fun run' => ?_, fun run₁ run₂ h₁ h₂ => h.distinct run₁ run₂ (hback _ h₁) (hback _ h₂),
    h.pending, h.coupled, h.register⟩
  change Place s.db (calls run') (Function.update s.pc run pc run')
  rcases eq_or_ne run' run with rfl | hne
  · rw [Function.update_self]
    exact hplace
  · rw [Function.update_of_ne hne]
    exact h.place run'

/-- A run takes a step that was committed or that raised. -/
theorem Inv.perform (h : Inv calls s) {onOk onError : Pc} (hsound : Sound touched s.db result)
    (hothers : ∀ run', run' ≠ run → (s.pc run').Unleased → ¬touched (calls run').integrationId)
    (hok : ∀ db' es, result = .ok (db', es) → Place db' (calls run) onOk)
    (hnew : ∀ db' es, result = .ok (db', es) → ∀ run', run' ≠ run → (s.pc run').Entered →
      (calls run').integrationId ≠ (calls run).integrationId)
    (herror : Place s.db (calls run) onError)
    (hentered : onError.Entered → (s.pc run).Entered) :
    Next calls s (s.perform run result onOk onError) := by
  cases hresult : result with
  | error e => exact ⟨h.move herror hentered, Frame.refl _⟩
  | ok p =>
    obtain ⟨db', es⟩ := p
    refine ⟨h.commit hsound hresult (fun run' => ?_) (fun run₁ run₂ h₁ h₂ heq => ?_) fun _ _ => id,
      (hsound.frame db' es hresult).mono fun _ _ => trivial⟩
    · rcases eq_or_ne run' run with rfl | hne
      · rw [Function.update_self]
        exact hok db' es hresult
      · rw [Function.update_of_ne hne]
        exact (h.place run').frame (hsound.frame db' es hresult) (hothers run' hne)
    · rcases eq_or_ne run₁ run with hrun₁ | hne₁ <;> rcases eq_or_ne run₂ run with hrun₂ | hne₂
      · exact hrun₁.trans hrun₂.symm
      · subst hrun₁
        rw [Function.update_of_ne hne₂] at h₂
        exact absurd heq.symm (hnew db' es hresult run₂ hne₂ h₂)
      · subst hrun₂
        rw [Function.update_of_ne hne₁] at h₁
        exact absurd heq (hnew db' es hresult run₁ hne₁ h₁)
      · rw [Function.update_of_ne hne₁] at h₁
        rw [Function.update_of_ne hne₂] at h₂
        exact h.distinct run₁ run₂ h₁ h₂ heq

/-- The step of a run whose row has been entered. -/
theorem Inv.perform_entered (h : Inv calls s) {onOk onError : Pc} (hpc : (s.pc run).Entered)
    (hsound : Sound (fun k => k = (calls run).integrationId) s.db result)
    (hok : ∀ db' es, result = .ok (db', es) → Place db' (calls run) onOk)
    (herror : Place s.db (calls run) onError) :
    Next calls s (s.perform run result onOk onError) := by
  have hother : ∀ run', run' ≠ run → (s.pc run').Entered →
      (calls run').integrationId ≠ (calls run).integrationId :=
    fun run' hne hpc' heq => hne (h.distinct run' run hpc' hpc heq)
  exact h.perform hsound (fun run' hne hpc' => hother run' hne (entered_of_unleased hpc')) hok
    (fun _ _ _ => hother) herror fun _ => hpc

/-! ## The steps -/

/-- The row that was just entered is of an integration nobody knows. -/
theorem place_authorize {db : Db} {a : RunArgs} {now : String}
    (h : authorize db a now = .ok db') : Place db' a .authorized := by
  obtain ⟨hfresh, hints, hleases⟩ := insertIntegration_ok h
  constructor
  · intro _
    exact ⟨_, hints ▸ Table.mem_insert.mpr (Or.inr rfl), rfl, rfl⟩
  · intro _ l hl hid
    obtain ⟨i, hi, hid'⟩ := db.constraints.references l (hleases ▸ hl)
    exact hfresh i hi (hid'.trans hid)
  · intro _
    exact ⟨_, hints ▸ Table.mem_insert.mpr (Or.inr rfl), rfl, rfl⟩
  · exact False.elim
  · exact fun h => nomatch h

theorem Inv.authorize (h : Inv calls s) (now : String) :
    Next calls s (s.perform run (System.quiet (authorize s.db (calls run) now)) .authorized
      .rejected) := by
  refine h.perform (@sound_authorize (fun _ => False) _ _ h.coupled now) (fun _ _ _ => id)
    (fun db' es hresult => place_authorize (quiet_ok hresult).1)
    (fun db' es hresult run' _ hpc' => ?_) (place_outside id) False.elim
  obtain ⟨i, hi, hid, -⟩ := (h.place run').entered hpc'
  obtain ⟨hfresh, -⟩ := insertIntegration_ok (quiet_ok hresult).1
  exact fun heq => hfresh i hi (hid.trans heq)

theorem Inv.acquire (h : Inv calls s) (hpc : s.pc run = .authorized) (now : String)
    (leaseSeconds : ℤ) :
    Next calls s (s.perform run (acquireLease s.db (calls run) now leaseSeconds) .holding
      .refused) := by
  have hplace : Place s.db (calls run) .authorized := hpc ▸ h.place run
  have hsound := @sound_acquireLease (fun k => k = (calls run).integrationId) _ _ h.coupled
    rfl (hplace.entered trivial) now leaseSeconds
  refine h.perform_entered (by rw [hpc]; trivial) hsound (fun db' es hresult => ?_)
    (hplace.weaken (fun _ => trivial) (fun _ => trivial) False.elim fun h => nomatch h)
  obtain ⟨cleared, expiry, leased, -, -, hleased, hrunning, -⟩ := acquireLease_cases hresult
  obtain ⟨hfresh, -, hleases⟩ := insertLease_ok hleased
  constructor
  · exact fun _ => (hsound.frame db' es hresult).entered (hplace.entered trivial)
  · exact False.elim
  · exact False.elim
  · intro _
    refine ⟨(calls run).lease now expiry, ?_, rfl, rfl⟩
    rw [(updateIntegrations_ok hrunning).2.2, hleases]
    exact Table.mem_insert.mpr (Or.inr rfl)
  · exact fun h => nomatch h

theorem Inv.renew (h : Inv calls s) (hpc : s.pc run = .holding) (now : String)
    (leaseSeconds : ℤ) :
    Next calls s (s.perform run (renewLease s.db (calls run) now leaseSeconds) .holding
      .holding) := by
  have hplace : Place s.db (calls run) .holding := hpc ▸ h.place run
  have hsound := @sound_renewLease (fun k => k = (calls run).integrationId) _ (calls run)
    h.coupled now leaseSeconds
  exact h.perform_entered (by rw [hpc]; trivial) hsound
    (fun db' es hresult => hplace.frame (hsound.frame db' es hresult) False.elim) hplace

/-- The counters are written behind the lease, and behind its refusal. -/
theorem Inv.settle (h : Inv calls s) {pc : Pc} (now : String)
    (hpc : (s.pc run = .holding ∧ pc = .settledHolding) ∨
      (s.pc run = .refused ∧ pc = .settledRefused)) :
    Next calls s (s.perform run (System.quiet (settle s.db (calls run) now)) pc .raised) := by
  have hsound := @sound_settle (fun k => k = (calls run).integrationId) _ (calls run)
    h.coupled rfl now
  have hentered : (s.pc run).Entered := by
    rcases hpc with ⟨hpc, -⟩ | ⟨hpc, -⟩ <;> rw [hpc] <;> trivial
  refine h.perform_entered hentered hsound (fun db' es hresult => ?_)
    ((h.place run).raised hentered)
  have hleases : db'.leases = s.db.leases := (updateIntegrations_ok (quiet_ok hresult).1).2.2
  have hframe := hsound.frame db' es hresult
  rcases hpc with ⟨hpc, rfl⟩ | ⟨hpc, rfl⟩
  · have hplace : Place s.db (calls run) .holding := hpc ▸ h.place run
    exact (hplace.frame hframe False.elim).weaken (fun _ => trivial) False.elim
      (fun _ => trivial) fun h => nomatch h
  · have hplace : Place s.db (calls run) .refused := hpc ▸ h.place run
    constructor
    · exact fun _ => hframe.entered (hplace.entered trivial)
    · exact fun _ l hl => hplace.unleased trivial l (hleases ▸ hl)
    · intro _
      obtain ⟨j, hj, hjid, hopen⟩ := hplace.waiting trivial
      refine ⟨(touchIntegration now).apply j, ?_, hjid, hopen⟩
      rw [(updateIntegrations_ok (quiet_ok hresult).1).2.1]
      exact Table.mem_updateWhere_iff.mpr (Or.inr ⟨j, hj, decide_eq_true hjid, rfl⟩)
    · exact False.elim
    · exact fun h => nomatch h

/-- The integration of a run has ended behind the last of its transactions. -/
theorem ended_terminalizeUnleased {db : Db} {a : RunArgs} {ending : Ending}
    (h : terminalizeUnleased db a ending = .ok db')
    (hentered : ∃ i ∈ db.integrations.rows, i.integrationId = a.integrationId) :
    ∃ i ∈ db'.integrations.rows, i.integrationId = a.integrationId ∧ i.ending ≠ none := by
  obtain ⟨i, hi, hid⟩ := hentered
  obtain ⟨-, hints, -⟩ := updateIntegrations_ok h
  by_cases hopen : i.ending = none
  · refine ⟨(endIntegration ending).apply i, ?_, hid, Option.some_ne_none ending⟩
    rw [hints]
    refine Table.mem_updateWhere_iff.mpr (Or.inr ⟨i, hi, ?_, rfl⟩)
    rw [decide_eq_true hid, hopen]
    rfl
  · refine ⟨i, ?_, hid, hopen⟩
    rw [hints]
    refine Table.mem_updateWhere_iff.mpr (Or.inl ⟨hi, ?_⟩)
    rw [Bool.and_eq_false_iff, Option.isNone_eq_false_iff, Option.isSome_iff_ne_none]
    exact Or.inr hopen

theorem place_done {db : Db} {a : RunArgs} {pc : Pc} {ending : Ending} (h : Place db a pc)
    (hpc : pc.Entered) (hframe : Frame touched db db')
    (hended : terminalizeUnleased db a ending = .ok db' ∨ ∃ mid,
      db.updateLeases (fun r => r.leaseId = a.leaseId) (endLease ending) = .ok mid ∧
      terminalizeUnleased mid a ending = .ok db') : Place db' a .done := by
  obtain ⟨i, hi, hid, -⟩ := h.entered hpc
  refine ⟨fun _ => hframe.entered (h.entered hpc), False.elim, False.elim, False.elim,
    fun _ => ?_⟩
  rcases hended with hended | ⟨mid, hmid, hended⟩
  · exact ended_terminalizeUnleased hended ⟨i, hi, hid⟩
  · exact ended_terminalizeUnleased hended ⟨i, (updateLeases_ok hmid).2.1.symm ▸ hi, hid⟩

theorem Inv.release (h : Inv calls s) (hpc : s.pc run = .settledHolding) (ending : Ending) :
    Next calls s (s.perform run (releaseLease s.db (calls run) ending) .done .raised) := by
  have hplace : Place s.db (calls run) .settledHolding := hpc ▸ h.place run
  have hsound := @sound_releaseLease (fun k => k = (calls run).integrationId) _ _ h.coupled
    rfl (hplace.leased trivial) ending
  refine h.perform_entered (by rw [hpc]; trivial) hsound (fun db' es hresult => ?_)
    (hplace.raised trivial)
  obtain ⟨l, hl, hkey, ⟨-, -, released, hreleased, hended⟩ | ⟨-, -, hended⟩⟩ :=
    releaseLease_cases hresult
  · rw [hkey] at hreleased
    exact place_done hplace trivial (hsound.frame db' es hresult)
      (Or.inr ⟨released, hreleased, hended⟩)
  · exact place_done hplace trivial (hsound.frame db' es hresult) (Or.inl hended)

theorem Inv.terminalize (h : Inv calls s) (hpc : s.pc run = .settledRefused) (ending : Ending) :
    Next calls s (s.perform run (System.quiet (terminalizeUnleased s.db (calls run) ending)) .done
      .raised) := by
  have hplace : Place s.db (calls run) .settledRefused := hpc ▸ h.place run
  have hsound := @sound_terminalizeUnleased (fun k => k = (calls run).integrationId) _ _
    h.coupled rfl ending fun l hl hid => absurd hid (hplace.unleased trivial l hl)
  exact h.perform_entered (by rw [hpc]; trivial) hsound
    (fun db' es hresult => place_done hplace trivial (hsound.frame db' es hresult)
      (Or.inl (quiet_ok hresult).1)) (hplace.raised trivial)

variable [DecidableEq κ]

theorem Inv.readCancellation (h : Inv calls s) (client : κ) (call : CancelCall) :
    Next calls s (s.step calls (.readCancellation client call)) := by
  refine ⟨⟨h.place, h.distinct, fun client' call' hcall => ?_, h.coupled, h.register⟩, Frame.refl _⟩
  change Function.update s.pending client _ client' = some call' at hcall
  rcases eq_or_ne client' client with rfl | hne
  · rw [Function.update_self] at hcall
    split_ifs at hcall with hread
    obtain rfl := Option.some.inj hcall
    unfold CandidateLease.readCancellation at hread
    cases hfind : s.db.leases.rows.find? fun r => r.executionId = call.executionId with
    | none =>
      rw [hfind] at hread
      cases hread
    | some l => exact ⟨l, List.mem_of_find?_eq_some hfind, by simpa using List.find?_some hfind⟩
  · rw [Function.update_of_ne hne] at hcall
    exact h.pending client' call' hcall

theorem Inv.writeCancellation (h : Inv calls s) (client : κ) :
    Next calls s (s.step calls (.writeCancellation client)) := by
  cases hcall : s.pending client with
  | none => simpa only [System.step, hcall] using h.stay
  | some call =>
    simp only [System.step, hcall]
    have hback : ∀ client' call', Function.update s.pending client none client' = some call' →
        s.pending client' = some call' := by
      intro client' call' h'
      rcases eq_or_ne client' client with rfl | hne
      · rw [Function.update_self] at h'
        cases h'
      · rwa [Function.update_of_ne hne] at h'
    have hsound := @sound_writeCancellation (fun _ => False) _ _ h.coupled
      (h.pending client call hcall)
    cases hresult : CandidateLease.writeCancellation s.db call with
    | error e =>
      simp only [System.commit]
      exact ⟨⟨h.place, h.distinct, fun client' call' h' => h.pending client' call' (hback _ _ h'),
        h.coupled, h.register⟩, Frame.refl _⟩
    | ok p =>
      exact ⟨h.commit hsound hresult
        (fun run => (h.place run).frame (hsound.frame _ _ hresult) fun _ => id) h.distinct hback,
        (hsound.frame _ _ hresult).mono fun _ _ => trivial⟩

/-- One case for each input; a run that is not at the step stays. -/
theorem next_step (h : Inv calls s) (x : Input ι κ) : Next calls s (s.step calls x) := by
  cases x with
  | authorize run now =>
    by_cases hpc : s.pc run = .start
    · simpa only [System.step, if_pos hpc] using h.authorize now
    · simpa only [System.step, if_neg hpc] using h.stay
  | acquire run now leaseSeconds =>
    by_cases hpc : s.pc run = .authorized
    · simpa only [System.step, if_pos hpc] using h.acquire hpc now leaseSeconds
    · simpa only [System.step, if_neg hpc] using h.stay
  | renew run now leaseSeconds =>
    by_cases hpc : s.pc run = .holding
    · simpa only [System.step, if_pos hpc] using h.renew hpc now leaseSeconds
    · simpa only [System.step, if_neg hpc] using h.stay
  | settle run now =>
    by_cases hholding : s.pc run = .holding
    · simpa only [System.step, if_pos hholding] using h.settle now (Or.inl ⟨hholding, rfl⟩)
    · by_cases hrefused : s.pc run = .refused
      · simpa only [System.step, if_neg hholding, if_pos hrefused] using
          h.settle now (Or.inr ⟨hrefused, rfl⟩)
      · simpa only [System.step, if_neg hholding, if_neg hrefused] using h.stay
  | finish run ending =>
    by_cases hholding : s.pc run = .settledHolding
    · simpa only [System.step, if_pos hholding] using h.release hholding ending
    · by_cases hrefused : s.pc run = .settledRefused
      · simpa only [System.step, if_neg hholding, if_pos hrefused] using
          h.terminalize hrefused ending
      · simpa only [System.step, if_neg hholding, if_neg hrefused] using h.stay
  | fail run => exact ⟨h.move (place_afterError (h.place run)) entered_of_afterError, Frame.refl _⟩
  | readCancellation client call => exact h.readCancellation client call
  | writeCancellation client => exact h.writeCancellation client

omit [DecidableEq κ] in
/-- A transaction of a run that is not done moves no run that is. -/
theorem done_perform {run' : ι} (hpc : s.pc run ≠ .done) (hdone : s.pc run' = .done)
    (onOk onError : Pc) : (s.perform run result onOk onError).pc run' = .done := by
  have hne : run' ≠ run := by
    rintro rfl
    exact hpc hdone
  exact (Function.update_of_ne hne _ _).trans hdone

theorem done_step {run : ι} (hdone : s.pc run = .done) (x : Input ι κ) :
    (s.step calls x).pc run = .done := by
  cases x with
  | authorize run' _ | acquire run' _ _ | renew run' _ _ =>
    dsimp only [System.step]
    split_ifs with hpc
    · exact done_perform (by rw [hpc]; decide) hdone _ _
    · exact hdone
  | settle run' _ | finish run' _ =>
    dsimp only [System.step]
    split_ifs with hpc hpc
    · exact done_perform (by rw [hpc]; decide) hdone _ _
    · exact done_perform (by rw [hpc]; decide) hdone _ _
    · exact hdone
  | fail run' =>
    rcases eq_or_ne run run' with rfl | hne
    · exact (Function.update_self _ _ _).trans (congrArg System.afterError hdone)
    · exact (Function.update_of_ne hne _ _).trans hdone
  | readCancellation _ _ => exact hdone
  | writeCancellation client =>
    cases hcall : s.pending client with
    | none => simpa only [System.step, hcall] using hdone
    | some call =>
      simp only [System.step, hcall]
      cases CandidateLease.writeCancellation s.db call <;> exact hdone

omit [DecidableEq κ] in
theorem released_perform {leaseId : String} {onOk onError : Pc}
    (h : .released leaseId ∈ (s.perform run result onOk onError).trace) :
    .released leaseId ∈ s.trace ∨ ∃ db' es, result = .ok (db', es) ∧ .released leaseId ∈ es := by
  cases result with
  | error e => exact .inl h
  | ok p => exact (List.mem_append.mp h).imp_right fun hmem => ⟨p.1, p.2, rfl, hmem⟩

omit [DecidableEq κ] in
theorem released_of_perform {leaseId : String} {onOk onError : Pc}
    (hnot : ∀ db' es, result = .ok (db', es) → .released leaseId ∉ es)
    (h : .released leaseId ∈ (s.perform run result onOk onError).trace) :
    .released leaseId ∈ s.trace := by
  rcases released_perform h with hold | ⟨db', es, hresult, hnew⟩
  · exact hold
  · exact absurd hnew (hnot db' es hresult)

theorem not_released_quiet {result : Except Fault Db} {leaseId : String}
    (h : System.quiet result = .ok (db', es)) : .released leaseId ∉ es := by
  rw [(quiet_ok h).2]
  exact List.not_mem_nil

theorem not_released_acquireLease {db : Db} {a : RunArgs} {now : String} {leaseSeconds : ℤ}
    {leaseId : String} (h : acquireLease db a now leaseSeconds = .ok (db', es)) :
    .released leaseId ∉ es := by
  obtain ⟨cleared, expiry, leased, hcleared, -, -, -, rfl⟩ := acquireLease_cases h
  rcases clearExpired_cases hcleared with ⟨-, -, hes⟩ | ⟨l, -, -, expiry', instant, -, -, -, -, hes⟩
  · simp [hes]
  · simp [hes]

theorem not_released_renewLease {db : Db} {a : RunArgs} {now : String} {leaseSeconds : ℤ}
    {leaseId : String} (h : renewLease db a now leaseSeconds = .ok (db', es)) :
    .released leaseId ∉ es := by
  obtain ⟨l, -, -, -, next, -, -, rfl⟩ := renewLease_cases h
  simp

theorem not_released_writeCancellation {db : Db} {call : CancelCall} {leaseId : String}
    (h : CandidateLease.writeCancellation db call = .ok (db', es)) : .released leaseId ∉ es := by
  obtain ⟨stopped, -, h⟩ := bind_ok h
  obtain ⟨stopping, -, h⟩ := bind_ok h
  obtain ⟨-, rfl⟩ := Prod.mk.inj (Except.ok.inj h)
  simp

/-- The run is done, and the lease was entered for it. -/
def System.DoneWith (calls : ι → RunArgs) (s : System ι κ) (run : ι) (leaseId : String) : Prop :=
  s.pc run = .done ∧
    ∃ l ∈ s.db.leases.rows, l.leaseId = leaseId ∧ l.integrationId = (calls run).integrationId

theorem System.DoneWith.step {leaseId : String} (h : Inv calls s) (hs : s.DoneWith calls run leaseId)
    (x : Input ι κ) : (s.step calls x).DoneWith calls run leaseId := by
  obtain ⟨hdone, l, hl, hkey, hid⟩ := hs
  obtain ⟨l', hl', hkey', hid', -⟩ := (next_step h x).frame.leases l hl
  exact ⟨done_step hdone x, l', hl', hkey'.trans hkey, hid'.trans hid⟩

/-- A lease is released by the step with which its run is done. -/
theorem released_step (h : Inv calls s) (x : Input ι κ) {leaseId : String}
    (hmem : .released leaseId ∈ (s.step calls x).trace) :
    .released leaseId ∈ s.trace ∨ ∃ run, (s.step calls x).DoneWith calls run leaseId := by
  have hframe := (next_step h x).frame
  cases x with
  | authorize run now =>
    dsimp only [System.step] at hmem
    split_ifs at hmem
    · exact .inl (released_of_perform (fun _ _ => not_released_quiet) hmem)
    · exact .inl hmem
  | acquire run now leaseSeconds =>
    dsimp only [System.step] at hmem
    split_ifs at hmem
    · exact .inl (released_of_perform (fun _ _ => not_released_acquireLease) hmem)
    · exact .inl hmem
  | renew run now leaseSeconds =>
    dsimp only [System.step] at hmem
    split_ifs at hmem
    · exact .inl (released_of_perform (fun _ _ => not_released_renewLease) hmem)
    · exact .inl hmem
  | settle run now =>
    dsimp only [System.step] at hmem
    split_ifs at hmem
    · exact .inl (released_of_perform (fun _ _ => not_released_quiet) hmem)
    · exact .inl (released_of_perform (fun _ _ => not_released_quiet) hmem)
    · exact .inl hmem
  | finish run ending =>
    dsimp only [System.step] at hmem hframe ⊢
    split_ifs at hmem hframe ⊢ with hholding hrefused
    · rcases released_perform hmem with hold | ⟨db', es, hresult, hnew⟩
      · exact .inl hold
      · obtain ⟨l, hl, hkey, ⟨-, rfl, -⟩ | ⟨-, rfl, -⟩⟩ := releaseLease_cases hresult
        · obtain ⟨own, hown, hownkey, hownid⟩ := (h.place run).leased (by rw [hholding]; trivial)
          obtain rfl := s.db.leases.eq_of_key hl hown (hkey.trans hownkey.symm)
          obtain ⟨l', hl', hkey', hid', -⟩ := hframe.leases l hl
          obtain rfl := Leases.Event.released.inj (List.mem_singleton.mp hnew)
          refine .inr ⟨run, ?_, l', hl', hkey', hid'.trans hownid⟩
          simp [System.perform, hresult, Except.toOption]
        · cases hnew
    · exact .inl (released_of_perform (fun _ _ => not_released_quiet) hmem)
    · exact .inl hmem
  | fail run => exact .inl hmem
  | readCancellation client call => exact .inl hmem
  | writeCancellation client =>
    refine .inl ?_
    cases hcall : s.pending client with
    | none => simpa only [System.step, hcall] using hmem
    | some call =>
      simp only [System.step, hcall] at hmem
      cases hresult : CandidateLease.writeCancellation s.db call with
      | error e =>
        rw [hresult] at hmem
        exact hmem
      | ok p =>
        rw [hresult] at hmem
        rcases List.mem_append.mp hmem with hold | hnew
        · exact hold
        · exact absurd hnew (not_released_writeCancellation hresult)

theorem inv_run (xs : List (Input ι κ)) :
    Inv calls (Runs.run (System.step calls) System.begin xs) :=
  Runs.invariant (I := Inv calls) (fun _ x h => (next_step h x).inv) inv_begin xs

/-- Only runs that are done have released a lease. -/
theorem released_run (xs : List (Input ι κ)) {leaseId : String}
    (h : .released leaseId ∈ (Runs.run (System.step calls) System.begin xs).trace) :
    ∃ run, (Runs.run (System.step calls) System.begin xs).DoneWith calls run leaseId := by
  have hrun : Inv calls (Runs.run (System.step calls) System.begin xs) ∧
      (.released leaseId ∈ (Runs.run (System.step calls) System.begin xs).trace →
        ∃ run, (Runs.run (System.step calls) System.begin xs).DoneWith calls run leaseId) := by
    refine Runs.invariant (I := fun s : System ι κ => Inv calls s ∧
      (.released leaseId ∈ s.trace → ∃ run, s.DoneWith calls run leaseId)) ?_
      ⟨inv_begin, fun hmem => nomatch hmem⟩ xs
    rintro s x ⟨hinv, hs⟩
    refine ⟨(next_step hinv x).inv, fun hmem => ?_⟩
    rcases released_step hinv x hmem with hold | hnew
    · obtain ⟨run, hdone⟩ := hs hold
      exact ⟨run, hdone.step hinv x⟩
    · exact hnew
  exact hrun.2 h

theorem frame_run (h : Inv calls s) (xs : List (Input ι κ)) :
    Frame (fun _ => True) s.db (Runs.run (System.step calls) s xs).db := by
  induction xs generalizing s with
  | nil => exact Frame.refl _
  | cons x xs ih => exact (next_step h x).frame.trans (ih (next_step h x).inv)

/-- The table of leases stands for the register that the trace leads to. -/
theorem register_of_run (calls : ι → RunArgs) (xs : List (Input ι κ)) :
    ∃ r, Leases.Register.start.accepts
        (Runs.run (System.step calls) System.begin xs).trace = some r ∧
      Represents (Runs.run (System.step calls) System.begin xs).db.leases r :=
  (inv_run xs).register

theorem fenced_of_run (calls : ι → RunArgs) (xs : List (Input ι κ)) :
    Leases.Fenced (Runs.run (System.step calls) System.begin xs).trace := by
  obtain ⟨r, haccepts, -⟩ := (inv_run xs).register
  exact Leases.fenced_of_accepts haccepts

/-- Terminal rows are for good, a lease and its integration end together, and a run that is done
has ended its integration. -/
theorem ended_of_run (calls : ι → RunArgs) (xs ys : List (Input ι κ)) :
    let s := Runs.run (System.step calls) System.begin xs
    let s' := Runs.run (System.step calls) System.begin (xs ++ ys)
    s.db.integrations.Keeps (fun r => r.ending ≠ none) s'.db.integrations ∧
      s.db.leases.Keeps (fun r => ¬r.Live) s'.db.leases ∧ Coupled s'.db ∧
      ∀ run, s'.pc run = .done → ∃ i ∈ s'.db.integrations.rows,
        i.integrationId = (calls run).integrationId ∧ i.ending ≠ none := by
  intro s s'
  have hframe : Frame (fun _ => True) s.db s'.db := by
    change Frame _ _ (Runs.run (System.step calls) System.begin (xs ++ ys)).db
    rw [Runs.run_append]
    exact frame_run (inv_run xs) ys
  have hinv : Inv calls s' := inv_run (xs ++ ys)
  exact ⟨hframe.endedIntegrations, hframe.endedLeases, hinv.coupled,
    fun run => (hinv.place run).finished⟩

end PrinterV1.OperatorCli.CandidateLease
