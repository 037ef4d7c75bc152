import PrinterV1.Foundation.Holders
import PrinterV1.Foundation.Runs
import PrinterV1.OperatorCli.SupervisionAcquisition

/-!
# One owner

The lock file excludes the calls for one path and the row those for one run: at
most one of them returns, however their steps are interleaved.
-/

namespace PrinterV1.OperatorCli.Acquisition

open Python

/-- The graph, the rows and the states let the call in. -/
structure Admits (ledger : Ledger) (c : AcquireCall) : Prop where
  graph : graph ledger c.ids = some (.running, .running)
  fresh : ∀ r ∈ ledger.supervisions.rows, ¬(r.campaignId = c.ids.campaignId ∧ r.runId = c.ids.runId)
  unused : ∀ r ∈ ledger.supervisions.rows, r.supervisionId ≠ c.ids.supervisionId

theorem enter_ok_iff {ledger ledger' : Ledger} {c : AcquireCall} {lease : Lease} :
    enter ledger c lease = .ok ledger' ↔ Admits ledger c ∧
      ∃ h, ledger' =
        { ledger with supervisions := ledger.supervisions.insert (newRow c lease) h } := by
  unfold enter
  constructor
  · intro hok
    cases hgraph : graph ledger c.ids with
    | none => simp [hgraph] at hok
    | some states =>
      obtain ⟨campaignState, runState⟩ := states
      simp only [hgraph] at hok
      split_ifs at hok with hexisting hstates hunused
      cases hok
      simp only [ne_eq, not_or, not_not] at hstates
      obtain ⟨rfl, rfl⟩ := hstates
      refine ⟨⟨hgraph, ?_, hunused⟩, hunused, rfl⟩
      intro r hr hsame
      exact hexisting (List.any_eq_true.mpr ⟨r, hr, by simpa using hsame⟩)
  · rintro ⟨⟨hgraph, hfresh, _⟩, h, rfl⟩
    have hexisting : ¬(ledger.supervisions.rows.any fun r =>
        r.campaignId = c.ids.campaignId ∧ r.runId = c.ids.runId) = true := by
      rw [List.any_eq_true]
      rintro ⟨r, hr, hsame⟩
      exact hfresh r hr (by simpa using hsame)
    simp only [hgraph]
    rw [if_neg hexisting, if_neg (by simp), dif_pos h]

theorem enter_rows {ledger ledger' : Ledger} {c : AcquireCall} {lease : Lease}
    (h : enter ledger c lease = .ok ledger') :
    ledger'.supervisions.rows = ledger.supervisions.rows ++ [newRow c lease] ∧
      ledger'.runs = ledger.runs := by
  obtain ⟨_, _, rfl⟩ := enter_ok_iff.mp h
  exact ⟨rfl, rfl⟩

/-- The run of a call that was let in. -/
theorem Admits.run {ledger : Ledger} {c : AcquireCall} (h : Admits ledger c) :
    ∃ run ∈ ledger.runs.rows, run.runId = c.ids.runId ∧ run.campaignId = c.ids.campaignId := by
  have hgraph := h.graph
  unfold Acquisition.graph at hgraph
  simp only [Option.bind_eq_bind, Option.bind_eq_some_iff] at hgraph
  obtain ⟨_, _, _, _, run, hrun, hgraph⟩ := hgraph
  split_ifs at hgraph with hsame
  obtain ⟨hmem, hid⟩ := Table.find?_eq_some_iff.mp hrun
  exact ⟨run, hmem, hid, hsame.2⟩

variable {uri : SqliteUri.Host}

/-- The call has the lock file of its own. -/
def Holding : Pc → Prop
  | .locked _ | .connected _ | .failed _ | .committed _ | .returned _ => True
  | .start | .raised _ => False

/-- The row of the call is there. -/
def Entered : Pc → Prop
  | .committed _ | .returned _ => True
  | _ => False

theorem Entered.holding {pc : Pc} (h : Entered pc) : Holding pc := by
  cases pc <;> first | exact trivial | exact h.elim

theorem leftBehind_locks (uri : SqliteUri.Host) (w : World) (dbPath : String) :
    (leftBehind uri w dbPath).locks = w.locks := by
  unfold leftBehind
  split
  · split <;> rfl
  · rfl

/-- A reading leaves the databases as they are, or creates one where none was. -/
theorem leftBehind_ledgers (uri : SqliteUri.Host) (w : World) (dbPath : String) :
    (leftBehind uri w dbPath).ledgers = w.ledgers ∨ ∃ name, w.ledgers name = none ∧
      (leftBehind uri w dbPath).ledgers =
        Function.update w.ledgers name (some Ledger.empty) := by
  unfold leftBehind
  split
  · rename_i name _ _
    split
    · rename_i hnone
      exact .inr ⟨name, hnone, rfl⟩
    · exact .inl rfl
  · exact .inl rfl

/-- What a step does to the locks: it creates its own, it removes its own, or it leaves them. -/
theorem step_locks (uri : SqliteUri.Host) (c : AcquireCall) (busy : Bool) (w : World) (pc : Pc) :
    (¬Holding pc ∧ Holding (step uri c busy w pc).2 ∧ w.locks c.lockPath = .missing ∧
        ∃ payload, (step uri c busy w pc).1.locks =
          Function.update w.locks c.lockPath (.payload payload)) ∨
      (Holding pc ∧ ¬Holding (step uri c busy w pc).2 ∧
        (step uri c busy w pc).1.locks = Function.update w.locks c.lockPath .missing) ∨
      ((Holding (step uri c busy w pc).2 → Holding pc) ∧ (step uri c busy w pc).1.locks = w.locks) := by
  cases pc with
  | start =>
    simp only [step]
    split
    · exact Or.inr (Or.inr ⟨id, rfl⟩)
    · split_ifs with hmissing
      · exact Or.inl ⟨id, trivial, hmissing, _, rfl⟩
      · exact Or.inr (Or.inr ⟨id, rfl⟩)
  | locked lease =>
    simp only [step]
    split <;> exact Or.inr (Or.inr ⟨fun _ => trivial, rfl⟩)
  | connected lease =>
    refine Or.inr (Or.inr ⟨fun _ => trivial, ?_⟩)
    simp only [step]
    split
    · rfl
    · split_ifs
      · rfl
      · split <;> rfl
  | failed e => exact Or.inr (Or.inl ⟨trivial, id, rfl⟩)
  | committed lease =>
    refine Or.inr (Or.inr ⟨fun _ => trivial, ?_⟩)
    simp only [step]
    split <;> exact leftBehind_locks uri w c.dbPath
  | raised e => exact Or.inr (Or.inr ⟨id, rfl⟩)
  | returned inspection => exact Or.inr (Or.inr ⟨id, rfl⟩)

/-- What a step does to the databases: it enters its row, it leaves a new file, or it leaves
them as they are. -/
theorem step_ledgers (uri : SqliteUri.Host) (c : AcquireCall) (busy : Bool) (w : World) (pc : Pc) :
    (¬Entered pc ∧ Entered (step uri c busy w pc).2 ∧ ∃ ledger ledger' lease,
        w.ledgers c.dbPath = some ledger ∧ enter ledger c lease = .ok ledger' ∧
          (step uri c busy w pc).1.ledgers = Function.update w.ledgers c.dbPath (some ledger')) ∨
      ((Entered (step uri c busy w pc).2 → Entered pc) ∧
        ((step uri c busy w pc).1.ledgers = w.ledgers ∨ ∃ name, w.ledgers name = none ∧
          (step uri c busy w pc).1.ledgers =
            Function.update w.ledgers name (some Ledger.empty))) := by
  cases pc with
  | start =>
    refine Or.inr ?_
    simp only [step]
    split
    · exact ⟨id, .inl rfl⟩
    · split_ifs <;> exact ⟨id, .inl rfl⟩
  | locked lease =>
    refine Or.inr ?_
    simp only [step]
    split <;> exact ⟨id, .inl rfl⟩
  | connected lease =>
    simp only [step]
    split
    · exact Or.inr ⟨id, .inl rfl⟩
    · rename_i ledger hledger
      split_ifs
      · exact Or.inr ⟨id, .inl rfl⟩
      · split
        · exact Or.inr ⟨id, .inl rfl⟩
        · rename_i ledger' henter
          exact Or.inl ⟨id, trivial, ledger, ledger', lease, hledger, henter, rfl⟩
  | failed e => exact Or.inr ⟨False.elim, .inl rfl⟩
  | committed lease =>
    refine Or.inr ⟨fun _ => trivial, ?_⟩
    simp only [step]
    split <;> exact leftBehind_ledgers uri w c.dbPath
  | raised e => exact Or.inr ⟨id, .inl rfl⟩
  | returned inspection => exact Or.inr ⟨id, .inl rfl⟩

/-- The call has its row, under a run of its campaign. -/
structure Supervised (ledger : Ledger) (c : AcquireCall) : Prop where
  row : ∃ r ∈ ledger.supervisions.rows, r.campaignId = c.ids.campaignId ∧ r.runId = c.ids.runId
  run : ∃ run ∈ ledger.runs.rows, run.runId = c.ids.runId ∧ run.campaignId = c.ids.campaignId

theorem Supervised.of_enter {ledger ledger' : Ledger} {c : AcquireCall} {lease : Lease}
    (h : enter ledger c lease = .ok ledger') : Supervised ledger' c := by
  obtain ⟨hrows, hruns⟩ := enter_rows h
  obtain ⟨hadmits, _⟩ := enter_ok_iff.mp h
  constructor
  · exact ⟨newRow c lease, by simp [hrows], rfl, rfl⟩
  · rw [hruns]
    exact hadmits.run

theorem Supervised.mono {ledger ledger' : Ledger} {c d : AcquireCall} {lease : Lease}
    (h : Supervised ledger d) (henter : enter ledger c lease = .ok ledger') :
    Supervised ledger' d := by
  obtain ⟨hrows, hruns⟩ := enter_rows henter
  obtain ⟨⟨r, hr, hsame⟩, hrun⟩ := h
  constructor
  · exact ⟨r, by rw [hrows]; exact List.mem_append_left _ hr, hsame⟩
  · rw [hruns]
    exact hrun

/-- A run that is supervised lets no other call in. -/
theorem Supervised.excludes {ledger : Ledger} {c d : AcquireCall} (h : Supervised ledger d)
    (hrun : d.ids.runId = c.ids.runId) : ¬Admits ledger c := by
  intro hadmits
  obtain ⟨⟨r, hr, hcampaign, hrunId⟩, run, hmem, hid, howner⟩ := h
  obtain ⟨run', hmem', hid', howner'⟩ := hadmits.run
  have hsame : run = run' := ledger.runs.eq_of_key hmem hmem' (hid.trans (hrun.trans hid'.symm))
  apply hadmits.fresh r hr
  constructor
  · rw [hcampaign, ← howner, hsame, howner']
  · rw [hrunId, hrun]

variable {ι : Type*} {calls : ι → AcquireCall}

/-- No two calls hold one lock file or have one run. -/
structure Inv (calls : ι → AcquireCall) (s : System ι) : Prop where
  locked : ∀ i, Holding (s.pc i) → s.world.locks (calls i).lockPath ≠ .missing
  paths : Holders.Exclusive (fun i => Holding (s.pc i)) fun i => (calls i).lockPath
  rows : ∀ i, Entered (s.pc i) → ∃ ledger, s.world.ledgers (calls i).dbPath = some ledger ∧
    Supervised ledger (calls i)
  runs : Holders.Exclusive (fun i => Entered (s.pc i)) fun i =>
    ((calls i).dbPath, (calls i).ids.runId)

theorem inv_begin (calls : ι → AcquireCall) (w : World) : Inv calls (System.begin w) where
  locked _ h := h.elim
  paths := Holders.exclusive_of_none fun _ h => h
  rows _ h := h.elim
  runs := Holders.exclusive_of_none fun _ h => h

/-- Of the calls on one lock path, and of those for one run, at most one returns. -/
def OneOwner (calls : ι → AcquireCall) (s : System ι) : Prop :=
  ∀ i j, (∃ r, s.pc i = .returned r) → (∃ r, s.pc j = .returned r) →
    ((calls i).lockPath = (calls j).lockPath ∨
      (calls i).dbPath = (calls j).dbPath ∧ (calls i).ids.runId = (calls j).ids.runId) → i = j

theorem Inv.oneOwner {s : System ι} (h : Inv calls s) : OneOwner calls s := by
  rintro i j ⟨r, hi⟩ ⟨q, hj⟩ (hpath | ⟨hdb, hrun⟩)
  · exact h.paths i j (by simp [hi, Holding]) (by simp [hj, Holding]) hpath
  · exact h.runs i j (by simp [hi, Entered]) (by simp [hj, Entered]) (Prod.ext hdb hrun)

variable [DecidableEq ι]

theorem Inv.step_paths {s : System ι} (h : Inv calls s) (turn : ι × Bool) :
    (∀ i, Holding ((s.step uri calls turn).pc i) →
        (s.step uri calls turn).world.locks (calls i).lockPath ≠ .missing) ∧
      Holders.Exclusive (fun i => Holding ((s.step uri calls turn).pc i))
        fun i => (calls i).lockPath := by
  obtain ⟨k, busy⟩ := turn
  have hself : (s.step uri calls (k, busy)).pc k =
      (Acquisition.step uri (calls k) busy s.world (s.pc k)).2 := by simp [System.step]
  have hothers : ∀ i, i ≠ k → (s.step uri calls (k, busy)).pc i = s.pc i := by
    intro i hik
    simp [System.step, hik]
  have hworld : (s.step uri calls (k, busy)).world =
      (Acquisition.step uri (calls k) busy s.world (s.pc k)).1 := rfl
  rw [hworld]
  rcases step_locks uri (calls k) busy s.world (s.pc k) with
    ⟨_, hnow, hmissing, payload, hlocks⟩ | ⟨hbefore, hnot, hlocks⟩ | ⟨hstays, hlocks⟩
  · constructor
    · intro i hi
      rw [hlocks]
      by_cases hpath : (calls i).lockPath = (calls k).lockPath
      · simp [hpath]
      · rw [Function.update_of_ne hpath]
        have hik : i ≠ k := fun hik => hpath (by rw [hik])
        rw [hothers i hik] at hi
        exact h.locked i hi
    · apply h.paths.step k
      · intro i hik hi
        rwa [hothers i hik] at hi
      · intro _
        refine Or.inr fun i hik hi hpath => h.locked i hi ?_
        rw [hpath]
        exact hmissing
  · constructor
    · intro i hi
      by_cases hik : i = k
      · subst hik
        rw [hself] at hi
        exact absurd hi hnot
      · rw [hothers i hik] at hi
        have hpath : (calls i).lockPath ≠ (calls k).lockPath :=
          fun hpath => hik (h.paths i k hi hbefore hpath)
        rw [hlocks, Function.update_of_ne hpath]
        exact h.locked i hi
    · apply h.paths.mono
      intro i hi
      by_cases hik : i = k
      · rw [hik]
        exact hbefore
      · rwa [hothers i hik] at hi
  · have hmono : ∀ i, Holding ((s.step uri calls (k, busy)).pc i) → Holding (s.pc i) := by
      intro i hi
      by_cases hik : i = k
      · subst hik
        rw [hself] at hi
        exact hstays hi
      · rwa [hothers i hik] at hi
    refine ⟨fun i hi => ?_, h.paths.mono hmono⟩
    rw [hlocks]
    exact h.locked i (hmono i hi)

theorem Inv.step_runs {s : System ι} (h : Inv calls s) (turn : ι × Bool) :
    (∀ i, Entered ((s.step uri calls turn).pc i) →
        ∃ ledger, (s.step uri calls turn).world.ledgers (calls i).dbPath = some ledger ∧
          Supervised ledger (calls i)) ∧
      Holders.Exclusive (fun i => Entered ((s.step uri calls turn).pc i))
        fun i => ((calls i).dbPath, (calls i).ids.runId) := by
  obtain ⟨k, busy⟩ := turn
  have hself : (s.step uri calls (k, busy)).pc k =
      (Acquisition.step uri (calls k) busy s.world (s.pc k)).2 := by simp [System.step]
  have hothers : ∀ i, i ≠ k → (s.step uri calls (k, busy)).pc i = s.pc i := by
    intro i hik
    simp [System.step, hik]
  have hworld : (s.step uri calls (k, busy)).world =
      (Acquisition.step uri (calls k) busy s.world (s.pc k)).1 := rfl
  rw [hworld]
  rcases step_ledgers uri (calls k) busy s.world (s.pc k) with
    ⟨_, _, ledger, ledger', lease, hledger, henter, hledgers⟩ | ⟨hstays, hledgers⟩
  · constructor
    · intro i hi
      rw [hledgers]
      by_cases hpath : (calls i).dbPath = (calls k).dbPath
      · rw [hpath, Function.update_self]
        refine ⟨ledger', rfl, ?_⟩
        by_cases hik : i = k
        · rw [hik]
          exact Supervised.of_enter henter
        · rw [hothers i hik] at hi
          obtain ⟨stored, hstored, hsupervised⟩ := h.rows i hi
          rw [hpath, hledger] at hstored
          cases hstored
          exact hsupervised.mono henter
      · have hik : i ≠ k := fun hik => hpath (by rw [hik])
        rw [Function.update_of_ne hpath]
        rw [hothers i hik] at hi
        exact h.rows i hi
    · apply h.runs.step k
      · intro i hik hi
        rwa [hothers i hik] at hi
      · intro _
        refine Or.inr fun i hik hi hslot => ?_
        obtain ⟨hpath, hrun⟩ := Prod.mk.inj hslot
        obtain ⟨stored, hstored, hsupervised⟩ := h.rows i hi
        rw [hpath, hledger] at hstored
        cases hstored
        exact hsupervised.excludes hrun (enter_ok_iff.mp henter).1
  · have hmono : ∀ i, Entered ((s.step uri calls (k, busy)).pc i) → Entered (s.pc i) := by
      intro i hi
      by_cases hik : i = k
      · subst hik
        rw [hself] at hi
        exact hstays hi
      · rwa [hothers i hik] at hi
    refine ⟨fun i hi => ?_, h.runs.mono hmono⟩
    obtain ⟨ledger, hledger, hsupervised⟩ := h.rows i (hmono i hi)
    rcases hledgers with hledgers | ⟨name, hnone, hledgers⟩
    · rw [hledgers]
      exact ⟨ledger, hledger, hsupervised⟩
    · have hname : (calls i).dbPath ≠ name := by
        rintro rfl
        rw [hnone] at hledger
        cases hledger
      rw [hledgers, Function.update_of_ne hname]
      exact ⟨ledger, hledger, hsupervised⟩

theorem Inv.step {s : System ι} (h : Inv calls s) (turn : ι × Bool) :
    Inv calls (s.step uri calls turn) :=
  ⟨(h.step_paths turn).1, (h.step_paths turn).2, (h.step_runs turn).1, (h.step_runs turn).2⟩

theorem oneOwner_run (uri : SqliteUri.Host) (calls : ι → AcquireCall) (w : World) (schedule : List (ι × Bool)) :
    OneOwner calls (Runs.run (System.step uri calls) (System.begin w) schedule) := by
  have hinv : Inv calls (Runs.run (System.step uri calls) (System.begin w) schedule) :=
    Runs.invariant (fun s turn h => h.step turn) (inv_begin calls w) schedule
  exact hinv.oneOwner

end PrinterV1.OperatorCli.Acquisition
