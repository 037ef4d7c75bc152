import PrinterV1.Db.Migrate
import PrinterV1.Foundation.Runs

/-!
# Interrupted migrations

A call of `apply_migrations` that is cut off is made up for by a later call exactly
where no statement was executed since the last commit: the statements of a file are
executed before its ledger row is there, and the next call executes them again.
-/

namespace PrinterV1.Db

open Scripts Runs

variable {σ : Type*}

/-! ## Files that are applied one after the other -/

def runStatements : List (σ → Option σ) → σ → Option σ
  | [], content => some content
  | apply :: rest, content => (apply content).bind (runStatements rest)

def placesFrom (file : String) (place count : ℕ) : List (String × ℕ) :=
  (List.range' place count).map fun i => (file, i)

def Migration.places (m : Migration σ) : List (String × ℕ) :=
  placesFrom m.name 0 m.statements.length

/-- The database after one whole file. -/
def Migration.applied (m : Migration σ) (db : Database σ) : Option (Database σ) :=
  (runStatements m.statements db.content).map fun content =>
    ⟨content, db.ledger ++ [m.name], db.executed ++ m.places⟩

/-- The database after whole files. -/
def applied : List (Migration σ) → Database σ → Option (Database σ)
  | [], db => some db
  | m :: rest, db => (m.applied db).bind (applied rest)

theorem applied_append (xs ys : List (Migration σ)) : ∀ db,
    applied (xs ++ ys) db = (applied xs db).bind (applied ys) := by
  induction xs with
  | nil => intro db; rfl
  | cons m xs ih =>
    intro db
    simp only [List.cons_append, applied, Option.bind_assoc]
    exact Option.bind_congr fun t _ => ih t

/-- What whole files leave in the ledger and among the executed statements. -/
theorem applied_ledger {files : List (Migration σ)} : ∀ {db t : Database σ},
    applied files db = some t → t.ledger = db.ledger ++ files.map Migration.name ∧
      t.executed = db.executed ++ files.flatMap Migration.places := by
  induction files with
  | nil =>
    intro db t h
    obtain rfl := Option.some.inj h
    simp
  | cons m files ih =>
    intro db t h
    obtain ⟨db', hm, h⟩ := Option.bind_eq_some_iff.mp h
    obtain ⟨content, _, rfl⟩ := Option.map_eq_some_iff.mp hm
    obtain ⟨hledger, hexecuted⟩ := ih h
    simp [hledger, hexecuted]

/-- The actions of a file up to its commit. -/
def Migration.committed (m : Migration σ) : List (Action σ) :=
  statementsFrom m.name 0 m.statements ++ [.record m.name, .commit]

/-- The files that the ledger does not name. -/
def pending (files : List (Migration σ)) (ledger : List String) : List (Migration σ) :=
  files.filter fun m => m.name ∉ ledger

theorem migrationActions_eq (files : List (Migration σ)) (ledger : List String) :
    migrationActions files ledger =
      .commit :: (pending files ledger).flatMap Migration.committed := by
  have hshift : ∀ fs : List (Migration σ), fs.flatMap Migration.actions ++ [.commit] =
      .commit :: fs.flatMap Migration.committed := by
    intro fs
    induction fs with
    | nil => rfl
    | cons m fs ih =>
      simp only [List.flatMap_cons, List.append_assoc, ih]
      simp [Migration.actions, Migration.committed]
  exact hshift _

/-! ## Statements -/

/-- What statements leave, whether or not they got to their end. -/
structure Left (db db' : Database σ) (executed : List (String × ℕ)) : Prop where
  ledger : db'.ledger = db.ledger
  executed_eq : db'.executed = db.executed ++ executed
  unchanged : executed = [] → db' = db

theorem Left.refl (db : Database σ) : Left db db [] := ⟨rfl, by simp, fun _ => rfl⟩

theorem execute_statements (file : String) (inserted : List String)
    (statements : List (σ → Option σ)) : ∀ (place : ℕ) (db : Database σ), ∃ db' executed,
    execute perform ⟨db, inserted⟩ (statementsFrom file place statements) =
        (⟨db', inserted⟩, (runStatements statements db.content).isSome) ∧
      Left db db' executed ∧ ∀ content, runStatements statements db.content = some content →
        db'.content = content ∧ executed = placesFrom file place statements.length := by
  induction statements with
  | nil =>
    intro place db
    refine ⟨db, [], rfl, Left.refl db, fun content h => ?_⟩
    exact ⟨Option.some.inj h, rfl⟩
  | cons apply rest ih =>
    intro place db
    cases happly : apply db.content with
    | none =>
      have hfails : perform ⟨db, inserted⟩ (.statement file place apply) = none := by
        simp [perform, happly]
      refine ⟨db, [], ?_, Left.refl db, ?_⟩
      · rw [statementsFrom, execute_cons_none hfails, runStatements, happly]
        rfl
      · simp [runStatements, happly]
    | some content₁ =>
      obtain ⟨db', executed, hrest, hleft, hcontent⟩ := ih (place + 1)
        { db with content := content₁, executed := db.executed ++ [(file, place)] }
      have hsome : perform ⟨db, inserted⟩ (.statement file place apply) =
          some ⟨{ db with content := content₁, executed := db.executed ++ [(file, place)] },
            inserted⟩ := by
        simp [perform, happly]
      refine ⟨db', (file, place) :: executed, ?_, ⟨hleft.ledger, ?_, by simp⟩, ?_⟩
      · rw [statementsFrom, execute_cons_some hsome, hrest, runStatements, happly]
        rfl
      · simp [hleft.executed_eq]
      · intro content h
        rw [runStatements, happly] at h
        obtain ⟨hc, hplaces⟩ := hcontent content h
        refine ⟨hc, ?_⟩
        rw [hplaces]
        simp [placesFrom, List.range'_succ]

theorem length_statementsFrom (file : String) (statements : List (σ → Option σ)) : ∀ place,
    (statementsFrom file place statements).length = statements.length := by
  induction statements with
  | nil => intro place; rfl
  | cons apply rest ih =>
    intro place
    simp [statementsFrom, ih]

theorem take_statementsFrom (file : String) (statements : List (σ → Option σ)) : ∀ place k,
    (statementsFrom file place statements).take k =
      statementsFrom file place (statements.take k) := by
  induction statements with
  | nil => intro place k; simp [statementsFrom]
  | cons apply rest ih =>
    intro place k
    cases k with
    | zero => rfl
    | succ k => simp [statementsFrom, ih]

theorem runStatements_take {statements : List (σ → Option σ)} : ∀ {content : σ},
    (runStatements statements content).isSome = true → ∀ k,
    (runStatements (statements.take k) content).isSome = true := by
  induction statements with
  | nil => intro content h k; simpa using h
  | cons apply rest ih =>
    intro content h k
    cases k with
    | zero => rfl
    | succ k =>
      cases happly : apply content with
      | none => simp [runStatements, happly] at h
      | some content₁ =>
        simp only [runStatements, happly, Option.bind_some, List.take_succ_cons] at h ⊢
        exact ih h k

/-! ## What a cut leaves unsettled -/

/-- Whether a statement was executed since the last commit, after the action. -/
def Action.leaves (unsettled : Bool) : Action σ → Bool
  | .commit => false
  | .statement _ _ _ => true
  | .record _ => unsettled

/-- A statement was executed since the last commit. -/
def unsettled (actions : List (Action σ)) : Bool := actions.foldl Action.leaves false

theorem foldl_leaves_statements (file : String) (statements : List (σ → Option σ)) :
    ∀ place u, (statementsFrom file place statements).foldl Action.leaves u =
      (u || decide (statements ≠ [])) := by
  induction statements with
  | nil => intro place u; simp [statementsFrom]
  | cons apply rest ih =>
    intro place u
    rw [statementsFrom, List.foldl_cons, ih]
    simp [Action.leaves]

theorem unsettled_committed (m : Migration σ) (xs : List (Action σ)) :
    unsettled (m.committed ++ xs) = unsettled xs := by
  simp [unsettled, Migration.committed, List.foldl_append, Action.leaves]

/-! ## Whole files and cut files -/

/-- A file whose version the ledger does not have yet, executed to its end. -/
theorem execute_committed {m : Migration σ} {db t : Database σ} (hfresh : m.name ∉ db.ledger)
    (h : m.applied db = some t) : execute perform ⟨db, []⟩ m.committed = (⟨t, []⟩, true) := by
  obtain ⟨content, hrun, rfl⟩ := Option.map_eq_some_iff.mp h
  obtain ⟨db', executed, hexecute, hleft, hcontent⟩ :=
    execute_statements m.name [] m.statements 0 db
  obtain ⟨rfl, rfl⟩ := hcontent content hrun
  rw [hrun] at hexecute
  have hrecord : perform ⟨db', []⟩ (.record m.name) = some ⟨db', [m.name]⟩ := by
    simp [perform, hleft.ledger, hfresh]
  have hcommit : perform ⟨db', [m.name]⟩ .commit = some (Connection.commit ⟨db', [m.name]⟩) := rfl
  rw [Migration.committed, execute_append_ok hexecute, execute_cons_some hrecord,
    execute_cons_some hcommit, execute_nil]
  simp only [Connection.commit, hleft.ledger, hleft.executed_eq, Migration.places]

/-- A file with a statement that fails. -/
theorem execute_committed_failed {m : Migration σ} {db : Database σ} (h : m.applied db = none)
    (xs : List (Action σ)) : ∃ db' executed, Left db db' executed ∧
      execute perform ⟨db, []⟩ (m.committed ++ xs) = (⟨db', []⟩, false) := by
  obtain ⟨db', executed, hexecute, hleft, _⟩ := execute_statements m.name [] m.statements 0 db
  rw [Option.map_eq_none_iff.mp h] at hexecute
  refine ⟨db', executed, hleft, ?_⟩
  rw [Migration.committed, List.append_assoc]
  exact execute_append_failed _ hexecute

/-- Whole files of versions that are not in the ledger. -/
theorem execute_files {files : List (Migration σ)} : ∀ {db : Database σ},
    (db.ledger ++ files.map Migration.name).Nodup →
    (execute perform ⟨db, []⟩ (files.flatMap Migration.committed)).2 = (applied files db).isSome ∧
      ∀ t, applied files db = some t →
        execute perform ⟨db, []⟩ (files.flatMap Migration.committed) = (⟨t, []⟩, true) := by
  induction files with
  | nil =>
    intro db _
    refine ⟨rfl, fun t h => ?_⟩
    obtain rfl := Option.some.inj h
    rfl
  | cons m files ih =>
    intro db hnodup
    rw [List.flatMap_cons]
    cases hm : m.applied db with
    | none =>
      obtain ⟨db', _, _, hexecute⟩ :=
        execute_committed_failed hm (files.flatMap Migration.committed)
      simp [hexecute, applied, hm]
    | some t₁ =>
      have hfresh : m.name ∉ db.ledger := by
        intro hmem
        exact (List.nodup_append.mp hnodup).2.2 _ hmem _ (by simp) rfl
      have hledger : t₁.ledger = db.ledger ++ [m.name] := by
        obtain ⟨content, _, rfl⟩ := Option.map_eq_some_iff.mp hm
        rfl
      have hrest_nodup : (t₁.ledger ++ files.map Migration.name).Nodup := by
        rw [hledger]
        simpa using hnodup
      have hrest := ih hrest_nodup
      rw [execute_append_ok (execute_committed hfresh hm)]
      simpa [applied, hm] using hrest

/-- Where a cut falls: after whole files, among the statements of the next one. It leaves
them unsettled exactly if it executed any, unless one of them failed. -/
def LeavesBehind (files : List (Migration σ)) (db : Database σ) (actions : List (Action σ)) :
    Prop :=
  ∃ done rest mid executed, files = done ++ rest ∧ applied done db = some mid ∧
    Left mid (execute perform ⟨db, []⟩ actions).1.database executed ∧
    ((applied files db).isSome = true → (unsettled actions = true ↔ executed ≠ []))

/-- Some statements of a file, executed. -/
theorem execute_take_statements (m : Migration σ) (db : Database σ) (k : ℕ) :
    ∃ db' executed,
      execute perform ⟨db, []⟩ ((statementsFrom m.name 0 m.statements).take k) =
          (⟨db', []⟩, (runStatements (m.statements.take k) db.content).isSome) ∧
        Left db db' executed ∧ (m.applied db ≠ none →
          (unsettled ((statementsFrom m.name 0 m.statements).take k) = true ↔ executed ≠ [])) := by
  rw [take_statementsFrom]
  obtain ⟨db', executed, hexecute, hleft, hcontent⟩ :=
    execute_statements m.name [] (m.statements.take k) 0 db
  refine ⟨db', executed, hexecute, hleft, fun hm => ?_⟩
  have hsome : (runStatements m.statements db.content).isSome = true := by
    rw [Option.isSome_iff_ne_none]
    intro hnone
    exact hm (by simp [Migration.applied, hnone])
  obtain ⟨content, hrun⟩ := Option.isSome_iff_exists.mp (runStatements_take hsome k)
  obtain ⟨_, rfl⟩ := hcontent content hrun
  simp [unsettled, foldl_leaves_statements, placesFrom]

theorem applied_ne_none_of_cons {m : Migration σ} {files : List (Migration σ)} {db : Database σ}
    (h : (applied (m :: files) db).isSome = true) : m.applied db ≠ none := by
  intro hnone
  simp [applied, hnone] at h

/-- The cut is among the statements of the first file. -/
theorem leavesBehind_statements (m : Migration σ) (files : List (Migration σ)) (db : Database σ)
    (k : ℕ) : LeavesBehind (m :: files) db ((statementsFrom m.name 0 m.statements).take k) := by
  obtain ⟨db', executed, hexecute, hleft, hunsettled⟩ := execute_take_statements m db k
  refine ⟨[], m :: files, db, executed, rfl, rfl, ?_, fun h => ?_⟩
  · rw [hexecute]
    exact hleft
  · exact hunsettled (applied_ne_none_of_cons h)

/-- The cut is before the commit of the ledger row of the first file. -/
theorem leavesBehind_record (m : Migration σ) (files : List (Migration σ)) (db : Database σ) :
    LeavesBehind (m :: files) db (statementsFrom m.name 0 m.statements ++ [.record m.name]) := by
  obtain ⟨db', executed, hexecute, hleft, hunsettled⟩ :=
    execute_take_statements m db m.statements.length
  have hall : (statementsFrom m.name 0 m.statements).take m.statements.length =
      statementsFrom m.name 0 m.statements :=
    List.take_of_length_le (length_statementsFrom m.name m.statements 0).le
  rw [hall, List.take_of_length_le (le_refl _)] at hexecute
  rw [hall] at hunsettled
  refine ⟨[], m :: files, db, executed, rfl, rfl, ?_, fun h => ?_⟩
  · cases hrun : (runStatements m.statements db.content).isSome with
    | false =>
      rw [hrun] at hexecute
      rw [execute_append_failed _ hexecute]
      exact hleft
    | true =>
      rw [hrun] at hexecute
      rw [execute_append_ok hexecute]
      cases hinsert : perform ⟨db', []⟩ (.record m.name) with
      | none =>
        rw [execute_cons_none hinsert]
        exact hleft
      | some c =>
        rw [execute_cons_some hinsert]
        simp only [perform] at hinsert
        split_ifs at hinsert
        obtain rfl := Option.some.inj hinsert
        exact hleft
  · simpa [unsettled, List.foldl_append, Action.leaves] using
      hunsettled (applied_ne_none_of_cons h)

/-- The first file fails, and nothing after it is executed. -/
theorem leavesBehind_failed {m : Migration σ} {db : Database σ} (hm : m.applied db = none)
    (files : List (Migration σ)) (actions : List (Action σ)) :
    LeavesBehind (m :: files) db (m.committed ++ actions) := by
  obtain ⟨db', executed, hleft, hexecute⟩ := execute_committed_failed hm actions
  refine ⟨[], m :: files, db, executed, rfl, rfl, ?_, fun h => ?_⟩
  · rw [hexecute]
    exact hleft
  · exact absurd hm (applied_ne_none_of_cons h)

/-- The first file is whole, and the cut is behind it. -/
theorem leavesBehind_committed {m : Migration σ} {files : List (Migration σ)} {db t : Database σ}
    (hfresh : m.name ∉ db.ledger) (hm : m.applied db = some t) {actions : List (Action σ)}
    (h : LeavesBehind files t actions) : LeavesBehind (m :: files) db (m.committed ++ actions) := by
  obtain ⟨done, rest, mid, executed, hfiles, hdone, hleft, hunsettled⟩ := h
  refine ⟨m :: done, rest, mid, executed, by rw [hfiles]; rfl, ?_, ?_, ?_⟩
  · simp [applied, hm, hdone]
  · rw [execute_append_ok (execute_committed hfresh hm)]
    exact hleft
  · intro happlied
    rw [unsettled_committed]
    exact hunsettled (by simpa [applied, hm] using happlied)

theorem execute_cut {files : List (Migration σ)} : ∀ {db : Database σ} (k : ℕ),
    (db.ledger ++ files.map Migration.name).Nodup →
      LeavesBehind files db ((files.flatMap Migration.committed).take k) := by
  induction files with
  | nil =>
    intro db k _
    exact ⟨[], [], db, [], rfl, rfl, by simpa using Left.refl db, by simp [unsettled]⟩
  | cons m files ih =>
    intro db k hnodup
    have hlength := length_statementsFrom m.name m.statements 0
    rw [List.flatMap_cons]
    rcases Nat.lt_trichotomy k (m.statements.length + 1) with hlt | rfl | hgt
    · have htake : (m.committed ++ files.flatMap Migration.committed).take k =
          (statementsFrom m.name 0 m.statements).take k := by
        rw [Migration.committed, List.append_assoc, List.take_append_of_le_length (by omega)]
      rw [htake]
      exact leavesBehind_statements m files db k
    · have htake : (m.committed ++ files.flatMap Migration.committed).take
          (m.statements.length + 1) =
            statementsFrom m.name 0 m.statements ++ [.record m.name] := by
        rw [Migration.committed, List.append_assoc, List.take_append, hlength,
          List.take_of_length_le (by omega), Nat.add_sub_cancel_left]
        rfl
      rw [htake]
      exact leavesBehind_record m files db
    · have hwhole : m.committed.length ≤ k := by
        rw [Migration.committed, List.length_append, hlength]
        simp only [List.length_cons, List.length_nil]
        omega
      rw [List.take_append, List.take_of_length_le hwhole]
      cases hm : m.applied db with
      | none => exact leavesBehind_failed hm files _
      | some t =>
        have hfresh : m.name ∉ db.ledger := by
          intro hmem
          exact (List.nodup_append.mp hnodup).2.2 _ hmem _ (by simp) rfl
        have hledger : t.ledger = db.ledger ++ [m.name] := by
          obtain ⟨content, _, rfl⟩ := Option.map_eq_some_iff.mp hm
          rfl
        refine leavesBehind_committed hfresh hm (ih (k - m.committed.length) ?_)
        rw [hledger]
        simpa using hnodup

/-! ## Interrupted runs -/

def MigrationFiles.names (ms : MigrationFiles σ) : List String := ms.files.map Migration.name

def MigrationFiles.places (ms : MigrationFiles σ) : List (String × ℕ) :=
  ms.files.flatMap Migration.places

/-- The directory as it was when it held the first so many of the files and one more. -/
def MigrationFiles.upTo (ms : MigrationFiles σ) (n : ℕ) : MigrationFiles σ where
  files := ms.files.take (n + 1)
  sorted := by
    rw [List.map_take]
    exact ms.sorted.take
  nonempty := by
    intro h
    rcases List.take_eq_nil_iff.mp h with h | h
    · omega
    · exact ms.nonempty h

/-- A call with an earlier version of the directory, cut off after so many actions. -/
structure Attempt where
  files : ℕ
  performed : ℕ
  deriving DecidableEq, Repr

def attempt (ms : MigrationFiles σ) (db : Database σ) (e : Attempt) : Database σ :=
  cutOff (ms.upTo e.files) e.performed db

/-- A database that no migration was applied to. -/
def Database.fresh (content : σ) : Database σ := ⟨content, [], []⟩

/-- An undisturbed call after the attempt does what one on the original would have done,
and every statement of every file has been executed once, in order. -/
structure SurvivesInterruption (ms : MigrationFiles σ) (db : Database σ) (e : Attempt) : Prop where
  returns : (applyMigrations ms (attempt ms db e)).2 = true
  same : applyMigrations ms (attempt ms db e) = applyMigrations ms db
  executed : (applyMigrations ms (attempt ms db e)).1.executed = ms.places
  ledger : ∀ d : MigrationsDir, d.entries.Perm ms.names →
    canonicalMigrationNames d = .ok (applyMigrations ms (attempt ms db e)).1.ledger

/-- The statements of the files that are left succeed one after the other, and the attempt
executed none of them since its last commit. -/
structure CutBetweenFiles (ms : MigrationFiles σ) (db : Database σ) (e : Attempt) : Prop where
  applicable : (applied (pending ms.files db.ledger) db).isSome = true
  settled : unsettled ((migrationActions (ms.upTo e.files).files db.ledger).take e.performed) =
    false

/-- The database was built by whole files. -/
def Built (ms : MigrationFiles σ) (db : Database σ) : Prop :=
  ∃ done rest, ms.files = done ++ rest ∧ db.ledger = done.map Migration.name ∧
    db.executed = done.flatMap Migration.places

section

variable {ms : MigrationFiles σ} {db : Database σ}

theorem MigrationFiles.nodup (ms : MigrationFiles σ) : (ms.files.map Migration.name).Nodup :=
  ms.sorted.imp fun h => ne_of_lt h

/-- The pending files of a database that whole files built. -/
theorem pending_append {done rest : List (Migration σ)}
    (hnodup : ((done ++ rest).map Migration.name).Nodup) (k : ℕ) :
    pending ((done ++ rest).take k) (done.map Migration.name) = rest.take (k - done.length) := by
  rw [List.map_append, List.nodup_append] at hnodup
  unfold pending
  rw [List.take_append, List.filter_append]
  have hdone : (done.take k).filter (fun m => m.name ∉ done.map Migration.name) = [] := by
    refine List.filter_eq_nil_iff.mpr fun m hm => ?_
    have hmem : m.name ∈ done.map Migration.name :=
      List.mem_map_of_mem (List.mem_of_mem_take hm)
    simpa using hmem
  have hrest : (rest.take (k - done.length)).filter (fun m => m.name ∉ done.map Migration.name) =
      rest.take (k - done.length) := by
    refine List.filter_eq_self.mpr fun m hm => decide_eq_true fun hmem => ?_
    exact hnodup.2.2 _ hmem _ (List.mem_map_of_mem (List.mem_of_mem_take hm)) rfl
  rw [hdone, hrest, List.nil_append]

theorem pending_of_files {done rest : List (Migration σ)} (hfiles : ms.files = done ++ rest) :
    pending ms.files (done.map Migration.name) = rest := by
  have hnodup := ms.nodup
  rw [hfiles] at hnodup
  have h := pending_append hnodup (done ++ rest).length
  rwa [List.take_length, List.take_of_length_le (by simp), ← hfiles] at h

/-- An undisturbed call applies the pending files. -/
theorem applyMigrations_eq (ms : MigrationFiles σ) (db : Database σ)
    (hnodup : (db.ledger ++ (pending ms.files db.ledger).map Migration.name).Nodup) :
    (applyMigrations ms db).2 = (applied (pending ms.files db.ledger) db).isSome ∧
      ∀ t, applied (pending ms.files db.ledger) db = some t →
        applyMigrations ms db = (t, true) := by
  have hcommit : perform ⟨db, []⟩ (Action.commit : Action σ) = some ⟨db, []⟩ := by
    simp [perform, Connection.commit]
  unfold applyMigrations
  rw [migrationActions_eq, execute_cons_some hcommit]
  obtain ⟨hreturns, happlied⟩ := execute_files hnodup
  exact ⟨hreturns, fun t h => by rw [happlied t h]⟩

/-- An attempt applies some of the pending files, and executes statements of the next one. -/
theorem attempt_cases (hbuilt : Built ms db) (e : Attempt) :
    ∃ done next rest mid executed, ms.files = done ++ next ++ rest ∧
      db.ledger = done.map Migration.name ∧ db.executed = done.flatMap Migration.places ∧
      applied next db = some mid ∧ Left mid (attempt ms db e) executed ∧
      ((applied (next ++ rest) db).isSome = true →
        (unsettled ((migrationActions (ms.upTo e.files).files db.ledger).take e.performed) = true ↔
          executed ≠ [])) := by
  obtain ⟨done, rest, hfiles, hledger, hexecuted⟩ := hbuilt
  have hnodup := ms.nodup
  rw [hfiles] at hnodup
  have hpending : pending (ms.upTo e.files).files db.ledger =
      rest.take (e.files + 1 - done.length) := by
    have hupTo : (ms.upTo e.files).files = (done ++ rest).take (e.files + 1) := by
      rw [← hfiles]
      rfl
    rw [hledger, hupTo]
    exact pending_append hnodup _
  have hearlier : (db.ledger ++ (rest.take (e.files + 1 - done.length)).map
      Migration.name).Nodup := by
    rw [hledger, ← List.map_append]
    exact hnodup.sublist (((List.take_sublist _ _).append_left _).map _)
  have hcommit : perform ⟨db, []⟩ (Action.commit : Action σ) = some ⟨db, []⟩ := by
    simp [perform, Connection.commit]
  have hattempt : ∀ k, (execute perform ⟨db, []⟩ (((Action.commit : Action σ) ::
      (rest.take (e.files + 1 - done.length)).flatMap Migration.committed).take k)).1.database =
      (execute perform ⟨db, []⟩ (((rest.take (e.files + 1 - done.length)).flatMap
        Migration.committed).take (k - 1))).1.database ∧
      unsettled (((Action.commit : Action σ) ::
        (rest.take (e.files + 1 - done.length)).flatMap Migration.committed).take k) =
      unsettled (((rest.take (e.files + 1 - done.length)).flatMap
        Migration.committed).take (k - 1)) := by
    intro k
    cases k with
    | zero => exact ⟨rfl, rfl⟩
    | succ k => exact ⟨by rw [List.take_succ_cons, execute_cons_some hcommit]; rfl, rfl⟩
  obtain ⟨next, left, mid, executed, hnext, happlied, hleft, hunsettled⟩ :=
    execute_cut (e.performed - 1) hearlier
  obtain ⟨hdatabase, hsettled⟩ := hattempt e.performed
  refine ⟨done, next, left ++ rest.drop (e.files + 1 - done.length), mid, executed, ?_, hledger,
    hexecuted, happlied, ?_, ?_⟩
  · rw [hfiles, List.append_assoc, ← List.append_assoc next, ← hnext, List.take_append_drop]
  · unfold attempt cutOff
    rw [migrationActions_eq, hpending, hdatabase]
    exact hleft
  · rw [migrationActions_eq, hpending, hsettled]
    intro h
    refine hunsettled ?_
    rw [← List.append_assoc, applied_append, hnext.symm] at h
    cases hsome : applied (rest.take (e.files + 1 - done.length)) db with
    | none => simp [hsome] at h
    | some t => rfl

/-- The canonical names of a directory of the files. -/
theorem canonicalMigrationNames_of_files (ms : MigrationFiles σ) {d : MigrationsDir}
    (h : d.entries.Perm ms.names) : canonicalMigrationNames d = .ok ms.names := by
  have hsorted : ms.names.Pairwise (· ≤ ·) := ms.sorted.imp fun h => le_of_lt h
  have hnames : sortBy id d.entries = ms.names :=
    List.Perm.eq_of_pairwise (fun _ _ _ _ hab hba => le_antisymm hab hba)
      (sortBy_sorted id d.entries) hsorted ((sortBy_perm id d.entries).trans h)
  have hne : ms.names ≠ [] := by
    intro hnil
    exact ms.nonempty (List.map_eq_nil_iff.mp hnil)
  have hduplicates : duplicateNames ms.names = [] := (duplicateNames_eq_nil_iff _).mpr ms.nodup
  simp [canonicalMigrationNames, hnames, hne, hduplicates, pure, Except.pure]

theorem survivesInterruption_iff (hbuilt : Built ms db) (e : Attempt) :
    SurvivesInterruption ms db e ↔ CutBetweenFiles ms db e := by
  obtain ⟨done, next, rest, mid, executed, hfiles, hledger, hexecuted, happlied, hleft,
    hunsettled⟩ := attempt_cases hbuilt e
  obtain ⟨hmidLedger, hmidExecuted⟩ := applied_ledger happlied
  have hnodup := ms.nodup
  rw [hfiles] at hnodup
  have hpending : pending ms.files db.ledger = next ++ rest := by
    rw [hledger]
    exact pending_of_files (by rw [hfiles, List.append_assoc])
  have hledger' : (attempt ms db e).ledger = (done ++ next).map Migration.name := by
    rw [hleft.ledger, hmidLedger, hledger, List.map_append]
  have hpending' : pending ms.files (attempt ms db e).ledger = rest := by
    rw [hledger']
    exact pending_of_files hfiles
  have hundisturbed := applyMigrations_eq ms db (by
    rw [hpending, hledger, ← List.map_append, ← List.append_assoc]
    exact hnodup)
  have hlater := applyMigrations_eq ms (attempt ms db e) (by
    rw [hpending', hledger', ← List.map_append]
    exact hnodup)
  rw [hpending] at hundisturbed
  rw [hpending'] at hlater
  -- the later call ends where whole files would, if no statement was left unsettled
  have hwhole : executed = [] → applied rest (attempt ms db e) = applied (next ++ rest) db := by
    intro hnil
    rw [hleft.unchanged hnil, applied_append, happlied]
    rfl
  constructor
  · intro h
    have hsome := hlater.1.symm.trans h.returns
    obtain ⟨t, ht⟩ := Option.isSome_iff_exists.mp hsome
    obtain ⟨_, htExecuted⟩ := applied_ledger ht
    have hnil : executed = [] := by
      have hplaces := h.executed
      rw [hlater.2 t ht, htExecuted, hleft.executed_eq, hmidExecuted, hexecuted,
        MigrationFiles.places, hfiles] at hplaces
      have hlength := congrArg List.length hplaces
      simp only [List.length_append, List.flatMap_append] at hlength
      exact List.length_eq_zero_iff.mp (by omega)
    have happlicable : (applied (next ++ rest) db).isSome = true := by
      rw [← hwhole hnil]
      exact hsome
    refine ⟨by rw [hpending]; exact happlicable, ?_⟩
    rw [← Bool.not_eq_true, hunsettled happlicable]
    exact not_not.mpr hnil
  · intro h
    have happlicable := h.applicable
    rw [hpending] at happlicable
    have hnil : executed = [] := by
      by_contra hne
      have hleftover := (hunsettled happlicable).mpr hne
      rw [h.settled] at hleftover
      cases hleftover
    obtain ⟨t, ht⟩ := Option.isSome_iff_exists.mp happlicable
    have hlaterDone := hlater.2 t (by rw [hwhole hnil]; exact ht)
    obtain ⟨htLedger, htExecuted⟩ := applied_ledger ht
    refine ⟨by rw [hlaterDone], by rw [hlaterDone, hundisturbed.2 t ht], ?_, fun d hd => ?_⟩
    · rw [hlaterDone, htExecuted, hexecuted, MigrationFiles.places, hfiles]
      simp
    · rw [hlaterDone, canonicalMigrationNames_of_files ms hd, htLedger, hledger,
        MigrationFiles.names, hfiles]
      simp

/-- A cut between files leaves a database that whole files built. -/
theorem built_attempt (hbuilt : Built ms db) {e : Attempt} (h : CutBetweenFiles ms db e) :
    Built ms (attempt ms db e) := by
  obtain ⟨done, next, rest, mid, executed, hfiles, hledger, hexecuted, happlied, hleft,
    hunsettled⟩ := attempt_cases hbuilt e
  obtain ⟨hmidLedger, hmidExecuted⟩ := applied_ledger happlied
  have hpending : pending ms.files db.ledger = next ++ rest := by
    rw [hledger]
    exact pending_of_files (by rw [hfiles, List.append_assoc])
  have happlicable := h.applicable
  rw [hpending] at happlicable
  have hnil : executed = [] := by
    by_contra hne
    have hleftover := (hunsettled happlicable).mpr hne
    rw [h.settled] at hleftover
    cases hleftover
  rw [hleft.unchanged hnil]
  refine ⟨done ++ next, rest, hfiles, ?_, ?_⟩
  · rw [hmidLedger, hledger, List.map_append]
  · rw [hmidExecuted, hexecuted, List.flatMap_append]

/-- Over every sequence of interrupted calls, each is made up for by an undisturbed one
exactly where each was cut off between files of a list that can be applied; and a ledger is
reported to match exactly where it is the canonical list. -/
theorem interruptedRuns_iff (ms : MigrationFiles σ) (content : σ) (attempts : List Attempt)
    (d : MigrationsDir) (appliedList : List String) :
    (Along (attempt ms) (SurvivesInterruption ms) (Database.fresh content) attempts ↔
        Along (attempt ms) (CutBetweenFiles ms) (Database.fresh content) attempts) ∧
      (validateMigrationLedger d appliedList).map (·.ledgerMatches) =
        (canonicalMigrationNames d).map fun expected => decide (appliedList = expected) := by
  refine ⟨?_, validateMigrationLedger_matches d appliedList⟩
  have hfresh : Built ms (Database.fresh content) := ⟨[], ms.files, rfl, rfl, rfl⟩
  exact along_iff_along (fun _ _ hbuilt _ h => built_attempt hbuilt h)
    (fun _ e hbuilt _ => survivesInterruption_iff hbuilt e) hfresh
    (along_trivial (attempt ms) (fun _ _ => trivial : ∀ (_ : Database σ) (_ : Attempt), True) _ _)

end

/-! ## A file of two tables -/

/-- `CREATE TABLE` fails where the table is there. -/
def createTable (table : String) (tables : List String) : Option (List String) :=
  if table ∈ tables then none else some (tables ++ [table])

def twoTables : MigrationFiles (List String) where
  files := [⟨"001_tables.sql", [createTable "slots", createTable "windows"]⟩]
  sorted := by simp
  nonempty := by simp

/-- The second call fails at the table that the first one created. -/
theorem not_survives_twoTables :
    ¬Along (attempt twoTables) (SurvivesInterruption twoTables) (Database.fresh []) [⟨0, 2⟩] := by
  rintro ⟨h, _⟩
  have hfails : (applyMigrations twoTables (attempt twoTables (Database.fresh []) ⟨0, 2⟩)).2 =
      false := by decide
  rw [h.returns] at hfails
  cases hfails

end PrinterV1.Db
