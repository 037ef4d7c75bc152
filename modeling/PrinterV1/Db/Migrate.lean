import PrinterV1.Foundation.Faults
import PrinterV1.Foundation.Scripts
import PrinterV1.Foundation.Sorting
import PrinterV1.Python.Text

/-!
# The migration runner

`apply_migrations` runs the scripts of the migrations directory that the ledger
does not name yet. `executescript` commits the open transaction and runs each
statement on its own, so the ledger row of a file waits for the next commit.
-/

namespace PrinterV1.Db

open Python Scripts

/-- `seen` and `duplicates` after one name. -/
def duplicateStep (s : List String × List String) (name : String) : List String × List String :=
  (name :: s.1, if name ∈ s.1 ∧ name ∉ s.2 then s.2 ++ [name] else s.2)

/-- The names that occur again, each once. -/
def duplicateNames (names : List String) : List String := (names.foldl duplicateStep ([], [])).2

/-- A directory and the names that `glob("*.sql")` lists. -/
structure MigrationsDir where
  path : String
  entries : List String

/-- `canonical_migration_names` -/
def canonicalMigrationNames (d : MigrationsDir) : Except String (List String) := do
  let names := sortBy id d.entries
  if names = [] then throw ("no canonical migrations found under " ++ d.path)
  if duplicateNames names ≠ [] then
    throw ("canonical migration directory contains duplicate names: " ++
      String.intercalate ", " (duplicateNames names))
  return names

/-- The failures that are found before the last comparison. -/
def ledgerIssues (expected applied : List String) : List String :=
  let missing := expected.filter fun name => name ∉ applied
  let unexpected := applied.filter fun name => name ∉ expected
  (if applied.length ≠ applied.dedup.length then
    ["duplicate applied migrations: " ++ listText (duplicateNames applied)] else []) ++
  (if missing ≠ [] then ["missing canonical migrations: " ++ listText missing] else []) ++
  (if unexpected ≠ [] then ["unexpected applied migrations: " ++ listText unexpected] else []) ++
  (if missing = [] ∧ unexpected = [] ∧ applied.length = expected.length ∧ applied ≠ expected then
    ["applied migrations are reordered relative to the canonical ledger: applied=" ++
      listText applied ++ " expected=" ++ listText expected] else []) ++
  if applied.length ≠ expected.length ∧ missing = [] ∧ unexpected = [] then
    ["migration count mismatch: applied=" ++ toString applied.length ++ " canonical=" ++
      toString expected.length] else []

/-- `describe_migration_ledger_mismatch` -/
def describeMigrationLedgerMismatch (expected applied : List String) : List String :=
  if applied = [] then
    ["applied migration ledger is empty", "missing canonical migrations: " ++ listText expected]
  else if ledgerIssues expected applied = [] ∧ applied ≠ expected then
    ["canonical migration ledger mismatch: applied=" ++ listText applied ++ " expected=" ++
      listText expected]
  else ledgerIssues expected applied

structure LedgerReport where
  ledgerMatches : Bool
  applied : List String
  expected : List String
  appliedCount : ℕ
  canonicalCount : ℕ
  latestCanonical : Option String
  latestApplied : Option String
  issues : List String
  deriving DecidableEq, Repr

/-- `validate_migration_ledger` -/
def validateMigrationLedger (d : MigrationsDir) (applied : List String) :
    Except String LedgerReport := do
  let expected ← canonicalMigrationNames d
  let issues := describeMigrationLedgerMismatch expected applied
  return {
    ledgerMatches := issues = [] ∧ applied = expected
    applied := applied
    expected := expected
    appliedCount := applied.length
    canonicalCount := expected.length
    latestCanonical := expected.getLast?
    latestApplied := applied.getLast?
    issues := issues }

theorem duplicateNames_eq_nil_iff (names : List String) :
    duplicateNames names = [] ↔ names.Nodup := by
  have hloop : ∀ (names seen duplicates : List String),
      (names.foldl duplicateStep (seen, duplicates)).2 = [] ↔
        duplicates = [] ∧ names.Nodup ∧ ∀ name ∈ names, name ∉ seen := by
    intro names
    induction names with
    | nil => intro seen duplicates; simp
    | cons name names ih =>
      intro seen duplicates
      rw [List.foldl_cons, duplicateStep, ih]
      by_cases hseen : name ∈ seen
      · by_cases hdup : name ∈ duplicates
        · have hne : duplicates ≠ [] := List.ne_nil_of_mem hdup
          simp [hne, hdup]
        · simp [hseen, hdup]
      · simp only [hseen, false_and, if_false, List.nodup_cons, List.mem_cons, not_or,
          forall_eq_or_imp, not_false_iff, true_and]
        constructor
        · rintro ⟨hnil, hnodup, hfresh⟩
          exact ⟨hnil, ⟨fun hmem => (hfresh name hmem).1 rfl, hnodup⟩, fun x hx => (hfresh x hx).2⟩
        · rintro ⟨hnil, ⟨hname, hnodup⟩, hfresh⟩
          refine ⟨hnil, hnodup, fun x hx => ⟨?_, hfresh x hx⟩⟩
          rintro rfl
          exact hname hx
  simpa [duplicateNames] using hloop names [] []

/-- A report matches exactly where the applied list is the canonical one. -/
theorem validateMigrationLedger_matches (d : MigrationsDir) (applied : List String) :
    (validateMigrationLedger d applied).map (·.ledgerMatches) =
      (canonicalMigrationNames d).map fun expected => decide (applied = expected) := by
  unfold validateMigrationLedger
  cases hnames : canonicalMigrationNames d with
  | error message => rfl
  | ok expected =>
    have hexpected : expected ≠ [] ∧ expected.Nodup := by
      obtain ⟨hne, hnames⟩ := Faults.check_ok hnames
      obtain ⟨hdup, hnames⟩ := Faults.check_ok hnames
      obtain rfl := Except.ok.inj hnames
      exact ⟨hne, (duplicateNames_eq_nil_iff _).mp (not_not.mp hdup)⟩
    have hself : describeMigrationLedgerMismatch expected expected = [] := by
      simp [describeMigrationLedgerMismatch, ledgerIssues, hexpected.1,
        List.dedup_eq_self.mpr hexpected.2]
    simp only [Except.map, bind, Except.bind, pure, Except.pure, Except.ok.injEq,
      decide_eq_decide, and_iff_right_iff_imp]
    rintro rfl
    exact hself

/-- A migration file: a statement changes the database, or fails and changes nothing. -/
structure Migration (σ : Type*) where
  name : String
  statements : List (σ → Option σ)

/-- The files of the migrations directory, in the order of their names. -/
structure MigrationFiles (σ : Type*) where
  files : List (Migration σ)
  sorted : (files.map Migration.name).Pairwise (· < ·)
  nonempty : files ≠ []

variable {σ : Type*}

/-- A database file: what the migrations write, the ledger in the order of its rows,
and the statements that were executed on it, each by its file and its place there. -/
structure Database (σ : Type*) where
  content : σ
  ledger : List String
  executed : List (String × ℕ)

/-- The database, and the ledger rows of the transaction that is open. -/
structure Connection (σ : Type*) where
  database : Database σ
  inserted : List String

inductive Action (σ : Type*)
  | commit
  | statement (file : String) (place : ℕ) (apply : σ → Option σ)
  | record (version : String)

def Connection.commit (c : Connection σ) : Connection σ :=
  ⟨{ c.database with ledger := c.database.ledger ++ c.inserted }, []⟩

/-- A statement of a script commits on its own; the version is a primary key. -/
def perform (c : Connection σ) : Action σ → Option (Connection σ)
  | .commit => some c.commit
  | .statement file place apply => (apply c.database.content).map fun content =>
      { c with
        database := { c.database with
          content := content
          executed := c.database.executed ++ [(file, place)] } }
  | .record version =>
    if version ∈ c.database.ledger ++ c.inserted then none
    else some { c with inserted := c.inserted ++ [version] }

/-- The statements of a file from a place on. -/
def statementsFrom (file : String) : ℕ → List (σ → Option σ) → List (Action σ)
  | _, [] => []
  | place, apply :: rest => .statement file place apply :: statementsFrom file (place + 1) rest

/-- `executescript` of a file and the `INSERT` of its version. -/
def Migration.actions (m : Migration σ) : List (Action σ) :=
  .commit :: statementsFrom m.name 0 m.statements ++ [.record m.name]

/-- The loop over the files that the ledger does not name, and the last commit. -/
def migrationActions (files : List (Migration σ)) (appliedVersions : List String) :
    List (Action σ) :=
  ((files.filter fun m => m.name ∉ appliedVersions).flatMap Migration.actions) ++ [.commit]

/-- `apply_migrations`: the database it leaves, and whether it returned. What is not
committed when the connection is closed is lost. -/
def applyMigrations (ms : MigrationFiles σ) (db : Database σ) : Database σ × Bool :=
  let r := execute perform ⟨db, []⟩ (migrationActions ms.files db.ledger)
  (r.1.database, r.2)

/-- A call that is cut off after so many of its actions. -/
def cutOff (ms : MigrationFiles σ) (performed : ℕ) (db : Database σ) : Database σ :=
  (execute perform ⟨db, []⟩ ((migrationActions ms.files db.ledger).take performed)).1.database

end PrinterV1.Db
