import Mathlib.Data.List.Basic
import Mathlib.Tactic.Common

/-!
# Transactions of statements that can raise

A statement changes the state or raises. A transaction performs its statements
in order on a working copy: past the last one the copy is committed, and where a
statement or the commit itself raises the copy is rolled back. `fails` says which
of them raise for a reason that is not in the state.
-/

namespace PrinterV1.Transactions

variable {σ ε α : Type}

abbrev Statement (σ ε : Type) := σ → Except ε σ

/-- The statements one after another, where none fails from outside. -/
def performAll (statements : List (Statement σ ε)) (s : σ) : Except ε σ :=
  statements.foldlM (fun s statement => statement s) s

@[simp] theorem performAll_nil (s : σ) : performAll ([] : List (Statement σ ε)) s = .ok s := rfl

theorem performAll_cons (statement : Statement σ ε) (rest : List (Statement σ ε)) (s : σ) :
    performAll (statement :: rest) s = statement s >>= performAll rest :=
  List.foldlM_cons

theorem performAll_singleton (statement : Statement σ ε) (s : σ) :
    performAll [statement] s = statement s := by
  rw [performAll_cons]
  cases statement s <;> rfl

theorem performAll_append (xs ys : List (Statement σ ε)) (s : σ) :
    performAll (xs ++ ys) s = performAll xs s >>= performAll ys :=
  List.foldlM_append

/-- A loop of one statement for each element. -/
theorem performAll_map (f : σ → α → Except ε σ) (xs : List α) (s : σ) :
    performAll (xs.map fun x s => f s x) s = xs.foldlM f s := by
  unfold performAll
  rw [List.foldlM_map]

/-- A loop of several statements for each element. -/
theorem performAll_flatMap {f : α → List (Statement σ ε)} {g : σ → α → Except ε σ}
    (h : ∀ x s, performAll (f x) s = g s x) (xs : List α) :
    ∀ s, performAll (xs.flatMap f) s = xs.foldlM g s := by
  induction xs with
  | nil =>
    intro s
    rfl
  | cons x xs ih =>
    intro s
    rw [List.flatMap_cons, performAll_append, h, List.foldlM_cons]
    exact congrArg (g s x >>= ·) (funext ih)

/-- The working copy behind the statements, and what they raised. -/
def perform (fails : ℕ → Option ε) : ℕ → List (Statement σ ε) → σ → σ × Except ε Unit
  | _, [], s => (s, .ok ())
  | n, statement :: rest, s =>
    match fails n with
    | some e => (s, .error e)
    | none =>
      match statement s with
      | .error e => (s, .error e)
      | .ok s' => perform fails (n + 1) rest s'

/-- The transaction: the state that is stored behind it, and what it raised. -/
def transact (fails : ℕ → Option ε) (statements : List (Statement σ ε)) (s : σ) :
    σ × Except ε Unit :=
  let r := perform fails 0 statements s
  match r.2, fails statements.length with
  | .error e, _ => (s, .error e)
  | .ok (), some e => (s, .error e)
  | .ok (), none => (r.1, .ok ())

variable {fails : ℕ → Option ε}

/-- Statements that get through have all been performed. -/
theorem perform_ok {statements : List (Statement σ ε)} : ∀ {n : ℕ} {s s' : σ},
    perform fails n statements s = (s', .ok ()) → performAll statements s = .ok s' := by
  induction statements with
  | nil =>
    intro n s s' h
    obtain ⟨rfl, _⟩ := Prod.mk.inj h
    rfl
  | cons statement rest ih =>
    intro n s s' h
    unfold perform at h
    rw [performAll_cons]
    split at h
    · cases h
    · split at h
      · cases h
      · rename_i mid hmid
        rw [hmid]
        exact ih h

/-- A transaction raises and leaves the state as it was, or performs every statement. -/
theorem transact_cases (fails : ℕ → Option ε) (statements : List (Statement σ ε)) (s : σ) :
    (∃ e, transact fails statements s = (s, .error e)) ∨
      ∃ s', transact fails statements s = (s', .ok ()) ∧ performAll statements s = .ok s' := by
  unfold transact
  cases hresult : perform fails 0 statements s with
  | mk s' result =>
    cases result with
    | error e => exact Or.inl ⟨e, rfl⟩
    | ok _ =>
      cases hcommit : fails statements.length with
      | some e => exact Or.inl ⟨e, rfl⟩
      | none => exact Or.inr ⟨s', rfl, perform_ok hresult⟩

end PrinterV1.Transactions
