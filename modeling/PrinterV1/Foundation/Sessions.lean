import Mathlib.Tactic.Common

/-!
# Sessions with an open transaction

A connection that writes into one open transaction: what is stored, and the
working copy that the statements see. A block that commits on its own stores the
whole working copy, the statements before it included; one that raises loses
them with its own.
-/

namespace PrinterV1

structure Session (σ : Type) where
  stored : σ
  working : σ

namespace Session

variable {σ ε α : Type}

/-- A connection that has written nothing. -/
def start (s : σ) : Session σ := ⟨s, s⟩

/-- A statement of the open transaction. -/
def write (s : Session σ) (f : σ → σ) : Session σ := { s with working := f s.working }

def commit (s : Session σ) : Session σ := { s with stored := s.working }

def rollback (s : Session σ) : Session σ := { s with working := s.stored }

/-- `with connection`: commits where the block returns, rolls back where it raises. -/
def block (s : Session σ) (body : σ → Except ε (α × σ)) : Except ε α × Session σ :=
  match body s.working with
  | .ok (a, working) => (.ok a, start working)
  | .error e => (.error e, s.rollback)

@[simp] theorem start_stored (s : σ) : (start s).stored = s := rfl

@[simp] theorem start_working (s : σ) : (start s).working = s := rfl

@[simp] theorem write_stored (s : Session σ) (f : σ → σ) : (s.write f).stored = s.stored := rfl

@[simp] theorem write_working (s : Session σ) (f : σ → σ) : (s.write f).working = f s.working := rfl

@[simp] theorem rollback_eq (s : Session σ) : s.rollback = start s.stored := rfl

@[simp] theorem commit_eq (s : Session σ) : s.commit = start s.working := rfl

theorem block_ok {s : Session σ} {body : σ → Except ε (α × σ)} {a : α} {working : σ}
    (h : body s.working = .ok (a, working)) : s.block body = (.ok a, start working) := by
  simp [block, h]

theorem block_error {s : Session σ} {body : σ → Except ε (α × σ)} {e : ε}
    (h : body s.working = .error e) : s.block body = (.error e, start s.stored) := by
  simp [block, h]

section Holds

variable {P : σ → Prop}

/-- A property of what is stored and of the working copy. -/
def Holds (P : σ → Prop) (s : Session σ) : Prop := P s.stored ∧ P s.working

theorem holds_start {x : σ} (h : P x) : (start x).Holds P := ⟨h, h⟩

theorem Holds.write {s : Session σ} (h : s.Holds P) {f : σ → σ} (hf : P (f s.working)) :
    (s.write f).Holds P := ⟨h.1, hf⟩

/-- A block keeps it when what the block returns has it. -/
theorem Holds.block {s : Session σ} (h : s.Holds P) {body : σ → Except ε (α × σ)}
    (hbody : ∀ a x, body s.working = .ok (a, x) → P x) : (s.block body).2.Holds P := by
  unfold Session.block
  cases hrun : body s.working with
  | error e => exact holds_start h.1
  | ok out => exact holds_start (hbody out.1 out.2 hrun)

end Holds

end Session

end PrinterV1
