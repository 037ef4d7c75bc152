import Mathlib.Data.List.Basic
import Mathlib.Tactic.Common

/-!
# Runs of a deterministic machine

A machine is a transition function on states. A run folds a list of inputs,
and `Along` says that every input of the run meets a condition in the state it
is taken in. The rules below turn a fact about one transition into a fact
about every run: an invariant kept under the condition holds wherever the
condition was met, and a condition that is necessary as well as sufficient for
one transition characterizes the runs that keep the invariant throughout.
-/

namespace PrinterV1.Runs

variable {σ ι ο : Type*} (step : σ → ι → σ)

/-- The state after the inputs, taken from left to right. -/
def run (s : σ) (xs : List ι) : σ := xs.foldl step s

@[simp] theorem run_nil (s : σ) : run step s [] = s := rfl

@[simp] theorem run_cons (s : σ) (x : ι) (xs : List ι) :
    run step s (x :: xs) = run step (step s x) xs := rfl

theorem run_append (s : σ) (xs ys : List ι) :
    run step s (xs ++ ys) = run step (run step s xs) ys :=
  List.foldl_append

/-- Every input meets the condition in the state it is taken in. -/
def Along (C : σ → ι → Prop) : σ → List ι → Prop
  | _, [] => True
  | s, x :: xs => C s x ∧ Along C (step s x) xs

@[simp] theorem along_nil (C : σ → ι → Prop) (s : σ) : Along step C s [] := trivial

@[simp] theorem along_cons {C : σ → ι → Prop} {s : σ} {x : ι} {xs : List ι} :
    Along step C s (x :: xs) ↔ C s x ∧ Along step C (step s x) xs := Iff.rfl

instance Along.decidable (C : σ → ι → Prop) [∀ s x, Decidable (C s x)] :
    ∀ (s : σ) (xs : List ι), Decidable (Along step C s xs)
  | _, [] => isTrue trivial
  | s, x :: xs =>
    have := Along.decidable C (step s x) xs
    inferInstanceAs (Decidable (C s x ∧ Along step C (step s x) xs))

theorem along_append {C : σ → ι → Prop} {xs ys : List ι} : ∀ {s : σ},
    Along step C s (xs ++ ys) ↔ Along step C s xs ∧ Along step C (run step s xs) ys := by
  induction xs with
  | nil => intro s; simp
  | cons x xs ih => intro s; simp [ih, and_assoc]

theorem along_trivial {C : σ → ι → Prop} (h : ∀ s x, C s x) : ∀ (s : σ) (xs : List ι),
    Along step C s xs
  | _, [] => trivial
  | s, x :: xs => ⟨h s x, along_trivial h (step s x) xs⟩

variable {step}

/-- An invariant kept by every transition that meets the condition. -/
theorem invariant_along {C : σ → ι → Prop} {I : σ → Prop}
    (hstep : ∀ s x, I s → C s x → I (step s x)) {xs : List ι} : ∀ {s : σ},
    I s → Along step C s xs → I (run step s xs) := by
  induction xs with
  | nil => intro s hs _; exact hs
  | cons x xs ih =>
    intro s hs hxs
    exact ih (hstep s x hs hxs.1) hxs.2

/-- What every transition under the invariant and the condition does, every
transition of the run does. -/
theorem along_of_invariant {C P : σ → ι → Prop} {I : σ → Prop}
    (hstep : ∀ s x, I s → C s x → I (step s x)) (hdoes : ∀ s x, I s → C s x → P s x)
    {xs : List ι} : ∀ {s : σ}, I s → Along step C s xs → Along step P s xs := by
  induction xs with
  | nil => intro s _ _; trivial
  | cons x xs ih =>
    intro s hs hxs
    exact ⟨hdoes s x hs hxs.1, ih (hstep s x hs hxs.1) hxs.2⟩

/-- A condition that decides a property of every lawful transition under the
invariant, and keeps the invariant, decides it along every lawful run. -/
theorem along_iff_along {L C P : σ → ι → Prop} {I : σ → Prop}
    (hstep : ∀ s x, I s → L s x → C s x → I (step s x))
    (hdecides : ∀ s x, I s → L s x → (P s x ↔ C s x)) {xs : List ι} : ∀ {s : σ},
    I s → Along step L s xs → (Along step P s xs ↔ Along step C s xs) := by
  induction xs with
  | nil => intro s _ _; simp
  | cons x xs ih =>
    intro s hs hxs
    rw [along_cons, along_cons, hdecides s x hs hxs.1]
    exact and_congr_right fun hc => ih (hstep s x hs hxs.1 hc) hxs.2

/-- The unconditional form: an invariant every transition keeps. -/
theorem invariant {I : σ → Prop} (hstep : ∀ s x, I s → I (step s x))
    {s : σ} (hs : I s) (xs : List ι) : I (run step s xs) :=
  invariant_along (fun s x h _ => hstep s x h) hs
    (along_trivial step (fun _ _ => trivial : ∀ (_ : σ) (_ : ι), True) s xs)

/-- The invariant holds in every state of the run, the first one included. -/
def Throughout (step : σ → ι → σ) (I : σ → Prop) (s : σ) (xs : List ι) : Prop :=
  ∀ pre, pre <+: xs → I (run step s pre)

theorem Throughout.start {I : σ → Prop} {s : σ} {xs : List ι}
    (h : Throughout step I s xs) : I s := h [] (List.nil_prefix)

theorem throughout_cons {I : σ → Prop} {s : σ} {x : ι} {xs : List ι} :
    Throughout step I s (x :: xs) ↔ I s ∧ Throughout step I (step s x) xs := by
  constructor
  · intro h
    refine ⟨h.start, fun pre hpre => ?_⟩
    exact h (x :: pre) (by simpa using hpre)
  · rintro ⟨hs, h⟩ pre hpre
    cases pre with
    | nil => exact hs
    | cons y pre =>
      obtain ⟨hy, hpre'⟩ := List.cons_prefix_cons.mp hpre
      subst hy
      exact h pre hpre'

theorem throughout_along {C : σ → ι → Prop} {I : σ → Prop}
    (hstep : ∀ s x, I s → C s x → I (step s x)) {s : σ} {xs : List ι}
    (hs : I s) (hxs : Along step C s xs) : Throughout step I s xs := by
  rintro pre ⟨post, rfl⟩
  exact invariant_along hstep hs ((along_append step).mp hxs).1

/-- A condition that decides every transition decides every run: the invariant
holds throughout exactly when each input met the condition. -/
theorem throughout_iff_along {C : σ → ι → Prop} {I : σ → Prop}
    (hstep : ∀ s x, I s → (I (step s x) ↔ C s x)) {xs : List ι} : ∀ {s : σ},
    I s → (Throughout step I s xs ↔ Along step C s xs) := by
  induction xs with
  | nil =>
    intro s hs
    simpa [Throughout] using hs
  | cons x xs ih =>
    intro s hs
    rw [throughout_cons, along_cons]
    constructor
    · rintro ⟨_, h⟩
      have hx : I (step s x) := h.start
      exact ⟨(hstep s x hs).mp hx, (ih hx).mp h⟩
    · rintro ⟨hc, h⟩
      exact ⟨hs, (ih ((hstep s x hs).mpr hc)).mpr h⟩

/-- A property that each transition extends by a condition, under an invariant,
holds at the end exactly when the condition was met all along. -/
theorem run_iff_along {C : σ → ι → Prop} {I P : σ → Prop}
    (hinv : ∀ s x, I s → I (step s x))
    (hstep : ∀ s x, I s → (P (step s x) ↔ P s ∧ C s x)) {xs : List ι} : ∀ {s : σ},
    I s → (P (run step s xs) ↔ P s ∧ Along step C s xs) := by
  induction xs with
  | nil => intro s _; simp
  | cons x xs ih =>
    intro s hs
    rw [run_cons, ih (hinv s x hs), hstep s x hs, along_cons, and_assoc]

/-- `Along`, read off the places where the run can be cut. -/
theorem along_iff_forall {C : σ → ι → Prop} {xs : List ι} : ∀ {s : σ},
    Along step C s xs ↔ ∀ pre x post, xs = pre ++ x :: post → C (run step s pre) x := by
  induction xs with
  | nil => intro s; simp
  | cons x xs ih =>
    intro s
    rw [along_cons, ih]
    constructor
    · intro h pre y post hcut
      cases pre with
      | nil =>
        obtain ⟨rfl, _⟩ := List.cons.inj hcut
        exact h.1
      | cons z pre =>
        obtain ⟨rfl, hxs⟩ := List.cons.inj hcut
        exact h.2 pre y post hxs
    · intro h
      refine ⟨h [] x xs rfl, fun pre y post hcut => ?_⟩
      exact h (x :: pre) y post (by rw [hcut]; rfl)

theorem along_congr {C C' : σ → ι → Prop} (h : ∀ s x, C s x ↔ C' s x) {s : σ}
    {xs : List ι} : Along step C s xs ↔ Along step C' s xs := by
  simp only [along_iff_forall, h]

theorem along_and {C C' : σ → ι → Prop} {s : σ} {xs : List ι} :
    Along step (fun s x => C s x ∧ C' s x) s xs ↔
      Along step C s xs ∧ Along step C' s xs := by
  simp only [along_iff_forall]
  constructor
  · intro h
    exact ⟨fun pre x post hcut => (h pre x post hcut).1, fun pre x post hcut => (h pre x post hcut).2⟩
  · intro h pre x post hcut
    exact ⟨h.1 pre x post hcut, h.2 pre x post hcut⟩

/-- Any earlier state of the run is related to any later one. -/
def Kept (step : σ → ι → σ) (R : σ → σ → Prop) (s : σ) (xs : List ι) : Prop :=
  ∀ pre mid post, xs = pre ++ mid ++ post → R (run step s pre) (run step s (pre ++ mid))

/-- A preorder is kept over a whole run exactly when every transition keeps it. -/
theorem kept_iff_along {R : σ → σ → Prop} (hrefl : ∀ s, R s s)
    (htrans : ∀ a b c, R a b → R b c → R a c) {s : σ} {xs : List ι} :
    Kept step R s xs ↔ Along step (fun s x => R s (step s x)) s xs := by
  constructor
  · intro h
    rw [along_iff_forall]
    intro pre x post hcut
    have hx := h pre [x] post (by rw [hcut]; simp)
    simpa [run_append] using hx
  · intro h pre mid post hcut
    rw [hcut] at h
    have hmid : Along step (fun s x => R s (step s x)) (run step s pre) mid :=
      ((along_append step).mp ((along_append step).mp h).1).2
    rw [run_append]
    exact invariant_along (fun b x hb hx => htrans _ _ _ hb hx) (hrefl _) hmid

/-- What the machine returns for each input, when a transition also answers. -/
def outputs (step : σ → ι → σ × ο) : σ → List ι → List ο
  | _, [] => []
  | s, x :: xs => (step s x).2 :: outputs step (step s x).1 xs

/-- Where the answers can be cut, the inputs can. -/
theorem outputs_cut {step : σ → ι → σ × ο} {a : ο} {after : List ο} {xs : List ι} :
    ∀ {s : σ} {before : List ο}, outputs step s xs = before ++ a :: after →
      ∃ pre x post, xs = pre ++ x :: post ∧ outputs step s pre = before ∧
        (step (run (fun s x => (step s x).1) s pre) x).2 = a := by
  induction xs with
  | nil => intro s before h; simp [outputs] at h
  | cons x xs ih =>
    intro s before h
    cases before with
    | nil => exact ⟨[], x, xs, rfl, rfl, (List.cons.inj h).1⟩
    | cons b before =>
      obtain ⟨hb, hrest⟩ := List.cons.inj h
      obtain ⟨pre, y, post, rfl, hbefore, ha⟩ := ih hrest
      exact ⟨x :: pre, y, post, rfl, by rw [outputs, hb, hbefore], ha⟩

/-- Inputs that each put their row at the end of the rows, as long as the rows fit. -/
theorem run_appends {ρ : Type*} {step : σ → ι → σ × ο} {rows : σ → List ρ} {call : ρ → ι}
    {Fits : List ρ → Prop} {a : ο} (hfits : ∀ xs ys, Fits (xs ++ ys) → Fits xs)
    (hstep : ∀ s r, Fits (rows s ++ [r]) →
      rows (step s (call r)).1 = rows s ++ [r] ∧ (step s (call r)).2 = a) (rs : List ρ) :
    ∀ s, Fits (rows s ++ rs) →
      rows (run (fun s x => (step s x).1) s (rs.map call)) = rows s ++ rs ∧
        outputs step s (rs.map call) = rs.map fun _ => a := by
  induction rs with
  | nil =>
    intro s _
    simp [outputs]
  | cons r rs ih =>
    intro s h
    have hsplit : rows s ++ r :: rs = (rows s ++ [r]) ++ rs := by simp
    rw [hsplit] at h
    obtain ⟨hrows, hanswer⟩ := hstep s r (hfits _ rs h)
    obtain ⟨hrest, houtputs⟩ := ih (step s (call r)).1 (by rw [hrows]; exact h)
    rw [List.map_cons, run_cons, outputs, hrest, houtputs, hrows, hanswer, hsplit]
    exact ⟨rfl, rfl⟩

end PrinterV1.Runs
