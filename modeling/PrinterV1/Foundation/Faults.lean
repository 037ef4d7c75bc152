import Mathlib.Tactic.Common

/-!
# Fallible computations

How a computation in `Except` that runs in steps succeeds, and how it raises an
error of a given class: it does so exactly where its first failing step does.
-/

namespace PrinterV1.Faults

variable {ε α β : Type}

theorem bind_ok {x : Except ε α} {f : α → Except ε β} {b : β} (h : (x >>= f) = .ok b) :
    ∃ a, x = .ok a ∧ f a = .ok b := by
  cases x with
  | error e => cases h
  | ok a => exact ⟨a, rfl, h⟩

theorem ok_bind (a : α) (f : α → Except ε β) : ((Except.ok a : Except ε α) >>= f) = f a := rfl

theorem error_bind (e : ε) (f : α → Except ε β) :
    ((Except.error e : Except ε α) >>= f) = .error e := rfl

theorem error_iff {x : Except ε α} : (∃ e, x = .error e) ↔ ∀ a, x ≠ .ok a := by
  cases x <;> simp

/-- A check that was passed. -/
theorem check_ok {c : Prop} [Decidable c] {e : ε} {f : β → Except ε α} {rest : Except ε α} {a : α}
    (h : (if c then throw e >>= f else rest) = .ok a) : ¬c ∧ rest = .ok a := by
  by_cases hc : c
  · rw [if_pos hc] at h
    cases h
  · rw [if_neg hc] at h
    exact ⟨hc, h⟩

theorem mapError_ok {ε' : Type} {x : Except ε α} {f : ε → ε'} {a : α}
    (h : x.mapError f = .ok a) : x = .ok a := by
  cases x with
  | error e => cases h
  | ok b =>
    obtain rfl := Except.ok.inj h
    rfl

/-- A computation whose list is seen to have an element has passed. -/
theorem ok_of_mem_getD {x : Except ε (List α)} {a : α} (h : a ∈ x.toOption.getD []) :
    x = .ok (x.toOption.getD []) := by
  cases x with
  | error e => cases h
  | ok as => rfl

/-- A computation whose result is seen to pass a test has returned one that does. -/
theorem ok_of_any {x : Except ε α} {p : α → Bool} (h : x.toOption.any p = true) :
    ∃ a, x = .ok a ∧ p a = true := by
  cases x with
  | error e => cases h
  | ok a => exact ⟨a, rfl, h⟩

/-- What a loop that passed returns comes from its elements. -/
theorem mem_mapM_ok {f : α → Except ε β} {xs : List α} : ∀ {ys : List β},
    xs.mapM f = .ok ys → ∀ y ∈ ys, ∃ x ∈ xs, f x = .ok y := by
  induction xs with
  | nil =>
    intro ys h y hy
    obtain rfl := Except.ok.inj h
    cases hy
  | cons x xs ih =>
    intro ys h y hy
    rw [List.mapM_cons] at h
    obtain ⟨y₁, hfirst, h⟩ := bind_ok h
    obtain ⟨rest, hrest, h⟩ := bind_ok h
    obtain rfl := Except.ok.inj h
    rcases List.mem_cons.mp hy with rfl | hy
    · exact ⟨x, List.mem_cons_self, hfirst⟩
    · obtain ⟨z, hz, hout⟩ := ih hrest y hy
      exact ⟨z, List.mem_cons_of_mem _ hz, hout⟩

/-- A loop that collects passes exactly where each of its turns does. -/
theorem mapM_ok_iff {f : α → Except ε β} {g : α → β} (hg : ∀ x y, f x = .ok y → g x = y)
    {xs : List α} : ∀ {ys : List β},
    xs.mapM f = .ok ys ↔ (∀ x ∈ xs, f x = .ok (g x)) ∧ ys = xs.map g := by
  induction xs with
  | nil =>
    intro ys
    rw [List.mapM_nil]
    exact ⟨fun h => ⟨by simp, (Except.ok.inj h).symm⟩, fun h => by rw [h.2]; rfl⟩
  | cons x xs ih =>
    intro ys
    rw [List.mapM_cons]
    constructor
    · intro h
      obtain ⟨y, hy, h⟩ := bind_ok h
      obtain ⟨rest, hrest, h⟩ := bind_ok h
      obtain ⟨hall, rfl⟩ := ih.mp hrest
      obtain rfl := Except.ok.inj h
      rw [List.forall_mem_cons, List.map_cons, hg x y hy]
      exact ⟨⟨hy, hall⟩, rfl⟩
    · rintro ⟨hall, rfl⟩
      rw [List.forall_mem_cons] at hall
      rw [hall.1, ok_bind, ih.mpr ⟨hall.2, rfl⟩]
      rfl

/-- Where nothing but absence is reported, the loop collects what is there. -/
theorem mapM_some_iff {f : α → Option β} {xs : List α} : ∀ {ys : List β},
    xs.mapM f = some ys ↔ (∀ x ∈ xs, (f x).isSome = true) ∧ ys = xs.filterMap f := by
  induction xs with
  | nil =>
    intro ys
    rw [List.mapM_nil]
    exact ⟨fun h => ⟨by simp, (Option.some.inj h).symm⟩, fun h => by rw [h.2]; rfl⟩
  | cons x xs ih =>
    intro ys
    rw [List.mapM_cons, List.forall_mem_cons]
    cases hx : f x with
    | none => simp
    | some y =>
      rw [List.filterMap_cons_some hx, Option.bind_eq_bind, Option.bind_some]
      constructor
      · intro h
        obtain ⟨rest, hrest, h⟩ := Option.bind_eq_some_iff.mp h
        obtain ⟨hall, rfl⟩ := ih.mp hrest
        exact ⟨⟨rfl, hall⟩, (Option.some.inj h).symm⟩
      · rintro ⟨⟨-, hall⟩, rfl⟩
        rw [ih.mpr ⟨hall, rfl⟩]
        rfl

/-- A loop over states passes exactly where each of its turns may, when each turn leaves a state
that is ready for the rest. -/
theorem foldlM_ok_iff {σ : Type} {f : σ → α → Except ε σ} {ready : List α → σ → Prop}
    {may : α → Prop}
    (hmay : ∀ x xs s, ready (x :: xs) s → ((∃ s', f s x = .ok s') ↔ may x))
    (hready : ∀ x xs s s', ready (x :: xs) s → f s x = .ok s' → ready xs s') {xs : List α} :
    ∀ {s : σ}, ready xs s → ((∃ s', xs.foldlM f s = .ok s') ↔ ∀ x ∈ xs, may x) := by
  induction xs with
  | nil =>
    intro s _
    exact ⟨fun _ => by simp, fun _ => ⟨s, rfl⟩⟩
  | cons x xs ih =>
    intro s hs
    rw [List.forall_mem_cons, ← hmay x xs s hs]
    constructor
    · rintro ⟨s', h⟩
      rw [List.foldlM_cons] at h
      obtain ⟨mid, hmid, h⟩ := bind_ok h
      exact ⟨⟨mid, hmid⟩, (ih (hready x xs s mid hs hmid)).mp ⟨s', h⟩⟩
    · rintro ⟨⟨mid, hmid⟩, hrest⟩
      obtain ⟨s', h⟩ := (ih (hready x xs s mid hs hmid)).mpr hrest
      refine ⟨s', ?_⟩
      rw [List.foldlM_cons, hmid]
      exact h

section Keeps

variable {σ τ : Type} {part : σ → τ}

/-- Where the operation passes, it leaves a part of the state as it is. -/
def Keeps (part : σ → τ) (op : σ → Except ε σ) : Prop := ∀ s s', op s = .ok s' → part s' = part s

theorem keeps_ok : Keeps part (Except.ok : σ → Except ε σ) := by
  intro s s' h
  obtain rfl := Except.ok.inj h
  rfl

theorem Keeps.bind {f g : σ → Except ε σ} (hf : Keeps part f) (hg : Keeps part g) :
    Keeps part fun s => f s >>= g := by
  intro s s' h
  obtain ⟨mid, hmid, h⟩ := bind_ok h
  exact (hg mid s' h).trans (hf s mid hmid)

theorem keeps_foldlM {f : σ → α → Except ε σ} (hf : ∀ a, Keeps part fun s => f s a)
    (xs : List α) : Keeps part fun s => xs.foldlM f s := by
  induction xs with
  | nil => exact keeps_ok
  | cons x xs ih =>
    simp only [List.foldlM_cons]
    exact (hf x).bind ih

end Keeps

/-- The computation raises an error of the class. -/
def Raises (P : ε → Prop) (x : Except ε α) : Prop := ∃ e, x = .error e ∧ P e

variable {P : ε → Prop}

@[simp] theorem not_raises_ok (a : α) : ¬Raises P (Except.ok a : Except ε α) := by
  rintro ⟨e, he, _⟩
  cases he

@[simp] theorem raises_error (e : ε) : Raises P (Except.error e : Except ε α) ↔ P e := by
  constructor
  · rintro ⟨e', he, hP⟩
    cases he
    exact hP
  · intro hP
    exact ⟨e, rfl, hP⟩

@[simp] theorem not_raises_pure (a : α) : ¬Raises P (pure a : Except ε α) := not_raises_ok a

@[simp] theorem raises_throw (e : ε) : Raises P (throw e : Except ε α) ↔ P e := raises_error e

/-- A sequence raises in its first step, or past it. -/
theorem raises_bind {x : Except ε α} {f : α → Except ε β} :
    Raises P (x >>= f) ↔ Raises P x ∨ ∃ a, x = .ok a ∧ Raises P (f a) := by
  cases x with
  | error e => simp [bind, Except.bind]
  | ok a => simp [bind, Except.bind]

theorem raises_map {f : α → β} {x : Except ε α} : Raises P (f <$> x) ↔ Raises P x := by
  cases x with
  | error e => simp [Functor.map, Except.map]
  | ok a => simp [Functor.map, Except.map]

/-- A loop raises at one of its elements, the ones before it having passed. -/
theorem raises_foldlM {f : β → α → Except ε β} {xs : List α} : ∀ {b : β},
    Raises P (xs.foldlM f b) ↔
      ∃ pre x post b', xs = pre ++ x :: post ∧ pre.foldlM f b = .ok b' ∧ Raises P (f b' x) := by
  induction xs with
  | nil => intro b; simp [pure, Except.pure]
  | cons y xs ih =>
    intro b
    rw [List.foldlM_cons, raises_bind]
    constructor
    · rintro (h | ⟨b₁, hy, h⟩)
      · exact ⟨[], y, xs, b, rfl, rfl, h⟩
      · obtain ⟨pre, x, post, b', hcut, hpre, hx⟩ := ih.mp h
        refine ⟨y :: pre, x, post, b', by rw [hcut]; rfl, ?_, hx⟩
        rw [List.foldlM_cons, hy]
        exact hpre
    · rintro ⟨pre, x, post, b', hcut, hpre, hx⟩
      cases pre with
      | nil =>
        obtain ⟨rfl, rfl⟩ := List.cons.inj hcut
        obtain rfl : b = b' := Except.ok.inj hpre
        exact .inl hx
      | cons z pre =>
        obtain ⟨rfl, hxs⟩ := List.cons.inj hcut
        rw [List.foldlM_cons] at hpre
        obtain ⟨b₁, hy, hrest⟩ := bind_ok hpre
        exact .inr ⟨b₁, hy, ih.mpr ⟨pre, x, post, b', hxs, hrest, hx⟩⟩

end PrinterV1.Faults
