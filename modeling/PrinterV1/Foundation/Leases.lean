import Mathlib.Data.List.Basic
import Mathlib.Data.List.Induction
import Mathlib.Order.Basic
import Mathlib.Order.Lattice
import Mathlib.Tactic.Common

/-!
# One lease at a time

A register holds at most one grant. A grant is made under a lease that was never
held before, is extended by renewals until it is stopped, and ends when it is
released or when somebody whose clock has reached its expiry recovers it. A trace
of events is accepted when the register allows each of them in its turn.
-/

namespace PrinterV1.Leases

variable {ι τ : Type*}

inductive Event (ι τ : Type*)
  | acquired (lease : ι) (expiry : τ)
  | renewed (lease : ι) (expiry : τ)
  | stopped (lease : ι)
  | released (lease : ι)
  | recovered (lease : ι) (time : τ)
  deriving DecidableEq, Repr

/-- The lease an event is about. -/
def Event.lease : Event ι τ → ι
  | .acquired l _ | .renewed l _ | .stopped l | .released l | .recovered l _ => l

/-- The event ends its lease. -/
def Event.Ends : Event ι τ → Prop
  | .released _ | .recovered _ _ => True
  | _ => False

/-- The expiry an event gives its lease. -/
def Event.expiry? : Event ι τ → Option τ
  | .acquired _ expiry | .renewed _ expiry => some expiry
  | _ => none

/-- What the trace last said of the expiry of a lease. -/
def Announced (trace : List (Event ι τ)) (lease : ι) (expiry : τ) : Prop :=
  ∃ pre e post, trace = pre ++ e :: post ∧ e.lease = lease ∧ e.expiry? = some expiry ∧
    ∀ e' ∈ post, e'.lease = lease → e'.expiry? = none

/-- The trace grants the lease and does not end it. -/
def InForce (trace : List (Event ι τ)) (lease : ι) : Prop :=
  (∃ expiry, .acquired lease expiry ∈ trace) ∧ ∀ e ∈ trace, e.lease = lease → ¬e.Ends

structure Grant (ι τ : Type*) where
  lease : ι
  expiry : τ
  stopping : Bool
  deriving DecidableEq, Repr

structure Register (ι τ : Type*) where
  holder : Option (Grant ι τ)
  ended : List ι
  deriving DecidableEq, Repr

def Register.start : Register ι τ := ⟨none, []⟩

variable [DecidableEq ι] [LinearOrder τ]

/-- The grant under a lease, if that is the one held. -/
def Register.held (r : Register ι τ) (lease : ι) : Option (Grant ι τ) :=
  r.holder.filter fun g => g.lease = lease

def Register.close (r : Register ι τ) (lease : ι) : Register ι τ := ⟨none, lease :: r.ended⟩

/-- What the register makes of an event it allows. -/
def Register.step (r : Register ι τ) : Event ι τ → Option (Register ι τ)
  | .acquired lease expiry =>
    if r.holder = none ∧ lease ∉ r.ended then some { r with holder := some ⟨lease, expiry, false⟩ }
    else none
  | .renewed lease expiry => do
    let g ← r.held lease
    if g.stopping then none else some { r with holder := some { g with expiry := expiry } }
  | .stopped lease => do
    let g ← r.held lease
    some { r with holder := some { g with stopping := true } }
  | .released lease => do
    let _ ← r.held lease
    some (r.close lease)
  | .recovered lease time => do
    let g ← r.held lease
    if g.expiry ≤ time then some (r.close lease) else none

/-- The register behind a trace it allows. -/
def Register.accepts (r : Register ι τ) (trace : List (Event ι τ)) : Option (Register ι τ) :=
  trace.foldlM Register.step r

@[simp] theorem accepts_nil (r : Register ι τ) : r.accepts [] = some r := rfl

theorem accepts_cons (r : Register ι τ) (e : Event ι τ) (trace : List (Event ι τ)) :
    r.accepts (e :: trace) = (r.step e).bind fun r' => r'.accepts trace :=
  List.foldlM_cons

theorem accepts_append (r : Register ι τ) (xs ys : List (Event ι τ)) :
    r.accepts (xs ++ ys) = (r.accepts xs).bind fun r' => r'.accepts ys :=
  List.foldlM_append

theorem accepts_append_of_some {r r' : Register ι τ} {xs : List (Event ι τ)}
    (h : r.accepts xs = some r') (ys : List (Event ι τ)) :
    r.accepts (xs ++ ys) = r'.accepts ys := by
  rw [accepts_append, h, Option.bind_some]

/-- The register before an event of an accepted trace, and behind it. -/
theorem accepts_split {r r' : Register ι τ} {pre post : List (Event ι τ)} {e : Event ι τ}
    (h : r.accepts (pre ++ e :: post) = some r') :
    ∃ before after, r.accepts pre = some before ∧ before.step e = some after ∧
      after.accepts post = some r' := by
  rw [accepts_append] at h
  obtain ⟨before, hbefore, h⟩ := Option.bind_eq_some_iff.mp h
  rw [accepts_cons] at h
  obtain ⟨after, hafter, h⟩ := Option.bind_eq_some_iff.mp h
  exact ⟨before, after, hbefore, hafter, h⟩

/-- What every allowed event keeps holds behind a trace, and what it says of the event holds of all
of them. -/
theorem accepts_forall {P : Register ι τ → Prop} {Q : Event ι τ → Prop}
    (hstep : ∀ {r r' : Register ι τ} {e : Event ι τ}, P r → r.step e = some r' → P r' ∧ Q e)
    {trace : List (Event ι τ)} : ∀ {r r' : Register ι τ}, P r → r.accepts trace = some r' →
      P r' ∧ ∀ e ∈ trace, Q e := by
  induction trace with
  | nil =>
    intro r r' hr h
    obtain rfl := Option.some.inj h
    exact ⟨hr, fun e he => nomatch he⟩
  | cons e trace ih =>
    intro r r' hr h
    rw [accepts_cons] at h
    obtain ⟨mid, hmid, h⟩ := Option.bind_eq_some_iff.mp h
    obtain ⟨hkept, he⟩ := hstep hr hmid
    obtain ⟨hr', hrest⟩ := ih hkept h
    exact ⟨hr', List.forall_mem_cons.mpr ⟨he, hrest⟩⟩

theorem accepts_invariant {P : Register ι τ → Prop}
    (hstep : ∀ {r r' : Register ι τ} {e : Event ι τ}, P r → r.step e = some r' → P r')
    {trace : List (Event ι τ)} {r r' : Register ι τ} (hr : P r) (h : r.accepts trace = some r') :
    P r' :=
  (accepts_forall (Q := fun _ => True) (fun hr h => ⟨hstep hr h, trivial⟩) hr h).1

omit [LinearOrder τ] in
theorem held_eq_some_iff {r : Register ι τ} {lease : ι} {g : Grant ι τ} :
    r.held lease = some g ↔ r.holder = some g ∧ g.lease = lease := by
  simp [Register.held, Option.filter_eq_some_iff]

theorem accepts_singleton (r : Register ι τ) (e : Event ι τ) : r.accepts [e] = r.step e := by
  rw [accepts_cons]
  cases r.step e <;> rfl

section Allowed

variable {r : Register ι τ} {g : Grant ι τ}

omit [LinearOrder τ] in
theorem held_holder (hg : r.holder = some g) : r.held g.lease = some g :=
  held_eq_some_iff.mpr ⟨hg, rfl⟩

theorem step_acquired {lease : ι} (hnone : r.holder = none) (hnew : lease ∉ r.ended)
    (expiry : τ) : r.step (.acquired lease expiry) = some ⟨some ⟨lease, expiry, false⟩, r.ended⟩ :=
  if_pos ⟨hnone, hnew⟩

theorem step_renewed (hg : r.holder = some g) (hactive : g.stopping = false) (expiry : τ) :
    r.step (.renewed g.lease expiry) = some ⟨some ⟨g.lease, expiry, false⟩, r.ended⟩ := by
  simp [Register.step, held_holder hg, hactive]

theorem step_stopped (hg : r.holder = some g) :
    r.step (.stopped g.lease) = some ⟨some { g with stopping := true }, r.ended⟩ := by
  simp [Register.step, held_holder hg]

theorem step_released (hg : r.holder = some g) :
    r.step (.released g.lease) = some (r.close g.lease) := by
  simp [Register.step, held_holder hg]

theorem step_recovered {time : τ} (hg : r.holder = some g) (hexpired : g.expiry ≤ time) :
    r.step (.recovered g.lease time) = some (r.close g.lease) := by
  simp [Register.step, held_holder hg, hexpired]

end Allowed

/-- The events a register allows, and what becomes of it. -/
theorem step_cases {r r' : Register ι τ} {e : Event ι τ} (h : r.step e = some r') :
    (∃ lease expiry, e = .acquired lease expiry ∧ r.holder = none ∧ lease ∉ r.ended ∧
      r' = ⟨some ⟨lease, expiry, false⟩, r.ended⟩) ∨
    (∃ g expiry, e = .renewed g.lease expiry ∧ r.holder = some g ∧ g.stopping = false ∧
      r' = ⟨some { g with expiry := expiry }, r.ended⟩) ∨
    (∃ g, e = .stopped g.lease ∧ r.holder = some g ∧
      r' = ⟨some { g with stopping := true }, r.ended⟩) ∨
    ∃ g, (e = .released g.lease ∨ ∃ time, e = .recovered g.lease time ∧ g.expiry ≤ time) ∧
      r.holder = some g ∧ r' = ⟨none, g.lease :: r.ended⟩ := by
  cases e with
  | acquired lease expiry =>
    simp only [Register.step] at h
    split_ifs at h with hfree
    exact Or.inl ⟨lease, expiry, rfl, hfree.1, hfree.2, (Option.some.inj h).symm⟩
  | renewed lease expiry =>
    obtain ⟨g, hg, hnext⟩ := Option.bind_eq_some_iff.mp h
    obtain ⟨hholder, rfl⟩ := held_eq_some_iff.mp hg
    split_ifs at hnext with hstopping
    exact Or.inr (Or.inl ⟨g, expiry, rfl, hholder, by simpa using hstopping,
      (Option.some.inj hnext).symm⟩)
  | stopped lease =>
    obtain ⟨g, hg, hnext⟩ := Option.bind_eq_some_iff.mp h
    obtain ⟨hholder, rfl⟩ := held_eq_some_iff.mp hg
    exact Or.inr (Or.inr (Or.inl ⟨g, rfl, hholder, (Option.some.inj hnext).symm⟩))
  | released lease =>
    obtain ⟨g, hg, hnext⟩ := Option.bind_eq_some_iff.mp h
    obtain ⟨hholder, rfl⟩ := held_eq_some_iff.mp hg
    exact Or.inr (Or.inr (Or.inr ⟨g, Or.inl rfl, hholder, (Option.some.inj hnext).symm⟩))
  | recovered lease time =>
    obtain ⟨g, hg, hnext⟩ := Option.bind_eq_some_iff.mp h
    obtain ⟨hholder, rfl⟩ := held_eq_some_iff.mp hg
    split_ifs at hnext with hexpired
    exact Or.inr (Or.inr (Or.inr ⟨g, Or.inr ⟨time, rfl, hexpired⟩, hholder,
      (Option.some.inj hnext).symm⟩))

/-! ## What the register keeps -/

/-- The lease that is held has not ended. -/
def Register.Fresh (r : Register ι τ) : Prop := ∀ g, r.holder = some g → g.lease ∉ r.ended

omit [DecidableEq ι] [LinearOrder τ] in
theorem fresh_start : (Register.start : Register ι τ).Fresh := by
  intro g hg
  cases hg

theorem Register.Fresh.step {r r' : Register ι τ} {e : Event ι τ} (hr : r.Fresh)
    (h : r.step e = some r') : r'.Fresh := by
  rcases step_cases h with ⟨l, x, -, -, hnew, rfl⟩ | ⟨g, x, -, hg, -, rfl⟩ | ⟨g, -, hg, rfl⟩ |
    ⟨g, -, -, rfl⟩
  · intro g hg
    obtain rfl := Option.some.inj hg
    exact hnew
  · intro g' hg'
    obtain rfl := Option.some.inj hg'
    exact hr g hg
  · intro g' hg'
    obtain rfl := Option.some.inj hg'
    exact hr g hg
  · intro g' hg'
    cases hg'

theorem Register.Fresh.accepts {trace : List (Event ι τ)} {r r' : Register ι τ} (hr : r.Fresh)
    (h : r.accepts trace = some r') : r'.Fresh :=
  accepts_invariant Register.Fresh.step hr h

/-- An ended lease stays ended, and an allowed event is about another one. -/
theorem ended_step {r r' : Register ι τ} {e : Event ι τ} {lease : ι} (hr : r.Fresh)
    (hended : lease ∈ r.ended) (h : r.step e = some r') : lease ∈ r'.ended ∧ e.lease ≠ lease := by
  have hheld : ∀ g, r.holder = some g → g.lease ≠ lease := by
    rintro g hg rfl
    exact hr g hg hended
  rcases step_cases h with ⟨l, x, rfl, -, hnew, rfl⟩ | ⟨g, x, rfl, hg, -, rfl⟩ |
    ⟨g, rfl, hg, rfl⟩ | ⟨g, he, hg, rfl⟩
  · exact ⟨hended, fun heq => hnew ((show l = lease from heq) ▸ hended)⟩
  · exact ⟨hended, hheld g hg⟩
  · exact ⟨hended, hheld g hg⟩
  · have hlease : e.lease = g.lease := by
      rcases he with rfl | ⟨time, rfl, -⟩ <;> rfl
    exact ⟨List.mem_cons_of_mem _ hended, hlease ▸ hheld g hg⟩

/-- No later event is about a lease that has ended. -/
theorem silent_of_ended {lease : ι} {trace : List (Event ι τ)} {r r' : Register ι τ}
    (hr : r.Fresh) (hended : lease ∈ r.ended) (h : r.accepts trace = some r') :
    ∀ e ∈ trace, e.lease ≠ lease := by
  have hstep : ∀ {r r' : Register ι τ} {e : Event ι τ}, r.Fresh ∧ lease ∈ r.ended →
      r.step e = some r' → (r'.Fresh ∧ lease ∈ r'.ended) ∧ e.lease ≠ lease := by
    rintro r r' e ⟨hr, hended⟩ h
    obtain ⟨hended', hother⟩ := ended_step hr hended h
    exact ⟨⟨hr.step h, hended'⟩, hother⟩
  exact (accepts_forall hstep ⟨hr, hended⟩ h).2

theorem ended_of_ends {r r' : Register ι τ} {e : Event ι τ} (he : e.Ends)
    (h : r.step e = some r') : e.lease ∈ r'.ended := by
  rcases step_cases h with ⟨l, x, rfl, -⟩ | ⟨g, x, rfl, -⟩ | ⟨g, rfl, -⟩ | ⟨g, hcase, -, rfl⟩
  · cases he
  · cases he
  · cases he
  · rcases hcase with rfl | ⟨time, rfl, -⟩ <;> exact List.mem_cons_self

/-- An event of the trace that ends its lease has ended it. -/
theorem ended_of_mem_ends {trace : List (Event ι τ)} {e : Event ι τ} (he : e ∈ trace)
    (hends : e.Ends) {r r' : Register ι τ} (hr : r.Fresh) (h : r.accepts trace = some r') :
    e.lease ∈ r'.ended := by
  obtain ⟨pre, post, rfl⟩ := List.append_of_mem he
  obtain ⟨before, after, hbefore, hstep, hpost⟩ := accepts_split h
  have hkept : ∀ {r r' : Register ι τ} {e' : Event ι τ}, r.Fresh ∧ e.lease ∈ r.ended →
      r.step e' = some r' → r'.Fresh ∧ e.lease ∈ r'.ended :=
    fun hr h => ⟨hr.1.step h, (ended_step hr.1 hr.2 h).1⟩
  exact (accepts_invariant hkept
    ⟨(hr.accepts hbefore).step hstep, ended_of_ends hends hstep⟩ hpost).2

/-- The lease is held, or has ended. -/
def Register.Knows (r : Register ι τ) (lease : ι) : Prop :=
  lease ∈ r.ended ∨ ∃ g, r.holder = some g ∧ g.lease = lease

theorem Register.Knows.step {r r' : Register ι τ} {e : Event ι τ} {lease : ι}
    (hr : r.Knows lease) (h : r.step e = some r') : r'.Knows lease := by
  rcases step_cases h with ⟨l, x, -, hnone, -, rfl⟩ | ⟨g, x, -, hg, -, rfl⟩ | ⟨g, -, hg, rfl⟩ |
    ⟨g, -, hg, rfl⟩ <;> rcases hr with hended | ⟨g', hg', rfl⟩
  · exact Or.inl hended
  · rw [hnone] at hg'
    cases hg'
  · exact Or.inl hended
  · obtain rfl := Option.some.inj (hg.symm.trans hg')
    exact Or.inr ⟨_, rfl, rfl⟩
  · exact Or.inl hended
  · obtain rfl := Option.some.inj (hg.symm.trans hg')
    exact Or.inr ⟨_, rfl, rfl⟩
  · exact Or.inl (List.mem_cons_of_mem _ hended)
  · obtain rfl := Option.some.inj (hg.symm.trans hg')
    exact Or.inl List.mem_cons_self

theorem knows_of_step {r r' : Register ι τ} {e : Event ι τ} (h : r.step e = some r') :
    r'.Knows e.lease := by
  rcases step_cases h with ⟨l, x, rfl, -, -, rfl⟩ | ⟨g, x, rfl, hg, -, rfl⟩ | ⟨g, rfl, hg, rfl⟩ |
    ⟨g, hcase, hg, rfl⟩
  · exact Or.inr ⟨_, rfl, rfl⟩
  · exact Or.inr ⟨_, rfl, rfl⟩
  · exact Or.inr ⟨_, rfl, rfl⟩
  · rcases hcase with rfl | ⟨time, rfl, -⟩ <;> exact Or.inl List.mem_cons_self

/-- Every lease of the trace is held or has ended. -/
theorem knows_of_mem {trace : List (Event ι τ)} {e : Event ι τ} (he : e ∈ trace)
    {r r' : Register ι τ} (h : r.accepts trace = some r') : r'.Knows e.lease := by
  obtain ⟨pre, post, rfl⟩ := List.append_of_mem he
  obtain ⟨before, after, -, hstep, hpost⟩ := accepts_split h
  exact accepts_invariant (P := fun r => r.Knows e.lease) Register.Knows.step
    (knows_of_step hstep) hpost

/-- The lease was stopped and is not renewed any more. -/
def Register.Stopped (r : Register ι τ) (lease : ι) : Prop :=
  lease ∈ r.ended ∨ ∃ g, r.holder = some g ∧ g.lease = lease ∧ g.stopping = true

theorem Register.Stopped.step {r r' : Register ι τ} {e : Event ι τ} {lease : ι} (hfresh : r.Fresh)
    (hr : r.Stopped lease) (h : r.step e = some r') :
    r'.Stopped lease ∧ ∀ expiry, e ≠ .renewed lease expiry := by
  rcases hr with hended | ⟨g, hg, rfl, hstopping⟩
  · obtain ⟨hended', hother⟩ := ended_step hfresh hended h
    refine ⟨Or.inl hended', fun expiry he => hother ?_⟩
    rw [he]
    rfl
  · rcases step_cases h with ⟨l, x, -, hnone, -⟩ | ⟨g', x, -, hg', hactive, -⟩ |
      ⟨g', rfl, hg', rfl⟩ | ⟨g', hcase, hg', rfl⟩
    · rw [hnone] at hg
      cases hg
    · obtain rfl := Option.some.inj (hg.symm.trans hg')
      rw [hstopping] at hactive
      cases hactive
    · obtain rfl := Option.some.inj (hg.symm.trans hg')
      exact ⟨Or.inr ⟨_, rfl, rfl, rfl⟩, fun expiry he => nomatch he⟩
    · obtain rfl := Option.some.inj (hg.symm.trans hg')
      refine ⟨Or.inl List.mem_cons_self, fun expiry he => ?_⟩
      rcases hcase with rfl | ⟨time, rfl, -⟩ <;> cases he

theorem not_renewed_of_stopped {lease : ι} {expiry : τ} {trace : List (Event ι τ)}
    {r r' : Register ι τ} (hfresh : r.Fresh) (hr : r.Stopped lease)
    (h : r.accepts trace = some r') : .renewed lease expiry ∉ trace := by
  have hstep : ∀ {r r' : Register ι τ} {e : Event ι τ}, r.Fresh ∧ r.Stopped lease →
      r.step e = some r' →
        (r'.Fresh ∧ r'.Stopped lease) ∧ ∀ expiry, e ≠ .renewed lease expiry := by
    rintro r r' e ⟨hfresh, hr⟩ h
    obtain ⟨hstopped, hother⟩ := hr.step hfresh h
    exact ⟨⟨hfresh.step h, hstopped⟩, hother⟩
  intro hmem
  exact (accepts_forall hstep ⟨hfresh, hr⟩ h).2 _ hmem expiry rfl

omit [DecidableEq ι] [LinearOrder τ] in
theorem announced_append {trace : List (Event ι τ)} {e : Event ι τ} {lease : ι} {expiry : τ}
    (h : Announced trace lease expiry) (he : e.lease = lease → e.expiry? = none) :
    Announced (trace ++ [e]) lease expiry := by
  obtain ⟨pre, e', post, rfl, hlease, hexpiry, hpost⟩ := h
  refine ⟨pre, e', post ++ [e], by simp, hlease, hexpiry, fun x hx => ?_⟩
  rcases List.mem_append.mp hx with hx | hx
  · exact hpost x hx
  · obtain rfl : x = e := by simpa using hx
    exact he

omit [DecidableEq ι] [LinearOrder τ] in
theorem announced_singleton {trace : List (Event ι τ)} {e : Event ι τ} {expiry : τ}
    (h : e.expiry? = some expiry) : Announced (trace ++ [e]) e.lease expiry :=
  ⟨trace, e, [], rfl, rfl, h, fun _ hx => nomatch hx⟩

/-- The expiry of the grant is the one that was last announced for its lease. -/
theorem holder_announced {trace : List (Event ι τ)} : ∀ {r : Register ι τ} {g : Grant ι τ},
    Register.start.accepts trace = some r → r.holder = some g →
      Announced trace g.lease g.expiry := by
  induction trace using List.reverseRecOn with
  | nil =>
    intro r g h hg
    obtain rfl := Option.some.inj h
    cases hg
  | append_singleton trace e ih =>
    intro r g h hg
    obtain ⟨before, after, hbefore, hstep, hafter⟩ := accepts_split h
    obtain rfl := Option.some.inj hafter
    rcases step_cases hstep with ⟨l, x, rfl, -, -, rfl⟩ | ⟨g', x, rfl, hg', -, rfl⟩ |
      ⟨g', rfl, hg', rfl⟩ | ⟨g', -, -, rfl⟩
    · obtain rfl := Option.some.inj hg
      exact announced_singleton rfl
    · obtain rfl := Option.some.inj hg
      exact announced_singleton rfl
    · obtain rfl := Option.some.inj hg
      have hold : Announced trace g'.lease g'.expiry := ih hbefore hg'
      exact announced_append hold fun _ => rfl
    · cases hg

theorem holder_acquired {trace : List (Event ι τ)} : ∀ {r : Register ι τ} {g : Grant ι τ},
    Register.start.accepts trace = some r → r.holder = some g →
      ∃ expiry, .acquired g.lease expiry ∈ trace := by
  induction trace using List.reverseRecOn with
  | nil =>
    intro r g h hg
    obtain rfl := Option.some.inj h
    cases hg
  | append_singleton trace e ih =>
    intro r g h hg
    obtain ⟨before, after, hbefore, hstep, hafter⟩ := accepts_split h
    obtain rfl := Option.some.inj hafter
    have hearlier : ∀ g', before.holder = some g' →
        ∃ expiry, .acquired g'.lease expiry ∈ trace ++ [e] := by
      intro g' hg'
      obtain ⟨expiry, hmem⟩ := ih hbefore hg'
      exact ⟨expiry, List.mem_append_left _ hmem⟩
    rcases step_cases hstep with ⟨l, x, rfl, -, -, rfl⟩ | ⟨g', x, rfl, hg', -, rfl⟩ |
      ⟨g', rfl, hg', rfl⟩ | ⟨g', -, -, rfl⟩
    · obtain rfl := Option.some.inj hg
      exact ⟨x, List.mem_append_right _ (List.mem_singleton_self _)⟩
    · obtain rfl := Option.some.inj hg
      exact hearlier g' hg'
    · obtain rfl := Option.some.inj hg
      exact hearlier g' hg'
    · cases hg

/-- The lease that is held is in force. -/
theorem inForce_of_holder {trace : List (Event ι τ)} {r : Register ι τ} {g : Grant ι τ}
    (h : Register.start.accepts trace = some r) (hg : r.holder = some g) :
    InForce trace g.lease := by
  refine ⟨holder_acquired h hg, fun e he hlease hends => ?_⟩
  apply fresh_start.accepts h g hg
  rw [← hlease]
  exact ended_of_mem_ends he hends fresh_start h

/-- A lease that has ended was ended by an event of the trace. -/
theorem exists_ends {trace : List (Event ι τ)} {lease : ι} : ∀ {r : Register ι τ},
    Register.start.accepts trace = some r → lease ∈ r.ended →
      ∃ e ∈ trace, e.lease = lease ∧ e.Ends := by
  induction trace using List.reverseRecOn with
  | nil =>
    intro r h hended
    obtain rfl := Option.some.inj h
    cases hended
  | append_singleton trace e ih =>
    intro r h hended
    obtain ⟨before, after, hbefore, hstep, hafter⟩ := accepts_split h
    obtain rfl := Option.some.inj hafter
    have hearlier : lease ∈ before.ended → ∃ e' ∈ trace ++ [e], e'.lease = lease ∧ e'.Ends := by
      intro hold
      obtain ⟨e', he', hends⟩ := ih hbefore hold
      exact ⟨e', List.mem_append_left _ he', hends⟩
    rcases step_cases hstep with ⟨l, x, -, -, -, rfl⟩ | ⟨g, x, -, -, -, rfl⟩ | ⟨g, -, -, rfl⟩ |
      ⟨g, hcase, -, rfl⟩
    · exact hearlier hended
    · exact hearlier hended
    · exact hearlier hended
    · rcases List.mem_cons.mp hended with rfl | hold
      · refine ⟨e, List.mem_append_right _ List.mem_cons_self, ?_⟩
        rcases hcase with rfl | ⟨time, rfl, -⟩ <;> exact ⟨rfl, trivial⟩
      · exact hearlier hold

/-- What a trace keeps to: a lease is granted after all that were granted before have ended; it is
renewed, stopped, released and recovered while it is in force; nothing is said of it once it has
ended; it is not renewed once it was stopped; and it is recovered when the expiry last announced
for it is reached. -/
structure Fenced (trace : List (Event ι τ)) : Prop where
  inForce : ∀ pre e post, trace = pre ++ e :: post →
    (∀ lease expiry, e ≠ .acquired lease expiry) → InForce pre e.lease
  ended : ∀ pre e post, trace = pre ++ e :: post → e.Ends → ∀ e' ∈ post, e'.lease ≠ e.lease
  stopped : ∀ pre lease post, trace = pre ++ .stopped lease :: post →
    ∀ expiry, .renewed lease expiry ∉ post
  granted : ∀ pre lease expiry post, trace = pre ++ .acquired lease expiry :: post →
    ∀ e ∈ pre, ∃ e' ∈ pre, e'.lease = e.lease ∧ e'.Ends
  recovered : ∀ pre lease time post, trace = pre ++ .recovered lease time :: post →
    ∃ expiry ≤ time, Announced pre lease expiry

theorem fenced_of_accepts {trace : List (Event ι τ)} {r : Register ι τ}
    (h : Register.start.accepts trace = some r) : Fenced trace := by
  constructor
  · rintro pre e post rfl he
    obtain ⟨before, after, hbefore, hstep, -⟩ := accepts_split h
    rcases step_cases hstep with ⟨l, x, rfl, -⟩ | ⟨g, x, rfl, hg, -⟩ | ⟨g, rfl, hg, -⟩ |
      ⟨g, hcase, hg, -⟩
    · exact absurd rfl (he l x)
    · exact inForce_of_holder hbefore hg
    · exact inForce_of_holder hbefore hg
    · have hlease : e.lease = g.lease := by
        rcases hcase with rfl | ⟨time, rfl, -⟩ <;> rfl
      rw [hlease]
      exact inForce_of_holder hbefore hg
  · rintro pre e post rfl he
    obtain ⟨before, after, hbefore, hstep, hafter⟩ := accepts_split h
    exact silent_of_ended ((fresh_start.accepts hbefore).step hstep) (ended_of_ends he hstep) hafter
  · rintro pre lease post rfl expiry
    obtain ⟨before, after, hbefore, hstep, hafter⟩ := accepts_split h
    have hfresh : after.Fresh := (fresh_start.accepts hbefore).step hstep
    rcases step_cases hstep with ⟨l, x, he, -⟩ | ⟨g, x, he, -⟩ | ⟨g, he, hg, rfl⟩ | ⟨g, hcase, -⟩
    · cases he
    · cases he
    · obtain rfl := Event.stopped.inj he
      exact not_renewed_of_stopped hfresh (Or.inr ⟨_, rfl, rfl, rfl⟩) hafter
    · rcases hcase with he | ⟨time, he, -⟩ <;> cases he
  · rintro pre lease expiry post rfl e he
    obtain ⟨before, after, hbefore, hstep, -⟩ := accepts_split h
    rcases knows_of_mem he hbefore with hended | ⟨g, hg, -⟩
    · exact exists_ends hbefore hended
    · rcases step_cases hstep with ⟨l, x, -, hnone, -⟩ | ⟨g, x, he, -⟩ | ⟨g, he, -⟩ | ⟨g, hcase, -⟩
      · rw [hnone] at hg
        cases hg
      · cases he
      · cases he
      · rcases hcase with he | ⟨time, he, -⟩ <;> cases he
  · rintro pre lease time post rfl
    obtain ⟨before, after, hbefore, hstep, -⟩ := accepts_split h
    rcases step_cases hstep with ⟨l, x, he, -⟩ | ⟨g, x, he, -⟩ | ⟨g, he, -⟩ | ⟨g, hcase, hg, -⟩
    · cases he
    · cases he
    · cases he
    · rcases hcase with he | ⟨time', he, hexpired⟩
      · cases he
      · obtain ⟨rfl, rfl⟩ := Event.recovered.inj he
        exact ⟨g.expiry, hexpired, holder_announced hbefore hg⟩

end PrinterV1.Leases
