import Mathlib.Data.List.Basic
import Mathlib.Tactic.Common

/-!
# Opening and closing events in a trace

Some events of a trace open a period and some close it. `Open` says that the
last opening has not been closed, and `Separated` that there is a closing
between any two openings. Both are followed here as events are appended.
-/

namespace PrinterV1

variable {ε : Type*} (opens closes : ε → Prop)

/-- An opening event that no later event closes. -/
def Open (trace : List ε) : Prop :=
  ∃ pre e post, trace = pre ++ e :: post ∧ opens e ∧ ∀ x ∈ post, ¬ closes x

/-- Two openings have a closing between them. -/
def Separated (trace : List ε) : Prop :=
  ∀ pre a mid b post, trace = pre ++ a :: mid ++ b :: post → opens a → opens b → ∃ x ∈ mid, closes x

variable {opens closes}

theorem not_open_nil : ¬ Open opens closes [] := by
  intro h
  obtain ⟨pre, e, post, h, _⟩ := h
  simp at h

theorem separated_nil : Separated opens closes [] := by
  intro pre a mid b post h
  simp at h

theorem open_append_singleton {trace : List ε} {e : ε} :
    Open opens closes (trace ++ [e]) ↔ opens e ∨ (Open opens closes trace ∧ ¬ closes e) := by
  constructor
  · intro h
    obtain ⟨pre, a, post, h, ha, hpost⟩ := h
    rcases List.eq_nil_or_concat post with rfl | ⟨mid, x, rfl⟩
    · obtain ⟨_, hx⟩ := List.append_inj' h rfl
      have hea : e = a := by simpa using hx
      exact Or.inl (hea ▸ ha)
    · rw [List.concat_eq_append, ← List.cons_append, ← List.append_assoc] at h
      obtain ⟨htrace, hx⟩ := List.append_inj' h rfl
      have hex : e = x := by simpa using hx
      refine Or.inr ⟨⟨pre, a, mid, htrace, ha, fun y hy => hpost y (by simp [hy])⟩, ?_⟩
      exact hex ▸ hpost x (by simp)
  · intro h
    rcases h with he | ⟨⟨pre, a, post, rfl, ha, hpost⟩, he⟩
    · exact ⟨trace, e, [], rfl, he, by simp⟩
    · refine ⟨pre, a, post ++ [e], by simp, ha, fun x hx => ?_⟩
      rcases List.mem_append.mp hx with hx | hx
      · exact hpost x hx
      · obtain rfl : x = e := by simpa using hx
        exact he

theorem separated_append_singleton {trace : List ε} {e : ε} :
    Separated opens closes (trace ++ [e]) ↔
      Separated opens closes trace ∧ (opens e → ¬ Open opens closes trace) := by
  constructor
  · intro h
    refine ⟨fun pre a mid b post htrace => ?_, fun he hopen => ?_⟩
    · exact h pre a mid b (post ++ [e]) (by rw [htrace]; simp)
    · obtain ⟨pre, a, post, htrace, ha, hpost⟩ := hopen
      obtain ⟨x, hx, hclose⟩ := h pre a post e [] (by rw [htrace]) ha he
      exact hpost x hx hclose
  · intro h pre a mid b post htrace ha hb
    rcases List.eq_nil_or_concat post with rfl | ⟨post', x, rfl⟩
    · obtain ⟨htrace', hx⟩ := List.append_inj' htrace rfl
      have hbe : e = b := by simpa using hx
      by_contra hno
      refine h.2 (hbe ▸ hb) ⟨pre, a, mid, htrace', ha, fun x hx hclose => hno ⟨x, hx, hclose⟩⟩
    · rw [List.concat_eq_append, ← List.cons_append, ← List.append_assoc] at htrace
      obtain ⟨htrace', _⟩ := List.append_inj' htrace rfl
      exact h.1 pre a mid b post' htrace' ha hb

/-- Events that open nothing. -/
theorem open_append {es : List ε} (h : ∀ e ∈ es, ¬ opens e) : ∀ {trace : List ε},
    Open opens closes (trace ++ es) ↔ Open opens closes trace ∧ ∀ e ∈ es, ¬ closes e := by
  induction es with
  | nil => simp
  | cons e es ih =>
    intro trace
    have he : ¬ opens e := h e (by simp)
    rw [List.append_cons, ih (fun x hx => h x (by simp [hx])), open_append_singleton]
    simp [he, and_assoc]

theorem separated_append {es : List ε} (h : ∀ e ∈ es, ¬ opens e) : ∀ {trace : List ε},
    Separated opens closes (trace ++ es) ↔ Separated opens closes trace := by
  induction es with
  | nil => simp
  | cons e es ih =>
    intro trace
    have he : ¬ opens e := h e (by simp)
    rw [List.append_cons, ih (fun x hx => h x (by simp [hx])), separated_append_singleton]
    simp [he]

end PrinterV1
