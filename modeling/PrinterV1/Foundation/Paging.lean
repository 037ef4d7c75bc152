import Mathlib.Data.List.TakeDrop
import Mathlib.Data.List.TakeWhile
import Mathlib.Data.List.Infix
import Mathlib.Tactic.Common

/-!
# Pages of a growing list

A list is read from its head in pages, each of which begins behind the last
entry of the one before. Entries that are put in front meanwhile change no later
page, so the pages together are the part of the list down to a mark, as it was
when the first was read.
-/

namespace PrinterV1.Paging

variable {α κ : Type*} [DecidableEq κ] (key : α → κ)

/-- The entries behind the one under a key, or all of them. -/
def behind : Option κ → List α → List α
  | none, xs => xs
  | some k, xs => (xs.dropWhile fun x => key x ≠ k).tail

/-- The entries down to the one under a key. -/
def downTo (k : κ) (xs : List α) : List α :=
  (xs.takeWhile fun x => key x ≠ k) ++ (xs.dropWhile fun x => key x ≠ k).take 1

variable {key} {k : κ} {pre post xs : List α} {e : α}

theorem dropWhile_of_split (h : ∀ x ∈ pre, key x ≠ key e) :
    ((pre ++ e :: post).dropWhile fun x => key x ≠ key e) = e :: post := by
  rw [List.dropWhile_append_of_pos (by simpa using h)]
  simp

theorem takeWhile_of_split (h : ∀ x ∈ pre, key x ≠ key e) :
    ((pre ++ e :: post).takeWhile fun x => key x ≠ key e) = pre := by
  rw [List.takeWhile_append_of_pos (by simpa using h)]
  simp

theorem behind_of_split (h : ∀ x ∈ pre, key x ≠ key e) :
    behind key (some (key e)) (pre ++ e :: post) = post := by
  rw [behind, dropWhile_of_split h, List.tail_cons]

theorem downTo_of_split (h : ∀ x ∈ pre, key x ≠ key e) :
    downTo key (key e) (pre ++ e :: post) = pre ++ [e] := by
  rw [downTo, takeWhile_of_split h, dropWhile_of_split h]
  rfl

theorem downTo_cons_self {x : α} (h : key x = k) : downTo key k (x :: xs) = [x] := by
  simp [downTo, h]

theorem downTo_cons_ne {x : α} (h : key x ≠ k) :
    downTo key k (x :: xs) = x :: downTo key k xs := by
  simp [downTo, h]

theorem downTo_of_not_mem (h : ∀ x ∈ xs, key x ≠ k) : downTo key k xs = xs := by
  have hall : ∀ x ∈ xs, decide (key x ≠ k) = true := fun x hx => decide_eq_true (h x hx)
  rw [downTo, List.takeWhile_eq_self_iff.mpr hall, List.dropWhile_eq_nil_iff.mpr hall]
  simp

omit [DecidableEq κ] in
/-- An entry of a list without repetition is the first under its key. -/
theorem fresh_of_nodup (h : ((pre ++ e :: post).map key).Nodup) : ∀ x ∈ pre, key x ≠ key e := by
  intro x hx heq
  rw [List.map_append] at h
  exact (List.nodup_append.mp h).2.2 (key x) (List.mem_map_of_mem hx) (key e) (by simp) heq

/-- An entry comes before those behind it, whatever was put in front. -/
theorem behind_of_suffix {grown : List α} (hgrown : pre ++ e :: post <:+ grown)
    (hnodup : (grown.map key).Nodup) : behind key (some (key e)) grown = post := by
  obtain ⟨new, rfl⟩ := hgrown
  rw [← List.append_assoc] at hnodup ⊢
  exact behind_of_split (fresh_of_nodup hnodup)

/-- What comes behind the last of the first entries, whatever was put in front. -/
theorem behind_take {grown : List α} {m : ℕ} (hgrown : xs <:+ grown)
    (hnodup : (grown.map key).Nodup) (hlast : (xs.take m).getLast? = some e) :
    behind key (some (key e)) grown = xs.drop m := by
  obtain ⟨front, hfront⟩ := List.getLast?_eq_some_iff.mp hlast
  have hsplit : xs = front ++ e :: xs.drop m := by
    rw [List.append_cons, ← hfront, List.take_append_drop]
  exact behind_of_suffix (hsplit ▸ hgrown) hnodup

/-- A page of what is behind, down to the mark, is a page of what is down to the mark. -/
theorem downTo_page {n : ℕ} (m : ℕ) (h : ∀ x ∈ pre, key x ≠ key e) (hm : m ≤ pre.length) :
    downTo key (key e) (((pre ++ e :: post).drop m).take n) = ((pre ++ [e]).drop m).take n := by
  have hsub : ∀ x ∈ pre.drop m, key x ≠ key e := fun x hx => h x (List.mem_of_mem_drop hx)
  have hzero : m - pre.length = 0 := Nat.sub_eq_zero_of_le hm
  rw [List.drop_append, List.drop_append, hzero, List.drop_zero, List.drop_zero]
  rcases Nat.lt_or_ge (pre.drop m).length n with hlong | hshort
  · obtain ⟨d, rfl⟩ := Nat.exists_eq_add_of_lt hlong
    have hpage : (pre.drop m ++ e :: post).take ((pre.drop m).length + d + 1) =
        pre.drop m ++ e :: post.take d := by
      rw [Nat.add_assoc, List.take_length_add_append, List.take_succ_cons]
    have hall : (pre.drop m ++ [e]).take ((pre.drop m).length + d + 1) = pre.drop m ++ [e] := by
      refine List.take_of_length_le ?_
      rw [List.length_append, List.length_singleton]
      omega
    rw [hpage, hall, downTo_of_split hsub]
  · rw [List.take_append_of_le_length hshort, List.take_append_of_le_length hshort]
    exact downTo_of_not_mem fun x hx => hsub x (List.mem_of_mem_take hx)

end PrinterV1.Paging
