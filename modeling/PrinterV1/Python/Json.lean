import Mathlib.Algebra.Order.Ring.Unbundled.Rat
import PrinterV1.Foundation.Sorting
import PrinterV1.Python.Value

/-!
# Canonical JSON

`json.dumps` with sorted keys, and `json.loads`. What is written may hold tuples and
mappings whose keys are no texts: the keys are sorted as they are, and written as
texts. With these separators a document has one text, so that a text is kept as its
document, with the members of its objects in the order of the text.
-/

namespace PrinterV1.Python

/-! ## What is written -/

/-- What a key or a leaf can be. -/
inductive Scalar
  | none
  | bool (b : Bool)
  | int (n : ℤ)
  | float (q : ℚ)
  | inf (negative : Bool)
  | nan
  | str (s : String)
  deriving DecidableEq, Repr

/-- What `json.dumps` can be given. -/
inductive PyObject
  | scalar (s : Scalar)
  | list (xs : List PyObject)
  | tuple (xs : List PyObject)
  | dict (entries : List (Scalar × PyObject))
  deriving Repr

/-- The items of a mapping, in the order they were put in. -/
abbrev Entries := List (Scalar × PyObject)

/-- A text that starts as a number does. -/
def isNumeric (text : String) : Bool := text.toList.head?.any fun c => c.isDigit || c = '-'

/-- How finite floats are written. -/
structure FloatText where
  text : ℚ → String
  numeric : ∀ q, isNumeric (text q) = true

namespace Scalar

def value : Scalar → Value
  | .none => .none
  | .bool b => .bool b
  | .int n => .int n
  | .float q => .float q
  | .inf negative => .inf negative
  | .nan => .nan
  | .str s => .str s

/-- The text of a key. -/
def keyText (F : FloatText) : Scalar → String
  | .none => "null"
  | .bool b => if b then "true" else "false"
  | .int n => toString n
  | .float q => F.text q
  | .inf negative => if negative then "-Infinity" else "Infinity"
  | .nan => "NaN"
  | .str s => s

def isStr : Scalar → Bool
  | .str _ => true
  | _ => false

def isNumber : Scalar → Bool
  | .bool _ => true
  | .int _ => true
  | .float _ => true
  | .inf _ => true
  | .nan => true
  | _ => false

/-- Infinities and what is no number have no JSON text. -/
def isFinite : Scalar → Bool
  | .inf _ => false
  | .nan => false
  | _ => true

/-- The number a key is sorted by; `True` is one. -/
def number : Scalar → ℚ
  | .bool b => if b then 1 else 0
  | .int n => n
  | .float q => q
  | _ => 0

/-- The text a key is sorted by. -/
def string : Scalar → String
  | .str s => s
  | _ => ""

end Scalar

/-- Keys that can be compared with each other. -/
def sortable (keys : List Scalar) : Bool :=
  decide (keys.length ≤ 1) || keys.all Scalar.isStr || keys.all Scalar.isNumber

/-- The items in the order of their keys. -/
def sortEntries (entries : List (Scalar × Value)) : List (Scalar × Value) :=
  if entries.all fun e => e.1.isStr then sortBy (fun e => e.1.string) entries
  else sortBy (fun e => e.1.number) entries

/-- The members of an object: the items in their order, under the texts of their keys. -/
def writeEntries (F : FloatText) (entries : List (Scalar × Value)) : Dict :=
  (sortEntries entries).map fun e => (e.1.keyText F, e.2)

namespace PyObject

mutual
/-- The keys can be sorted, and every number written. -/
def serialisable : PyObject → Bool
  | .scalar s => s.isFinite
  | .list xs => serialisableList xs
  | .tuple xs => serialisableList xs
  | .dict entries => sortable (entries.map Prod.fst) && serialisableEntries entries
  termination_by structural x => x

def serialisableList : List PyObject → Bool
  | [] => true
  | x :: xs => serialisable x && serialisableList xs

def serialisableEntries : List (Scalar × PyObject) → Bool
  | [] => true
  | (key, x) :: entries => key.isFinite && serialisable x && serialisableEntries entries
end

mutual
/-- The document that is written. -/
def image (F : FloatText) : PyObject → Value
  | .scalar s => s.value
  | .list xs => .list (imageList F xs)
  | .tuple xs => .list (imageList F xs)
  | .dict entries => .dict (writeEntries F (imageEntries F entries))
  termination_by structural x => x

def imageList (F : FloatText) : List PyObject → List Value
  | [] => []
  | x :: xs => image F x :: imageList F xs

def imageEntries (F : FloatText) : List (Scalar × PyObject) → List (Scalar × Value)
  | [] => []
  | (key, x) :: entries => (key, image F x) :: imageEntries F entries
end

end PyObject

/-- The object that a mapping is written as. -/
def Entries.document (F : FloatText) (entries : Entries) : Dict :=
  writeEntries F (PyObject.imageEntries F entries)

namespace PyObject

theorem image_dict {F : FloatText} (entries : Entries) :
    image F (.dict entries) = .dict (entries.document F) := rfl

/-- `json.dumps(value, sort_keys=True, allow_nan=False)`, where it does not raise. -/
def dumps (F : FloatText) (x : PyObject) : Option Value :=
  if x.serialisable then some (x.image F) else none

mutual
/-- A document that was read, as what may be written. -/
def ofValue : Value → PyObject
  | .none => .scalar .none
  | .bool b => .scalar (.bool b)
  | .int n => .scalar (.int n)
  | .float q => .scalar (.float q)
  | .inf negative => .scalar (.inf negative)
  | .nan => .scalar .nan
  | .str s => .scalar (.str s)
  | .list xs => .list (ofValues xs)
  | .dict entries => .dict (ofEntries entries)
  termination_by structural x => x

def ofValues : List Value → List PyObject
  | [] => []
  | x :: xs => ofValue x :: ofValues xs

def ofEntries : List (String × Value) → List (Scalar × PyObject)
  | [] => []
  | (key, x) :: entries => (.str key, ofValue x) :: ofEntries entries
end

end PyObject

/-! ## What is read -/

mutual
/-- `json.loads`: of members with one key the last one counts. -/
def loads : Value → Value
  | .list xs => .list (loadsList xs)
  | .dict entries => .dict (loadsEntries entries)
  | v => v
  termination_by structural x => x

def loadsList : List Value → List Value
  | [] => []
  | x :: xs => loads x :: loadsList xs

def loadsEntries : List (String × Value) → Dict
  | [] => []
  | (key, x) :: entries =>
    let rest := loadsEntries entries
    if rest.has key then rest else rest.set key (loads x)
end

/-- The keys of an object are in ascending order. -/
def Ascending (entries : Dict) : Prop := (entries.map Prod.fst).Pairwise (· < ·)

mutual
/-- The members of every object are in the order of their keys. -/
def Ordered : Value → Prop
  | .list xs => OrderedList xs
  | .dict entries => Ascending entries ∧ OrderedEntries entries
  | _ => True
  termination_by structural x => x

def OrderedList : List Value → Prop
  | [] => True
  | x :: xs => Ordered x ∧ OrderedList xs

def OrderedEntries : List (String × Value) → Prop
  | [] => True
  | (_, x) :: entries => Ordered x ∧ OrderedEntries entries
end

section Ascending

variable {entries : Dict} {key : String} {v : Value}

@[simp] theorem ascending_nil : Ascending [] := List.Pairwise.nil

theorem ascending_cons : Ascending ((key, v) :: entries) ↔
    (∀ e ∈ entries, key < e.1) ∧ Ascending entries := by
  simp [Ascending, List.pairwise_cons]

theorem mem_set {e : String × Value} (he : e ∈ entries.set key v) : e = (key, v) ∨ e ∈ entries := by
  induction entries with
  | nil => exact .inl (List.mem_singleton.mp he)
  | cons e' rest ih =>
    obtain ⟨k, w⟩ := e'
    rw [Dict.set] at he
    by_cases hbefore : key < k
    · rw [if_pos hbefore] at he
      exact List.mem_cons.mp he
    · rw [if_neg hbefore] at he
      by_cases hsame : key = k
      · rw [if_pos hsame] at he
        exact (List.mem_cons.mp he).imp_right (List.mem_cons_of_mem _)
      · rw [if_neg hsame] at he
        rcases List.mem_cons.mp he with rfl | he
        · exact .inr List.mem_cons_self
        · exact (ih he).imp_right (List.mem_cons_of_mem _)

theorem Ascending.set (h : Ascending entries) : Ascending (entries.set key v) := by
  induction entries with
  | nil => simp [Dict.set, ascending_cons]
  | cons e rest ih =>
    obtain ⟨k, w⟩ := e
    obtain ⟨hlt, hrest⟩ := ascending_cons.mp h
    rw [Dict.set]
    by_cases hbefore : key < k
    · rw [if_pos hbefore]
      refine ascending_cons.mpr ⟨fun e he => ?_, h⟩
      rcases List.mem_cons.mp he with rfl | he
      · exact hbefore
      · exact hbefore.trans (hlt e he)
    · rw [if_neg hbefore]
      by_cases hsame : key = k
      · rw [if_pos hsame, hsame]
        exact ascending_cons.mpr ⟨hlt, hrest⟩
      · rw [if_neg hsame]
        refine ascending_cons.mpr ⟨fun e he => ?_, ih hrest⟩
        rcases mem_set he with rfl | he
        · exact lt_of_le_of_ne (not_lt.mp hbefore) (Ne.symm hsame)
        · exact hlt e he

/-- A key before all others is put in front of them. -/
theorem set_of_lt (h : ∀ e ∈ entries, key < e.1) : entries.set key v = (key, v) :: entries := by
  cases entries with
  | nil => rfl
  | cons e rest => rw [Dict.set, if_pos (h e List.mem_cons_self)]

theorem not_has_of_lt (h : ∀ e ∈ entries, key < e.1) : entries.has key = false := by
  rw [Dict.has, List.any_eq_false]
  intro e he
  simpa using (h e he).ne'

/-- A member of ascending entries is what is found under its key. -/
theorem Ascending.get_of_mem (h : Ascending entries) (hmem : (key, v) ∈ entries) :
    entries.get key = v := by
  induction entries with
  | nil => cases hmem
  | cons e rest ih =>
    obtain ⟨k, w⟩ := e
    obtain ⟨hlt, hrest⟩ := ascending_cons.mp h
    rw [Dict.get_cons]
    rcases List.mem_cons.mp hmem with heq | hmem
    · obtain ⟨rfl, rfl⟩ := Prod.mk.inj heq
      rw [if_pos rfl]
    · rw [if_neg (hlt _ hmem).ne']
      exact ih hrest hmem

end Ascending

theorem orderedList_iff {xs : List Value} : OrderedList xs ↔ ∀ x ∈ xs, Ordered x := by
  induction xs with
  | nil => simp [OrderedList]
  | cons x xs ih => rw [OrderedList, ih, List.forall_mem_cons]

theorem orderedEntries_iff {entries : Dict} :
    OrderedEntries entries ↔ ∀ e ∈ entries, Ordered e.2 := by
  induction entries with
  | nil => simp [OrderedEntries]
  | cons e rest ih => rw [OrderedEntries, ih, List.forall_mem_cons]

/-! ## The round trip -/

section RoundTrip

theorem OrderedEntries.set {entries : Dict} {key : String} {v : Value}
    (h : OrderedEntries entries) (hv : Ordered v) : OrderedEntries (entries.set key v) := by
  induction entries with
  | nil => exact ⟨hv, h⟩
  | cons e rest ih =>
    obtain ⟨k, w⟩ := e
    rw [Dict.set]
    by_cases hbefore : key < k
    · rw [if_pos hbefore]
      exact ⟨hv, h⟩
    · rw [if_neg hbefore]
      by_cases hsame : key = k
      · rw [if_pos hsame]
        exact ⟨hv, h.2⟩
      · rw [if_neg hsame]
        exact ⟨h.1, ih h.2⟩

mutual
/-- What was read is in order. -/
theorem ordered_loads : (v : Value) → Ordered (loads v)
  | .list xs => ordered_loadsList xs
  | .dict entries => ordered_loadsEntries entries
  | .none => trivial
  | .bool _ => trivial
  | .int _ => trivial
  | .float _ => trivial
  | .inf _ => trivial
  | .nan => trivial
  | .str _ => trivial

theorem ordered_loadsList : (xs : List Value) → OrderedList (loadsList xs)
  | [] => trivial
  | x :: xs => ⟨ordered_loads x, ordered_loadsList xs⟩

theorem ordered_loadsEntries : (entries : Dict) →
    Ascending (loadsEntries entries) ∧ OrderedEntries (loadsEntries entries)
  | [] => ⟨ascending_nil, trivial⟩
  | (key, x) :: entries => by
    obtain ⟨hascending, hordered⟩ := ordered_loadsEntries entries
    rw [loadsEntries]
    by_cases hagain : (loadsEntries entries).has key = true
    · rw [if_pos hagain]
      exact ⟨hascending, hordered⟩
    · rw [if_neg hagain]
      exact ⟨hascending.set, hordered.set (ordered_loads x)⟩
end

mutual
/-- A document in order is read as it is. -/
theorem loads_of_ordered : (v : Value) → Ordered v → loads v = v
  | .list xs, h => congrArg Value.list (loadsList_of_ordered xs h)
  | .dict entries, h => congrArg Value.dict (loadsEntries_of_ordered entries h.1 h.2)
  | .none, _ => rfl
  | .bool _, _ => rfl
  | .int _, _ => rfl
  | .float _, _ => rfl
  | .inf _, _ => rfl
  | .nan, _ => rfl
  | .str _, _ => rfl

theorem loadsList_of_ordered : (xs : List Value) → OrderedList xs → loadsList xs = xs
  | [], _ => rfl
  | x :: xs, h => by rw [loadsList, loads_of_ordered x h.1, loadsList_of_ordered xs h.2]

theorem loadsEntries_of_ordered : (entries : Dict) → Ascending entries → OrderedEntries entries →
    loadsEntries entries = entries
  | [], _, _ => rfl
  | (key, x) :: entries, hascending, hordered => by
    obtain ⟨hlt, hrest⟩ := ascending_cons.mp hascending
    rw [loadsEntries, loadsEntries_of_ordered entries hrest hordered.2, not_has_of_lt hlt,
      loads_of_ordered x hordered.1, set_of_lt hlt]
    rfl
end

variable {F : FloatText}

theorem sortEntries_texts {entries : Dict} (h : Ascending entries) :
    sortEntries (entries.map fun e => (.str e.1, e.2)) =
      entries.map fun e => (.str e.1, e.2) := by
  have hstr : ((entries.map fun e => ((.str e.1, e.2) : Scalar × Value)).all fun e => e.1.isStr) =
      true := by simp [Scalar.isStr]
  rw [sortEntries, if_pos hstr]
  refine sortBy_of_sorted ?_
  rw [List.pairwise_map]
  exact (List.pairwise_map.mp h).imp fun hlt => hlt.le

mutual
/-- A document in order is written as it is. -/
theorem image_ofValue : (v : Value) → Ordered v → (PyObject.ofValue v).image F = v
  | .list xs, h => congrArg Value.list (imageList_ofValues xs h)
  | .dict entries, h => by
    rw [PyObject.ofValue, PyObject.image, imageEntries_ofEntries entries h.2, writeEntries,
      sortEntries_texts h.1, List.map_map]
    exact congrArg Value.dict (List.map_id _)
  | .none, _ => rfl
  | .bool _, _ => rfl
  | .int _, _ => rfl
  | .float _, _ => rfl
  | .inf _, _ => rfl
  | .nan, _ => rfl
  | .str _, _ => rfl

theorem imageList_ofValues : (xs : List Value) → OrderedList xs →
    PyObject.imageList F (PyObject.ofValues xs) = xs
  | [], _ => rfl
  | x :: xs, h => by
    rw [PyObject.ofValues, PyObject.imageList, image_ofValue x h.1, imageList_ofValues xs h.2]

theorem imageEntries_ofEntries : (entries : Dict) → OrderedEntries entries →
    PyObject.imageEntries F (PyObject.ofEntries entries) = entries.map fun e => (.str e.1, e.2)
  | [], _ => rfl
  | (key, x) :: entries, h => by
    rw [PyObject.ofEntries, PyObject.imageEntries, image_ofValue x h.1,
      imageEntries_ofEntries entries h.2]
    rfl
end

end RoundTrip

section Again

variable {F : FloatText}

theorem sortable_ofEntries (entries : Dict) :
    sortable ((PyObject.ofEntries entries).map Prod.fst) = true := by
  have hstr : ((PyObject.ofEntries entries).map Prod.fst).all Scalar.isStr = true := by
    induction entries with
    | nil => rfl
    | cons e rest ih =>
      rw [PyObject.ofEntries, List.map_cons, List.all_cons, ih]
      rfl
  rw [sortable, hstr, Bool.or_true, Bool.true_or]

theorem serialisable_ofEntries {entries : Dict} :
    PyObject.serialisableEntries (PyObject.ofEntries entries) = true ↔
      ∀ e ∈ entries, (PyObject.ofValue e.2).serialisable = true := by
  induction entries with
  | nil => simp [PyObject.ofEntries, PyObject.serialisableEntries]
  | cons e rest ih =>
    rw [List.forall_mem_cons, ← ih, PyObject.ofEntries, PyObject.serialisableEntries,
      Bool.and_eq_true, Bool.and_eq_true]
    simp [Scalar.isFinite]

theorem mem_sortEntries {items : List (Scalar × Value)} {e : Scalar × Value} :
    e ∈ sortEntries items ↔ e ∈ items := by
  unfold sortEntries
  split <;> exact mem_sortBy

mutual
/-- What was written can be written again. -/
theorem serialisable_image : (x : PyObject) → x.serialisable = true →
    (PyObject.ofValue (x.image F)).serialisable = true
  | .scalar s, h => by cases s <;> exact h
  | .list xs, h => serialisable_imageList xs h
  | .tuple xs, h => serialisable_imageList xs h
  | .dict entries, h => by
    rw [PyObject.serialisable, Bool.and_eq_true] at h
    rw [PyObject.image, PyObject.ofValue, PyObject.serialisable, sortable_ofEntries, Bool.true_and,
      serialisable_ofEntries]
    intro e he
    obtain ⟨item, hitem, rfl⟩ := List.mem_map.mp he
    exact serialisable_imageEntries entries h.2 item (mem_sortEntries.mp hitem)

theorem serialisable_imageList : (xs : List PyObject) → PyObject.serialisableList xs = true →
    PyObject.serialisableList (PyObject.ofValues (PyObject.imageList F xs)) = true
  | [], _ => rfl
  | x :: xs, h => by
    rw [PyObject.serialisableList, Bool.and_eq_true] at h
    rw [PyObject.imageList, PyObject.ofValues, PyObject.serialisableList, Bool.and_eq_true]
    exact ⟨serialisable_image x h.1, serialisable_imageList xs h.2⟩

theorem serialisable_imageEntries : (entries : List (Scalar × PyObject)) →
    PyObject.serialisableEntries entries = true →
    ∀ e ∈ PyObject.imageEntries F entries, (PyObject.ofValue e.2).serialisable = true
  | [], _ => by simp [PyObject.imageEntries]
  | (key, x) :: entries, h => by
    rw [PyObject.serialisableEntries, Bool.and_eq_true, Bool.and_eq_true] at h
    rw [PyObject.imageEntries, List.forall_mem_cons]
    exact ⟨serialisable_image x h.1.2, serialisable_imageEntries entries h.2⟩
end

end Again

/-! ## Members -/

/-- `entries.get(key)` -/
def Entries.get (entries : Entries) (key : String) : PyObject :=
  ((entries.find? fun e => e.1 = .str key).map Prod.snd).getD (.scalar .none)

/-- `key in entries` -/
def Entries.has (entries : Entries) (key : String) : Bool := entries.any fun e => e.1 = .str key

/-- A text that no other key is written as. -/
def isField (key : String) : Bool :=
  !isNumeric key && !(["null", "true", "false", "Infinity", "-Infinity", "NaN"].contains key)

section Members

variable {F : FloatText} {entries : Entries} {key : String}

theorem isNumeric_nat (n : ℕ) : isNumeric (Nat.repr n) = true := by
  rw [isNumeric, Nat.toList_repr]
  cases hdigits : Nat.toDigits 10 n with
  | nil => exact absurd hdigits Nat.toDigits_ne_nil
  | cons c cs =>
    have hc : c ∈ Nat.toDigits 10 n := by simp [hdigits]
    simp [Nat.isDigit_of_mem_toDigits (by decide) (by decide) hc]

theorem isNumeric_int (n : ℤ) : isNumeric (toString n) = true := by
  cases n with
  | ofNat n => exact isNumeric_nat n
  | negSucc n =>
    have htext : toString (Int.negSucc n) = "-" ++ Nat.repr (n + 1) := rfl
    rw [htext, isNumeric, String.toList_append]
    rfl

/-- Only the text itself is written as a field. -/
theorem keyText_eq_field {s : Scalar} (hkey : isField key = true) (h : s.keyText F = key) :
    s = .str key := by
  cases s with
  | str t => rw [← h, Scalar.keyText]
  | int n =>
    rw [← h, Scalar.keyText, isField, isNumeric_int] at hkey
    cases hkey
  | float q =>
    rw [← h, Scalar.keyText, isField, F.numeric] at hkey
    cases hkey
  | bool b =>
    rw [← h] at hkey
    cases b <;> simp [isField, Scalar.keyText] at hkey
  | inf b =>
    rw [← h] at hkey
    cases b <;> simp [isField, Scalar.keyText] at hkey
  | none =>
    rw [← h] at hkey
    simp [isField, Scalar.keyText] at hkey
  | nan =>
    rw [← h] at hkey
    simp [isField, Scalar.keyText] at hkey

theorem imageEntries_eq_map (entries : Entries) :
    PyObject.imageEntries F entries = entries.map fun e => (e.1, e.2.image F) := by
  induction entries with
  | nil => rfl
  | cons e rest ih => rw [PyObject.imageEntries, ih, List.map_cons]

theorem mem_document {e : String × Value} :
    e ∈ entries.document F ↔
      ∃ item ∈ entries, e = (item.1.keyText F, item.2.image F) := by
  simp only [Entries.document, writeEntries, List.mem_map, mem_sortEntries, imageEntries_eq_map]
  constructor
  · rintro ⟨-, ⟨item, hitem, rfl⟩, rfl⟩
    exact ⟨item, hitem, rfl⟩
  · rintro ⟨item, hitem, rfl⟩
    exact ⟨_, ⟨item, hitem, rfl⟩, rfl⟩

theorem has_document (hkey : isField key = true) :
    Dict.has (entries.document F) key = entries.has key := by
  rw [Bool.eq_iff_iff, Dict.has, Entries.has, List.any_eq_true, List.any_eq_true]
  constructor
  · rintro ⟨e, he, htext⟩
    obtain ⟨item, hitem, rfl⟩ := mem_document.mp he
    exact ⟨item, hitem, decide_eq_true (keyText_eq_field hkey (of_decide_eq_true htext))⟩
  · rintro ⟨item, hitem, hstr⟩
    refine ⟨_, mem_document.mpr ⟨item, hitem, rfl⟩, decide_eq_true ?_⟩
    rw [of_decide_eq_true hstr, Scalar.keyText]

/-- What a field holds is written under it. -/
theorem get_document (hkey : isField key = true)
    (h : Ascending (entries.document F)) :
    Dict.get (entries.document F) key = (entries.get key).image F := by
  unfold Entries.get
  cases hfind : entries.find? fun e => e.1 = .str key with
  | none =>
    refine Dict.get_of_not_has ?_
    rw [has_document hkey, Entries.has, List.any_eq_false]
    exact List.find?_eq_none.mp hfind
  | some item =>
    refine h.get_of_mem (mem_document.mpr ⟨item, List.mem_of_find?_eq_some hfind, ?_⟩)
    have hstr : item.1 = .str key := by simpa using List.find?_some hfind
    rw [hstr, Scalar.keyText]
    rfl

theorem Entries.ordered_get (h : Ordered (.dict (entries.document F))) :
    Ordered ((entries.get key).image F) := by
  unfold Entries.get
  cases hfind : entries.find? fun e => e.1 = .str key with
  | none => trivial
  | some item =>
    exact orderedEntries_iff.mp h.2 _
      (mem_document.mpr ⟨item, List.mem_of_find?_eq_some hfind, rfl⟩)

end Members

/-! ## Texts for keys -/

mutual
/-- Every key of every mapping is a text, and no key is there twice. -/
def TextKeys : PyObject → Prop
  | .scalar _ => True
  | .list xs => TextKeysList xs
  | .tuple xs => TextKeysList xs
  | .dict entries => (entries.map Prod.fst).Nodup ∧ TextKeysEntries entries
  termination_by structural x => x

def TextKeysList : List PyObject → Prop
  | [] => True
  | x :: xs => TextKeys x ∧ TextKeysList xs

def TextKeysEntries : List (Scalar × PyObject) → Prop
  | [] => True
  | (key, x) :: entries => key.isStr = true ∧ TextKeys x ∧ TextKeysEntries entries
end

section TextKeys

variable {F : FloatText}

theorem keyText_of_isStr {s : Scalar} (h : s.isStr = true) : s.keyText F = s.string := by
  cases s with
  | str t => rfl
  | _ => cases h

theorem string_injective {s t : Scalar} (hs : s.isStr = true) (ht : t.isStr = true)
    (h : s.string = t.string) : s = t := by
  cases s <;> cases t <;> simp_all [Scalar.isStr, Scalar.string]

/-- Items with texts for keys are written in the order of the texts. -/
theorem ascending_writeEntries {items : List (Scalar × Value)}
    (hstr : ∀ e ∈ items, e.1.isStr = true) (hnodup : (items.map Prod.fst).Nodup) :
    Ascending (writeEntries F items) := by
  have hsort : sortEntries items = sortBy (fun e => e.1.string) items :=
    if_pos (List.all_eq_true.mpr hstr)
  have hmem : ∀ e ∈ sortEntries items, e.1.isStr = true := fun e he =>
    hstr e (mem_sortEntries.mp he)
  have hkeys : ((sortEntries items).map Prod.fst).Nodup := by
    rw [hsort, ((sortBy_perm _ items).map Prod.fst).nodup_iff]
    exact hnodup
  have hle : (sortEntries items).Pairwise fun a b => a.1.string ≤ b.1.string := by
    rw [hsort]
    exact sortBy_sorted _ items
  have hne : (sortEntries items).Pairwise fun a b => a.1 ≠ b.1 := List.pairwise_map.mp hkeys
  rw [Ascending, writeEntries, List.map_map, List.pairwise_map]
  refine ((hle.and hne).imp_of_mem fun {a b} ha hb hab => ?_)
  simp only [Function.comp_apply, keyText_of_isStr (hmem a ha), keyText_of_isStr (hmem b hb)]
  exact lt_of_le_of_ne hab.1 fun heq => hab.2 (string_injective (hmem a ha) (hmem b hb) heq)

theorem isStr_of_textKeys {entries : Entries} (h : TextKeysEntries entries) :
    ∀ e ∈ entries, e.1.isStr = true := by
  induction entries with
  | nil => simp
  | cons e rest ih => exact List.forall_mem_cons.mpr ⟨h.1, ih h.2.2⟩

mutual
/-- A value whose keys are texts has a document in order. -/
theorem ordered_image : (x : PyObject) → TextKeys x → Ordered (x.image F)
  | .scalar s, _ => by cases s <;> trivial
  | .list xs, h => ordered_imageList xs h
  | .tuple xs, h => ordered_imageList xs h
  | .dict entries, h => by
    refine ⟨?_, orderedEntries_iff.mpr fun e he => ?_⟩
    · refine ascending_writeEntries ?_ ?_
      · rw [imageEntries_eq_map]
        intro e he
        obtain ⟨item, hitem, rfl⟩ := List.mem_map.mp he
        exact isStr_of_textKeys h.2 item hitem
      · rw [imageEntries_eq_map, List.map_map]
        exact h.1
    · obtain ⟨item, hitem, rfl⟩ := List.mem_map.mp he
      exact ordered_imageEntries entries h.2 item (mem_sortEntries.mp hitem)

theorem ordered_imageList : (xs : List PyObject) → TextKeysList xs →
    OrderedList (PyObject.imageList F xs)
  | [], _ => trivial
  | x :: xs, h => ⟨ordered_image x h.1, ordered_imageList xs h.2⟩

theorem ordered_imageEntries : (entries : List (Scalar × PyObject)) → TextKeysEntries entries →
    ∀ e ∈ PyObject.imageEntries F entries, Ordered e.2
  | [], _ => by simp [PyObject.imageEntries]
  | (_, x) :: entries, h => by
    rw [PyObject.imageEntries, List.forall_mem_cons]
    exact ⟨ordered_image x h.2.1, ordered_imageEntries entries h.2.2⟩
end

end TextKeys

end PrinterV1.Python
