import Mathlib.Data.List.Forall2
import PrinterV1.Foundation.Faults
import PrinterV1.Python.Json

/-!
# Objects before and after JSON

How an object that may hold tuples is read, and how its document is: the conversions
to a number agree, a tuple becomes a list and loses its hash.
-/

namespace PrinterV1.Python

open Faults

namespace PyObject

/-- `bool(value)` -/
def truthy : PyObject → Bool
  | .scalar s => s.value.truthy
  | .list xs => !xs.isEmpty
  | .tuple xs => !xs.isEmpty
  | .dict entries => !entries.isEmpty

def typeName : PyObject → String
  | .scalar s => s.value.typeName
  | .list _ => "list"
  | .tuple _ => "tuple"
  | .dict _ => "dict"

def isTuple : PyObject → Bool
  | .tuple _ => true
  | _ => false

def isMapping : PyObject → Bool
  | .dict _ => true
  | _ => false

mutual
/-- A tuple has a hash where its elements do. -/
def hashable : PyObject → Bool
  | .scalar _ => true
  | .tuple xs => hashableList xs
  | .list _ => false
  | .dict _ => false
  termination_by structural x => x

def hashableList : List PyObject → Bool
  | [] => true
  | x :: xs => hashable x && hashableList xs
end

mutual
/-- `a == b`, on values with a hash. -/
def sameKey : PyObject → PyObject → Bool
  | .scalar a, .scalar b => a.value.pyEq b.value
  | .tuple xs, .tuple ys => sameKeys xs ys
  | _, _ => false
  termination_by structural x => x

def sameKeys : List PyObject → List PyObject → Bool
  | [], [] => true
  | x :: xs, y :: ys => sameKey x y && sameKeys xs ys
  | _, _ => false
end

/-- `int(value)` -/
def toInt (R : Value.Rendering) : PyObject → Except PyError ℤ
  | .scalar s => s.value.toInt R
  | x => .error (.typeError ("int() argument must be a string, a bytes-like object or a real " ++
      "number, not '" ++ x.typeName ++ "'"))

/-- `int(value or 0)` -/
def toIntOrZero (R : Value.Rendering) (x : PyObject) : Except PyError ℤ :=
  if x.truthy then x.toInt R else .ok 0

/-- `list(value)` -/
def iterate : PyObject → Option (List PyObject)
  | .list xs => some xs
  | .tuple xs => some xs
  | .dict entries => some (entries.map fun e => .scalar e.1)
  | .scalar (.str s) => some (s.toList.map fun c => .scalar (.str (String.ofList [c])))
  | _ => none

/-- An element of what `dict` is given. -/
def pairOf (x : PyObject) : Except PyError (PyObject × PyObject) :=
  match x.iterate with
  | none => .error (.typeError "cannot convert dictionary update sequence element to a sequence")
  | some [key, value] =>
    if key.hashable then .ok (key, value)
    else .error (.typeError ("unhashable type: '" ++ key.typeName ++ "'"))
  | some _ => .error (.valueError "dictionary update sequence element: 2 is required")

/-- `dict(value)`; the items under a tuple, which no text finds, are left out. Of items with one
key the last one counts. -/
def dictOf : PyObject → Except PyError Entries
  | .dict entries => .ok entries
  | x =>
    match x.iterate with
    | none => .error (.typeError ("'" ++ x.typeName ++ "' object is not iterable"))
    | some xs => do
      let pairs ← xs.mapM pairOf
      return pairs.reverse.filterMap fun pair =>
        match pair.1 with
        | .scalar s => some (s, pair.2)
        | _ => none

end PyObject

section Images

variable {F : FloatText} {R : Value.Rendering}

theorem imageList_eq_map (xs : List PyObject) :
    PyObject.imageList F xs = xs.map (PyObject.image F) := by
  induction xs with
  | nil => rfl
  | cons x xs ih => rw [PyObject.imageList, ih, List.map_cons]

theorem length_sortEntries (items : List (Scalar × Value)) :
    (sortEntries items).length = items.length := by
  unfold sortEntries
  split <;> exact (sortBy_perm _ _).length_eq

theorem document_eq_nil_iff {entries : Entries} : entries.document F = [] ↔ entries = [] := by
  rw [← List.length_eq_zero_iff, Entries.document, writeEntries, List.length_map,
    length_sortEntries,
    imageEntries_eq_map, List.length_map, List.length_eq_zero_iff]

@[simp] theorem truthy_image (x : PyObject) : (x.image F).truthy = x.truthy := by
  cases x with
  | scalar s => rfl
  | list xs => cases xs <;> simp [PyObject.image, PyObject.imageList, Value.truthy, PyObject.truthy]
  | tuple xs => cases xs <;> simp [PyObject.image, PyObject.imageList, Value.truthy, PyObject.truthy]
  | dict entries =>
    rw [PyObject.image_dict, Value.truthy, PyObject.truthy, Bool.eq_iff_iff, decide_eq_true_iff,
      Bool.not_eq_true', List.isEmpty_eq_false_iff, ne_eq, ne_eq, document_eq_nil_iff]

theorem toInt_image {x : PyObject} {n : ℤ} :
    (x.image F).toInt R = .ok n ↔ x.toInt R = .ok n := by
  cases x <;> simp [PyObject.image, PyObject.toInt, Value.toInt]

theorem toIntOrZero_image {x : PyObject} {n : ℤ} :
    (x.image F).toIntOrZero R = .ok n ↔ x.toIntOrZero R = .ok n := by
  unfold Value.toIntOrZero PyObject.toIntOrZero
  rw [truthy_image]
  split
  · exact toInt_image
  · exact Iff.rfl

/-- A value with a hash is a leaf or a tuple. -/
theorem hashable_image {x : PyObject} (h : x.hashable = true) :
    (x.image F).hashable = true ↔ x.isTuple = false := by
  cases x with
  | scalar s => cases s <;> simp [PyObject.image, Scalar.value, Value.hashable, PyObject.isTuple]
  | tuple xs => simp [PyObject.image, Value.hashable, PyObject.isTuple]
  | list xs => cases h
  | dict entries => cases h

theorem pyEqList_cons {x y : Value} {xs ys : List Value} :
    Value.pyEqList (x :: xs) (y :: ys) = (x.pyEq y && Value.pyEqList xs ys) := by
  rw [Bool.eq_iff_iff, Bool.and_eq_true]
  simp only [Value.pyEqList, Value.pyEq_iff, Value.floated, Value.floatedList, Value.hasNan,
    Value.hasNanList, Value.list.injEq, List.cons.injEq, Bool.or_eq_false_iff]
  tauto

/-- Leaves are compared as their documents are. -/
theorem sameKeys_scalars (xs ys : List Scalar) :
    PyObject.sameKeys (xs.map .scalar) (ys.map .scalar) =
      Value.pyEqList (xs.map Scalar.value) (ys.map Scalar.value) := by
  induction xs generalizing ys with
  | nil => cases ys <;> rfl
  | cons x xs ih =>
    cases ys with
    | nil => rfl
    | cons y ys =>
      rw [List.map_cons, List.map_cons, List.map_cons, List.map_cons, PyObject.sameKeys, ih,
        pyEqList_cons]
      rfl

end Images

end PrinterV1.Python
