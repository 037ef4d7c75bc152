import Mathlib.Data.Nat.Notation
import Mathlib.Tactic.Common

/-!
# Database files in URIs

`sqlite3.connect(f"file:{path}?mode=ro", uri=True)`, of a path that is not escaped.
The library reads the path as part of the URI: a `#` begins the fragment, a `?` the
options, and two hexadecimal digits behind a `%` are a byte of the name.
-/

namespace PrinterV1.Python.SqliteUri

/-- How the options of a URI let a file be opened: one that is there, one that is created
where none is, or no file at all. -/
inductive Access
  | existing | creating | elsewhere
  deriving DecidableEq, Repr

/-- What is not read off the URI: the options the library knows, and where a name leads,
its links followed. -/
structure Host where
  access : String → Access
  readOnly : access "mode=ro" = .existing
  follow : String → String

structure Opened where
  name : String
  creates : Bool
  deriving DecidableEq, Repr

def hexDigit? (c : Char) : Option ℕ :=
  if '0' ≤ c ∧ c ≤ '9' then some (c.toNat - 48)
  else if 'a' ≤ c ∧ c ≤ 'f' then some (c.toNat - 87)
  else if 'A' ≤ c ∧ c ≤ 'F' then some (c.toNat - 55)
  else none

/-- The text of escaped bytes; bytes that are none name no file. -/
def decodeBytes (raw : List UInt8) : Option (List Char) :=
  (String.fromUTF8? ⟨raw.toArray⟩).map String.toList

/-- A name with its escapes decoded, given the bytes of those right before it. What follows
the escape of zero is dropped. -/
def unescape : List UInt8 → List Char → Option (List Char)
  | raw, [] => decodeBytes raw
  | raw, '%' :: high :: low :: cs =>
    match hexDigit? high, hexDigit? low with
    | some h, some l =>
      if h = 0 ∧ l = 0 then decodeBytes raw
      else unescape (raw ++ [UInt8.ofNat (16 * h + l)]) cs
    | _, _ => do
      let before ← decodeBytes raw
      let rest ← unescape [] (high :: low :: cs)
      return before ++ '%' :: rest
  | raw, c :: cs => do
    let before ← decodeBytes raw
    let rest ← unescape [] cs
    return before ++ c :: rest

/-- What follows the authority; one that is not the local host is refused. -/
def afterAuthority : List Char → Option (List Char)
  | '/' :: '/' :: cs =>
    let authority := cs.takeWhile fun c => c ≠ '/'
    if authority = [] ∨ authority = "localhost".toList then some (cs.drop authority.length)
    else none
  | cs => some cs

/-- The file that is opened to be read, if it is a file. -/
def Host.opens (host : Host) (path : String) : Option Opened := do
  let cs ← afterAuthority (path.toList ++ "?mode=ro".toList)
  let text := cs.takeWhile fun c => c ≠ '#'
  let name ← unescape [] (text.takeWhile fun c => c ≠ '?')
  match host.access (String.ofList ((text.dropWhile fun c => c ≠ '?').drop 1)) with
  | .existing => some ⟨host.follow (String.ofList name), false⟩
  | .creating => some ⟨host.follow (String.ofList name), true⟩
  | .elsewhere => none

theorem decodeBytes_nil : decodeBytes [] = some [] := by
  decide

/-- Without a `%` there is nothing to decode. -/
theorem unescape_plain {cs : List Char} (h : '%' ∉ cs) : unescape [] cs = some cs := by
  induction cs with
  | nil => exact decodeBytes_nil
  | cons c cs ih =>
    rw [List.mem_cons, not_or] at h
    have hno : ∀ high low rest, c = '%' → cs = high :: low :: rest → False :=
      fun _ _ _ hc _ => h.1 hc.symm
    rw [unescape, decodeBytes_nil, ih h.2]
    · rfl
    · exact hno

theorem afterAuthority_plain {cs : List Char} (h : ¬['/', '/'] <+: cs) :
    afterAuthority (cs ++ "?mode=ro".toList) = some (cs ++ "?mode=ro".toList) := by
  have hno : ∀ rest, cs ++ "?mode=ro".toList = '/' :: '/' :: rest → False := by
    intro rest heq
    apply h
    match cs, heq with
    | [], heq => cases heq
    | [c], heq => cases heq
    | c :: d :: more, heq =>
      cases heq
      exact ⟨more, rfl⟩
  rw [afterAuthority]
  exact hno

/-- A path with none of the special characters is opened itself, to be read only. -/
theorem opens_plain (host : Host) {path : String}
    (hplain : ∀ c ∈ path.toList, c ≠ '#' ∧ c ≠ '?' ∧ c ≠ '%')
    (hauthority : ¬['/', '/'] <+: path.toList) :
    host.opens path = some ⟨host.follow path, false⟩ := by
  have hbefore : ∀ c ∈ path.toList, decide (c ≠ '?') = true := by
    intro c hc
    simpa using (hplain c hc).2.1
  have hfragment : ∀ c ∈ path.toList, decide (c ≠ '#') = true := by
    intro c hc
    simpa using (hplain c hc).1
  have hname : '%' ∉ path.toList := fun h => (hplain '%' h).2.2 rfl
  unfold Host.opens
  rw [afterAuthority_plain hauthority, Option.bind_eq_bind, Option.bind_some]
  dsimp only
  rw [List.takeWhile_append_of_pos hfragment]
  have hrest : ("?mode=ro".toList.takeWhile fun c => decide (c ≠ '#')) = "?mode=ro".toList := by
    decide
  have hmode : String.ofList (("?mode=ro".toList.dropWhile fun c => decide (c ≠ '?')).drop 1) =
      "mode=ro" := by
    decide
  have hnone : ("?mode=ro".toList.takeWhile fun c => decide (c ≠ '?')) = [] := by
    decide
  rw [hrest, List.takeWhile_append_of_pos hbefore, List.dropWhile_append_of_pos hbefore, hmode,
    hnone, List.append_nil, unescape_plain hname, Option.bind_some, host.readOnly,
    String.ofList_toList]

end PrinterV1.Python.SqliteUri
