import PrinterV1.Python.Bytes
import Mathlib.Data.String.Basic

/-!
# Base64

`base64.b64decode(text, validate=True)`: characters outside the alphabet, a data
character behind padding and an incomplete group are errors. Without `validate`
only the last of these is one.
-/

namespace PrinterV1.Python

/-- The value of a character of the alphabet. -/
def base64Value (c : Char) : Option ℕ :=
  if 'A' ≤ c ∧ c ≤ 'Z' then some (c.toNat - 65)
  else if 'a' ≤ c ∧ c ≤ 'z' then some (c.toNat - 71)
  else if '0' ≤ c ∧ c ≤ '9' then some (c.toNat + 4)
  else if c = '+' then some 62
  else if c = '/' then some 63
  else none

/-- The place in a group of four characters, the bits that wait for the next one, and the padding
seen. -/
structure Base64State where
  quadPos : ℕ := 0
  leftover : ℕ := 0
  pads : ℕ := 0
  paddingStarted : Bool := false

/-- The bytes that remain to be read. -/
def b64decodeFrom (s : Base64State) : List Char → Option Bytes
  | [] => if s.quadPos = 0 then some [] else none
  | c :: rest =>
    if c = '=' then
      if 2 ≤ s.quadPos then
        if 4 ≤ s.quadPos + (s.pads + 1) then if rest = [] then some [] else none
        else b64decodeFrom { s with pads := s.pads + 1, paddingStarted := true } rest
      else b64decodeFrom { s with paddingStarted := true } rest
    else
      match base64Value c with
      | none => none
      | some v =>
        if s.paddingStarted then none
        else
          match s.quadPos with
          | 0 => b64decodeFrom { quadPos := 1, leftover := v } rest
          | 1 => (b64decodeFrom { quadPos := 2, leftover := v % 16 } rest).map
              (UInt8.ofNat (s.leftover * 4 + v / 16) :: ·)
          | 2 => (b64decodeFrom { quadPos := 3, leftover := v % 4 } rest).map
              (UInt8.ofNat (s.leftover * 16 + v / 4) :: ·)
          | _ => (b64decodeFrom {} rest).map (UInt8.ofNat (s.leftover * 64 + v) :: ·)

/-- `base64.b64decode(text, validate=True)`; `none` is its `ValueError`. -/
def b64decode (text : String) : Option Bytes :=
  if text.toList.head? = some '=' then none else b64decodeFrom {} text.toList

/-- What `base64.b64decode(text)` has still to read: it skips what is no data, and stops at a
complete padding. -/
def b64decodeLooseFrom (s : Base64State) (count : ℕ) : List Char → Except String Bytes
  | [] =>
    if s.quadPos = 0 then .ok []
    else if s.quadPos = 1 then
      .error ("Invalid base64-encoded string: number of data characters (" ++ toString count ++
        ") cannot be 1 more than a multiple of 4")
    else .error "Incorrect padding"
  | c :: rest =>
    if c = '=' then
      if 2 ≤ s.quadPos then
        if 4 ≤ s.quadPos + (s.pads + 1) then .ok []
        else b64decodeLooseFrom { s with pads := s.pads + 1 } count rest
      else b64decodeLooseFrom s count rest
    else
      match base64Value c with
      | none => b64decodeLooseFrom s count rest
      | some v =>
        match s.quadPos with
        | 0 => b64decodeLooseFrom { quadPos := 1, leftover := v } (count + 1) rest
        | 1 => (b64decodeLooseFrom { quadPos := 2, leftover := v % 16 } (count + 1) rest).map
            (UInt8.ofNat (s.leftover * 4 + v / 16) :: ·)
        | 2 => (b64decodeLooseFrom { quadPos := 3, leftover := v % 4 } (count + 1) rest).map
            (UInt8.ofNat (s.leftover * 16 + v / 4) :: ·)
        | _ => (b64decodeLooseFrom {} (count + 1) rest).map
            (UInt8.ofNat (s.leftover * 64 + v) :: ·)

/-- `base64.b64decode(text)`; an error is the text of its `ValueError`. -/
def b64decodeLoose (text : String) : Except String Bytes :=
  if text.toList.any fun c => 128 ≤ c.toNat then
    .error "string argument should contain only ASCII characters"
  else b64decodeLooseFrom {} 0 text.toList

end PrinterV1.Python
