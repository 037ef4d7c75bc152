import PrinterV1.Python.Bytes

/-!
# SHA-256

`hashlib.sha256(raw).digest()`, on words of 32 bits.
-/

namespace PrinterV1.Python

/-- What the hash returns. -/
abbrev Digest := { raw : Bytes // raw.length = 32 }

namespace Sha256

/-- The eight words of a state. -/
structure Words where
  a : ℕ
  b : ℕ
  c : ℕ
  d : ℕ
  e : ℕ
  f : ℕ
  g : ℕ
  h : ℕ

def word (n : ℕ) : ℕ := n % 2 ^ 32

def rotateRight (x n : ℕ) : ℕ := (x >>> n) ||| word (x <<< (32 - n))

def roundConstants : List ℕ :=
  [0x428a2f98, 0x71374491, 0xb5c0fbcf, 0xe9b5dba5, 0x3956c25b, 0x59f111f1, 0x923f82a4, 0xab1c5ed5,
    0xd807aa98, 0x12835b01, 0x243185be, 0x550c7dc3, 0x72be5d74, 0x80deb1fe, 0x9bdc06a7, 0xc19bf174,
    0xe49b69c1, 0xefbe4786, 0x0fc19dc6, 0x240ca1cc, 0x2de92c6f, 0x4a7484aa, 0x5cb0a9dc, 0x76f988da,
    0x983e5152, 0xa831c66d, 0xb00327c8, 0xbf597fc7, 0xc6e00bf3, 0xd5a79147, 0x06ca6351, 0x14292967,
    0x27b70a85, 0x2e1b2138, 0x4d2c6dfc, 0x53380d13, 0x650a7354, 0x766a0abb, 0x81c2c92e, 0x92722c85,
    0xa2bfe8a1, 0xa81a664b, 0xc24b8b70, 0xc76c51a3, 0xd192e819, 0xd6990624, 0xf40e3585, 0x106aa070,
    0x19a4c116, 0x1e376c08, 0x2748774c, 0x34b0bcb5, 0x391c0cb3, 0x4ed8aa4a, 0x5b9cca4f, 0x682e6ff3,
    0x748f82ee, 0x78a5636f, 0x84c87814, 0x8cc70208, 0x90befffa, 0xa4506ceb, 0xbef9a3f7, 0xc67178f2]

def initial : Words where
  a := 0x6a09e667
  b := 0xbb67ae85
  c := 0x3c6ef372
  d := 0xa54ff53a
  e := 0x510e527f
  f := 0x9b05688c
  g := 0x1f83d9ab
  h := 0x5be0cd19

/-- One round with its constant, on the state and the next sixteen words of the schedule. -/
def round (s : Words × List ℕ) (k : ℕ) : Words × List ℕ :=
  let v := s.1
  let w (i : ℕ) := s.2.getD i 0
  let s1 := rotateRight v.e 6 ^^^ rotateRight v.e 11 ^^^ rotateRight v.e 25
  let choose := (v.e &&& v.f) ^^^ ((v.e ^^^ 0xffffffff) &&& v.g)
  let t1 := word (v.h + s1 + choose + k + w 0)
  let s0 := rotateRight v.a 2 ^^^ rotateRight v.a 13 ^^^ rotateRight v.a 22
  let majority := (v.a &&& v.b) ^^^ (v.a &&& v.c) ^^^ (v.b &&& v.c)
  let sigma0 := rotateRight (w 1) 7 ^^^ rotateRight (w 1) 18 ^^^ ((w 1) >>> 3)
  let sigma1 := rotateRight (w 14) 17 ^^^ rotateRight (w 14) 19 ^^^ ((w 14) >>> 10)
  (⟨word (t1 + word (s0 + majority)), v.a, v.b, v.c, word (v.d + t1), v.e, v.f, v.g⟩,
    s.2.tail ++ [word (w 0 + sigma0 + w 9 + sigma1)])

/-- The state after a block of sixteen words. -/
def compress (v : Words) (block : List ℕ) : Words :=
  let w := (roundConstants.foldl round (v, block)).1
  ⟨word (v.a + w.a), word (v.b + w.b), word (v.c + w.c), word (v.d + w.d), word (v.e + w.e),
    word (v.f + w.f), word (v.g + w.g), word (v.h + w.h)⟩

/-- The words of a byte string, four bytes each. -/
def wordsOf : ℕ → Bytes → List ℕ
  | 0, _ => []
  | count + 1, raw => Bytes.toNatBig (raw.take 4) :: wordsOf count (raw.drop 4)

/-- The message with its padding and its length in bits. -/
def padded (raw : Bytes) : Bytes :=
  let zeros := (119 - raw.length % 64) % 64
  raw ++ 0x80 :: List.replicate zeros 0 ++
    (Bytes.ofNatLittle 8 (8 * raw.length)).reverse

/-- The state after the blocks of a padded message. -/
def blocks : ℕ → Words → Bytes → Words
  | 0, v, _ => v
  | count + 1, v, raw => blocks count (compress v (wordsOf 16 (raw.take 64))) (raw.drop 64)

def wordBytes (n : ℕ) : Bytes :=
  [UInt8.ofNat (n >>> 24), UInt8.ofNat (n >>> 16), UInt8.ofNat (n >>> 8), UInt8.ofNat n]

def Words.bytes (v : Words) : Bytes :=
  wordBytes v.a ++ wordBytes v.b ++ wordBytes v.c ++ wordBytes v.d ++ wordBytes v.e ++
    wordBytes v.f ++ wordBytes v.g ++ wordBytes v.h

end Sha256

/-- `hashlib.sha256(raw).digest()` -/
def sha256 (raw : Bytes) : Digest :=
  let message := Sha256.padded raw
  ⟨(Sha256.blocks (message.length / 64) Sha256.initial message).bytes, rfl⟩

end PrinterV1.Python
