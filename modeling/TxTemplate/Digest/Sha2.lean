import TxTemplate.Bytes.Radix

set_option autoImplicit false

/-! The SHA-2 family of digests. One compression serves both word sizes; a `Variant` holds what
differs: the words, the mixing functions, and the lengths. -/

namespace TxTemplate.Sha2

structure Variant (W : Type) where
  wordBytes : Nat
  ofBytes : Bytes → W
  toBytes : W → Bytes
  add : W → W → W
  choose : W → W → W → W
  majority : W → W → W → W
  stateMixA : W → W
  stateMixE : W → W
  scheduleMixEarly : W → W
  scheduleMixLate : W → W
  initial : List W
  constants : List W

structure State (W : Type) where
  a : W
  b : W
  c : W
  d : W
  e : W
  f : W
  g : W
  h : W

variable {W : Type}

def chunks (size : Nat) : Nat → Bytes → List Bytes
  | 0, _ => []
  | steps + 1, bytes =>
    if bytes.length < size then []
    else bytes.take size :: chunks size steps (bytes.drop size)

def bigEndian : Nat → Nat → Bytes
  | 0, _ => []
  | width + 1, n => UInt8.ofNat (n / Nat.pow 256 width) :: bigEndian width n

def pad (wordBytes : Nat) (message : Bytes) : Bytes :=
  let block := 16 * wordBytes
  let gap := (2 * block - 1 - 2 * wordBytes - message.length % block) % block
  message ++ 0x80 :: List.replicate gap 0 ++ bigEndian (2 * wordBytes) (8 * message.length)

@[specialize] def nextWord (v : Variant W) (nought : W) (schedule : List W) : W :=
  v.add (v.add (v.scheduleMixLate (schedule.getD 1 nought)) (schedule.getD 6 nought))
    (v.add (v.scheduleMixEarly (schedule.getD 14 nought)) (schedule.getD 15 nought))

@[specialize] def extend (v : Variant W) (nought : W) : Nat → List W → List W
  | 0, schedule => schedule
  | steps + 1, schedule => extend v nought steps (nextWord v nought schedule :: schedule)

@[specialize] def round (v : Variant W) (s : State W) (constant word : W) : State W :=
  let first := v.add (v.add (v.add s.h (v.stateMixE s.e)) (v.choose s.e s.f s.g))
    (v.add constant word)
  let second := v.add (v.stateMixA s.a) (v.majority s.a s.b s.c)
  ⟨v.add first second, s.a, s.b, s.c, v.add s.d first, s.e, s.f, s.g⟩

@[specialize] def rounds (v : Variant W) : State W → List W → List W → State W
  | s, constant :: constants, word :: words => rounds v (round v s constant word) constants words
  | s, _, _ => s

@[specialize] def compress (v : Variant W) (nought : W) (s : State W) (block : Bytes) : State W :=
  let first := (chunks v.wordBytes 16 block).map v.ofBytes
  let schedule := (extend v nought (v.constants.length - 16) first.reverse).reverse
  let t := rounds v s v.constants schedule
  ⟨v.add s.a t.a, v.add s.b t.b, v.add s.c t.c, v.add s.d t.d,
    v.add s.e t.e, v.add s.f t.f, v.add s.g t.g, v.add s.h t.h⟩

@[specialize] def digest (v : Variant W) (nought : W) (message : Bytes) : Bytes :=
  let padded := pad v.wordBytes message
  let word := fun (index : Nat) => v.initial.getD index nought
  let start : State W := ⟨word 0, word 1, word 2, word 3, word 4, word 5, word 6, word 7⟩
  let s := (chunks (16 * v.wordBytes) padded.length padded).foldl (compress v nought) start
  [s.a, s.b, s.c, s.d, s.e, s.f, s.g, s.h].flatMap v.toBytes

def rotate32 (x amount : UInt32) : UInt32 := (x >>> amount) ||| (x <<< (32 - amount))

def rotate64 (x amount : UInt64) : UInt64 := (x >>> amount) ||| (x <<< (64 - amount))

def words32 : Variant UInt32 where
  wordBytes := 4
  ofBytes := fun bytes => bytes.foldl (fun word byte => (word <<< 8) ||| byte.toUInt32) 0
  toBytes := fun word => bigEndian 4 word.toNat
  add := (· + ·)
  choose := fun x y z => (x &&& y) ^^^ (~~~x &&& z)
  majority := fun x y z => (x &&& y) ^^^ (x &&& z) ^^^ (y &&& z)
  stateMixA := fun x => rotate32 x 2 ^^^ rotate32 x 13 ^^^ rotate32 x 22
  stateMixE := fun x => rotate32 x 6 ^^^ rotate32 x 11 ^^^ rotate32 x 25
  scheduleMixEarly := fun x => rotate32 x 7 ^^^ rotate32 x 18 ^^^ (x >>> 3)
  scheduleMixLate := fun x => rotate32 x 17 ^^^ rotate32 x 19 ^^^ (x >>> 10)
  initial :=
    [
     0x6a09e667, 0xbb67ae85, 0x3c6ef372, 0xa54ff53a, 0x510e527f, 0x9b05688c, 0x1f83d9ab, 0x5be0cd19]
  constants :=
    [
     0x428a2f98, 0x71374491, 0xb5c0fbcf, 0xe9b5dba5, 0x3956c25b, 0x59f111f1, 0x923f82a4, 0xab1c5ed5,
     0xd807aa98, 0x12835b01, 0x243185be, 0x550c7dc3, 0x72be5d74, 0x80deb1fe, 0x9bdc06a7, 0xc19bf174,
     0xe49b69c1, 0xefbe4786, 0x0fc19dc6, 0x240ca1cc, 0x2de92c6f, 0x4a7484aa, 0x5cb0a9dc, 0x76f988da,
     0x983e5152, 0xa831c66d, 0xb00327c8, 0xbf597fc7, 0xc6e00bf3, 0xd5a79147, 0x06ca6351, 0x14292967,
     0x27b70a85, 0x2e1b2138, 0x4d2c6dfc, 0x53380d13, 0x650a7354, 0x766a0abb, 0x81c2c92e, 0x92722c85,
     0xa2bfe8a1, 0xa81a664b, 0xc24b8b70, 0xc76c51a3, 0xd192e819, 0xd6990624, 0xf40e3585, 0x106aa070,
     0x19a4c116, 0x1e376c08, 0x2748774c, 0x34b0bcb5, 0x391c0cb3, 0x4ed8aa4a, 0x5b9cca4f, 0x682e6ff3,
     0x748f82ee, 0x78a5636f, 0x84c87814, 0x8cc70208, 0x90befffa, 0xa4506ceb, 0xbef9a3f7, 0xc67178f2]

def words64 : Variant UInt64 where
  wordBytes := 8
  ofBytes := fun bytes => bytes.foldl (fun word byte => (word <<< 8) ||| byte.toUInt64) 0
  toBytes := fun word => bigEndian 8 word.toNat
  add := (· + ·)
  choose := fun x y z => (x &&& y) ^^^ (~~~x &&& z)
  majority := fun x y z => (x &&& y) ^^^ (x &&& z) ^^^ (y &&& z)
  stateMixA := fun x => rotate64 x 28 ^^^ rotate64 x 34 ^^^ rotate64 x 39
  stateMixE := fun x => rotate64 x 14 ^^^ rotate64 x 18 ^^^ rotate64 x 41
  scheduleMixEarly := fun x => rotate64 x 1 ^^^ rotate64 x 8 ^^^ (x >>> 7)
  scheduleMixLate := fun x => rotate64 x 19 ^^^ rotate64 x 61 ^^^ (x >>> 6)
  initial :=
    [
     0x6a09e667f3bcc908, 0xbb67ae8584caa73b, 0x3c6ef372fe94f82b, 0xa54ff53a5f1d36f1,
     0x510e527fade682d1, 0x9b05688c2b3e6c1f, 0x1f83d9abfb41bd6b, 0x5be0cd19137e2179]
  constants :=
    [
     0x428a2f98d728ae22, 0x7137449123ef65cd, 0xb5c0fbcfec4d3b2f, 0xe9b5dba58189dbbc,
     0x3956c25bf348b538, 0x59f111f1b605d019, 0x923f82a4af194f9b, 0xab1c5ed5da6d8118,
     0xd807aa98a3030242, 0x12835b0145706fbe, 0x243185be4ee4b28c, 0x550c7dc3d5ffb4e2,
     0x72be5d74f27b896f, 0x80deb1fe3b1696b1, 0x9bdc06a725c71235, 0xc19bf174cf692694,
     0xe49b69c19ef14ad2, 0xefbe4786384f25e3, 0x0fc19dc68b8cd5b5, 0x240ca1cc77ac9c65,
     0x2de92c6f592b0275, 0x4a7484aa6ea6e483, 0x5cb0a9dcbd41fbd4, 0x76f988da831153b5,
     0x983e5152ee66dfab, 0xa831c66d2db43210, 0xb00327c898fb213f, 0xbf597fc7beef0ee4,
     0xc6e00bf33da88fc2, 0xd5a79147930aa725, 0x06ca6351e003826f, 0x142929670a0e6e70,
     0x27b70a8546d22ffc, 0x2e1b21385c26c926, 0x4d2c6dfc5ac42aed, 0x53380d139d95b3df,
     0x650a73548baf63de, 0x766a0abb3c77b2a8, 0x81c2c92e47edaee6, 0x92722c851482353b,
     0xa2bfe8a14cf10364, 0xa81a664bbc423001, 0xc24b8b70d0f89791, 0xc76c51a30654be30,
     0xd192e819d6ef5218, 0xd69906245565a910, 0xf40e35855771202a, 0x106aa07032bbd1b8,
     0x19a4c116b8d2d0c8, 0x1e376c085141ab53, 0x2748774cdf8eeb99, 0x34b0bcb5e19b48a8,
     0x391c0cb3c5c95a63, 0x4ed8aa4ae3418acb, 0x5b9cca4f7763e373, 0x682e6ff3d6b2b8a3,
     0x748f82ee5defb2fc, 0x78a5636f43172f60, 0x84c87814a1f0ab72, 0x8cc702081a6439ec,
     0x90befffa23631e28, 0xa4506cebde82bde9, 0xbef9a3f7b2c67915, 0xc67178f2e372532b,
     0xca273eceea26619c, 0xd186b8c721c0c207, 0xeada7dd6cde0eb1e, 0xf57d4f7fee6ed178,
     0x06f067aa72176fba, 0x0a637dc5a2c898a6, 0x113f9804bef90dae, 0x1b710b35131c471b,
     0x28db77f523047d84, 0x32caab7b40c72493, 0x3c9ebe0a15c9bebc, 0x431d67c49c100d4c,
     0x4cc5d4becb3e42b6, 0x597f299cfc657e2a, 0x5fcb6fab3ad6faec, 0x6c44198c4a475817]

end TxTemplate.Sha2

namespace TxTemplate

def sha256 (message : Bytes) : Bytes := Sha2.digest Sha2.words32 0 message

def sha512 (message : Bytes) : Bytes := Sha2.digest Sha2.words64 0 message

end TxTemplate
