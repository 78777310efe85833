import TxTemplate.Bytes.LittleEndian
import TxTemplate.Digest.Sha2

set_option autoImplicit false

/-! The twisted Edwards curve of 255 bits: which 32 bytes name a point, the public key of a seed,
and signatures. Points are held in extended coordinates, so only writing a point divides. -/

namespace TxTemplate.Edwards

def prime : Nat := Nat.pow 2 255 - 19

def order : Nat := Nat.pow 2 252 + 27742317777372353535851937790883648493

def curveConstant : Nat :=
  37095705934669439343138083508754565189542113879843219016388785533085940283555

def mul (x y : Nat) : Nat := x * y % prime

def add (x y : Nat) : Nat := (x + y) % prime

def sub (x y : Nat) : Nat := (x + (prime - y % prime)) % prime

def powUpTo : Nat → Nat → Nat → Nat
  | 0, _, _ => 1
  | bits + 1, base, exponent =>
    let rest := powUpTo bits (mul base base) (exponent / 2)
    if exponent % 2 = 1 then mul base rest else rest

def pow (base exponent : Nat) : Nat := powUpTo 256 (base % prime) exponent

def inverse (x : Nat) : Nat := pow x (prime - 2)

/-- Bytes that name a point: the equation has a solution for the coordinate they hold. Neither the
sign bit nor whether the coordinate is reduced matters. -/
def isPoint (bytes : Bytes) : Bool :=
  let y := LittleEndian.decode bytes % Nat.pow 2 255 % prime
  let ySquared := mul y y
  let numerator := sub ySquared 1
  let denominator := add (mul curveConstant ySquared) 1
  let residue := pow (mul numerator denominator) ((prime - 1) / 2)
  residue == 0 || residue == 1

/-- Extended coordinates: x = X / Z, y = Y / Z, x * y = T / Z. -/
structure Point where
  X : Nat
  Y : Nat
  Z : Nat
  T : Nat

namespace Point

def identity : Point := ⟨0, 1, 1, 0⟩

def base : Point :=
  let x := 15112221349535400772501151409588531511454012693041857206046113283949847762202
  let y := 46316835694926478169428394003475163141307993866256225615783033603165251855960
  ⟨x, y, 1, mul x y⟩

def plus (p q : Point) : Point :=
  let a := mul (sub p.Y p.X) (sub q.Y q.X)
  let b := mul (add p.Y p.X) (add q.Y q.X)
  let c := mul (mul p.T q.T) (2 * curveConstant)
  let d := 2 * mul p.Z q.Z
  let e := sub b a
  let f := sub d c
  let g := add d c
  let h := add b a
  ⟨mul e f, mul g h, mul f g, mul e h⟩

def timesUpTo : Nat → Nat → Point → Point
  | 0, _, _ => identity
  | bits + 1, factor, p =>
    let rest := timesUpTo bits (factor / 2) (p.plus p)
    if factor % 2 = 1 then p.plus rest else rest

def times (p : Point) (factor : Nat) : Point := timesUpTo 256 factor p

def encode (p : Point) : Bytes :=
  let scale := inverse p.Z
  let x := mul p.X scale
  let y := mul p.Y scale
  LittleEndian.encode 32 (y + x % 2 * Nat.pow 2 255)

end Point

/-- The secret factor of a seed: the low half of its digest, with fixed low and high bits. -/
def secretFactor (seed : Bytes) : Nat :=
  let n := LittleEndian.decode ((sha512 seed).take 32)
  n % Nat.pow 2 254 / 8 * 8 + Nat.pow 2 254

def publicKey (seed : Bytes) : Bytes := (Point.base.times (secretFactor seed)).encode

def sign (seed message : Bytes) : Bytes :=
  let factor := secretFactor seed
  let key := publicKey seed
  let nonce := LittleEndian.decode (sha512 ((sha512 seed).drop 32 ++ message)) % order
  let commitment := (Point.base.times nonce).encode
  let challenge := LittleEndian.decode (sha512 (commitment ++ key ++ message)) % order
  commitment ++ LittleEndian.encode 32 ((nonce + challenge * factor) % order)

end TxTemplate.Edwards
