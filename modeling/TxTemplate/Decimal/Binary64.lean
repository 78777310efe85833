import TxTemplate.Decimal.Numeral

set_option autoImplicit false

/-! Doubles as exact binary fractions, and their shortest decimal text. The text has the fewest
digits that read back as the same double, and of those the digits nearest to it. -/

namespace TxTemplate.Binary64

/-- What the bits of a double stand for. A finite one is `m * 2 ^ q` up to its sign. -/
inductive Parts where
  | nan
  | infinite (negative : Bool)
  | finite (negative : Bool) (m : Nat) (q : Int)
  deriving Repr, DecidableEq

def parts (x : Float) : Parts :=
  let bits := x.toBits.toNat
  let negative := bits / Nat.pow 2 63 == 1
  let exponent : Nat := bits / Nat.pow 2 52 % Nat.pow 2 11
  let fraction : Nat := bits % Nat.pow 2 52
  if exponent = 2047 then
    if fraction = 0 then .infinite negative else .nan
  else if exponent = 0 then .finite negative fraction (-1074)
  else .finite negative (Nat.pow 2 52 + fraction) (exponent - 1075)

def toInt? (x : Float) : Option Int :=
  match parts x with
  | .finite negative m q =>
    if 0 ≤ q then
      let n := m * Nat.pow 2 q.toNat
      some (if negative then -(n : Int) else n)
    else if m % Nat.pow 2 (-q).toNat = 0 then
      let n := m / Nat.pow 2 (-q).toNat
      some (if negative then -(n : Int) else n)
    else none
  | _ => none

/-- The whole part of a finite double, toward nought. -/
def truncate? (x : Float) : Option Int :=
  match parts x with
  | .finite negative m q =>
    let n := if 0 ≤ q then m * Nat.pow 2 q.toNat else m / Nat.pow 2 (-q).toNat
    some (if negative then -(n : Int) else n)
  | _ => none

/-- A positive decimal fraction: the digits, most significant first, and the power of ten that the
point stands after, so the value is `0.digits * 10 ^ point`. -/
structure Shortest where
  digits : List Char
  point : Int

/-- The search for the shortest digits of `m * 2 ^ q`. The reals that read back as this double lie
between `low` and `high` quarter units of its last bit, the ends included when `m` is even. -/
structure Search where
  m : Nat
  q : Int
  low : Nat
  high : Nat

def Search.of (m : Nat) (q : Int) : Search :=
  ⟨m, q, if m = Nat.pow 2 52 ∧ -1074 < q then 4 * m - 1 else 4 * m - 2, 4 * m + 2⟩

/-- Scales that turn a quarter unit of the last bit, and a power of ten, into whole numbers. -/
def Search.scales (s : Search) (power : Int) : Nat × Nat :=
  (Nat.pow 2 (s.q - 2).toNat * Nat.pow 10 (-power).toNat,
    Nat.pow 2 (2 - s.q).toNat * Nat.pow 10 power.toNat)

/-- Whether `candidate * 10 ^ power` reads back as the double. -/
def Search.readsBack (s : Search) (power : Int) (candidate : Nat) : Bool :=
  let (quarter, grid) := s.scales power
  let point := candidate * grid
  if s.m % 2 = 0 then s.low * quarter ≤ point && point ≤ s.high * quarter
  else s.low * quarter < point && point < s.high * quarter

/-- The nearer of the two neighbours on the grid of a power of ten that reads back, ties to the
even one. -/
def Search.onGrid (s : Search) (power : Int) : Option Nat :=
  let (quarter, grid) := s.scales power
  let below := 4 * s.m * quarter / grid
  match s.readsBack power below, s.readsBack power (below + 1) with
  | true, true =>
    let twice := 8 * s.m * quarter
    let middle := (2 * below + 1) * grid
    if twice < middle then some below
    else if middle < twice then some (below + 1)
    else if below % 2 = 0 then some below else some (below + 1)
  | true, false => some below
  | false, true => some (below + 1)
  | false, false => none

def Search.isBelow (s : Search) (power : Int) : Bool :=
  let (quarter, grid) := s.scales power
  4 * s.m * quarter < grid

def Search.magnitude (s : Search) : Int :=
  let guess := ((Nat.log2 s.m : Int) + s.q) * 30103 / 100000
  if s.isBelow guess then guess
  else if s.isBelow (guess + 1) then guess + 1
  else guess + 2

def Search.run (s : Search) : Shortest :=
  let magnitude := s.magnitude
  let found := (List.range 17).findSome? fun index =>
    let power := magnitude - (index + 1 : Nat)
    (s.onGrid power).map fun candidate => (candidate, power)
  let (candidate, power) := found.getD (s.m * Nat.pow 2 s.q.toNat, 0)
  let digits := Decimal.ofNat candidate
  let point := power + (digits.length : Int)
  ⟨(digits.reverse.dropWhile (· == '0')).reverse, point⟩

/-- Positional text for leading digits from the fourth place after the point up to the sixteenth
before it, otherwise an exponent with a sign and at least two digits. -/
def Shortest.layout (d : Shortest) : List Char :=
  let exponent := d.point - 1
  if -4 ≤ exponent ∧ exponent < 16 then
    if d.point ≤ 0 then '0' :: '.' :: (List.replicate (-d.point).toNat '0' ++ d.digits)
    else
      let whole := d.point.toNat
      let padded := d.digits ++ List.replicate (whole - d.digits.length) '0'
      let fraction := d.digits.drop whole
      padded.take whole ++ '.' :: (if fraction.isEmpty then ['0'] else fraction)
  else
    let mantissa := match d.digits with
      | first :: second :: rest => first :: '.' :: second :: rest
      | short => short
    let sign := if exponent < 0 then '-' else '+'
    let size := Decimal.ofNat exponent.natAbs
    mantissa ++ 'e' :: sign :: (if size.length < 2 then '0' :: size else size)

/-- The text of a double; the two words name the values that are not finite. -/
def text (nanWord infinityWord : String) (x : Float) : String :=
  match parts x with
  | .nan => nanWord
  | .infinite negative => if negative then "-" ++ infinityWord else infinityWord
  | .finite negative m q =>
    let magnitude := if m = 0 then ['0', '.', '0'] else (Search.of m q).run.layout
    String.ofList (if negative then '-' :: magnitude else magnitude)

/-- The double nearest to `mantissa * 10 ^ exponent`. Far outside the range of doubles the
magnitude alone decides. -/
def ofDecimal (negative : Bool) (mantissa : Nat) (exponent : Int) : Float :=
  let magnitude := ((Decimal.ofNat mantissa).length : Int) + exponent
  let size : Float :=
    if mantissa = 0 ∨ magnitude < -400 then 0.0
    else if 400 < magnitude then 1.0 / 0.0
    else if exponent < 0 then Float.ofScientific mantissa true exponent.natAbs
    else Float.ofScientific mantissa false exponent.natAbs
  if negative then -size else size

end TxTemplate.Binary64
