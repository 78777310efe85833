import TxTemplate.Fault

set_option autoImplicit false

/-! Numbers among JSON values: whole numbers, doubles, and truth values, which count as one and
nought. Comparing is exact; subtracting is exact for whole numbers and rounds once otherwise. -/

namespace TxTemplate

inductive Number where
  | int (value : Int)
  | float (value : Float)

namespace Number

def ofJson? : Json → Option Number
  | .bool flag => some (.int (if flag then 1 else 0))
  | .int n => some (.int n)
  | .float x => some (.float x)
  | _ => none

def ofJson (value : Json) : Except Fault Number :=
  match ofJson? value with
  | some number => .ok number
  | none => .error (.shape .wrongKind)

def toJson : Number → Json
  | .int n => .int n
  | .float x => .float x

def intBefore (n : Int) (x : Float) : Bool :=
  match Binary64.parts x with
  | .nan => false
  | .infinite negative => !negative
  | .finite negative m q =>
    let signed : Int := if negative then -(m : Int) else m
    n * Nat.pow 2 (-q).toNat < signed * Nat.pow 2 q.toNat

def floatBefore (x : Float) (n : Int) : Bool :=
  match Binary64.parts x with
  | .nan => false
  | .infinite negative => negative
  | .finite negative m q =>
    let signed : Int := if negative then -(m : Int) else m
    signed * Nat.pow 2 q.toNat < n * Nat.pow 2 (-q).toNat

def before : Number → Number → Bool
  | .int a, .int b => a < b
  | .int a, .float b => intBefore a b
  | .float a, .int b => floatBefore a b
  | .float a, .float b => a < b

/-- The double nearest to a whole number, which may not be too large for one. -/
def toFloat (n : Int) : Except Fault Float :=
  let x := Binary64.ofDecimal (n < 0) n.natAbs 0
  match Binary64.parts x with
  | .finite _ _ _ => .ok x
  | _ => .error .countTooLarge

def minus : Number → Number → Except Fault Number
  | .int a, .int b => .ok (.int (a - b))
  | .int a, .float b => do
    let a ← toFloat a
    pure (.float (a - b))
  | .float a, .int b => do
    let b ← toFloat b
    pure (.float (a - b))
  | .float a, .float b => .ok (.float (a - b))

end Number

namespace Json

def isBelow (a b : Json) : Except Fault Bool := do
  let x ← Number.ofJson a
  let y ← Number.ofJson b
  pure (x.before y)

def minus (a b : Json) : Except Fault Json := do
  let x ← Number.ofJson a
  let y ← Number.ofJson b
  let difference ← x.minus y
  pure difference.toJson

end Json

end TxTemplate
