import TxTemplate.Fault

set_option autoImplicit false

/-! Slots: the numbers of blocks. A slot is given as a number or as a numeral, and is not
negative. -/

namespace TxTemplate.Slot

/-- The whole number that a value stands for, if it stands for one; a fraction is cut off. -/
def whole? : Json → Except Fault (Option Int)
  | .bool flag => .ok (some (if flag then 1 else 0))
  | .int n => .ok (some n)
  | .float x =>
    match Binary64.parts x with
    | .infinite _ => .error .countTooLarge
    | _ => .ok (Binary64.truncate? x)
  | .str text => .ok (Decimal.read text.toList).toOption
  | _ => .ok none

def parse (value : Json) : Except Fault Nat := do
  match ← whole? value with
  | some (.ofNat slot) => pure slot
  | _ => throw (.job (.slot value.display))

end TxTemplate.Slot
