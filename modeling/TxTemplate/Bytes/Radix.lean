set_option autoImplicit false

/-! Numbers in a base, least significant digit first. Byte strings, base 58 text and decimal text
are all read and written through these two functions, which undo each other. -/

namespace TxTemplate

abbrev Bytes := List UInt8

namespace Radix

/-- The digits of a number, as many as the first argument allows. -/
def digitsUpTo (base : Nat) : Nat → Nat → List Nat
  | 0, _ => []
  | steps + 1, n => if n = 0 then [] else n % base :: digitsUpTo base steps (n / base)

/-- The digits of a number; nought has none. -/
def digits (base n : Nat) : List Nat := digitsUpTo base n n

def value (base : Nat) : List Nat → Nat
  | [] => 0
  | digit :: rest => digit + base * value base rest

theorem value_digitsUpTo (base : Nat) (hBase : 2 ≤ base) (steps n : Nat) (hSteps : n ≤ steps) :
    value base (digitsUpTo base steps n) = n := by
  induction steps generalizing n with
  | zero => simp_all [digitsUpTo, value]
  | succ steps ih =>
      unfold digitsUpTo
      by_cases empty : n = 0
      · simp [empty, value]
      · have smaller : n / base < n := Nat.div_lt_self (by omega) (by omega)
        rw [if_neg empty, value, ih (n / base) (by omega)]
        exact Nat.mod_add_div n base

theorem value_digits (base : Nat) (hBase : 2 ≤ base) (n : Nat) : value base (digits base n) = n :=
  value_digitsUpTo base hBase n n (Nat.le_refl n)

theorem digitsUpTo_lt (base : Nat) (hBase : 2 ≤ base) (steps n : Nat) :
    ∀ digit ∈ digitsUpTo base steps n, digit < base := by
  induction steps generalizing n with
  | zero => simp [digitsUpTo]
  | succ steps ih =>
      unfold digitsUpTo
      by_cases empty : n = 0
      · simp [empty]
      · rw [if_neg empty]
        intro digit member
        rcases List.mem_cons.1 member with same | later
        · exact same ▸ Nat.mod_lt n (by omega)
        · exact ih (n / base) digit later

theorem digits_lt (base : Nat) (hBase : 2 ≤ base) (n : Nat) :
    ∀ digit ∈ digits base n, digit < base :=
  digitsUpTo_lt base hBase n n

end Radix

end TxTemplate
