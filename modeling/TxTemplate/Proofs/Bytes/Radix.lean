import Mathlib.Data.Nat.Digits.Lemmas
import TxTemplate.Bytes.Radix

set_option autoImplicit false

/-! The digits of a number are the library's digits, and the number that a list of digits stands for
is the library's. Everything else about numbers in a base is read off there: writing and reading
undo each other on digits without leading noughts, and a bound on a number bounds its digits. -/

namespace TxTemplate.Radix

variable {base : Nat}

theorem value_eq_ofDigits (digits : List Nat) : value base digits = Nat.ofDigits base digits := by
  induction digits with
  | nil => rfl
  | cons digit rest ih => rw [value, ih, Nat.ofDigits_cons]

theorem digitsUpTo_eq_digits (large : 1 < base) (steps n : Nat) (enough : n ≤ steps) :
    digitsUpTo base steps n = Nat.digits base n := by
  induction steps generalizing n with
  | zero =>
      obtain rfl : n = 0 := Nat.le_zero.mp enough
      rw [digitsUpTo, Nat.digits_zero]
  | succ steps ih =>
      by_cases empty : n = 0
      · rw [digitsUpTo, if_pos empty, empty, Nat.digits_zero]
      · have positive : 0 < n := Nat.pos_of_ne_zero empty
        have smaller : n / base < n := Nat.div_lt_self positive large
        rw [digitsUpTo, if_neg empty, Nat.digits_def' large positive, ih (n / base) (by omega)]

theorem digits_eq_digits (large : 1 < base) (n : Nat) : digits base n = Nat.digits base n :=
  digitsUpTo_eq_digits large n n (Nat.le_refl n)

/-- The most significant digit of a number is not nought. -/
theorem getLast?_digits (large : 1 < base) (n : Nat) : (digits base n).getLast? ≠ some 0 := by
  rw [digits_eq_digits large]
  intro nought
  have present : Nat.digits base n ≠ [] := by
    intro empty
    rw [empty] at nought
    cases nought
  have positive : n ≠ 0 := Nat.digits_ne_nil_iff_ne_zero.mp present
  rw [List.getLast?_eq_some_getLast present] at nought
  exact Nat.getLast_digit_ne_zero base positive (Option.some.inj nought)

theorem digits_value (large : 1 < base) (values : List Nat) (small : ∀ value ∈ values, value < base)
    (leading : values.getLast? ≠ some 0) : digits base (value base values) = values := by
  rw [digits_eq_digits large, value_eq_ofDigits]
  apply Nat.digits_ofDigits base large values small
  intro present nought
  exact leading (by rw [List.getLast?_eq_some_getLast present, nought])

theorem value_lt_pow (large : 1 < base) (values : List Nat)
    (small : ∀ value ∈ values, value < base) :
    value base values < base ^ values.length := by
  rw [value_eq_ofDigits]
  exact Nat.ofDigits_lt_base_pow_length large small

theorem length_digits_le (large : 1 < base) (n count : Nat) (bounded : n < base ^ count) :
    (digits base n).length ≤ count := by
  rw [digits_eq_digits large]
  exact (Nat.digits_length_le_iff large n).mpr bounded

end TxTemplate.Radix
