import TxTemplate.Decimal.Numeral
import TxTemplate.Proofs.Bytes.Radix
import TxTemplate.Proofs.Text.Blank

set_option autoImplicit false

/-! Numerals read back as the numbers they were written from, up to the longest numeral that is
read. A written numeral has only ASCII digits, so nothing is trimmed off it and no sign is found. -/

namespace TxTemplate

namespace Decimal

/-! ### Written numerals -/

/-- The digit values of a number, most significant first. -/
def places (n : Nat) : List Nat := if n = 0 then [0] else (Radix.digits 10 n).reverse

theorem ofNat_eq_map_places (n : Nat) : ofNat n = (places n).map digit := by
  unfold ofNat places
  by_cases nought : n = 0
  · rw [if_pos nought, if_pos nought]
    rfl
  · rw [if_neg nought, if_neg nought, List.map_reverse]

theorem valueOf_places (n : Nat) : valueOf (places n) = n := by
  unfold valueOf places
  by_cases nought : n = 0
  · rw [if_pos nought, nought]
    rfl
  · rw [if_neg nought, List.reverse_reverse, Radix.value_digits 10 (by decide)]

theorem places_lt (n : Nat) : ∀ place ∈ places n, place < 10 := by
  intro place member
  unfold places at member
  by_cases nought : n = 0
  · rw [if_pos nought, List.mem_singleton] at member
    omega
  · rw [if_neg nought, List.mem_reverse] at member
    exact Radix.digits_lt 10 (by decide) n place member

theorem places_ne_nil (n : Nat) : places n ≠ [] := by
  intro empty
  have same := valueOf_places n
  rw [empty] at same
  obtain rfl : 0 = n := same
  exact absurd empty (by decide)

theorem head?_places (n : Nat) (positive : 0 < n) : (places n).head? ≠ some 0 := by
  rw [places, if_neg (by omega), List.head?_reverse]
  exact Radix.getLast?_digits (by decide) n

theorem length_ofNat_le (n count : Nat) (some : 0 < count) (bounded : n < 10 ^ count) :
    (ofNat n).length ≤ count := by
  unfold ofNat
  by_cases nought : n = 0
  · rw [if_pos nought]
    exact some
  · rw [if_neg nought, List.length_reverse, List.length_map]
    exact Radix.length_digits_le (by decide) n count bounded

/-! ### Digits -/

theorem value?_digit {place : Nat} (small : place < 10) : value? (digit place) = some place := by
  have checked : ∀ place < 10, value? (digit place) = some place := by decide
  exact checked place small

theorem values_ofNat (n : Nat) : (ofNat n).map (fun c => (value? c).getD 0) = places n := by
  rw [ofNat_eq_map_places, List.map_map]
  conv_rhs => rw [← List.map_id (places n)]
  refine List.map_congr_left fun place member => ?_
  rw [Function.comp_apply, value?_digit (places_lt n place member)]
  rfl

theorem ofNat_injective {n m : Nat} (same : ofNat n = ofNat m) : n = m := by
  rw [← valueOf_places n, ← valueOf_places m, ← values_ofNat, ← values_ofNat, same]

theorem forall_mem_ofNat {p : Char → Prop} (digits : ∀ place < 10, p (digit place)) (n : Nat) :
    ∀ c ∈ ofNat n, p c := by
  intro c member
  rw [ofNat_eq_map_places] at member
  obtain ⟨place, inside, rfl⟩ := List.mem_map.mp member
  exact digits place (places_lt n place inside)

theorem isBlank_of_mem_ofNat (n : Nat) : ∀ c ∈ ofNat n, Text.isBlank c = false :=
  forall_mem_ofNat (by decide) n

theorem isWhiteSpace_of_mem_ofNat (n : Nat) : ∀ c ∈ ofNat n, Text.isWhiteSpace c = false :=
  forall_mem_ofNat (by decide) n

/-! ### Reading back -/

theorem digitRun_digits (afterDigit : Bool) (digits : List Nat)
    (small : ∀ place ∈ digits, place < 10) (some_digit : afterDigit = true ∨ digits ≠ []) :
    digitRun afterDigit (digits.map digit) = some (digits, []) := by
  induction digits generalizing afterDigit with
  | nil =>
      obtain rfl := some_digit.resolve_right (fun absent => absent rfl)
      rfl
  | cons place rest ih =>
      have later := ih true (fun other member => small other (List.mem_cons_of_mem place member))
        (.inl rfl)
      rw [List.map_cons, digitRun, value?_digit (small place List.mem_cons_self)]
      simp only [later, Option.map_some]

theorem takeSign_of_unsigned (text : List Char) (minus : '-' ∉ text) (plus : '+' ∉ text) :
    takeSign text = (false, text) := by
  unfold takeSign
  split
  · exact absurd List.mem_cons_self minus
  · exact absurd List.mem_cons_self plus
  · rfl

theorem read_ofNat (n : Nat) (short : (ofNat n).length ≤ digitLimit) : read (ofNat n) = .ok n := by
  have solid : (ofNat n).dropWhile Text.isWhiteSpace = ofNat n :=
    Text.dropWhile_of_solid _ _ (isWhiteSpace_of_mem_ofNat n)
  have minus : '-' ∉ ofNat n := fun member =>
    forall_mem_ofNat (p := (· ≠ '-')) (by decide) n '-' member rfl
  have plus : '+' ∉ ofNat n := fun member =>
    forall_mem_ofNat (p := (· ≠ '+')) (by decide) n '+' member rfl
  have run : digitRun false (ofNat n) = some (places n, []) := by
    rw [ofNat_eq_map_places]
    exact digitRun_digits false _ (places_lt n) (.inr (places_ne_nil n))
  have count : (places n).length ≤ digitLimit := by
    rwa [ofNat_eq_map_places, List.length_map] at short
  rw [read, solid, takeSign_of_unsigned _ minus plus]
  simp only [run, if_neg (Nat.not_lt.mpr count), List.dropWhile_nil, List.isEmpty_nil, if_true,
    Bool.false_eq_true, if_false, valueOf_places]

end Decimal

end TxTemplate
