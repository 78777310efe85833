import Mathlib.Tactic
import TxTemplate.Proofs.Numeral
import TxTemplate.Proofs.TypedData.Integers

set_option autoImplicit false

/-! Numbers that messages can show. What is read as a number, from a numeral or a double, is short
enough to be written again. Only a whole number that was given as one can be too long for it. -/

namespace TxTemplate

namespace Decimal

theorem isWritable_iff {n : Int} : isWritable n = true ↔ n.natAbs < 10 ^ digitLimit := by
  rw [isWritable, decide_eq_true_iff, Nat.pow_eq]

theorem isWritable_of_lt {n : Int} (bits : Nat) (few : bits ≤ digitLimit)
    (small : n.natAbs < 2 ^ bits) : isWritable n = true := by
  rw [isWritable_iff]
  calc n.natAbs < 2 ^ bits := small
    _ ≤ 10 ^ bits := Nat.pow_le_pow_left (by decide) bits
    _ ≤ 10 ^ digitLimit := Nat.pow_le_pow_right (by decide) few

/-- What cannot be written is larger than anything that has few bits. -/
theorem lt_of_not_isWritable {n : Int} (bits : Nat) (few : bits ≤ digitLimit)
    (long : isWritable n = false) : 2 ^ bits ≤ n.natAbs := by
  refine Nat.le_of_not_lt fun small => ?_
  rw [isWritable_of_lt bits few small] at long
  cases long

theorem value?_lt {c : Char} {value : Nat} (valued : value? c = some value) : value < 10 := by
  obtain ⟨start, found, rfl⟩ := Option.map_eq_some_iff.mp valued
  have inside := List.find?_some found
  rw [Bool.and_eq_true, decide_eq_true_eq, decide_eq_true_eq] at inside
  omega

theorem digitRun_lt {afterDigit : Bool} {text rest : List Char} {digits : List Nat}
    (run : digitRun afterDigit text = some (digits, rest)) : ∀ digit ∈ digits, digit < 10 := by
  induction text generalizing afterDigit digits with
  | nil =>
      cases afterDigit with
      | true =>
          obtain ⟨rfl, -⟩ := Prod.mk.inj (Option.some.inj run)
          exact fun _ member => absurd member List.not_mem_nil
      | false => cases run
  | cons c text ih =>
      rw [digitRun] at run
      cases valued : value? c with
      | some value =>
          rw [valued] at run
          obtain ⟨⟨later, last⟩, next, same⟩ := Option.map_eq_some_iff.mp run
          obtain ⟨rfl, rfl⟩ := Prod.mk.inj same
          exact List.forall_mem_cons.mpr ⟨value?_lt valued, ih next⟩
      | none =>
          rw [valued] at run
          dsimp only at run
          split_ifs at run
          · exact ih run
          · obtain ⟨rfl, -⟩ := Prod.mk.inj (Option.some.inj run)
            exact fun _ member => absurd member List.not_mem_nil

theorem isWritable_of_read {text : List Char} {n : Int} (known : read text = .ok n) :
    isWritable n = true := by
  unfold read at known
  dsimp only at known
  split at known
  · cases known
  · rename_i digits rest run
    split_ifs at known with long blank negative
    all_goals
      obtain rfl := Except.ok.inj known
      have small := Radix.value_lt_pow (by decide) digits.reverse
        fun digit member => digitRun_lt run digit (List.mem_reverse.mp member)
      rw [List.length_reverse] at small
      rw [isWritable_iff]
      have bound := small.trans_le (Nat.pow_le_pow_right (by decide) (Nat.le_of_not_lt long))
      simpa [valueOf] using bound

end Decimal

namespace Binary64

theorem parts_finite_lt {x : Float} {negative : Bool} {m : Nat} {q : Int}
    (finite : parts x = .finite negative m q) : m < 2 ^ 53 ∧ q ≤ 971 := by
  unfold parts at finite
  dsimp only at finite
  have fraction := Nat.mod_lt x.toBits.toNat (show 0 < Nat.pow 2 52 by decide)
  have exponent := Nat.mod_lt (x.toBits.toNat / Nat.pow 2 52) (show 0 < Nat.pow 2 11 by decide)
  have powers : Nat.pow 2 52 + Nat.pow 2 52 = 2 ^ 53 := by decide
  have eleven : Nat.pow 2 11 = 2048 := by decide
  split_ifs at finite with top lowest
  · obtain ⟨-, rfl, rfl⟩ := Parts.finite.inj finite
    omega
  · obtain ⟨-, rfl, rfl⟩ := Parts.finite.inj finite
    omega

/-- The largest double has little more than three hundred digits. -/
theorem isWritable_of_toInt? {x : Float} {n : Int} (whole : toInt? x = some n) :
    Decimal.isWritable n = true := by
  unfold toInt? at whole
  split at whole
  · rename_i negative m q finite
    obtain ⟨short, low⟩ := parts_finite_lt finite
    have scaled : m * 2 ^ q.toNat < 2 ^ (53 + q.toNat) := by
      rw [Nat.pow_add]
      exact Nat.mul_lt_mul_of_pos_right short (Nat.two_pow_pos _)
    have few : 53 + q.toNat ≤ Decimal.digitLimit := by
      have limit : Decimal.digitLimit = 4300 := rfl
      omega
    have signed : ∀ k bits : Nat, bits ≤ Decimal.digitLimit → k < 2 ^ bits →
        Decimal.isWritable (if negative then -(k : Int) else k) = true := by
      intro k bits fits small
      refine Decimal.isWritable_of_lt bits fits ?_
      cases negative with
      | true => simpa only [if_true, Int.natAbs_neg, Int.natAbs_natCast] using small
      | false => simpa only [Bool.false_eq_true, if_false, Int.natAbs_natCast] using small
    dsimp only at whole
    split at whole
    · exact Option.some.inj whole ▸ signed _ _ few scaled
    · split at whole
      · exact Option.some.inj whole ▸
          signed _ 53 (by decide) ((Nat.div_le_self _ _).trans_lt short)
      · cases whole
  · cases whole

end Binary64

namespace Json

mutual
theorem isWritable_iff_holds (value : Json) :
    value.isWritable = true ↔ value.Holds fun n => Decimal.isWritable n = true := by
  cases value with
  | null | bool _ | float _ | str _ => exact iff_of_true rfl (by simp)
  | int n => rw [isWritable, holds_int]
  | arr items => exact itemsWritable_iff items
  | obj fields => exact fieldsWritable_iff fields

theorem itemsWritable_iff (items : List Json) :
    itemsWritable items = true ↔ ∀ n ∈ itemIntegers items, Decimal.isWritable n = true := by
  cases items with
  | nil => exact iff_of_true rfl (List.forall_mem_nil _)
  | cons item rest =>
      rw [itemsWritable, Bool.and_eq_true, isWritable_iff_holds item, itemsWritable_iff rest,
        itemIntegers, List.forall_mem_append, Holds]

theorem fieldsWritable_iff (fields : Fields) :
    fieldsWritable fields = true ↔ ∀ n ∈ memberIntegers fields, Decimal.isWritable n = true := by
  cases fields with
  | nil => exact iff_of_true rfl (List.forall_mem_nil _)
  | cons field rest =>
      obtain ⟨key, value⟩ := field
      rw [fieldsWritable, Bool.and_eq_true, isWritable_iff_holds value, fieldsWritable_iff rest,
        memberIntegers, List.forall_mem_append, Holds]
end

end Json

namespace Scalar

/-- A number that a literal stands for can be written if the literal can be shown. -/
theorem isWritable_of_integer {value : Json} {n : Int} (shown : value.isWritable = true)
    (known : integer value = .ok n) : Decimal.isWritable n = true := by
  unfold integer at known
  split at known
  · rename_i flag
    obtain rfl := Except.ok.inj known
    exact Decimal.isWritable_of_lt 1 (by decide) (by cases flag <;> decide)
  · obtain rfl := Except.ok.inj known
    exact shown
  · split at known
    · rename_i whole
      obtain rfl := Except.ok.inj known
      exact Binary64.isWritable_of_toInt? whole
    · cases known
  · split at known
    · rename_i read
      obtain rfl := Except.ok.inj known
      exact Decimal.isWritable_of_read read
    · cases known
  · cases known

end Scalar

end TxTemplate
