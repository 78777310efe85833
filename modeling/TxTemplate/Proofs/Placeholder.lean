import TxTemplate.Placeholder
import TxTemplate.Proofs.Numeral

set_option autoImplicit false

/-! Placeholders as texts: the placeholder of a parameter is read as the number of that parameter,
and a text that does not start with a dollar sign stands for itself. -/

namespace TxTemplate.Placeholder

/-- A placeholder whose number has more digits than numerals may have. -/
def IsOversized (text : String) : Prop :=
  ∃ digits, digits? text.toList = some digits ∧ Decimal.digitLimit < digits.length

instance (text : String) : Decidable (IsOversized text) :=
  match found : digits? text.toList with
  | none => .isFalse fun oversized => by
      obtain ⟨digits, other, -⟩ := oversized
      rw [found] at other
      cases other
  | some digits => decidable_of_iff (Decimal.digitLimit < digits.length)
      ⟨fun long => ⟨digits, found, long⟩, fun oversized => by
        obtain ⟨_, other, long⟩ := oversized
        obtain rfl := Option.some.inj (found.symm.trans other)
        exact long⟩

/-- A text that some parameter may stand for. -/
def IsLive (text : String) : Prop := ∃ index, index? text = .ok (some index)

theorem digits?_eq_none_of_head? {text : List Char} (other : text.head? ≠ some '$') :
    digits? text = none := by
  unfold digits?
  split
  · exact absurd rfl other
  · rfl

theorem not_isOversized_of_digits? {text : String} (plain : digits? text.toList = none) :
    ¬ IsOversized text := by
  rintro ⟨digits, found, -⟩
  rw [plain] at found
  cases found

theorem index?_of_digits?_eq_none {text : String} (plain : digits? text.toList = none) :
    index? text = .ok none := by
  rw [index?, plain]

theorem resolve_of_digits?_eq_none (params : Params) {text : String}
    (plain : digits? text.toList = none) : resolve params (.str text) = .ok (.str text) := by
  simp only [resolve, index?_of_digits?_eq_none plain]

theorem resolve_nil {text : String} (readable : ¬ IsOversized text) :
    resolve [] (.str text) = .ok (.str text) := by
  cases found : digits? text.toList with
  | none => exact resolve_of_digits?_eq_none [] found
  | some digits =>
      have short : ¬ Decimal.digitLimit < digits.length := fun long =>
        readable ⟨digits, found, long⟩
      simp only [resolve, index?, found, if_neg short, List.getElem?_nil]

theorem resolve_of_isOversized (params : Params) {text : String} (oversized : IsOversized text) :
    ∃ fault, resolve params (.str text) = .error fault := by
  obtain ⟨digits, found, long⟩ := oversized
  simp only [resolve, index?, found, if_pos long]
  exact ⟨_, rfl⟩

/-! ### Live placeholders -/

theorem head?_of_isLive {text : String} (live : IsLive text) : text.toList.head? = some '$' := by
  obtain ⟨index, found⟩ := live
  apply Decidable.byContradiction
  intro other
  rw [index?_of_digits?_eq_none (digits?_eq_none_of_head? other)] at found
  cases found

/-- A text that is not live stands for itself whatever the parameters are, or is refused. -/
theorem resolve_of_not_isLive (first second : Params) {text : String} (dead : ¬ IsLive text) :
    resolve first (.str text) = resolve second (.str text) := by
  simp only [resolve]
  cases found : index? text with
  | error fault => rfl
  | ok index =>
      cases index with
      | none => rfl
      | some index => exact absurd ⟨index, found⟩ dead

theorem exists_resolve_of_isLive {text : String} (live : IsLive text) (param : String) :
    ∃ params, resolve params (.str text) = .ok (.str param) := by
  obtain ⟨index, found⟩ := live
  refine ⟨List.replicate (index + 1) param, ?_⟩
  simp only [resolve, found, List.getElem?_replicate, if_pos (Nat.lt_succ_self index)]

/-! ### The placeholder of a parameter -/

theorem toList_text (index : Nat) : (text index).toList = '$' :: Decimal.ofNat (index + 1) := by
  have number : Decimal.ofInt ((index : Int) + 1) = Decimal.ofNat (index + 1) := rfl
  rw [text, String.toList_append, Decimal.intText, number, String.toList_ofList,
    String.toList_ofList]
  rfl

private theorem isDigit_of_mem_ofNat (n : Nat) : ∀ c ∈ Decimal.ofNat n, isDigit c = true :=
  Decimal.forall_mem_ofNat (by decide) n

private theorem digits_value {place : Nat} (small : place < 10) :
    (Decimal.digit place).toNat - 48 = place := by
  have checked : ∀ place < 10, (Decimal.digit place).toNat - 48 = place := by decide
  exact checked place small

theorem digits?_text (index : Nat) :
    digits? (text index).toList = some (Decimal.ofNat (index + 1)) := by
  rw [toList_text]
  have written := Decimal.ofNat_eq_map_places (index + 1)
  have leading := Decimal.head?_places (index + 1) (by omega)
  have digits := isDigit_of_mem_ofNat (index + 1)
  have small := Decimal.places_lt (index + 1)
  cases places : Decimal.places (index + 1) with
  | nil => exact absurd places (Decimal.places_ne_nil (index + 1))
  | cons place rest =>
      rw [places, List.map_cons] at written
      rw [places] at leading small
      rw [written] at digits ⊢
      have firstDigit := digits _ List.mem_cons_self
      have firstNonzero : Decimal.digit place ≠ '0' := by
        have checked : ∀ place < 10, place ≠ 0 → Decimal.digit place ≠ '0' := by decide
        exact checked place (small place List.mem_cons_self) (fun nought =>
          leading (by rw [nought]; rfl))
      have others : ∀ c ∈ rest.map Decimal.digit, isDigit c = true := fun c member =>
        digits c (List.mem_cons_of_mem _ member)
      simp only [digits?, List.takeWhile_eq_self_iff.mpr others,
        List.dropWhile_eq_nil_iff.mpr others]
      rw [if_pos ⟨firstDigit, firstNonzero, .inl trivial⟩]

theorem index?_text (index : Nat)
    (short : (Decimal.ofNat (index + 1)).length ≤ Decimal.digitLimit) :
    index? (text index) = .ok (some index) := by
  have values : (Decimal.ofNat (index + 1)).map (fun c => c.toNat - 48) =
      Decimal.places (index + 1) := by
    rw [Decimal.ofNat_eq_map_places, List.map_map]
    conv_rhs => rw [← List.map_id (Decimal.places (index + 1))]
    apply List.map_congr_left
    intro place member
    exact digits_value (Decimal.places_lt (index + 1) place member)
  rw [index?, digits?_text]
  simp only [if_neg (Nat.not_lt.mpr short), values, Decimal.valueOf_places, Nat.add_sub_cancel]

theorem resolve_text (params : Params) (index : Nat) (param : String)
    (short : (Decimal.ofNat (index + 1)).length ≤ Decimal.digitLimit)
    (given : params[index]? = some param) :
    resolve params (.str (text index)) = .ok (.str param) := by
  simp only [resolve, index?_text index short, given]

end TxTemplate.Placeholder
