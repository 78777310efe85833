import TxTemplate.Proofs.Placeholder

set_option autoImplicit false

/-! Which texts stand for which parameter. A run of ASCII digits without leading noughts is the
written form of its number, so a text stands for a parameter exactly when it is the placeholder of
that parameter, alone or before one line end, and its number is not too long to be read. Resolving
goes by that alone. -/

namespace TxTemplate

namespace Decimal

theorem places_valueOf {values : List Nat} (small : ∀ value ∈ values, value < 10)
    (present : values ≠ []) (leading : values.head? ≠ some 0) :
    places (valueOf values) = values := by
  have digits : Radix.digits 10 (valueOf values) = values.reverse :=
    Radix.digits_value (by decide) values.reverse (fun value member =>
      small value (List.mem_reverse.mp member))
      (by rwa [List.getLast?_reverse])
  have positive : valueOf values ≠ 0 := by
    intro nought
    rw [nought] at digits
    exact present (List.reverse_eq_nil_iff.mp digits.symm)
  rw [places, if_neg positive, digits, List.reverse_reverse]

theorem length_ofNat_le_iff {n count : Nat} (some : 0 < count) :
    (ofNat n).length ≤ count ↔ n < 10 ^ count := by
  refine ⟨fun short => ?_, length_ofNat_le n count some⟩
  have ten : 1 < 10 := by decide
  have bounded := Radix.value_lt_pow ten (places n).reverse
    fun place member => places_lt n place (List.mem_reverse.mp member)
  rw [← valueOf, valueOf_places, List.length_reverse] at bounded
  rw [ofNat_eq_map_places, List.length_map] at short
  exact Nat.lt_of_lt_of_le bounded (Nat.pow_le_pow_right (by decide) short)

end Decimal

namespace Placeholder

/-! ### The digits of a placeholder -/

/-- A run of ASCII digits that does not start with nought. -/
structure IsNumber (digits : List Char) : Prop where
  present : digits ≠ []
  run : ∀ c ∈ digits, isDigit c = true
  leading : digits.head? ≠ some '0'

theorem isNumber_ofNat (index : Nat) : IsNumber (Decimal.ofNat (index + 1)) := by
  refine ⟨?_, Decimal.forall_mem_ofNat (by decide) _, ?_⟩
  · rw [Decimal.ofNat_eq_map_places, ne_eq, List.map_eq_nil_iff]
    exact Decimal.places_ne_nil _
  · have nonzero : ∀ place < 10, Decimal.digit place = '0' → place = 0 := by decide
    rw [Decimal.ofNat_eq_map_places, List.head?_map]
    intro nought
    obtain ⟨place, first, same⟩ := Option.map_eq_some_iff.mp nought
    obtain rfl := nonzero place (Decimal.places_lt _ place (List.mem_of_head? first)) same
    exact Decimal.head?_places _ (Nat.succ_pos index) first

theorem digit_of_isDigit {c : Char} (digit : isDigit c = true) :
    c.toNat - 48 < 10 ∧ Decimal.digit (c.toNat - 48) = c := by
  simp only [isDigit, Bool.and_eq_true, decide_eq_true_eq, Char.le_def, UInt32.le_iff_toNat_le]
    at digit
  have low : 48 ≤ c.toNat := digit.1
  have high : c.toNat ≤ 57 := digit.2
  refine ⟨by omega, ?_⟩
  rw [Decimal.digit, Nat.add_sub_cancel' low, Char.ofNat_toNat]

/-- A number is the written form of what its digits stand for, which is not nought. -/
theorem exists_ofNat_of_isNumber {digits : List Char} (number : IsNumber digits) :
    ∃ index, digits = Decimal.ofNat (index + 1) ∧
      Decimal.valueOf (digits.map fun c => c.toNat - 48) = index + 1 := by
  have small : ∀ value ∈ digits.map fun c => c.toNat - 48, value < 10 := by
    intro value member
    obtain ⟨c, inside, rfl⟩ := List.mem_map.mp member
    exact (digit_of_isDigit (number.run c inside)).1
  have leading : (digits.map fun c => c.toNat - 48).head? ≠ some 0 := by
    rw [List.head?_map]
    intro nought
    obtain ⟨c, first, same⟩ := Option.map_eq_some_iff.mp nought
    have digit := (digit_of_isDigit (number.run c (List.mem_of_head? first))).2
    rw [same] at digit
    exact number.leading (first.trans (congrArg some digit.symm))
  have present : digits.map (fun c => c.toNat - 48) ≠ [] := by
    rw [ne_eq, List.map_eq_nil_iff]
    exact number.present
  have places := Decimal.places_valueOf small present leading
  have written : Decimal.ofNat (Decimal.valueOf (digits.map fun c => c.toNat - 48)) = digits := by
    rw [Decimal.ofNat_eq_map_places, places, List.map_map]
    conv_rhs => rw [← List.map_id digits]
    exact List.map_congr_left fun c member => (digit_of_isDigit (number.run c member)).2
  have positive : Decimal.valueOf (digits.map fun c => c.toNat - 48) ≠ 0 := by
    intro nought
    rw [nought] at places
    exact leading (by rw [← places]; rfl)
  obtain ⟨index, value⟩ := Nat.exists_eq_succ_of_ne_zero positive
  exact ⟨index, by rw [← Nat.succ_eq_add_one, ← value, written], value⟩

theorem digits?_eq_some_iff {text digits : List Char} :
    digits? text = some digits ↔
      IsNumber digits ∧ (text = '$' :: digits ∨ text = '$' :: digits ++ ['\n']) := by
  constructor
  · intro found
    unfold digits? at found
    split at found
    · rename_i first rest
      dsimp only at found
      split_ifs at found with spelled
      obtain rfl := Option.some.inj found
      obtain ⟨digit, nonzero, ending⟩ := spelled
      refine ⟨⟨List.cons_ne_nil _ _, ?_, fun nought => nonzero (Option.some.inj nought)⟩, ?_⟩
      · rw [List.forall_mem_cons]
        exact ⟨digit, fun c member => List.mem_takeWhile_imp member⟩
      · have whole := List.takeWhile_append_dropWhile (p := isDigit) (l := rest)
        rcases ending with none | line
        · rw [none, List.append_nil] at whole
          exact .inl (by rw [whole])
        · rw [line] at whole
          exact .inr (congrArg (fun rest => '$' :: first :: rest) whole.symm)
    · cases found
  · rintro ⟨number, spelled⟩
    obtain ⟨first, rest, rfl⟩ := List.exists_cons_of_ne_nil number.present
    have digit := number.run first List.mem_cons_self
    have nonzero : first ≠ '0' := fun nought => number.leading (congrArg some nought)
    have others : ∀ c ∈ rest, isDigit c = true :=
      fun c member => number.run c (List.mem_cons_of_mem first member)
    rcases spelled with rfl | rfl
    · simp only [digits?, List.takeWhile_eq_self_iff.mpr others,
        List.dropWhile_eq_nil_iff.mpr others]
      rw [if_pos ⟨digit, nonzero, .inl trivial⟩]
    · have run : (rest ++ ['\n']).takeWhile isDigit = rest := by
        rw [List.takeWhile_append_of_pos others]
        exact List.append_nil rest
      have after : (rest ++ ['\n']).dropWhile isDigit = ['\n'] := by
        rw [List.dropWhile_append_of_pos others]
        rfl
      simp only [List.cons_append, digits?, run, after]
      rw [if_pos ⟨digit, nonzero, .inr trivial⟩]

/-! ### The parameter that a text stands for -/

/-- A text is the placeholder of a parameter, alone or before one line end. -/
def Marks (text : String) (index : Nat) : Prop :=
  text = Placeholder.text index ∨ text = Placeholder.text index ++ "\n"

/-- The number of a parameter, counted from one, has no more digits than numerals may have. -/
def IsReadable (index : Nat) : Prop := index + 1 < 10 ^ Decimal.digitLimit

theorem isReadable_iff {index : Nat} :
    IsReadable index ↔ (Decimal.ofNat (index + 1)).length ≤ Decimal.digitLimit :=
  (Decimal.length_ofNat_le_iff (by decide)).symm

theorem marks_iff {text : String} {index : Nat} :
    Marks text index ↔ digits? text.toList = some (Decimal.ofNat (index + 1)) := by
  rw [digits?_eq_some_iff, and_iff_right (isNumber_ofNat index), Marks, ← String.toList_inj,
    ← String.toList_inj, String.toList_append, toList_text]
  rfl

theorem Marks.unique {text : String} {first second : Nat} (marks : Marks text first)
    (other : Marks text second) :
    first = second := by
  have same := (marks_iff.mp marks).symm.trans (marks_iff.mp other)
  exact Nat.succ_injective (Decimal.ofNat_injective (Option.some.inj same))

/-- The refusal of a placeholder whose number is too long. -/
def longNumber (index : Nat) : Fault :=
  .numeral (Decimal.natText (index + 1)) (.tooLong (Decimal.ofNat (index + 1)).length)

theorem index?_of_marks {text : String} {index : Nat} (marks : Marks text index) :
    (IsReadable index ∧ index? text = .ok (some index)) ∨
      (¬ IsReadable index ∧ index? text = .error (longNumber index)) := by
  obtain ⟨other, written, value⟩ := exists_ofNat_of_isNumber (isNumber_ofNat index)
  obtain rfl : index = other := Nat.succ_injective (Decimal.ofNat_injective written)
  rw [isReadable_iff, index?, marks_iff.mp marks]
  dsimp only
  by_cases long : Decimal.digitLimit < (Decimal.ofNat (index + 1)).length
  · rw [if_pos long]
    exact .inr ⟨Nat.not_le.mpr long, rfl⟩
  · rw [if_neg long, value]
    exact .inl ⟨Nat.not_lt.mp long, rfl⟩

theorem index?_of_not_marks {text : String} (plain : ∀ index, ¬ Marks text index) :
    index? text = .ok none := by
  apply index?_of_digits?_eq_none
  cases found : digits? text.toList with
  | none => rfl
  | some digits =>
      obtain ⟨index, written, -⟩ := exists_ofNat_of_isNumber (digits?_eq_some_iff.mp found).1
      exact absurd (marks_iff.mpr (written ▸ found)) (plain index)

theorem index?_eq_ok_some_iff {text : String} {index : Nat} :
    index? text = .ok (some index) ↔ Marks text index ∧ IsReadable index := by
  constructor
  · intro found
    by_cases marked : ∃ other, Marks text other
    · obtain ⟨other, marks⟩ := marked
      rcases index?_of_marks marks with ⟨readable, read⟩ | ⟨-, refused⟩
      · obtain rfl := Option.some.inj (Except.ok.inj (read.symm.trans found))
        exact ⟨marks, readable⟩
      · cases refused.symm.trans found
    · have plain := index?_of_not_marks (not_exists.mp marked)
      cases plain.symm.trans found
  · rintro ⟨marks, readable⟩
    rcases index?_of_marks marks with ⟨-, read⟩ | ⟨unreadable, -⟩
    · exact read
    · exact absurd readable unreadable

/-! ### Resolving -/

/-- What a value is resolved to: its parameter where it is a placeholder in range, and itself where
it is none, or one that is out of range. -/
inductive ResolvesTo (params : Params) (value : Json) : Json → Prop
  | parameter {text param : String} {index : Nat} (given : value = .str text)
    (marks : Marks text index)
      (readable : IsReadable index) (inRange : params[index]? = some param) :
        ResolvesTo params value (.str param)
  | itself (other : ∀ text index, value = .str text → Marks text index →
    IsReadable index ∧ params.length ≤ index) :
      ResolvesTo params value value

/-- Why a value is not resolved: it is a placeholder whose number is too long. -/
inductive Unresolvable (value : Json) : Fault → Prop
  | intro {text : String} {index : Nat} (given : value = .str text) (marks : Marks text index)
      (long : ¬ IsReadable index) : Unresolvable value (longNumber index)

section Resolving

variable (params : Params)

theorem resolve_of_marks {text : String} {index : Nat} (marks : Marks text index)
    (readable : IsReadable index) :
    resolve params (.str text) = .ok ((params[index]?.map Json.str).getD (.str text)) := by
  simp only [resolve, index?_eq_ok_some_iff.mpr ⟨marks, readable⟩]
  cases params[index]? <;> rfl

theorem resolve_of_long {text : String} {index : Nat} (marks : Marks text index)
    (long : ¬ IsReadable index) :
    resolve params (.str text) = .error (longNumber index) := by
  rcases index?_of_marks marks with ⟨readable, -⟩ | ⟨-, refused⟩
  · exact absurd readable long
  · simp only [resolve, refused]

theorem resolve_of_plain {value : Json}
    (plain : ∀ text index, value = .str text → ¬ Marks text index) :
    resolve params value = .ok value := by
  cases value with
  | str text => simp only [resolve, index?_of_not_marks fun index => plain text index rfl]
  | null | bool _ | int _ | float _ | arr _ | obj _ => rfl

/-- A value is a placeholder whose number can be read, one whose number is too long, or none. -/
theorem marks_cases (value : Json) :
    (∃ text index, value = .str text ∧ Marks text index ∧ IsReadable index) ∨
      (∃ text index, value = .str text ∧ Marks text index ∧ ¬ IsReadable index) ∨
      ∀ text index, value = .str text → ¬ Marks text index := by
  by_cases marked : ∃ text index, value = .str text ∧ Marks text index
  · obtain ⟨text, index, given, marks⟩ := marked
    by_cases readable : IsReadable index
    · exact .inl ⟨text, index, given, marks, readable⟩
    · exact .inr (.inl ⟨text, index, given, marks, readable⟩)
  · exact .inr (.inr fun text index given marks => marked ⟨text, index, given, marks⟩)

theorem resolve_eq_ok_iff {value result : Json} :
    resolve params value = .ok result ↔ ResolvesTo params value result := by
  constructor
  · intro resolved
    rcases marks_cases value with ⟨text, index, rfl, marks, readable⟩ |
      ⟨text, index, rfl, marks, long⟩ | plain
    · rw [resolve_of_marks params marks readable] at resolved
      cases found : params[index]? with
      | some param =>
          rw [found] at resolved
          cases resolved
          exact .parameter rfl marks readable found
      | none =>
          rw [found] at resolved
          cases resolved
          refine .itself ?_
          rintro other also ⟨⟩ marksToo
          exact marks.unique marksToo ▸ ⟨readable, List.getElem?_eq_none_iff.mp found⟩
    · cases (resolve_of_long params marks long).symm.trans resolved
    · cases (resolve_of_plain params plain).symm.trans resolved
      exact .itself fun text index given marks => absurd marks (plain text index given)
  · rintro (⟨rfl, marks, readable, inRange⟩ | ⟨outside⟩)
    · rw [resolve_of_marks params marks readable, inRange]
      rfl
    · rcases marks_cases value with ⟨text, index, rfl, marks, readable⟩ |
        ⟨text, index, rfl, marks, long⟩ | plain
      · have beyond := (outside text index rfl marks).2
        rw [resolve_of_marks params marks readable, List.getElem?_eq_none_iff.mpr beyond]
        rfl
      · exact absurd (outside text index rfl marks).1 long
      · exact resolve_of_plain params plain

theorem resolve_eq_error_iff {value : Json} {fault : Fault} :
    resolve params value = .error fault ↔ Unresolvable value fault := by
  constructor
  · intro refused
    rcases marks_cases value with ⟨text, index, rfl, marks, readable⟩ |
      ⟨text, index, rfl, marks, long⟩ | plain
    · cases (resolve_of_marks params marks readable).symm.trans refused
    · cases (resolve_of_long params marks long).symm.trans refused
      exact .intro rfl marks long
    · cases (resolve_of_plain params plain).symm.trans refused
  · rintro ⟨rfl, marks, long⟩
    exact resolve_of_long params marks long

end Resolving

/-- A text stands for a parameter exactly when it is the placeholder of that parameter, alone or
before one line end, with a number that is not too long. Resolving gives the parameter for such a
text in range, every other value as it is, and refuses the placeholders with longer numbers,
whatever the parameters are. -/
theorem index?_and_resolve_exact (text : String) (index : Nat) (params : Params) (value : Json) :
    (index? text = .ok (some index) ↔ Marks text index ∧ IsReadable index) ∧
      (∀ result, resolve params value = .ok result ↔ ResolvesTo params value result) ∧
      ∀ fault, resolve params value = .error fault ↔ Unresolvable value fault :=
  ⟨index?_eq_ok_some_iff, fun _ => resolve_eq_ok_iff params, fun _ => resolve_eq_error_iff params⟩

theorem isOversized_of_isNumber {digits : List Char} (number : IsNumber digits)
    (long : Decimal.digitLimit < digits.length) : IsOversized (String.ofList ('$' :: digits)) := by
  refine ⟨digits, ?_, long⟩
  rw [String.toList_ofList]
  exact digits?_eq_some_iff.mpr ⟨number, .inl rfl⟩

theorem isNumber_ones (count : Nat) : IsNumber (List.replicate (count + 1) '1') where
  present := List.cons_ne_nil _ _
  run := fun c member => by
    rw [List.eq_of_mem_replicate member]
    rfl
  leading := by
    rw [List.replicate_succ, List.head?_cons]
    decide

/-- A dollar sign and one digit more than numerals may have. -/
def longText : String := String.ofList ('$' :: List.replicate (Decimal.digitLimit + 1) '1')

theorem isOversized_longText : IsOversized longText := by
  refine isOversized_of_isNumber (isNumber_ones Decimal.digitLimit) ?_
  rw [List.length_replicate]
  exact Nat.lt_succ_self _

/-- The placeholder before a line end is not the placeholder of its parameter, and resolving can
fail. -/
theorem index?_lineEnd_and_resolve_longText :
    (index? "$1\n" = .ok (some 0) ∧ "$1\n" ≠ Placeholder.text 0) ∧
      ∃ fault, resolve [] (.str longText) = .error fault :=
  ⟨⟨rfl, by decide⟩, resolve_of_isOversized [] isOversized_longText⟩

end Placeholder

end TxTemplate
