import Mathlib.Data.List.GetD
import TxTemplate.Bytes.Base58
import TxTemplate.Proofs.Bytes.Radix
import TxTemplate.Proofs.Text.Blank

set_option autoImplicit false

/-! Base 58 text and byte strings determine each other: reading what was written gives the bytes
back, and a text that can be read is the written form of what was read. The leading noughts are the
only part that is not a number, so every list is split into its noughts and the rest. -/

namespace TxTemplate.Base58

section Noughts

variable {α : Type} [BEq α] [LawfulBEq α] {zero : α}

private theorem noughts_length (count : Nat) (rest : List α) (leading : rest.head? ≠ some zero) :
    ((List.replicate count zero ++ rest).takeWhile (· == zero)).length = count := by
  have none : rest.takeWhile (· == zero) = [] := by
    cases rest with
    | nil => rfl
    | cons first rest =>
        rw [List.takeWhile_cons_of_neg]
        intro same
        exact leading (congrArg some (eq_of_beq same))
  simp [none]

private theorem noughts_rest (count : Nat) (rest : List α) (leading : rest.head? ≠ some zero) :
    (List.replicate count zero ++ rest).dropWhile (· == zero) = rest := by
  have all : rest.dropWhile (· == zero) = rest := by
    cases rest with
    | nil => rfl
    | cons first rest =>
        rw [List.dropWhile_cons_of_neg]
        intro same
        exact leading (congrArg some (eq_of_beq same))
  simp [all]

private theorem noughts_append (items : List α) :
    List.replicate (items.takeWhile (· == zero)).length zero ++ items.dropWhile (· == zero) =
      items := by
  have noughts : items.takeWhile (· == zero) =
      List.replicate (items.takeWhile (· == zero)).length zero := by
    apply List.eq_replicate_of_mem
    intro item member
    exact eq_of_beq (List.mem_takeWhile_imp (p := (· == zero)) member)
  rw [← noughts, List.takeWhile_append_dropWhile]

private theorem head?_rest (items : List α) :
    (items.dropWhile (· == zero)).head? ≠ some zero := by
  intro same
  have checked := List.head?_dropWhile_not (· == zero) items
  rw [same] at checked
  simp at checked

end Noughts

/-! ### Digits -/

theorem value?_digit {value : Nat} (small : value < 58) : value? (digit value) = some value := by
  have checked : ∀ value < 58, value? (digit value) = some value := by decide
  exact checked value small

theorem digit_of_value? {c : Char} {value : Nat} (found : value? c = some value) :
    value < 58 ∧ digit value = c := by
  obtain ⟨bound, same, -⟩ := List.idxOf?_eq_some_iff.mp found
  have sized : alphabet.length = 58 := by decide
  refine ⟨by omega, ?_⟩
  rw [digit, List.getD_eq_getElem _ _ bound, same]

theorem mapM_value?_digits (values : List Nat) (small : ∀ value ∈ values, value < 58) :
    (values.map digit).mapM value? = some values := by
  induction values with
  | nil => rfl
  | cons value rest ih =>
      have first := value?_digit (small value List.mem_cons_self)
      have later := ih fun other member => small other (List.mem_cons_of_mem value member)
      rw [List.map_cons, List.mapM_cons, first, later]
      rfl

theorem digits_of_mapM_value? (text : List Char) (values : List Nat)
    (found : text.mapM value? = some values) :
    (∀ value ∈ values, value < 58) ∧ text = values.map digit := by
  induction text generalizing values with
  | nil =>
      obtain rfl : [] = values := Option.some.inj found
      exact ⟨by simp, rfl⟩
  | cons c rest ih =>
      rw [List.mapM_cons] at found
      cases first : value? c with
      | none => simp [first] at found
      | some value =>
          cases later : rest.mapM value? with
          | none => simp [first, later] at found
          | some more =>
              obtain rfl : value :: more = values := by simpa [first, later] using found
              obtain ⟨small, same⟩ := digit_of_value? first
              obtain ⟨smaller, same'⟩ := ih more later
              refine ⟨?_, by rw [List.map_cons, same, ← same']⟩
              intro other member
              rcases List.mem_cons.mp member with rfl | member
              · exact small
              · exact smaller other member

/-! ### Numbers -/

private theorem head?_reverse_digits (n : Nat) : (Radix.digits 58 n).reverse.head? ≠ some 0 := by
  rw [List.head?_reverse]
  exact Radix.getLast?_digits (by decide) n

private theorem map_toNat_ofNat (values : List Nat) (small : ∀ value ∈ values, value < 256) :
    (values.map UInt8.ofNat).map UInt8.toNat = values := by
  rw [List.map_map]
  conv_rhs => rw [← List.map_id values]
  apply List.map_congr_left
  intro value member
  exact Nat.mod_eq_of_lt (small value member)

theorem bytesNumber_numberBytes (n : Nat) : bytesNumber (numberBytes n) = n := by
  rw [bytesNumber, numberBytes, List.reverse_reverse,
    map_toNat_ofNat _ (Radix.digits_lt 256 (by decide) n), Radix.value_digits 256 (by decide)]

theorem head?_numberBytes (n : Nat) : (numberBytes n).head? ≠ some 0 := by
  rw [numberBytes, List.head?_reverse, List.getLast?_map]
  intro nought
  obtain ⟨value, last, same⟩ := Option.map_eq_some_iff.mp nought
  have small := Radix.digits_lt 256 (by decide) n value (List.mem_of_getLast? last)
  obtain rfl : value = 0 := by
    have := congrArg UInt8.toNat same
    rwa [UInt8.toNat_ofNat', Nat.mod_eq_of_lt small] at this
  exact Radix.getLast?_digits (by decide) n last

theorem numberBytes_bytesNumber (bytes : Bytes) (leading : bytes.head? ≠ some 0) :
    numberBytes (bytesNumber bytes) = bytes := by
  have last : (bytes.reverse.map UInt8.toNat).getLast? ≠ some 0 := by
    rw [List.getLast?_map, List.getLast?_reverse]
    intro nought
    obtain ⟨byte, first, same⟩ := Option.map_eq_some_iff.mp nought
    exact leading (by rw [first, UInt8.toNat_inj.mp (same.trans UInt8.toNat_zero.symm)])
  have small : ∀ value ∈ bytes.reverse.map UInt8.toNat, value < 256 := by
    intro value member
    obtain ⟨byte, -, rfl⟩ := List.mem_map.mp member
    exact byte.toNat_lt
  rw [numberBytes, bytesNumber, Radix.digits_value (by decide) _ small last, List.map_map]
  simp [Function.comp_def]

/-! ### Texts -/

/-- The digit values of a byte string. -/
def values (bytes : Bytes) : List Nat :=
  List.replicate (bytes.takeWhile (· == 0)).length 0 ++
    (Radix.digits 58 (bytesNumber (bytes.dropWhile (· == 0)))).reverse

theorem encode_eq_map_values (bytes : Bytes) : encode bytes = (values bytes).map digit := by
  have first : digit 0 = '1' := by decide
  rw [encode, values, encodeNumber, List.map_append, List.map_replicate, List.map_reverse, first]

theorem values_lt (bytes : Bytes) : ∀ value ∈ values bytes, value < 58 := by
  intro value member
  rcases List.mem_append.mp member with nought | digit
  · rw [(List.mem_replicate.mp nought).2]
    decide
  · exact Radix.digits_lt 58 (by decide) _ value (List.mem_reverse.mp digit)

theorem forall_mem_encode {p : Char → Prop} (digits : ∀ value < 58, p (digit value))
    (bytes : Bytes) :
    ∀ c ∈ encode bytes, p c := by
  intro c member
  rw [encode_eq_map_values] at member
  obtain ⟨value, found, rfl⟩ := List.mem_map.mp member
  exact digits value (values_lt bytes value found)

theorem decode_encode (bytes : Bytes) : decode (encode bytes) = some bytes := by
  have leading := head?_reverse_digits
    (bytesNumber (bytes.dropWhile (· == 0)))
  rw [encode_eq_map_values, decode, mapM_value?_digits _ (values_lt bytes)]
  simp only [values, noughts_length _ _ leading, noughts_rest _ _ leading, List.reverse_reverse]
  rw [Radix.value_digits 58 (by decide), numberBytes_bytesNumber _ (head?_rest bytes),
    noughts_append]

theorem encode_of_decode {text : List Char} {bytes : Bytes} (read : decode text = some bytes) :
    encode bytes = text := by
  unfold decode at read
  cases found : text.mapM value? with
  | none =>
      rw [found] at read
      cases read
  | some read_values =>
      rw [found] at read
      obtain ⟨small, rfl⟩ := digits_of_mapM_value? text read_values found
      obtain rfl := Option.some.inj read
      have leading := head?_numberBytes (Radix.value 58 (read_values.dropWhile (· == 0)).reverse)
      have rest_small : ∀ value ∈ (read_values.dropWhile (· == 0)).reverse, value < 58 := by
        intro value member
        exact small value (List.dropWhile_sublist _ |>.subset (List.mem_reverse.mp member))
      have last : (read_values.dropWhile (· == 0)).reverse.getLast? ≠ some 0 := by
        rw [List.getLast?_reverse]
        exact head?_rest read_values
      rw [encode_eq_map_values, values, noughts_length _ _ leading, noughts_rest _ _ leading,
        bytesNumber_numberBytes, Radix.digits_value (by decide) _ rest_small last,
        List.reverse_reverse, noughts_append]

/-- A byte string takes at most as many digits as its length allows any number of bytes. -/
theorem length_encode_le (bytes : Bytes) (count : Nat) (room : 256 ^ bytes.length ≤ 58 ^ count)
    (longer : bytes.length ≤ count) : (encode bytes).length ≤ count := by
  let noughts := (bytes.takeWhile (· == 0)).length
  let rest := bytes.dropWhile (· == 0)
  have split : noughts + rest.length = bytes.length := by
    rw [← List.length_append, List.takeWhile_append_dropWhile]
  have small : ∀ value ∈ rest.reverse.map UInt8.toNat, value < 256 := by
    intro value member
    obtain ⟨byte, -, rfl⟩ := List.mem_map.mp member
    exact byte.toNat_lt
  -- Leading noughts are written one for one, so only the rest has to fit into fewer digits.
  have number : bytesNumber rest < 256 ^ rest.length := by
    have bound := Radix.value_lt_pow (by decide) _ small
    rwa [List.length_map, List.length_reverse] at bound
  have power : 256 ^ rest.length ≤ 58 ^ (count - noughts) := by
    have wider : 58 ^ noughts ≤ 256 ^ noughts := Nat.pow_le_pow_left (by decide) noughts
    have scaled : 58 ^ noughts * 256 ^ rest.length ≤ 58 ^ noughts * 58 ^ (count - noughts) := by
      calc
        58 ^ noughts * 256 ^ rest.length ≤ 256 ^ noughts * 256 ^ rest.length :=
          Nat.mul_le_mul_right _ wider
        _ = 256 ^ bytes.length := by rw [← Nat.pow_add, split]
        _ ≤ 58 ^ count := room
        _ = 58 ^ noughts * 58 ^ (count - noughts) := by
          rw [← Nat.pow_add, Nat.add_sub_cancel' (by omega)]
    exact Nat.le_of_mul_le_mul_left scaled (Nat.pow_pos (by decide))
  have digits : (Radix.digits 58 (bytesNumber rest)).length ≤ count - noughts :=
    Radix.length_digits_le (by decide) _ _ (Nat.lt_of_lt_of_le number power)
  rw [encode_eq_map_values, values, List.length_map, List.length_append, List.length_replicate,
    List.length_reverse]
  change noughts + (Radix.digits 58 (bytesNumber rest)).length ≤ count
  omega

/-! ### Blanks -/

set_option maxRecDepth 2000 in
theorem decodeTrimmed_encode (bytes : Bytes) : decodeTrimmed (encode bytes) = some bytes := by
  have solid : ∀ c ∈ encode bytes, Text.isBlank c = false := forall_mem_encode (by decide) bytes
  rw [decodeTrimmed, Text.dropEndWhile_of_solid _ _ solid, decode_encode]

theorem decodeTrimmed_of_dollar (rest : List Char) : decodeTrimmed ('$' :: rest) = none := by
  cases read : decodeTrimmed ('$' :: rest) with
  | none => rfl
  | some bytes =>
      have member : '$' ∈ Text.dropEndWhile Text.isBlank ('$' :: rest) :=
        Text.mem_dropEndWhile List.mem_cons_self (by decide)
      rw [← encode_of_decode read] at member
      exact absurd rfl (forall_mem_encode (p := fun c => c ≠ '$') (by decide) bytes '$' member)

end TxTemplate.Base58
