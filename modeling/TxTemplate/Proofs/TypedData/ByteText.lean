import TxTemplate.Proofs.Bytes.Base64
import TxTemplate.Proofs.Bytes.Hex
import TxTemplate.TypedData.Pack

set_option autoImplicit false

/-! Byte strings as texts. A text behind `0x` is hexadecimal, any other one base 64, and both forms
are written back as they are read. But base 64 may itself begin with `0x`, and then the bytes that
are read are never those that were written, whatever size they are cut or filled up to. -/

namespace TxTemplate

namespace Base64

/-- The text begins with the mark of hexadecimal text. -/
def LooksHex (bytes : Bytes) : Prop := ['0', 'x'] <+: encode bytes

instance (bytes : Bytes) : Decidable (LooksHex bytes) := by
  unfold LooksHex
  infer_instance

set_option maxRecDepth 2000 in
theorem isAscii_encode (bytes : Bytes) : Scalar.isAscii (encode bytes) = true := by
  have checked : ∀ value < 64, decide ((digit value).toNat < 128) = true := by decide
  rw [Scalar.isAscii, List.all_eq_true]
  exact forall_mem_encode (by decide) checked bytes

set_option maxRecDepth 2000 in
theorem isAsciiBlank_of_mem_encode (bytes : Bytes) :
    ∀ c ∈ encode bytes, Text.isAsciiBlank c = false := by
  have checked : ∀ value < 64, Text.isAsciiBlank (digit value) = false := by decide
  exact forall_mem_encode (by decide) checked bytes

-- The byte 0xAA takes the digit q at the start or the end of a group, and in its middle the digit o
-- where no bit of the next byte is set.
private theorem mem_encode_of_pair (before after : Bytes) :
    'q' ∈ encode (before ++ 0xAA :: 0 :: after) ∨ 'o' ∈ encode (before ++ 0xAA :: 0 :: after) := by
  match before with
  | [] =>
      left
      cases after with
      | nil => decide
      | cons c rest =>
          rw [List.nil_append, encode]
          exact List.mem_cons_self
  | [a] =>
      right
      rw [List.cons_append, List.nil_append, encode]
      exact List.mem_cons_of_mem _ (List.mem_cons_of_mem _ List.mem_cons_self)
  | [a, b] =>
      left
      rw [List.cons_append, List.cons_append, List.nil_append, encode]
      exact List.mem_cons_of_mem _
        (List.mem_cons_of_mem _ (List.mem_cons_of_mem _ List.mem_cons_self))
  | a :: b :: c :: rest =>
      have inner := mem_encode_of_pair rest after
      simp only [List.cons_append, encode_cons_cons_cons, List.mem_cons]
      rcases inner with first | middle
      · exact .inl (.inr (.inr (.inr (.inr first))))
      · exact .inr (.inr (.inr (.inr (.inr middle))))

/-- Whole groups that end in two zero bytes are written with two `A` at the end. -/
theorem suffix_encode_of_zeros (front : Bytes) (whole : (front ++ [0, 0]).length % 3 = 0) :
    ['A', 'A'] <:+ encode (front ++ [0, 0]) := by
  rw [List.length_append] at whole
  rcases List.eq_nil_or_concat front with rfl | ⟨groups, last, rfl⟩
  · exact absurd whole (by decide)
  · rw [List.concat_eq_append, List.length_append] at whole
    simp only [List.length_cons, List.length_nil] at whole
    have written : encode (groups ++ [last, 0, 0]) =
        (encode groups ++ [digit (last.toNat / 4), digit (last.toNat % 4 * 16)]) ++ ['A', 'A'] := by
      rw [encode_append groups _ (by omega), List.append_assoc]
      rfl
    rw [List.concat_eq_append, List.append_assoc]
    exact ⟨_, written.symm⟩

end Base64

namespace Scalar

theorem bytesOfText_hex (bytes : Bytes) : bytesOfText ("0x" ++ Hex.text bytes) = .ok bytes := by
  have chars : ("0x" ++ Hex.text bytes).toList = '0' :: 'x' :: Hex.encode bytes := by
    rw [String.toList_append, Hex.text, String.toList_ofList, String.toList_ofList]
    rfl
  simp only [bytesOfText, chars, Hex.decode_encode]

theorem bytesOfText_base64 {bytes : Bytes} (plain : ¬ Base64.LooksHex bytes) :
    bytesOfText (Base64.text bytes) = .ok bytes := by
  rw [bytesOfText, Base64.text, String.toList_ofList]
  split
  · rename_i digits marked
    exact absurd ⟨digits, marked.symm⟩ plain
  · simp only [Base64.isAscii_encode, Bool.not_true, Base64.decode_encode]
    rfl

/-- Base 64 text that begins with the mark of hexadecimal text is read as such. -/
theorem decode_of_looksHex {bytes decoded : Bytes} (marked : Base64.LooksHex bytes)
    (read : bytesOfText (Base64.text bytes) = .ok decoded) :
    ∃ digits, Base64.encode bytes = '0' :: 'x' :: digits ∧
      (∀ c ∈ digits, Text.isAsciiBlank c = false) ∧ Hex.decode digits = some decoded := by
  obtain ⟨digits, written⟩ := marked
  have chars : Base64.encode bytes = '0' :: 'x' :: digits := written.symm
  refine ⟨digits, chars, ?_, ?_⟩
  · intro c member
    apply Base64.isAsciiBlank_of_mem_encode bytes
    rw [chars]
    exact List.mem_cons_of_mem _ (List.mem_cons_of_mem _ member)
  · simp only [bytesOfText, Base64.text, String.toList_ofList, chars] at read
    cases found : Hex.decode digits with
    | none => simp [found] at read
    | some other =>
        simp only [found] at read
        rw [Except.ok.inj read]

theorem not_mem_encode_of_looksHex {bytes decoded : Bytes} (marked : Base64.LooksHex bytes)
    (read : bytesOfText (Base64.text bytes) = .ok decoded) {c : Char}
    (foreign : Hex.value? c = none) (notMark : c ≠ 'x') : c ∉ Base64.encode bytes := by
  intro member
  obtain ⟨digits, chars, solid, found⟩ := decode_of_looksHex marked read
  rw [chars] at member
  rcases List.mem_cons.mp member with rfl | later
  · exact absurd foreign (by decide)
  · rcases List.mem_cons.mp later with rfl | inside
    · exact notMark rfl
    · have known := Hex.isSome_value?_of_decode digits decoded solid found c inside
      rw [foreign] at known
      cases known

theorem whole_of_looksHex {bytes decoded : Bytes} (marked : Base64.LooksHex bytes)
    (read : bytesOfText (Base64.text bytes) = .ok decoded) : bytes.length % 3 = 0 := by
  apply Decidable.byContradiction
  intro broken
  exact not_mem_encode_of_looksHex marked read (by decide) (by decide)
    (Base64.padding_mem_encode bytes broken)

end Scalar

namespace TypedData

theorem fit_length (bytes : Bytes) : fit bytes.length bytes = .ok bytes := by
  simp [fit]

theorem length_of_fit {size : Int} {bytes fitted : Bytes} (sized : 0 ≤ size)
    (done : fit size bytes = .ok fitted) : (fitted.length : Int) = size := by
  rw [fit, if_pos sized] at done
  split at done
  · obtain rfl := Except.ok.inj done
    rw [List.length_take]
    omega
  · split at done
    · cases done
    · obtain rfl := Except.ok.inj done
      rw [List.length_append, List.length_replicate]
      omega

/-- Filling up by two zero bytes or more is what it takes to get from so few bytes to so many. -/
private theorem filled_of_fit {bytes decoded : Bytes} (few : decoded.length + 2 ≤ bytes.length)
    (fitted : fit bytes.length decoded = .ok bytes) :
    ∃ padding, bytes = decoded ++ List.replicate padding 0 ++ [0, 0] := by
  rw [fit, if_pos (by omega), if_neg (by omega)] at fitted
  split at fitted
  · cases fitted
  · refine ⟨bytes.length - decoded.length - 2, ?_⟩
    have count : (bytes.length : Int).toNat - decoded.length =
        bytes.length - decoded.length - 2 + 2 := by omega
    rw [count, ← List.replicate_append_replicate, ← List.append_assoc] at fitted
    exact (Except.ok.inj fitted).symm

private theorem replicate_append_zeros (padding : Nat) :
    List.replicate padding (0 : UInt8) ++ [0, 0] = 0 :: List.replicate (padding + 1) 0 := by
  show List.replicate padding 0 ++ List.replicate 2 0 = _
  rw [List.replicate_append_replicate, ← List.replicate_succ]

-- Two hexadecimal digits to a byte are fewer bytes than base 64 has, so zero bytes fill them up.
-- The last group then ends in two of them and is written with `AA` at its end, which stands for the
-- byte 0xAA: but no text of hexadecimal digits has that byte before a zero byte in base 64.
theorem fit_ne_of_looksHex {bytes decoded : Bytes} (marked : Base64.LooksHex bytes)
    (read : Scalar.bytesOfText (Base64.text bytes) = .ok decoded) :
    fit bytes.length decoded ≠ .ok bytes := by
  intro fitted
  obtain ⟨digits, chars, solid, found⟩ := Scalar.decode_of_looksHex marked read
  have halved := Hex.length_of_decode digits decoded solid found
  have whole := Scalar.whole_of_looksHex marked read
  have total := Base64.length_encode_of_whole bytes whole
  rw [chars, List.length_cons, List.length_cons] at total
  obtain ⟨padding, filled⟩ := filled_of_fit (by omega) fitted
  have ending : ['A', 'A'] <:+ digits := by
    have written := Base64.suffix_encode_of_zeros (decoded ++ List.replicate padding 0)
      (filled ▸ whole)
    rw [← filled, chars] at written
    have inText : digits <:+ '0' :: 'x' :: digits :=
      (List.suffix_cons 'x' digits).trans (List.suffix_cons '0' _)
    have enough : ['A', 'A'].length ≤ digits.length := by
      show 2 ≤ digits.length
      omega
    exact List.suffix_of_suffix_length_le written inText enough
  obtain ⟨rest, ended⟩ := ending
  obtain ⟨before, same⟩ :=
    Hex.decode_append_pair rest 'A' 'A' 10 10 decoded (ended ▸ solid) (by decide)
    (by decide) (by rw [ended, found])
  have split : bytes = before ++ 0xAA :: 0 :: List.replicate (padding + 1) 0 := by
    rw [filled, same, List.append_assoc, replicate_append_zeros, List.append_assoc]
    rfl
  rcases Base64.mem_encode_of_pair before (List.replicate (padding + 1) 0) with first | middle
  · rw [← split] at first
    exact Scalar.not_mem_encode_of_looksHex marked read (by decide) (by decide) first
  · rw [← split] at middle
    exact Scalar.not_mem_encode_of_looksHex marked read (by decide) (by decide) middle

end TypedData

end TxTemplate
