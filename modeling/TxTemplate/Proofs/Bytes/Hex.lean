import TxTemplate.Bytes.Hex

set_option autoImplicit false

/-! Hexadecimal text reads back as the bytes it was written from. A text without blanks is read two
characters to a byte, so its length and its last two characters tell those of the bytes. -/

namespace TxTemplate.Hex

theorem value?_digit {value : Nat} (small : value < 16) : value? (digit value) = some value := by
  have checked : ∀ value < 16, value? (digit value) = some value := by decide
  exact checked value small

theorem isAsciiBlank_digit {value : Nat} (small : value < 16) :
    Text.isAsciiBlank (digit value) = false := by
  have checked : ∀ value < 16, Text.isAsciiBlank (digit value) = false := by decide
  exact checked value small

theorem decode_encode (bytes : Bytes) : decode (encode bytes) = some bytes := by
  induction bytes with
  | nil => rfl
  | cons byte rest ih =>
      have bound : byte.toNat < 256 := byte.toNat_lt
      have high : byte.toNat / 16 < 16 := by omega
      have low : byte.toNat % 16 < 16 := by omega
      have whole : 16 * (byte.toNat / 16) + byte.toNat % 16 = byte.toNat := by omega
      simp only [encode, decode, isAsciiBlank_digit high, value?_digit high, value?_digit low, ih,
        whole, UInt8.ofNat_toNat, Bool.false_eq_true, if_false]

/-! ### Texts without blanks -/

theorem decode_cons_cons {c d : Char} {rest : List Char} {bytes : Bytes}
    (solid : Text.isAsciiBlank c = false) (read : decode (c :: d :: rest) = some bytes) :
    ∃ high low more, value? c = some high ∧ value? d = some low ∧ decode rest = some more ∧
      bytes = UInt8.ofNat (16 * high + low) :: more := by
  rw [decode, if_neg (by simp [solid])] at read
  split at read
  · rename_i high low more foundHigh foundLow foundMore
    exact ⟨high, low, more, foundHigh, foundLow, foundMore, (Option.some.inj read).symm⟩
  · cases read

theorem length_of_decode (text : List Char) (bytes : Bytes)
    (solid : ∀ c ∈ text, Text.isAsciiBlank c = false) (read : decode text = some bytes) :
    text.length = 2 * bytes.length := by
  match text with
  | [] =>
      obtain rfl : [] = bytes := Option.some.inj read
      rfl
  | [c] =>
      rw [decode, if_neg (by simp [solid c List.mem_cons_self])] at read
      cases read
  | c :: d :: rest =>
      obtain ⟨high, low, more, -, -, later, rfl⟩ :=
        decode_cons_cons (solid c List.mem_cons_self) read
      have shorter := length_of_decode rest more
        (fun other member => solid other (List.mem_cons_of_mem c (List.mem_cons_of_mem d member)))
        later
      simp only [List.length_cons, shorter]
      omega

theorem isSome_value?_of_decode (text : List Char) (bytes : Bytes)
    (solid : ∀ c ∈ text, Text.isAsciiBlank c = false) (read : decode text = some bytes) :
    ∀ c ∈ text, (value? c).isSome := by
  match text with
  | [] => simp
  | [c] =>
      rw [decode, if_neg (by simp [solid c List.mem_cons_self])] at read
      cases read
  | c :: d :: rest =>
      obtain ⟨high, low, more, foundHigh, foundLow, later, -⟩ :=
        decode_cons_cons (solid c List.mem_cons_self) read
      have others := isSome_value?_of_decode rest more
        (fun other member => solid other (List.mem_cons_of_mem c (List.mem_cons_of_mem d member)))
        later
      intro other member
      rcases List.mem_cons.mp member with rfl | member
      · rw [foundHigh]; rfl
      · rcases List.mem_cons.mp member with rfl | member
        · rw [foundLow]; rfl
        · exact others other member

/-- The last two characters of a text without blanks are its last byte. -/
theorem decode_append_pair (text : List Char) (c d : Char) (high low : Nat) (bytes : Bytes)
    (solid : ∀ other ∈ text ++ [c, d], Text.isAsciiBlank other = false)
    (foundHigh : value? c = some high) (foundLow : value? d = some low)
    (read : decode (text ++ [c, d]) = some bytes) :
    ∃ before, bytes = before ++ [UInt8.ofNat (16 * high + low)] := by
  match text with
  | [] =>
      obtain ⟨high', low', more, first, second, last, rfl⟩ :=
        decode_cons_cons (solid c List.mem_cons_self) read
      obtain rfl : high = high' := Option.some.inj (foundHigh.symm.trans first)
      obtain rfl : low = low' := Option.some.inj (foundLow.symm.trans second)
      obtain rfl : [] = more := Option.some.inj last
      exact ⟨[], rfl⟩
  | [a] =>
      have even := length_of_decode _ _ solid read
      simp only [List.cons_append, List.nil_append, List.length_cons, List.length_nil] at even
      omega
  | a :: b :: rest =>
      obtain ⟨-, -, more, -, -, later, rfl⟩ :=
        decode_cons_cons (solid a List.mem_cons_self) read
      obtain ⟨before, rfl⟩ := decode_append_pair rest c d high low more
        (fun other member => solid other (List.mem_cons_of_mem a (List.mem_cons_of_mem b member)))
        foundHigh foundLow later
      exact ⟨_ :: before, rfl⟩

end TxTemplate.Hex
