import TxTemplate.Bytes.Utf8

set_option autoImplicit false

/-! Bytes that are the encoding of a text read back as that text. A character of two to four bytes
is found by its first byte, which also says where its second byte must lie: that range is what keeps
out other spellings of the same character and the code points that are no characters. -/

namespace TxTemplate.Utf8

theorem continueWith_cons {more bits low high byte : Nat} (rest : Bytes) (small : byte < 256)
    (above : low ≤ byte) (below : byte ≤ high) :
    continueWith (more + 1) bits low high (UInt8.ofNat byte :: rest) =
      continueWith more (bits * 64 + (byte - 0x80)) 0x80 0xBF rest := by
  have same : (UInt8.ofNat byte).toNat = byte := by
    rw [UInt8.toNat_ofNat', Nat.mod_eq_of_lt small]
  rw [continueWith, same, if_pos ⟨above, below⟩]

theorem next_ofNat (more bits low high : Nat) {byte : Nat} (rest : Bytes)
    (leads : lead? (UInt8.ofNat byte) = some (more, bits, low, high)) :
    next (UInt8.ofNat byte) rest = continueWith more bits low high rest := by
  rw [next, leads]

theorem lead?_ofNat {byte : Nat} (small : byte < 256) :
    lead? (UInt8.ofNat byte) =
      if byte < 0x80 then some (0, byte, 0, 0)
      else if byte < 0xC2 then none
      else if byte < 0xE0 then some (1, byte - 0xC0, 0x80, 0xBF)
      else if byte = 0xE0 then some (2, 0, 0xA0, 0xBF)
      else if byte = 0xED then some (2, 0xD, 0x80, 0x9F)
      else if byte < 0xF0 then some (2, byte - 0xE0, 0x80, 0xBF)
      else if byte = 0xF0 then some (3, 0, 0x90, 0xBF)
      else if byte < 0xF4 then some (3, byte - 0xF0, 0x80, 0xBF)
      else if byte = 0xF4 then some (3, 4, 0x80, 0x8F)
      else none := by
  have same : (UInt8.ofNat byte).toNat = byte := by
    rw [UInt8.toNat_ofNat', Nat.mod_eq_of_lt small]
  simp only [lead?, same]

/-! ### One character -/

private theorem ofNat_eq (c : Char) (bits : Nat) (same : bits = c.val.toNat) :
    Char.ofNat bits = c := by
  rw [same]
  exact Char.ofNat_toNat c

private theorem next_two (c : Char) (rest : Bytes) (above : 0x7F < c.val.toNat)
    (below : c.val.toNat ≤ 0x7FF) :
    next (UInt8.ofNat (c.val.toNat / 64 % 32 + 0xC0))
      (UInt8.ofNat (c.val.toNat % 64 + 0x80) :: rest) = (c, rest) := by
  rw [next_ofNat 1 (c.val.toNat / 64) 0x80 0xBF]
  · rw [continueWith_cons _ (by omega) (by omega) (by omega), continueWith,
      ofNat_eq c _ (by omega)]
  · have bits : c.val.toNat / 64 % 32 + 0xC0 - 0xC0 = c.val.toNat / 64 := by omega
    rw [lead?_ofNat (by omega), if_neg (by omega), if_neg (by omega), if_pos (by omega), bits]

-- The first byte says where the second may lie: above 0x9F behind 0xE0, where two bytes would have
-- done, and below 0xA0 behind 0xED, where the surrogates would start.
private theorem next_three (c : Char) (rest : Bytes) (above : 0x7FF < c.val.toNat)
    (below : c.val.toNat ≤ 0xFFFF) :
    next (UInt8.ofNat (c.val.toNat / 4096 % 16 + 0xE0))
      (UInt8.ofNat (c.val.toNat / 64 % 64 + 0x80) ::
        UInt8.ofNat (c.val.toNat % 64 + 0x80) :: rest) =
        (c, rest) := by
  have valid : c.val.toNat < 0xD800 ∨ 0xDFFF < c.val.toNat ∧ c.val.toNat < 0x110000 := c.valid
  have leads : ∃ low high, lead? (UInt8.ofNat (c.val.toNat / 4096 % 16 + 0xE0)) =
      some (2, c.val.toNat / 4096, low, high) ∧
        low ≤ c.val.toNat / 64 % 64 + 0x80 ∧ c.val.toNat / 64 % 64 + 0x80 ≤ high := by
    rw [lead?_ofNat (by omega), if_neg (by omega), if_neg (by omega), if_neg (by omega)]
    by_cases first : c.val.toNat / 4096 % 16 + 0xE0 = 0xE0
    · have bits : c.val.toNat / 4096 = 0 := by omega
      rw [if_pos first, bits]
      exact ⟨0xA0, 0xBF, rfl, by omega, by omega⟩
    · rw [if_neg first]
      by_cases surrogates : c.val.toNat / 4096 % 16 + 0xE0 = 0xED
      · have bits : c.val.toNat / 4096 = 0xD := by omega
        rw [if_pos surrogates, bits]
        exact ⟨0x80, 0x9F, rfl, by omega, by omega⟩
      · have bits : c.val.toNat / 4096 % 16 + 0xE0 - 0xE0 = c.val.toNat / 4096 := by omega
        rw [if_neg surrogates, if_pos (by omega), bits]
        exact ⟨0x80, 0xBF, rfl, by omega, by omega⟩
  obtain ⟨low, high, found, lower, upper⟩ := leads
  rw [next_ofNat _ _ _ _ _ found, continueWith_cons _ (by omega) lower upper,
    continueWith_cons _ (by omega) (by omega) (by omega), continueWith, ofNat_eq c _ (by omega)]

private theorem next_four (c : Char) (rest : Bytes) (above : 0xFFFF < c.val.toNat) :
    next (UInt8.ofNat (c.val.toNat / 262144 % 8 + 0xF0))
      (UInt8.ofNat (c.val.toNat / 4096 % 64 + 0x80) :: UInt8.ofNat (c.val.toNat / 64 % 64 + 0x80) ::
        UInt8.ofNat (c.val.toNat % 64 + 0x80) :: rest) = (c, rest) := by
  have valid : c.val.toNat < 0xD800 ∨ 0xDFFF < c.val.toNat ∧ c.val.toNat < 0x110000 := c.valid
  have leads : ∃ low high, lead? (UInt8.ofNat (c.val.toNat / 262144 % 8 + 0xF0)) =
      some (3, c.val.toNat / 262144, low, high) ∧
        low ≤ c.val.toNat / 4096 % 64 + 0x80 ∧ c.val.toNat / 4096 % 64 + 0x80 ≤ high := by
    rw [lead?_ofNat (by omega), if_neg (by omega), if_neg (by omega), if_neg (by omega),
      if_neg (by omega), if_neg (by omega), if_neg (by omega)]
    by_cases first : c.val.toNat / 262144 % 8 + 0xF0 = 0xF0
    · have bits : c.val.toNat / 262144 = 0 := by omega
      rw [if_pos first, bits]
      exact ⟨0x90, 0xBF, rfl, by omega, by omega⟩
    · rw [if_neg first]
      by_cases inner : c.val.toNat / 262144 % 8 + 0xF0 < 0xF4
      · have bits : c.val.toNat / 262144 % 8 + 0xF0 - 0xF0 = c.val.toNat / 262144 := by omega
        rw [if_pos inner, bits]
        exact ⟨0x80, 0xBF, rfl, by omega, by omega⟩
      · have bits : c.val.toNat / 262144 = 4 := by omega
        rw [if_neg inner, if_pos (by omega), bits]
        exact ⟨0x80, 0x8F, rfl, by omega, by omega⟩
  obtain ⟨low, high, found, lower, upper⟩ := leads
  rw [next_ofNat _ _ _ _ _ found, continueWith_cons _ (by omega) lower upper,
    continueWith_cons _ (by omega) (by omega) (by omega),
    continueWith_cons _ (by omega) (by omega) (by omega), continueWith, ofNat_eq c _ (by omega)]

/-- Reading takes off exactly the bytes of the character in front. -/
theorem next_encodeChar (c : Char) (rest : Bytes) :
    ∃ byte more, String.utf8EncodeChar c = byte :: more ∧ next byte (more ++ rest) = (c, rest) := by
  unfold String.utf8EncodeChar
  by_cases one : c.val.toNat ≤ 0x7F
  · refine ⟨_, [], if_pos one, ?_⟩
    rw [next_ofNat 0 c.val.toNat 0 0, continueWith,
      ofNat_eq c _ rfl, List.nil_append]
    rw [lead?_ofNat (by omega), if_pos (by omega)]
  · simp only [if_neg one]
    by_cases two : c.val.toNat ≤ 0x7FF
    · exact ⟨_, _, if_pos two, next_two c rest (by omega) two⟩
    · simp only [if_neg two]
      by_cases three : c.val.toNat ≤ 0xFFFF
      · exact ⟨_, _, if_pos three, next_three c rest (by omega) three⟩
      · exact ⟨_, _, if_neg three, next_four c rest (by omega)⟩

/-! ### Texts -/

theorem decodeUpTo_encode (text : List Char) (steps : Nat) (enough : (encode text).length ≤ steps) :
    decodeUpTo steps (encode text) = text := by
  induction text generalizing steps with
  | nil => cases steps <;> rfl
  | cons c rest ih =>
      obtain ⟨byte, more, bytes, read⟩ := next_encodeChar c (encode rest)
      have split : encode (c :: rest) = byte :: (more ++ encode rest) := by
        rw [encode, List.flatMap_cons, bytes]
        rfl
      rw [split] at enough ⊢
      cases steps with
      | zero => cases enough
      | succ steps =>
          rw [List.length_cons, List.length_append] at enough
          rw [decodeUpTo, read, ih steps (by omega)]

theorem decode_encode (text : List Char) : decode (encode text) = text :=
  decodeUpTo_encode text _ (Nat.le_refl _)

theorem text_bytes (text : String) : Utf8.text (bytes text) = text := by
  rw [Utf8.text, bytes, decode_encode, String.ofList_toList]

end TxTemplate.Utf8
