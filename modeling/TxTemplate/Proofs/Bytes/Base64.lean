import Mathlib.Data.List.GetD
import TxTemplate.Bytes.Base64

set_option autoImplicit false

/-! Base 64 text reads back as the bytes it was written from. Its characters are digits of the
alphabet and padding, three bytes always take the same four of them, and so groups of three can be
split off the front. -/

namespace TxTemplate.Base64

theorem value?_digit {value : Nat} (small : value < 64) : value? (digit value) = some value := by
  have checked : ∀ value < 64, value? (digit value) = some value := by decide
  exact checked value small

theorem encode_cons_cons_cons (a b c : UInt8) (rest : Bytes) :
    encode (a :: b :: c :: rest) =
      digit (a.toNat / 4) :: digit (a.toNat % 4 * 16 + b.toNat / 16) ::
        digit (b.toNat % 16 * 4 + c.toNat / 64) :: digit (c.toNat % 64) :: encode rest := by
  rw [encode]

/-! ### Reading back -/

theorem scan_cons_digit {value : Nat} (small : value < 64) (rest : List Char) :
    scan (digit value :: rest) = (value :: (scan rest).1, (scan rest).2) := by
  rw [scan, value?_digit small]

theorem scan_padding (rest : List Char) : scan ('=' :: rest) = ([], '=' :: rest) := by
  have none : value? '=' = none := by decide
  rw [scan, none]

theorem paddingFits_add_four {digits padding : Nat} (fits : paddingFits digits padding = true) :
    paddingFits (digits + 4) padding = true := by
  unfold paddingFits at fits ⊢
  rw [Nat.add_mod_right]
  split at fits <;> simp_all

/-- What the reader finds in a written text: only padding behind the digits, as much of it as there
should be, and digits that join to the bytes. -/
theorem scan_encode (bytes : Bytes) :
    (scan (encode bytes)).2.all (· == '=') = true ∧
      paddingFits (scan (encode bytes)).1.length (scan (encode bytes)).2.length = true ∧
      join (scan (encode bytes)).1 = bytes := by
  match bytes with
  | [] => exact ⟨rfl, rfl, rfl⟩
  | [a] =>
      have bound : a.toNat < 256 := a.toNat_lt
      have whole : a.toNat / 4 * 4 + a.toNat % 4 * 16 / 16 = a.toNat := by omega
      rw [encode, scan_cons_digit (by omega), scan_cons_digit (by omega), scan_padding]
      refine ⟨rfl, rfl, ?_⟩
      simp only [join, whole, UInt8.ofNat_toNat]
  | [a, b] =>
      have boundA : a.toNat < 256 := a.toNat_lt
      have boundB : b.toNat < 256 := b.toNat_lt
      have wholeA : a.toNat / 4 * 4 + (a.toNat % 4 * 16 + b.toNat / 16) / 16 = a.toNat := by omega
      have wholeB : (a.toNat % 4 * 16 + b.toNat / 16) % 16 * 16 + b.toNat % 16 * 4 / 4 =
          b.toNat := by
        omega
      rw [encode, scan_cons_digit (by omega), scan_cons_digit (by omega),
        scan_cons_digit (by omega), scan_padding]
      refine ⟨rfl, rfl, ?_⟩
      simp only [join, wholeA, wholeB, UInt8.ofNat_toNat]
  | a :: b :: c :: rest =>
      obtain ⟨padded, fits, joined⟩ := scan_encode rest
      have boundA : a.toNat < 256 := a.toNat_lt
      have boundB : b.toNat < 256 := b.toNat_lt
      have boundC : c.toNat < 256 := c.toNat_lt
      have wholeA : a.toNat / 4 * 4 + (a.toNat % 4 * 16 + b.toNat / 16) / 16 = a.toNat := by omega
      have wholeB : (a.toNat % 4 * 16 + b.toNat / 16) % 16 * 16 +
          (b.toNat % 16 * 4 + c.toNat / 64) / 4 = b.toNat := by omega
      have wholeC : (b.toNat % 16 * 4 + c.toNat / 64) % 4 * 64 + c.toNat % 64 = c.toNat := by omega
      rw [encode_cons_cons_cons, scan_cons_digit (by omega), scan_cons_digit (by omega),
        scan_cons_digit (by omega), scan_cons_digit (by omega)]
      refine ⟨padded, paddingFits_add_four fits, ?_⟩
      simp only [join, wholeA, wholeB, wholeC, UInt8.ofNat_toNat, joined]

theorem decode_encode (bytes : Bytes) : decode (encode bytes) = some bytes := by
  obtain ⟨padded, fits, joined⟩ := scan_encode bytes
  rw [decode]
  simp only [padded, fits, joined, Bool.and_self, if_true]

/-! ### Characters -/

theorem mem_encode (bytes : Bytes) :
    ∀ c ∈ encode bytes, c = '=' ∨ ∃ value < 64, c = digit value := by
  match bytes with
  | [] => simp [encode]
  | [a] =>
      have bound : a.toNat < 256 := a.toNat_lt
      intro c member
      simp only [encode, List.mem_cons, List.not_mem_nil, or_false] at member
      rcases member with rfl | rfl | rfl | rfl
      · exact .inr ⟨_, by omega, rfl⟩
      · exact .inr ⟨_, by omega, rfl⟩
      · exact .inl rfl
      · exact .inl rfl
  | [a, b] =>
      have boundA : a.toNat < 256 := a.toNat_lt
      have boundB : b.toNat < 256 := b.toNat_lt
      intro c member
      simp only [encode, List.mem_cons, List.not_mem_nil, or_false] at member
      rcases member with rfl | rfl | rfl | rfl
      · exact .inr ⟨_, by omega, rfl⟩
      · exact .inr ⟨_, by omega, rfl⟩
      · exact .inr ⟨_, by omega, rfl⟩
      · exact .inl rfl
  | a :: b :: c :: rest =>
      have boundA : a.toNat < 256 := a.toNat_lt
      have boundB : b.toNat < 256 := b.toNat_lt
      have boundC : c.toNat < 256 := c.toNat_lt
      intro other member
      rw [encode_cons_cons_cons] at member
      simp only [List.mem_cons] at member
      rcases member with rfl | rfl | rfl | rfl | member
      · exact .inr ⟨_, by omega, rfl⟩
      · exact .inr ⟨_, by omega, rfl⟩
      · exact .inr ⟨_, by omega, rfl⟩
      · exact .inr ⟨_, by omega, rfl⟩
      · exact mem_encode rest other member

theorem forall_mem_encode {p : Char → Prop} (padding : p '=')
    (digits : ∀ value < 64, p (digit value)) (bytes : Bytes) : ∀ c ∈ encode bytes, p c := by
  intro c member
  rcases mem_encode bytes c member with rfl | ⟨value, small, rfl⟩
  · exact padding
  · exact digits value small

/-! ### Groups -/

theorem encode_append (front back : Bytes) (whole : front.length % 3 = 0) :
    encode (front ++ back) = encode front ++ encode back := by
  match front with
  | [] => rfl
  | [_] | [_, _] => simp at whole
  | a :: b :: c :: rest =>
      have shorter : rest.length % 3 = 0 := by
        simp only [List.length_cons] at whole
        omega
      simp only [List.cons_append, encode_cons_cons_cons, encode_append rest back shorter]

theorem length_encode_of_whole (bytes : Bytes) (whole : bytes.length % 3 = 0) :
    3 * (encode bytes).length = 4 * bytes.length := by
  match bytes with
  | [] => rfl
  | [_] | [_, _] => simp at whole
  | a :: b :: c :: rest =>
      have shorter : rest.length % 3 = 0 := by
        simp only [List.length_cons] at whole
        omega
      have ih := length_encode_of_whole rest shorter
      simp only [encode_cons_cons_cons, List.length_cons]
      omega

theorem padding_mem_encode (bytes : Bytes) (broken : bytes.length % 3 ≠ 0) :
    '=' ∈ encode bytes := by
  match bytes with
  | [] => simp at broken
  | [_] | [_, _] => simp [encode]
  | a :: b :: c :: rest =>
      have shorter : rest.length % 3 ≠ 0 := by
        simp only [List.length_cons] at broken
        omega
      rw [encode_cons_cons_cons]
      simp only [List.mem_cons]
      exact .inr (.inr (.inr (.inr (padding_mem_encode rest shorter))))

theorem decode_of_dollar (rest : List Char) : decode ('$' :: rest) = none := by
  have unknown : value? '$' = none := by decide
  simp only [decode, scan, unknown]
  rfl

end TxTemplate.Base64
