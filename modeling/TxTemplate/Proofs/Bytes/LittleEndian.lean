import Mathlib.Algebra.Group.Nat.Defs
import TxTemplate.Bytes.LittleEndian

set_option autoImplicit false

/-! Words read back as the numbers they were written from, as far as these fit, and every byte
string is a word of its own length. -/

namespace TxTemplate.LittleEndian

theorem length_encode (width n : Nat) : (encode width n).length = width := by
  induction width generalizing n with
  | zero => rfl
  | succ width ih => simp [encode, ih]

theorem decode_encode (width n : Nat) (fits : n < 256 ^ width) : decode (encode width n) = n := by
  induction width generalizing n with
  | zero => simp_all [encode, decode]
  | succ width ih =>
      have smaller : n / 256 < 256 ^ width := by
        apply Nat.div_lt_of_lt_mul
        rw [Nat.pow_succ] at fits
        omega
      simp only [encode, decode, ih (n / 256) smaller, UInt8.toNat_ofNat']
      omega

theorem decode_lt (bytes : Bytes) : decode bytes < 256 ^ bytes.length := by
  induction bytes with
  | nil => simp [decode]
  | cons byte rest ih =>
      have small : byte.toNat < 256 := byte.toNat_lt
      simp only [decode, List.length_cons, Nat.pow_succ]
      omega

theorem encode_decode (bytes : Bytes) : encode bytes.length (decode bytes) = bytes := by
  induction bytes with
  | nil => rfl
  | cons byte rest ih =>
      have small : byte.toNat < 256 := byte.toNat_lt
      have quotient : (byte.toNat + 256 * decode rest) / 256 = decode rest := by omega
      have first : UInt8.ofNat (byte.toNat + 256 * decode rest) = byte := by
        apply UInt8.toNat_inj.1
        rw [UInt8.toNat_ofNat']
        omega
      simp only [List.length_cons, encode, decode, quotient, ih, first]

end TxTemplate.LittleEndian
