import FlowGuard.LittleEndian
import Mathlib.Algebra.Group.Nat.Defs

/-!
Little-endian numbers read back: `decode` undoes `encode` up to the width, and `encode` undoes `decode`.
-/

namespace FlowGuard.LittleEndian

theorem decode_lt (bytes : List UInt8) : decode bytes < 256 ^ bytes.length := by
  induction bytes with
  | nil => simp
  | cons b rest ih =>
    have hb := b.toNat_lt
    rw [decode_cons, List.length_cons, Nat.pow_succ]
    omega

theorem encode_decode (bytes : List UInt8) : encode bytes.length (decode bytes) = bytes := by
  induction bytes with
  | nil => rfl
  | cons b rest ih =>
    have hb := b.toNat_lt
    have hdiv : (b.toNat + 256 * decode rest) / 256 = decode rest := by omega
    have hlow : UInt8.ofNat (b.toNat + 256 * decode rest) = b := by
      rw [← UInt8.toNat_inj, UInt8.toNat_ofNat']
      omega
    rw [decode_cons, List.length_cons, encode_succ, hdiv, hlow, ih]

theorem decode_encode (w n : Nat) : decode (encode w n) = n % 256 ^ w := by
  induction w generalizing n with
  | zero => simp [Nat.mod_one]
  | succ w ih =>
    have hb : (UInt8.ofNat n).toNat = n % 256 := UInt8.toNat_ofNat'
    have hpow : 256 ^ (w + 1) = 256 * 256 ^ w := by rw [Nat.pow_succ, Nat.mul_comm]
    rw [encode_succ, decode_cons, ih, hb, hpow, Nat.mod_mul]

theorem decode_encode_of_lt (w n : Nat) (h : n < 256 ^ w) : decode (encode w n) = n := by
  rw [decode_encode, Nat.mod_eq_of_lt h]

/-- Eight bytes are the encoding of the number they spell. -/
theorem encode_ofNat_decode (bytes : List UInt8) (h : bytes.length = 8) :
    encode 8 (UInt64.ofNat (decode bytes)).toNat = bytes := by
  have hlt := decode_lt bytes
  rw [h] at hlt
  rw [UInt64.toNat_ofNat', Nat.mod_eq_of_lt (by omega), ← h, encode_decode]

theorem ofNat_decode_encode (n : UInt64) : UInt64.ofNat (decode (encode 8 n.toNat)) = n := by
  have hlt := n.toNat_lt
  rw [decode_encode_of_lt 8 n.toNat (by omega), UInt64.ofNat_toNat]

end FlowGuard.LittleEndian
