/-!
Little-endian numbers. `decode` reads the bytes of a number, least significant first, and `encode w n`
writes the `w` lowest bytes of `n`.
-/

namespace FlowGuard.LittleEndian

/-- The number spelled by the bytes, least significant first. -/
def decode : List UInt8 → Nat
  | [] => 0
  | b :: rest => b.toNat + 256 * decode rest

/-- The `w` lowest bytes of `n`, least significant first. -/
def encode : Nat → Nat → List UInt8
  | 0, _ => []
  | w + 1, n => UInt8.ofNat n :: encode w (n / 256)

@[simp] theorem decode_nil : decode [] = 0 := rfl

@[simp] theorem decode_cons (b : UInt8) (rest : List UInt8) :
    decode (b :: rest) = b.toNat + 256 * decode rest := rfl

@[simp] theorem encode_zero (n : Nat) : encode 0 n = [] := rfl

@[simp] theorem encode_succ (w n : Nat) :
    encode (w + 1) n = UInt8.ofNat n :: encode w (n / 256) := rfl

@[simp] theorem length_encode (w n : Nat) : (encode w n).length = w := by
  induction w generalizing n with
  | zero => rfl
  | succ w ih => simp [ih]

end FlowGuard.LittleEndian
