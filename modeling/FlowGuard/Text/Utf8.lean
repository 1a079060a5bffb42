/-!
Reading UTF-8. A byte sequence is cut into characters and broken stretches; a broken stretch is the
longest start of a character that the bytes allow, or a single byte that starts none.
-/

namespace FlowGuard.Utf8

/-- For the first byte of a longer character: how many bytes follow, the bits it contributes, and the
range of the second byte. -/
def lead? (b : UInt8) : Option (Nat × Nat × UInt8 × UInt8) :=
  if 0xC2 ≤ b ∧ b ≤ 0xDF then some (1, b.toNat - 0xC0, 0x80, 0xBF)
  else if b = 0xE0 then some (2, 0, 0xA0, 0xBF)
  else if b = 0xED then some (2, 0xD, 0x80, 0x9F)
  else if 0xE1 ≤ b ∧ b ≤ 0xEF then some (2, b.toNat - 0xE0, 0x80, 0xBF)
  else if b = 0xF0 then some (3, 0, 0x90, 0xBF)
  else if 0xF1 ≤ b ∧ b ≤ 0xF3 then some (3, b.toNat - 0xF0, 0x80, 0xBF)
  else if b = 0xF4 then some (3, 4, 0x80, 0x8F)
  else none

/-- Reads the bytes that follow a first byte: the code point, or nothing if one is missing, and the
bytes behind those that fit. -/
def follow : Nat → UInt8 → UInt8 → Nat → List UInt8 → Option Nat × List UInt8
  | 0, _, _, code, rest => (some code, rest)
  | _ + 1, _, _, _, [] => (none, [])
  | n + 1, lo, hi, code, b :: rest =>
    if lo ≤ b ∧ b ≤ hi then follow n 0x80 0xBF (code * 64 + (b.toNat - 0x80)) rest
    else (none, b :: rest)

/-- The first character, or nothing for a broken stretch, and the bytes behind it. -/
def step (b : UInt8) (rest : List UInt8) : Option Char × List UInt8 :=
  if b < 0x80 then (some (Char.ofNat b.toNat), rest)
  else
    match lead? b with
    | none => (none, rest)
    | some (count, bits, lo, hi) =>
      match follow count lo hi bits rest with
      | (some code, after) => (some (Char.ofNat code), after)
      | (none, after) => (none, after)

/-- Characters and broken stretches in order; the fuel is at least the number of bytes. -/
def pieces : Nat → List UInt8 → List (Option Char)
  | 0, _ => []
  | _ + 1, [] => []
  | fuel + 1, b :: rest =>
    let (c, after) := step b rest
    c :: pieces fuel after

def decode? (bytes : List UInt8) : Option String :=
  ((pieces bytes.length bytes).mapM id).map String.ofList

/-- The text with U+FFFD for every broken stretch. -/
def decodeLossy (bytes : List UInt8) : String :=
  String.ofList ((pieces bytes.length bytes).map fun c => c.getD '�')

end FlowGuard.Utf8
