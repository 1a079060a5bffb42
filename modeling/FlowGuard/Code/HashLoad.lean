import FlowGuard.Guard.Entry
import FlowGuard.LittleEndian

/-!
Hash loads: places in code where a known byte signature is followed by the eight bytes of a hash.
A scan goes from left to right, from hit to hit. Behind a hit it goes on right after the signature, or
after the hash as well when that is skipped, so that a chance hit hides nothing that follows.
-/

namespace FlowGuard

/-- A signature found at `offset` and the hash behind it, without its lowest bit. -/
structure HashLoad where
  offset : Nat
  hash : UInt64
  deriving DecidableEq, Repr

namespace HashLoad

/-- The masked hash behind a signature at the start of `code`, if there is one. -/
def at? (signature code : List UInt8) : Option UInt64 :=
  if signature.isPrefixOf code then
    let bytes := (code.drop signature.length).take hashSize
    if bytes.length = hashSize then some (maskHash (UInt64.ofNat (LittleEndian.decode bytes)))
    else none
  else none

/-- The first place from `offset` on where the signature stands. -/
def firstFrom? (signature : List UInt8) (offset : Nat) : List UInt8 → Option Nat
  | [] => if signature.isPrefixOf [] then some offset else none
  | b :: rest =>
    if signature.isPrefixOf (b :: rest) then some offset else firstFrom? signature (offset + 1) rest

theorem le_of_firstFrom? {signature code : List UInt8} {offset place : Nat}
    (h : firstFrom? signature offset code = some place) : offset ≤ place := by
  induction code generalizing offset with
  | nil =>
    rw [firstFrom?] at h
    split at h
    · exact Nat.le_of_eq (Option.some.inj h)
    · cases h
  | cons b rest ih =>
    rw [firstFrom?] at h
    split at h
    · exact Nat.le_of_eq (Option.some.inj h)
    · exact Nat.le_of_succ_le (ih h)

theorem length_le_of_at? {signature code : List UInt8} {hash : UInt64} (h : at? signature code = some hash) :
    signature.length + hashSize ≤ code.length := by
  simp only [at?] at h
  split at h
  · split at h
    case isTrue hlen =>
      simp only [List.length_take, List.length_drop, hashSize] at hlen ⊢
      omega
    case isFalse => cases h
  · cases h

/-- Where a scan goes on, and where the hash of its last hit ends. -/
structure Scan where
  position : Nat := 0
  hashEnd : Nat := 0
  deriving DecidableEq, Repr

namespace Scan

/-- The next hit. A scan without one stays as it is: a signature too close to the end of the code is the last thing
that it finds. -/
def next (signature code : List UInt8) (s : Scan) : Option HashLoad × Scan :=
  if signature = [] then (none, s)
  else
    match firstFrom? signature s.position (code.drop s.position) with
    | none => (none, s)
    | some offset =>
      match at? signature (code.drop offset) with
      | none => (none, s)
      | some hash =>
        (some { offset, hash },
          { position := offset + signature.length, hashEnd := offset + signature.length + hashSize })

def skipHash (s : Scan) : Scan :=
  { s with position := max s.position s.hashEnd }

theorem position_le_skipHash (s : Scan) : s.position ≤ s.skipHash.position :=
  Nat.le_max_left _ _

/-- A call that finds something goes on, and stays inside the code. -/
theorem position_of_next {signature code : List UInt8} {s s' : Scan} {hit : HashLoad}
    (h : s.next signature code = (some hit, s')) : s.position < s'.position ∧ s'.position ≤ code.length := by
  unfold next at h
  by_cases hne : signature = []
  · simp [hne] at h
  · have hpos : 0 < signature.length := List.length_pos_iff.mpr hne
    rw [if_neg hne] at h
    cases hf : firstFrom? signature s.position (code.drop s.position) with
    | none => simp [hf] at h
    | some offset =>
      cases ha : at? signature (code.drop offset) with
      | none => simp [hf, ha] at h
      | some hash =>
        have hle := le_of_firstFrom? hf
        have hroom := length_le_of_at? ha
        rw [List.length_drop, hashSize] at hroom
        simp only [hf, ha, Prod.mk.injEq] at h
        obtain ⟨-, rfl⟩ := h
        simp only
        omega

end Scan

end HashLoad

end FlowGuard
