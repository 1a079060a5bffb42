import FlowGuard.Image.Specimen
import Mathlib.Algebra.Group.Nat.Defs

/-!
Specimens described step by step. Whatever the calls, the metadata size stays below sixteen and the flags leave
the four bits above them free; the slots of the table are the function calls in order.
-/

namespace FlowGuard.Specimen

inductive Call where
  | metadataSize (n : UInt8)
  | flags (flags : UInt32)
  | codeSize (n : UInt32)
  | directoryCount (n : UInt32)
  | noLoadConfig
  | declaredSize (n : UInt32)
  | hashedFunction (rva : UInt32) (hash : UInt64)
  | plainFunction (rva : UInt32)
  | code (rva : UInt32) (bytes : List UInt8)
  | hashLoad (rva : UInt32) (hash : UInt64)
  | symbol (rva : UInt32) (name : String)
  deriving DecidableEq, Repr

namespace Call

def apply (s : Specimen) : Call → Specimen
  | metadataSize n => s.withMetadataSize n
  | flags f => s.withFlags f
  | codeSize n => s.withCodeSize n
  | directoryCount n => s.withDirectoryCount n
  | noLoadConfig => s.withoutLoadConfig
  | declaredSize n => s.withDeclaredSize n
  | hashedFunction rva hash => s.hashedFunction rva hash
  | plainFunction rva => s.plainFunction rva
  | code rva bytes => s.withCode rva bytes
  | hashLoad rva hash => s.hashLoad rva hash
  | symbol rva name => s.withSymbol rva name

def slot? : Call → Option (UInt32 × UInt8)
  | hashedFunction rva _ => some (rva, 0x08)
  | plainFunction rva => some (rva, 0)
  | _ => none

def hashed? : Call → Option UInt32
  | hashedFunction rva _ => some rva
  | _ => none

end Call

def made (base : Address) (w : Width) (calls : List Call) : Specimen :=
  calls.foldl Call.apply { base, width := w }

/-- What every description keeps. -/
structure WellMade (s : Specimen) : Prop where
  metadata : s.metadataSize.toNat < 16
  flags : s.flags.toNat < 2 ^ 28

theorem wellMade_apply {s : Specimen} (h : s.WellMade) (c : Call) : (c.apply s).WellMade := by
  cases c with
  | metadataSize n =>
    refine ⟨?_, h.flags⟩
    show (n &&& 0x0F).toNat < 16
    rw [UInt8.toNat_and]
    exact Nat.lt_of_le_of_lt Nat.and_le_right (by decide)
  | flags f =>
    refine ⟨h.metadata, ?_⟩
    show (f &&& 0x0FFFFFFF).toNat < 2 ^ 28
    rw [UInt32.toNat_and]
    exact Nat.lt_of_le_of_lt Nat.and_le_right (by decide)
  | _ => exact ⟨h.metadata, h.flags⟩

theorem wellMade_foldl {s : Specimen} (h : s.WellMade) (calls : List Call) :
    (calls.foldl Call.apply s).WellMade := by
  induction calls generalizing s with
  | nil => exact h
  | cons c calls ih => exact ih (wellMade_apply h c)

theorem wellMade_made (base : Address) (w : Width) (calls : List Call) : (made base w calls).WellMade :=
  wellMade_foldl ⟨show (1 : UInt8).toNat < 16 by decide, show (0x00800500 : UInt32).toNat < 2 ^ 28 by decide⟩
    calls

theorem place_foldl (s : Specimen) (calls : List Call) :
    (calls.foldl Call.apply s).base = s.base ∧ (calls.foldl Call.apply s).width = s.width := by
  induction calls generalizing s with
  | nil => exact ⟨rfl, rfl⟩
  | cons c calls ih =>
    obtain ⟨hb, hw⟩ := ih (c.apply s)
    rw [List.foldl_cons, hb, hw]
    cases c <;> exact ⟨rfl, rfl⟩

@[simp] theorem base_made (base : Address) (w : Width) (calls : List Call) :
    (made base w calls).base = base := (place_foldl _ calls).1

@[simp] theorem width_made (base : Address) (w : Width) (calls : List Call) :
    (made base w calls).width = w := (place_foldl _ calls).2

theorem slots_apply (s : Specimen) (c : Call) : (c.apply s).slots = s.slots ++ c.slot?.toList := by
  cases c with
  | hashedFunction rva hash => rfl
  | plainFunction rva => rfl
  | _ => exact (List.append_nil _).symm

theorem slots_foldl (s : Specimen) (calls : List Call) :
    (calls.foldl Call.apply s).slots = s.slots ++ calls.filterMap Call.slot? := by
  induction calls generalizing s with
  | nil => simp
  | cons c calls ih =>
    rw [List.foldl_cons, ih, slots_apply, List.append_assoc]
    cases hc : c.slot? <;> simp [hc]

theorem slots_made (base : Address) (w : Width) (calls : List Call) :
    (made base w calls).slots = calls.filterMap Call.slot? := by
  rw [made, slots_foldl, List.nil_append]

end FlowGuard.Specimen
