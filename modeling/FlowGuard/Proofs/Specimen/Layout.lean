import FlowGuard.Image.Specimen
import FlowGuard.Proofs.Memory.Update
import FlowGuard.Proofs.Patches
import Mathlib.Algebra.Group.Nat.Defs

/-!
The layout of a specimen. Headers, load configuration and guard table lie one behind the other; stored hashes
and code go wherever they are asked for. As long as these spare what is read, every field of the layout can
be read back, from the file and from the mapped image alike.
-/

namespace FlowGuard.Specimen

open Bytes

def laidOut (s : Specimen) : List (Nat × List UInt8) :=
  s.headerPatches ++ s.directoryPatches ++ s.sectionTablePatches ++ s.configPatches
    ++ slotPatches s.metadataSize.toNat tableRva s.slots

def placed (s : Specimen) : List (Nat × List UInt8) :=
  s.hashPatches ++ s.codePatches

/-- No byte of a stored hash or of code is placed below the bound. -/
def SparesBelow (s : Specimen) (bound : Nat) : Prop :=
  ∀ p ∈ s.placed, ∀ i, Covers s.imageSize p i → bound ≤ i

theorem sparesBelow_of_le {s : Specimen} {bound : Nat} (h : ∀ p ∈ s.placed, bound ≤ p.1) :
    s.SparesBelow bound :=
  fun p hp _ hc => Nat.le_trans (h p hp) hc.2.1

theorem SparesBelow.mono {s : Specimen} {bound bound' : Nat} (h : s.SparesBelow bound)
    (hle : bound' ≤ bound) : s.SparesBelow bound' :=
  fun p hp i hc => Nat.le_trans hle (h p hp i hc)

theorem file_eq (s : Specimen) :
    s.file = putAll (Array.replicate s.imageSize 0) (s.laidOut ++ s.placed) := by
  simp [file, putAll, patches, laidOut, placed]

@[simp] theorem size_file (s : Specimen) : s.file.size = s.imageSize := by
  rw [file_eq, size_putAll, Array.size_replicate]

theorem ascends_slotPatches (metadata offset : Nat) (slots : List (UInt32 × UInt8)) :
    Ascends offset (slotPatches metadata offset slots) := by
  induction slots generalizing offset with
  | nil => trivial
  | cons slot rest ih =>
    have hrest := ih (offset + 4 + metadata)
    by_cases hm : 0 < metadata
    · simp only [slotPatches, hm, if_true, long, List.cons_append, List.nil_append, Ascends,
        LittleEndian.length_encode, List.length_cons, List.length_nil]
      exact ⟨Nat.le_refl _, Nat.le_refl _, hrest.mono (by omega)⟩
    · simp only [slotPatches, hm, if_false, long, List.cons_append, List.nil_append, Ascends,
        LittleEndian.length_encode]
      exact ⟨Nat.le_refl _, hrest.mono (by omega)⟩

/-- What comes in front of the guard table keeps clear of whatever starts there. -/
theorem ascends_front (s : Specimen) (rest : List (Nat × List UInt8)) (hrest : Ascends tableRva rest) :
    Ascends 0 (s.headerPatches ++ s.directoryPatches ++ s.sectionTablePatches ++ s.configPatches ++ rest) := by
  cases hw : s.width <;> cases hc : s.hasLoadConfig <;>
    simp [headerPatches, directoryPatches, sectionTablePatches, sectionPatches, configPatches,
      hw, hc, Ascends, short, long, ntOffset, loadConfigRva, codeRva, Header.ntOffsetField,
      Header.loadConfigIndex, Header.directoryEntrySize, Width.ntPreamble, Width.optionalHeaderSize,
      Width.countOffset, Width.directoriesOffset, Width.guardOffset, Width.pointerSize] <;>
    exact hrest.mono (by simp [tableRva])

theorem ascends_laidOut (s : Specimen) : Ascends 0 s.laidOut :=
  s.ascends_front _ (ascends_slotPatches s.metadataSize.toNat tableRva s.slots)

/-- A patch of the layout that fits and is spared can be read back. -/
theorem part_file_of_mem (s : Specimen) (p : Nat × List UInt8) (hp : p ∈ s.laidOut)
    (hfit : p.1 + p.2.length ≤ s.imageSize) (hs : s.SparesBelow (p.1 + p.2.length)) :
    part s.file p.1 p.2.length = p.2 := by
  have hsize : (Array.replicate s.imageSize (0 : UInt8)).size = s.imageSize := Array.size_replicate
  rw [file_eq]
  apply part_putAll_of_mem _ _ _ 0 s.ascends_laidOut p hp
  · rwa [hsize]
  · rw [hsize]
    intro q hq i hc hin
    have := hs q hq i hc
    omega

/-- What is placed can be read back, unless something placed later lies over it. -/
theorem part_file_of_placed (s : Specimen) (before later : List (Nat × List UInt8)) (p : Nat × List UInt8)
    (hp : s.placed = before ++ p :: later) (hfit : p.1 + p.2.length ≤ s.imageSize)
    (hl : ∀ q ∈ later, q.1 + q.2.length ≤ p.1 ∨ p.1 + p.2.length ≤ q.1) :
    part s.file p.1 p.2.length = p.2 := by
  have hsize : (putAll (Array.replicate s.imageSize (0 : UInt8)) (s.laidOut ++ before)).size = s.imageSize := by
    rw [size_putAll, Array.size_replicate]
  rw [file_eq, hp, ← List.append_assoc, putAll_append]
  apply part_putAll_of_mem _ [p] later p.1 ⟨Nat.le_refl _, trivial⟩ p (List.mem_singleton_self p)
  · rwa [hsize]
  · intro q hq i hc hin
    have := hl q hq
    have := hc.2
    omega

/-- A number of the layout that fits and is spared can be read back. -/
theorem decode_part_of_mem (s : Specimen) (offset count n : Nat)
    (hp : (offset, LittleEndian.encode count n) ∈ s.laidOut) (hn : n < 256 ^ count)
    (hfit : offset + count ≤ s.imageSize) (hs : s.SparesBelow (offset + count)) :
    LittleEndian.decode (part s.file offset count) = n := by
  have h := part_file_of_mem s _ hp (by simpa using hfit) (by simpa using hs)
  rw [LittleEndian.length_encode] at h
  rw [h, LittleEndian.decode_encode_of_lt count n hn]

/-- What lies between the patches is zero. -/
theorem part_file_of_gap (s : Specimen) (offset count : Nat) (hfit : offset + count ≤ s.imageSize)
    (hs : s.SparesBelow (offset + count))
    (hgap : ∀ p ∈ s.laidOut, p.1 + p.2.length ≤ offset ∨ offset + count ≤ p.1) :
    part s.file offset count = List.replicate count 0 := by
  have hsize : (Array.replicate s.imageSize (0 : UInt8)).size = s.imageSize := Array.size_replicate
  rw [file_eq, part_putAll_of_gap]
  · simp only [part, Array.toList_replicate, List.drop_replicate, List.take_replicate]
    congr 1
    omega
  · rw [hsize]
    intro p hp i hc
    rcases List.mem_append.mp hp with hp | hp
    · have := hgap p hp
      have := hc.2
      omega
    · have := hs p hp i hc
      omega

/-- The image has room for everything in front of its code. -/
theorem le_imageSize (s : Specimen) {n : Nat} (h : n ≤ codeRva) : n ≤ s.imageSize :=
  Nat.le_trans h (Nat.le_add_right _ _)

theorem codeBytes_pos (s : Specimen) : 0 < s.codeBytes := by
  unfold codeBytes
  omega

theorem codeBytes_aligned (s : Specimen) : ∃ n, s.codeBytes = n * 0x1000 := ⟨_, rfl⟩

theorem codeBytes_le (s : Specimen) : s.codeBytes ≤ 2 ^ 32 := by
  have := s.codeSize.toNat_lt
  unfold codeBytes
  omega

end FlowGuard.Specimen
