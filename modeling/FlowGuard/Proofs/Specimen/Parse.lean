import FlowGuard.Image.Symbols
import FlowGuard.Proofs.SectionMapping
import FlowGuard.Proofs.Specimen.Layout

/-!
The file of a specimen read as an image file: its headers give back the base, the width and the two sections,
and it has neither exports nor a symbol table.
-/

namespace FlowGuard.Specimen

open Bytes

def dataSection : SectionHeader where
  rawName := [0x2E, 0x72, 0x64, 0x61, 0x74, 0x61, 0, 0]
  virtualSize := 0xF000
  virtualAddress := 0x1000
  rawSize := 0xF000
  rawOffset := 0x1000
  characteristics := 0x40000040

def codeSection (s : Specimen) : SectionHeader where
  rawName := [0x2E, 0x74, 0x65, 0x78, 0x74, 0, 0, 0]
  virtualSize := UInt32.ofNat s.codeBytes
  virtualAddress := 0x10000
  rawSize := UInt32.ofNat s.codeBytes
  rawOffset := 0x10000
  characteristics := 0x60000020

section Headers

variable {s : Specimen} (hs : s.SparesBelow 0x1000)
include hs

theorem decode_header {offset count n : Nat} (hp : (offset, LittleEndian.encode count n) ∈ s.laidOut)
    (hn : n < 256 ^ count) (hend : offset + count ≤ 0x1000) :
    LittleEndian.decode (part s.file offset count) = n := by
  have hbig : 0x1000 ≤ s.imageSize := s.le_imageSize (by decide)
  exact decode_part_of_mem s offset count n hp hn (by omega)
    (hs.mono hend)

/-- A row of the section table, given its patches. -/
theorem ofBytes_row (start : Nat) (name : List UInt8) (rva size flags : Nat)
    (hp : ∀ p ∈ sectionPatches start name rva size flags, p ∈ s.laidOut) (hname : name.length = 8)
    (hrva : rva < 2 ^ 32) (hsize : size < 2 ^ 32) (hflags : flags < 2 ^ 32) (hend : start + 40 ≤ 0x1000) :
    SectionHeader.ofBytes (part s.file start 40) = {
      rawName := name
      virtualSize := UInt32.ofNat size
      virtualAddress := UInt32.ofNat rva
      rawSize := UInt32.ofNat size
      rawOffset := UInt32.ofNat rva
      characteristics := UInt32.ofNat flags } := by
  have hbig : 0x1000 ≤ s.imageSize := s.le_imageSize (by decide)
  have hrow : part s.file start 8 = name := by
    have h := part_file_of_mem s (start, name) (hp _ (by simp [sectionPatches]))
      (by simp only [hname]; omega) (hs.mono (by simp only [hname]; omega))
    rwa [hname] at h
  have h₈ := decode_header hs (hp (long (start + 8) size) (by simp [sectionPatches])) hsize (by omega)
  have h₁₂ := decode_header hs (hp (long (start + 12) rva) (by simp [sectionPatches])) hrva (by omega)
  have h₁₆ := decode_header hs (hp (long (start + 16) size) (by simp [sectionPatches])) hsize (by omega)
  have h₂₀ := decode_header hs (hp (long (start + 20) rva) (by simp [sectionPatches])) hrva (by omega)
  have h₃₆ := decode_header hs (hp (long (start + 36) flags) (by simp [sectionPatches])) hflags (by omega)
  simp only [SectionHeader.ofBytes, take_part _ _ _ _ (show 8 ≤ 40 by decide), hrow,
    field_part s.file start 40 _ _ (show 8 + 4 ≤ 40 by decide),
    field_part s.file start 40 _ _ (show 12 + 4 ≤ 40 by decide),
    field_part s.file start 40 _ _ (show 16 + 4 ≤ 40 by decide),
    field_part s.file start 40 _ _ (show 20 + 4 ≤ 40 by decide),
    field_part s.file start 40 _ _ (show 36 + 4 ≤ 40 by decide), h₈, h₁₂, h₁₆, h₂₀, h₃₆]

theorem signature_part : part s.file 0 2 = [0x4D, 0x5A] ∧ part s.file ntOffset 4 = [0x50, 0x45, 0, 0] := by
  have hbig : 0x1000 ≤ s.imageSize := s.le_imageSize (by decide)
  constructor
  · exact part_file_of_mem s (0, [0x4D, 0x5A]) (by simp [laidOut, headerPatches])
      (Nat.le_trans (by decide) hbig) (hs.mono (by decide))
  · exact part_file_of_mem s (ntOffset, [0x50, 0x45, 0, 0]) (by simp [laidOut, headerPatches])
      (Nat.le_trans (by decide) hbig) (hs.mono (by decide))

theorem ntOffset_field : LittleEndian.decode (part s.file 0x3C 4) = ntOffset :=
  decode_header hs (by simp [laidOut, headerPatches, long, Header.ntOffsetField]) (by decide) (by decide)

theorem widthOfMagic?_field :
    ImageFile.widthOfMagic? (LittleEndian.decode (part s.file (ntOffset + 24) 2)) = some s.width := by
  cases hw : s.width with
  | bits32 =>
    have hp : short (ntOffset + 24) 0x10B ∈ s.laidOut := by
      simp [laidOut, headerPatches, hw, Width.ntPreamble]
    rw [decode_header hs hp (by decide) (by decide)]
    rfl
  | bits64 =>
    have hp : short (ntOffset + 24) 0x20B ∈ s.laidOut := by
      simp [laidOut, headerPatches, hw, Width.ntPreamble]
    rw [decode_header hs hp (by decide) (by decide)]
    rfl

theorem machine_field :
    (Machine.ofCode (LittleEndian.decode (part s.file (ntOffset + 4) 2))).width? = some s.width := by
  cases hw : s.width with
  | bits32 =>
    have hp : short (ntOffset + 4) 0x14C ∈ s.laidOut := by simp [laidOut, headerPatches, hw]
    rw [decode_header hs hp (by decide) (by decide)]
    rfl
  | bits64 =>
    have hp : short (ntOffset + 4) 0x8664 ∈ s.laidOut := by simp [laidOut, headerPatches, hw]
    rw [decode_header hs hp (by decide) (by decide)]
    rfl

theorem sectionCount_field : LittleEndian.decode (part s.file (ntOffset + 6) 2) = 2 := by
  have hp : short (ntOffset + 6) 2 ∈ s.laidOut := by simp [laidOut, headerPatches]
  exact decode_header hs hp (by decide) (by decide)

theorem optionalSize_field :
    LittleEndian.decode (part s.file (ntOffset + 20) 2) = s.width.optionalHeaderSize := by
  have hp : short (ntOffset + 20) s.width.optionalHeaderSize ∈ s.laidOut := by simp [laidOut, headerPatches]
  exact decode_header hs hp (by cases s.width <;> decide) (by decide)

theorem directoryCount_field :
    LittleEndian.decode (part s.file (ntOffset + s.width.countOffset) 4) = s.directoryCount.toNat := by
  have hp : long (ntOffset + s.width.countOffset) s.directoryCount.toNat ∈ s.laidOut := by
    simp [laidOut, headerPatches]
  exact decode_header hs hp s.directoryCount.toNat_lt (by cases s.width <;> decide)

theorem imageBase_field (hlow : s.width = .bits32 → s.base.toNat < 2 ^ 32) :
    ImageFile.imageBase s.width (part s.file (ntOffset + 24) (ImageFile.optionalFixed s.width)) = s.base := by
  cases hw : s.width with
  | bits32 =>
    have hp : long (ntOffset + 24 + 28) s.base.toNat ∈ s.laidOut := by
      simp [laidOut, headerPatches, hw, Width.ntPreamble]
    rw [ImageFile.imageBase, field_part _ _ _ _ _ (by decide),
      decode_header hs hp (hlow hw) (by decide), UInt64.ofNat_toNat]
  | bits64 =>
    have hp : (ntOffset + 24 + 24, LittleEndian.encode 8 s.base.toNat) ∈ s.laidOut := by
      simp [laidOut, headerPatches, hw, Width.ntPreamble]
    rw [ImageFile.imageBase, field_part _ _ _ _ _ (by decide),
      decode_header hs hp s.base.toNat_lt (by decide), UInt64.ofNat_toNat]

/-- Numbers between the patches of the headers are zero. -/
theorem decode_gap {offset count : Nat} (hend : offset + count ≤ 0x1000)
    (hheaders : ∀ p ∈ s.headerPatches ++ s.directoryPatches ++ s.sectionTablePatches,
      p.1 + p.2.length ≤ offset ∨ offset + count ≤ p.1) :
    LittleEndian.decode (part s.file offset count) = 0 := by
  have hbig : 0x1000 ≤ s.imageSize := s.le_imageSize (by decide)
  rw [part_file_of_gap s offset count (by omega) (hs.mono hend)]
  · clear hheaders hend
    induction count with
    | zero => rfl
    | succ count ih => simp [List.replicate_succ, ih]
  · intro p hp
    simp only [laidOut, List.append_assoc] at hp
    rw [← List.append_assoc, ← List.append_assoc] at hp
    rcases List.mem_append.mp hp with hp | hp
    · exact hheaders p (by simpa [List.append_assoc] using hp)
    · refine .inr (Nat.le_trans hend ?_)
      rcases List.mem_append.mp hp with hp | hp
      · simp only [configPatches, long, List.mem_cons, List.not_mem_nil, or_false] at hp
        rcases hp with rfl | rfl
        · exact Nat.le_refl _
        · exact Nat.le_add_right _ _
      · exact Nat.le_trans (by decide)
          ((ascends_slotPatches s.metadataSize.toNat tableRva s.slots).bound_le p hp)

/-- The file has no symbol table, and the data directory of its exports is empty. -/
theorem absent_fields : LittleEndian.decode (part s.file (ntOffset + 12) 4) = 0 ∧
    LittleEndian.decode (part s.file (ntOffset + 24 + ImageFile.optionalFixed s.width) 4) = 0 := by
  constructor
  all_goals
    apply decode_gap hs (by cases s.width <;> decide)
    -- where the patches lie does not depend on their bytes
    rw [← List.forall_mem_map (f := fun p : Nat × List UInt8 => (p.1, p.2.length))
      (P := fun q => q.1 + q.2 ≤ _ ∨ _ ≤ q.1)]
    cases hw : s.width <;> cases hc : s.hasLoadConfig
    all_goals
      simp only [headerPatches, directoryPatches, sectionTablePatches, sectionPatches, short, long, hw, hc, if_true,
        Bool.false_eq_true, if_false, List.append_nil, List.cons_append, List.nil_append, List.map_cons, List.map_nil,
        LittleEndian.length_encode]
      decide

/-- The section table. -/
theorem sectionTable_field (hcode : s.codeBytes < 2 ^ 32) :
    ImageFile.sectionTable? s.file (ntOffset + 24 + s.width.optionalHeaderSize) 2 =
      some [dataSection, s.codeSection] := by
  let start := ntOffset + 24 + s.width.optionalHeaderSize
  have hend : start + 80 ≤ 0x1000 := by
    show ntOffset + 24 + s.width.optionalHeaderSize + 80 ≤ 0x1000
    cases s.width <;> decide
  have hbig : 0x1000 ≤ s.imageSize := s.le_imageSize (by decide)
  have hlaid : ∀ p ∈ s.sectionTablePatches, p ∈ s.laidOut := by
    intro p hp
    simp [laidOut, hp]
  have hdata := ofBytes_row hs start [0x2E, 0x72, 0x64, 0x61, 0x74, 0x61, 0, 0] loadConfigRva
    (codeRva - loadConfigRva) 0x40000040 (fun p hp => hlaid p (List.mem_append_left _ hp)) rfl (by decide)
    (by decide) (by decide) (by omega)
  have hcode := ofBytes_row hs (start + 40) [0x2E, 0x74, 0x65, 0x78, 0x74, 0, 0, 0] codeRva s.codeBytes
    0x60000020 (fun p hp => hlaid p (List.mem_append_right _ hp)) rfl (by decide) hcode (by decide)
    (by omega)
  have hread : read? s.file start (2 * SectionHeader.size) = some (part s.file start 80) :=
    read?_eq_part s.file start 80 (by rw [size_file]; omega)
  show (read? s.file start (2 * SectionHeader.size)).map _ = _
  rw [hread]
  simp only [Option.map_some, SectionHeader.size, parts, List.map_cons, List.map_nil,
    take_part _ _ _ _ (show 40 ≤ 80 by decide), drop_part, take_part _ _ _ _ (show 40 ≤ 80 - 40 by decide),
    hdata, hcode]
  rfl

/-- The headers of the file: neither exports nor symbols, and the two sections. -/
theorem parseHeaders_file (hcode : s.codeBytes < 2 ^ 32)
    (hlow : s.width = .bits32 → s.base.toNat < 2 ^ 32) (hfew : s.directoryCount.toNat ≤ 16) :
    ∃ f, ImageFile.parseHeaders s.file ntOffset s.width = .ok f ∧ f.file = s.file ∧
      f.machine.width? = some s.width ∧ f.base = s.base ∧ f.sections = [dataSection, s.codeSection] ∧
      (∀ d, f.directories.head? = some d → d.rva = 0) ∧ f.symbolOffset = 0 := by
  have hbig : 0x1000 ≤ s.file.size := by
    rw [size_file]
    exact s.le_imageSize (by decide)
  have hfixed : 96 ≤ ImageFile.optionalFixed s.width ∧ ImageFile.optionalFixed s.width ≤ 112 ∧
      s.width.optionalHeaderSize = ImageFile.optionalFixed s.width + 128 ∧
      s.width.countOffset = 24 + (ImageFile.optionalFixed s.width - 4) := by
    cases s.width <;> decide
  obtain ⟨hmin, hmax, hoptional, hoffset⟩ := hfixed
  have hnt : ntOffset = 0x80 := rfl
  have hpart {k size : Nat} (hk : k + size ≤ 24 + ImageFile.optionalFixed s.width) :=
    field_part s.file ntOffset (24 + ImageFile.optionalFixed s.width) k size hk
  have hdrop : (part s.file ntOffset (24 + ImageFile.optionalFixed s.width)).drop 24 =
      part s.file (ntOffset + 24) (ImageFile.optionalFixed s.width) := by
    rw [drop_part, Nat.add_sub_cancel_left]
  have hsize : field (part s.file ntOffset (24 + ImageFile.optionalFixed s.width)) 20 2 =
      ImageFile.optionalFixed s.width + 128 := by
    rw [hpart (by omega), optionalSize_field hs, hoptional]
  have hcount : field ((part s.file ntOffset (24 + ImageFile.optionalFixed s.width)).drop 24)
      (ImageFile.optionalFixed s.width - 4) 4 = s.directoryCount.toNat := by
    rw [hdrop, field_part _ _ _ _ _ (by omega), Nat.add_assoc, ← hoffset, directoryCount_field hs]
  have hextra := read?_eq_part s.file (ntOffset + 24 + ImageFile.optionalFixed s.width) 128 (by omega)
  have hlength := length_part s.file (ntOffset + 24 + ImageFile.optionalFixed s.width) 128 (by omega)
  have hparse := ImageFile.parseHeaders_eq s.file ntOffset s.width _ _ [dataSection, s.codeSection]
    (slice?_eq_part _ _ _ (by omega)) (by omega) (by rw [hsize, Nat.add_sub_cancel_left]; exact hextra)
    (by rw [hcount, hlength]; omega)
    (by rw [hsize, ← hoptional, hpart (by omega), sectionCount_field hs, sectionTable_field hs hcode])
  refine ⟨_, hparse, ?_, ?_, ?_, ?_, ?_, ?_⟩
  · dsimp only
  · rw [hpart (by omega), machine_field hs]
  · rw [hdrop, imageBase_field hs hlow]
  · dsimp only
  · intro d hd
    rw [hcount] at hd
    cases hn : s.directoryCount.toNat with
    | zero => simp [hn, parts] at hd
    | succ n =>
      simp only [hn, parts, List.map_cons, List.head?_cons, Option.some.injEq] at hd
      subst hd
      rw [take_part _ _ _ _ (by decide), field_part _ _ _ _ _ (by decide), Nat.add_zero,
        (absent_fields hs).2]
      rfl
  · dsimp only
    rw [hpart (by omega), (absent_fields hs).1]
    rfl

/-- The file is read as an image. -/
theorem parse_file (hcode : s.codeBytes < 2 ^ 32) (hlow : s.width = .bits32 → s.base.toNat < 2 ^ 32)
    (hfew : s.directoryCount.toNat ≤ 16) :
    ∃ f, ImageFile.parse s.file = .ok (.image f) ∧ f.file = s.file ∧
      f.machine.width? = some s.width ∧ f.base = s.base ∧ f.sections = [dataSection, s.codeSection] ∧
      (∀ d, f.directories.head? = some d → d.rva = 0) ∧ f.symbolOffset = 0 := by
  have hbig : 0x1000 ≤ s.file.size := by
    rw [size_file]
    exact s.le_imageSize (by decide)
  have hnt : ntOffset = 0x80 := rfl
  have hkind : ImageFile.kind s.file = .image := by
    have hstart : ImageFile.startsWith s.file [0x4D, 0x5A] = true := by
      show (slice? s.file 0 2 == some [0x4D, 0x5A]) = true
      rw [slice?_eq_part _ _ _ (by omega), (signature_part hs).1]
      rfl
    rw [ImageFile.kind, if_pos hstart]
  have hprobe : ImageFile.probe? s.file = some (ntOffset, s.width) := by
    have hfield : field (part s.file 0 64) 0x3C 4 = ntOffset := by
      rw [field_part _ _ _ _ _ (by decide), Nat.zero_add, ntOffset_field hs]
    have hmagic : ImageFile.widthOfMagic? (field (part s.file ntOffset 120) 24 2) = some s.width := by
      rw [field_part _ _ _ _ _ (by decide), widthOfMagic?_field hs]
    simp [ImageFile.probe?, slice?_eq_part s.file 0 64 (by omega), hfield,
      slice?_eq_part s.file ntOffset 120 (by omega), take_part _ _ _ _ (show 4 ≤ 120 by decide),
      (signature_part hs).2, hmagic]
  obtain ⟨f, hf, hrest⟩ := parseHeaders_file hs hcode hlow hfew
  refine ⟨f, ?_, hrest⟩
  rw [ImageFile.parse, if_neg (by omega), hkind]
  simp only [hprobe, hf, Except.map]

end Headers

end FlowGuard.Specimen
